import HelsterApi.Text.Folding
import Mathlib.Data.Rat.Defs

/-! The usage of a text request. A usage carries its counts twice: on the top level, and in a
billing usage that keeps them as the upstream reported them and takes precedence at settlement. What
the last chunk of a Gemini stream lacks is estimated, by an estimator that is a parameter.
-/

namespace HelsterApi.TextBilling

section

open Text

structure InputTokenDetails where
  (cachedTokens cachedCreationTokens cacheWriteTokens textTokens audioTokens imageTokens : ℤ := 0)

def InputTokenDetails.cacheCreationTokensTotal (d : InputTokenDetails) : ℤ :=
  let total :=
    if d.cacheWriteTokens > d.cachedCreationTokens then d.cacheWriteTokens
    else d.cachedCreationTokens
  if total < 0 then 0 else total

structure OutputTokenDetails where
  (textTokens audioTokens imageTokens reasoningTokens : ℤ := 0)

structure ClaudeCacheCreationUsage where
  (ephemeral5mInputTokens ephemeral1hInputTokens : ℤ := 0)

/-- `ClaudeUsage`. The web searches stand for its server tool use. -/
structure ClaudeUsage where
  (inputTokens cacheCreationInputTokens cacheReadInputTokens outputTokens : ℤ := 0)
  cacheCreation : Option ClaudeCacheCreationUsage := none
  (claudeCacheCreation5mTokens claudeCacheCreation1hTokens : ℤ := 0)
  webSearchRequests : Option ℤ := none

variable (usage : ClaudeUsage)

def ClaudeUsage.getCacheCreation5mTokens : ℤ :=
  match usage.cacheCreation with
  | none => 0
  | some creation => creation.ephemeral5mInputTokens

def ClaudeUsage.getCacheCreation1hTokens : ℤ :=
  match usage.cacheCreation with
  | none => 0
  | some creation => creation.ephemeral1hInputTokens

structure GeminiTokensDetails where
  modality : String
  tokenCount : ℤ

/-- `GeminiUsageMetadata`, without a billing usage of its own. -/
structure GeminiCounts where
  (promptTokenCount toolUsePromptTokenCount candidatesTokenCount totalTokenCount : ℤ := 0)
  (thoughtsTokenCount cachedContentTokenCount : ℤ := 0)
  (promptTokensDetails toolUsePromptTokensDetails : List GeminiTokensDetails := [])
  candidatesTokensDetails : List GeminiTokensDetails := []

/-- The counts of a `Usage`. The cost is `none` where it is not a number. -/
structure UsageCounts where
  (promptTokens completionTokens totalTokens promptCacheHitTokens : ℤ := 0)
  (usageSemantic usageSource : String := "")
  promptTokensDetails : InputTokenDetails := {}
  completionTokenDetails : OutputTokenDetails := {}
  (inputTokens outputTokens : ℤ := 0)
  inputTokensDetails : Option InputTokenDetails := none
  (claudeCacheCreation5mTokens claudeCacheCreation1hTokens : ℤ := 0)
  cost : Option ℚ := none

/-- `BillingUsage`. The usages in it carry no billing usage themselves. -/
structure BillingUsage where
  (source semantic : String := "")
  estimated : Bool := false
  openAIUsage : Option UsageCounts := none
  claudeUsage : Option ClaudeUsage := none
  geminiUsageMetadata : Option GeminiCounts := none

structure Usage extends UsageCounts where
  billingUsage : Option BillingUsage := none

structure GeminiUsageMetadata extends GeminiCounts where
  billingUsage : Option BillingUsage := none

/-- `HasClaudeUsageTokens`: a usage of zeros must not become a billing usage. -/
def ClaudeUsage.hasTokens : Bool :=
  usage.inputTokens ≠ 0 ∨ usage.outputTokens ≠ 0 ∨ usage.cacheCreationInputTokens ≠ 0
  ∨ usage.cacheReadInputTokens ≠ 0 ∨ usage.claudeCacheCreation5mTokens ≠ 0
  ∨ usage.claudeCacheCreation1hTokens ≠ 0
  ∨ usage.getCacheCreation5mTokens ≠ 0 ∨ usage.getCacheCreation1hTokens ≠ 0

def newClaudeMessagesBillingUsage : Option BillingUsage :=
  if usage.hasTokens then
    some { source := "claude_messages", semantic := "anthropic", claudeUsage := some usage }
  else none

def GeminiCounts.hasTokens (metadata : GeminiCounts) : Bool :=
  metadata.promptTokenCount ≠ 0 ∨ metadata.toolUsePromptTokenCount ≠ 0
  ∨ metadata.candidatesTokenCount ≠ 0 ∨ metadata.totalTokenCount ≠ 0
  ∨ metadata.thoughtsTokenCount ≠ 0 ∨ metadata.cachedContentTokenCount ≠ 0
  ∨ (∃ detail ∈ metadata.promptTokensDetails, detail.tokenCount ≠ 0)
  ∨ (∃ detail ∈ metadata.toolUsePromptTokensDetails, detail.tokenCount ≠ 0)
  ∨ (∃ detail ∈ metadata.candidatesTokensDetails, detail.tokenCount ≠ 0)

def newGeminiChatBillingUsage (metadata : GeminiCounts) (estimated : Bool) : Option BillingUsage :=
  if metadata.hasTokens then
    some { source := "gemini_chat", semantic := "gemini", estimated
           geminiUsageMetadata := some metadata }
  else none

def newEstimatedGeminiChatBillingUsage (usage : UsageCounts) : Option BillingUsage :=
  let totalTokens :=
    if usage.totalTokens = 0 then usage.promptTokens + usage.completionTokens
    else usage.totalTokens
  newGeminiChatBillingUsage
    { promptTokenCount := usage.promptTokens
      candidatesTokenCount := usage.completionTokens
      totalTokenCount := totalTokens }
    true

variable (billingUsage : BillingUsage)

def usageFromOpenAIBillingUsage (counts : UsageCounts) : Usage :=
  let promptTokens :=
    if counts.promptTokens = 0 ∧ counts.inputTokens > 0 then counts.inputTokens
    else counts.promptTokens
  let completionTokens :=
    if counts.completionTokens = 0 ∧ counts.outputTokens > 0 then counts.outputTokens
    else counts.completionTokens
  { counts with
    promptTokens
    completionTokens
    inputTokens :=
      if counts.inputTokens = 0 ∧ promptTokens > 0 then promptTokens
      else counts.inputTokens
    outputTokens :=
      if counts.outputTokens = 0 ∧ completionTokens > 0 then completionTokens
      else counts.outputTokens
    totalTokens :=
      if counts.totalTokens = 0 then promptTokens + completionTokens
      else counts.totalTokens
    usageSemantic := "openai"
    usageSource := billingUsage.source
    billingUsage := some billingUsage }

def usageFromClaudeBillingUsage (claudeUsage : ClaudeUsage)
    : Usage where
  promptTokens := claudeUsage.inputTokens
  completionTokens := claudeUsage.outputTokens
  totalTokens := claudeUsage.inputTokens + claudeUsage.outputTokens
  inputTokens := claudeUsage.inputTokens + claudeUsage.cacheReadInputTokens
    + claudeUsage.cacheCreationInputTokens
  outputTokens := claudeUsage.outputTokens
  usageSemantic := "anthropic"
  usageSource := "claude_messages"
  billingUsage := some billingUsage
  claudeCacheCreation5mTokens :=
    if claudeUsage.getCacheCreation5mTokens = 0 then claudeUsage.claudeCacheCreation5mTokens
    else claudeUsage.getCacheCreation5mTokens
  claudeCacheCreation1hTokens :=
    if claudeUsage.getCacheCreation1hTokens = 0 then claudeUsage.claudeCacheCreation1hTokens
    else claudeUsage.getCacheCreation1hTokens
  promptTokensDetails :=
    { cachedTokens := claudeUsage.cacheReadInputTokens
      cachedCreationTokens := claudeUsage.cacheCreationInputTokens }

def addGeminiInputTokenDetail (details : InputTokenDetails) (detail : GeminiTokensDetails)
    : InputTokenDetails :=
  if detail.modality = "AUDIO" then
    { details with audioTokens := details.audioTokens + detail.tokenCount }
  else if detail.modality = "IMAGE" then
    { details with imageTokens := details.imageTokens + detail.tokenCount }
  else if detail.modality = "TEXT" then
    { details with textTokens := details.textTokens + detail.tokenCount }
  else details

def addGeminiOutputTokenDetail (details : OutputTokenDetails) (detail : GeminiTokensDetails)
    : OutputTokenDetails :=
  if detail.modality = "IMAGE" then
    { details with imageTokens := details.imageTokens + detail.tokenCount }
  else if detail.modality = "AUDIO" then
    { details with audioTokens := details.audioTokens + detail.tokenCount }
  else if detail.modality = "TEXT" then
    { details with textTokens := details.textTokens + detail.tokenCount }
  else details

def GeminiCounts.inputDetails (metadata : GeminiCounts) (promptTokens : ℤ) : InputTokenDetails :=
  let details := metadata.toolUsePromptTokensDetails.foldl addGeminiInputTokenDetail
    (metadata.promptTokensDetails.foldl addGeminiInputTokenDetail
      { cachedTokens := metadata.cachedContentTokenCount })
  if promptTokens > 0 ∧ details.textTokens = 0 ∧ details.audioTokens = 0 then
    { details with textTokens := promptTokens }
  else details

def GeminiCounts.outputDetails (metadata : GeminiCounts) : OutputTokenDetails :=
  metadata.candidatesTokensDetails.foldl addGeminiOutputTokenDetail
    { reasoningTokens := metadata.thoughtsTokenCount }

def usageFromGeminiBillingUsage (metadata : GeminiCounts) : Usage :=
  let promptTokens := metadata.promptTokenCount + metadata.toolUsePromptTokenCount
  let completionTokens := metadata.candidatesTokenCount + metadata.thoughtsTokenCount
  { promptTokens
    completionTokens :=
      if metadata.totalTokenCount ≠ 0 ∧ completionTokens ≤ 0 then
        metadata.totalTokenCount - promptTokens
      else completionTokens
    totalTokens :=
      if metadata.totalTokenCount = 0 then promptTokens + completionTokens
      else metadata.totalTokenCount
    usageSemantic := "gemini"
    usageSource := "gemini_chat"
    billingUsage := some billingUsage
    promptTokensDetails := metadata.inputDetails promptTokens
    completionTokenDetails := metadata.outputDetails }

def BillingUsage.isOpenAI : Bool :=
  names billingUsage.source "oai_chat" || names billingUsage.source "oai_responses"
  || names billingUsage.semantic "openai"

def BillingUsage.isClaude : Bool :=
  names billingUsage.source "claude_messages" || names billingUsage.semantic "anthropic"

def BillingUsage.isGemini : Bool :=
  names billingUsage.source "gemini_chat" || names billingUsage.semantic "gemini"

def BillingUsage.usage? : Option Usage :=
  match billingUsage.openAIUsage.filter fun _ => billingUsage.isOpenAI with
  | some counts => some (usageFromOpenAIBillingUsage billingUsage counts)
  | none =>
    match billingUsage.claudeUsage.filter fun _ => billingUsage.isClaude with
    | some claudeUsage => some (usageFromClaudeBillingUsage billingUsage claudeUsage)
    | none =>
      (billingUsage.geminiUsageMetadata.filter fun _ => billingUsage.isGemini).map
        (usageFromGeminiBillingUsage billingUsage)

def usageFromBillingUsage (usage : Usage) : Option Usage :=
  usage.billingUsage.bind BillingUsage.usage?

def effectiveBillingUsage (usage : Usage) : Usage := (usageFromBillingUsage usage).getD usage

end

structure GeminiPart where
  text : String := ""
  inlineMimeType : Option String := none

/-- A chunk of a Gemini stream: data that is not JSON, or a response with the parts of its
candidates, its metadata and whether the callback then stops the stream.
-/
inductive GeminiChunk where
  | malformed
  | response (parts : List GeminiPart) (usageMetadata : GeminiUsageMetadata) (stops : Bool)

structure GeminiResponse where
  parts : List GeminiPart := []
  usageMetadata : GeminiUsageMetadata := {}

def deliveredResponses : List GeminiChunk → List GeminiResponse
  | [] => []
  | .malformed :: _ => []
  | .response parts usageMetadata stops :: rest =>
    { parts, usageMetadata } :: if stops then [] else deliveredResponses rest

def GeminiResponse.imageCount (response : GeminiResponse) : ℤ :=
  (response.parts.filter fun part => part.inlineMimeType.any (· ≠ "")).length

def GeminiResponse.text (response : GeminiResponse) : String :=
  String.join (response.parts.map GeminiPart.text)

def usageFromGeminiMetadata (metadata : GeminiUsageMetadata) (fallbackPromptTokens : ℤ) : Usage :=
  let reported := metadata.promptTokenCount + metadata.toolUsePromptTokenCount
  let promptTokens :=
    if reported ≤ 0 ∧ fallbackPromptTokens > 0 then fallbackPromptTokens else reported
  let completionTokens := metadata.candidatesTokenCount + metadata.thoughtsTokenCount
  { promptTokens
    completionTokens :=
      if metadata.totalTokenCount > 0 ∧ completionTokens ≤ 0 then
        metadata.totalTokenCount - promptTokens
      else completionTokens
    totalTokens := metadata.totalTokenCount
    billingUsage := metadata.billingUsage.or
      (newGeminiChatBillingUsage metadata.toGeminiCounts false)
    promptTokensDetails := metadata.inputDetails promptTokens
    completionTokenDetails := metadata.outputDetails }

structure GeminiStreamInfo where
  usage : Usage := {}
  imageCount : ℤ := 0
  hasBillableUsageMetadata : Bool := false
  responseText : String := ""

variable (estimatePromptTokens : ℤ)

def GeminiStreamInfo.read (info : GeminiStreamInfo) (response : GeminiResponse)
    : GeminiStreamInfo :=
  let info :=
    { info with
      imageCount := info.imageCount + response.imageCount
      responseText := info.responseText ++ response.text }
  if response.usageMetadata.hasTokens then
    { info with
      usage := usageFromGeminiMetadata response.usageMetadata estimatePromptTokens
      hasBillableUsageMetadata := true }
  else info

def UsageCounts.withImages (usage : UsageCounts) (imageCount : ℤ) : UsageCounts :=
  if imageCount ≠ 0 ∧ usage.completionTokens = 0 then
    { usage with
      completionTokens := imageCount * 1400
      totalTokens := usage.promptTokens + imageCount * 1400 }
  else usage

def patchGeminiZeroCompletionUsage (estimated : ℤ) (usage : Usage) (responseText : String)
    (imageCount : ℤ)
    : Usage :=
  if usage.completionTokens > 0 ∨ (responseText = "" ∧ imageCount = 0) then usage
  else
    let completionTokens :=
      if imageCount ≠ 0 ∧ estimated = 0 then imageCount * 1400 else estimated
    let counts : UsageCounts :=
      { usage.toUsageCounts with
        completionTokens
        totalTokens := usage.promptTokens + completionTokens }
    { counts with billingUsage := newEstimatedGeminiChatBillingUsage counts }

/-- The usage of a stream without billable metadata, and `attachEstimatedGeminiBillingUsage`. -/
def estimatedGeminiUsage (estimated estimatePromptTokens receivedResponseCount : ℤ) (imageCount : ℤ)
    : Usage :=
  let estimate : UsageCounts :=
    if receivedResponseCount > 0 then
      { promptTokens := estimatePromptTokens
        completionTokens := estimated
        totalTokens := estimatePromptTokens + estimated }
    else {}
  let counts := estimate.withImages imageCount
  { counts with billingUsage := newEstimatedGeminiChatBillingUsage counts }

def geminiStreamHandler (estimate : String → String → ℤ) (estimatePromptTokens : ℤ)
    (upstreamModelName : String) (receivedResponseCount : ℤ) (chunks : List GeminiChunk)
    : Usage :=
  let info := (deliveredResponses chunks).foldl
    (GeminiStreamInfo.read estimatePromptTokens) {}
  let estimated := estimate upstreamModelName info.responseText
  if info.hasBillableUsageMetadata then
    patchGeminiZeroCompletionUsage estimated info.usage info.responseText info.imageCount
  else estimatedGeminiUsage estimated estimatePromptTokens receivedResponseCount info.imageCount

/-- What the responses of a stream reported: the last metadata with counts, the text and
the number of images.
-/
structure GeminiReport where
  metadata : Option GeminiUsageMetadata := none
  text : String := ""
  images : ℤ := 0

open GeminiReport

variable (report : GeminiReport)

def GeminiReport.after (response : GeminiResponse) : GeminiReport where
  metadata :=
    if response.usageMetadata.hasTokens then some response.usageMetadata else report.metadata
  text := report.text ++ response.text
  images := report.images + response.imageCount

def geminiReport (chunks : List GeminiChunk) : GeminiReport :=
  (deliveredResponses chunks).foldl GeminiReport.after {}

def GeminiReport.info : GeminiStreamInfo where
  usage :=
    match report.metadata with
    | some metadata => usageFromGeminiMetadata metadata estimatePromptTokens
    | none => {}
  imageCount := report.images
  hasBillableUsageMetadata := report.metadata.isSome
  responseText := report.text

/-- Reading a stream keeps what it reported, by induction on its responses. -/
theorem foldl_read_info (responses : List GeminiResponse) (report : GeminiReport)
    : responses.foldl (GeminiStreamInfo.read estimatePromptTokens)
        (report.info estimatePromptTokens)
      = (responses.foldl after report).info estimatePromptTokens := by
  induction responses generalizing report with
  | nil => rfl
  | cons response rest ih =>
    rw [List.foldl_cons, List.foldl_cons, ← ih]
    congr 1
    cases billable : response.usageMetadata.hasTokens <;>
      simp [GeminiStreamInfo.read, info, after, billable]

theorem geminiStreamHandler_eq (estimate estimatePromptTokens)
    (upstreamModelName receivedResponseCount chunks)
    : geminiStreamHandler estimate estimatePromptTokens upstreamModelName
        receivedResponseCount chunks
      = match (geminiReport chunks).metadata with
        | some metadata =>
          patchGeminiZeroCompletionUsage
            (estimate upstreamModelName (geminiReport chunks).text)
            (usageFromGeminiMetadata metadata estimatePromptTokens)
            (geminiReport chunks).text (geminiReport chunks).images
        | none =>
          estimatedGeminiUsage (estimate upstreamModelName (geminiReport chunks).text)
            estimatePromptTokens receivedResponseCount (geminiReport chunks).images := by
  have kept := foldl_read_info estimatePromptTokens (deliveredResponses chunks) {}
  unfold geminiStreamHandler
  rw [show ({} : GeminiStreamInfo) = info estimatePromptTokens {} from rfl, kept]
  change _ = match ((deliveredResponses chunks).foldl after {}).metadata with
    | some metadata => _
    | none => _
  cases found : ((deliveredResponses chunks).foldl after {}).metadata <;>
    simp [info, geminiReport, found]

end HelsterApi.TextBilling
