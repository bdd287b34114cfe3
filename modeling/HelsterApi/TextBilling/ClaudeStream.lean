import HelsterApi.TextBilling.Usage

/-! The responses of a Claude upstream. The stream handler keeps exactly what the events reported,
in its usage and in the billing usage beside it; what is missing at the end is estimated from the
received text. A client of the Claude protocol is sent usage for an OpenAI answer, too.
-/

namespace HelsterApi.TextBilling

/-- Writes of unknown life time count as short-lived. -/
def normalizeCacheCreationSplit (totalTokens tokens5m tokens1h : ℤ) : ℤ × ℤ :=
  let remainder := totalTokens - tokens5m - tokens1h
  (tokens5m + (if remainder < 0 then 0 else remainder), tokens1h)

def ClaudeUsage.withSplit (usage : ClaudeUsage) (split : ℤ × ℤ) : ClaudeUsage :=
  if split.1 > 0 ∨ split.2 > 0 then { usage with cacheCreation := some ⟨split.1, split.2⟩ }
  else usage

def claudeBillingUsageFromSemanticUsage (usage : UsageCounts) : Option BillingUsage :=
  newClaudeMessagesBillingUsage
    (ClaudeUsage.withSplit
      { inputTokens := usage.promptTokens
        cacheCreationInputTokens := usage.promptTokensDetails.cachedCreationTokens
        cacheReadInputTokens := usage.promptTokensDetails.cachedTokens
        outputTokens := usage.completionTokens }
      (normalizeCacheCreationSplit usage.promptTokensDetails.cachedCreationTokens
        usage.claudeCacheCreation5mTokens usage.claudeCacheCreation1hTokens))

/-- `BuildMessageDeltaPatchUsage` without a response: the Claude usage of what was accumulated,
never with output tokens.
-/
def buildMessageDeltaPatchUsage (usage : UsageCounts) : ClaudeUsage :=
  let cacheCreationInputTokens :=
    if usage.promptTokensDetails.cachedCreationTokens > 0 then
      usage.promptTokensDetails.cachedCreationTokens
    else 0
  ClaudeUsage.withSplit
    { inputTokens := if usage.promptTokens > 0 then usage.promptTokens else 0
      cacheReadInputTokens :=
        if usage.promptTokensDetails.cachedTokens > 0 then usage.promptTokensDetails.cachedTokens
        else 0
      cacheCreationInputTokens }
    (normalizeCacheCreationSplit cacheCreationInputTokens usage.claudeCacheCreation5mTokens
      usage.claudeCacheCreation1hTokens)

inductive RelayFormat where
  | claude | openAI | other
  deriving DecidableEq

structure ClaudeMessage where
  model : String := ""
  usage : Option ClaudeUsage := none

inductive ClaudeEvent where
  | messageStart (message : Option ClaudeMessage)
  | contentBlockStart
  | contentBlockDelta (text thinking : Option String)
  | messageDelta (usage : Option ClaudeUsage)
  | other
  | error (message : String)

structure ClaudeResponseInfo where
  upstreamModelName : String
  responseText : String := ""
  usage : Usage := {}
  done : Bool := false

def startUsage (usage : Usage) (reported : ClaudeUsage) : Usage :=
  let counts : UsageCounts :=
    { usage.toUsageCounts with
      promptTokens := reported.inputTokens
      usageSemantic := "anthropic"
      promptTokensDetails :=
        { usage.promptTokensDetails with
          cachedTokens := reported.cacheReadInputTokens
          cachedCreationTokens := reported.cacheCreationInputTokens }
      claudeCacheCreation5mTokens := reported.getCacheCreation5mTokens
      claudeCacheCreation1hTokens := reported.getCacheCreation1hTokens
      completionTokens := reported.outputTokens }
  { counts with billingUsage := claudeBillingUsageFromSemanticUsage counts }

/-- The usage after that of a `message_delta` event: counts that are not positive keep what was
reported before.
-/
def deltaUsage (usage : Usage) (reported : ClaudeUsage) : Usage :=
  let latest (count known : ℤ) : ℤ := if count > 0 then count else known
  let promptTokens := latest reported.inputTokens usage.promptTokens
  let completionTokens := latest reported.outputTokens usage.completionTokens
  let counts : UsageCounts :=
    { usage.toUsageCounts with
      usageSemantic := "anthropic"
      promptTokens
      promptTokensDetails :=
        { usage.promptTokensDetails with
          cachedTokens :=
            latest reported.cacheReadInputTokens usage.promptTokensDetails.cachedTokens
          cachedCreationTokens :=
            latest reported.cacheCreationInputTokens
              usage.promptTokensDetails.cachedCreationTokens }
      claudeCacheCreation5mTokens :=
        latest reported.getCacheCreation5mTokens usage.claudeCacheCreation5mTokens
      claudeCacheCreation1hTokens :=
        latest reported.getCacheCreation1hTokens usage.claudeCacheCreation1hTokens
      completionTokens
      totalTokens := promptTokens + completionTokens }
  { counts with billingUsage := claudeBillingUsageFromSemanticUsage counts }

def formatClaudeResponseInfo (info : ClaudeResponseInfo) : ClaudeEvent → ClaudeResponseInfo
  | .messageStart message =>
    match message.bind ClaudeMessage.usage with
    | some reported => { info with usage := startUsage info.usage reported }
    | none => info
  | .contentBlockDelta text thinking =>
    { info with responseText := info.responseText ++ text.getD "" ++ thinking.getD "" }
  | .messageDelta (some reported) =>
    { info with usage := deltaUsage info.usage reported, done := true }
  | .messageDelta none => { info with done := true }
  | .contentBlockStart | .other | .error _ => info

/-- Clients of other protocols are not served by it. -/
def handleStreamResponseData (format : RelayFormat) (info : ClaudeResponseInfo)
    (event : ClaudeEvent)
    : Except String ClaudeResponseInfo :=
  match event with
  | .error message => .error message
  | event =>
    match format with
    | .claude =>
      let info := formatClaudeResponseInfo info event
      match event with
      | .messageStart (some message) => .ok { info with upstreamModelName := message.model }
      | _ => .ok info
    | .openAI => .ok (formatClaudeResponseInfo info event)
    | .other => .ok info

/-- The counts with the missing ones filled in: a completion count that is missing, or too low in a
stream that was cut off, is estimated from the text, a missing prompt count from the request.
-/
def repairUsage (estimated estimatePromptTokens : ℤ) (done : Bool) (usage : UsageCounts)
    : UsageCounts :=
  if usage.completionTokens = 0 ∨ !done then
    let completionTokens :=
      if usage.completionTokens = 0 ∨ (!done ∧ estimated > usage.completionTokens) then estimated
      else usage.completionTokens
    let promptTokens :=
      if usage.promptTokens = 0 then estimatePromptTokens else usage.promptTokens
    { usage with
      completionTokens
      promptTokens
      totalTokens := promptTokens + completionTokens }
  else usage

/-- A billing usage that is there is left as it is. -/
def handleStreamFinalResponse (estimate : String → String → ℤ) (estimatePromptTokens : ℤ)
    (info : ClaudeResponseInfo)
    : Usage :=
  let counts : UsageCounts :=
    { repairUsage (estimate info.upstreamModelName info.responseText) estimatePromptTokens
        info.done info.usage.toUsageCounts with
      usageSemantic := "anthropic" }
  { counts with
    billingUsage := info.usage.billingUsage.or
      (newClaudeMessagesBillingUsage (buildMessageDeltaPatchUsage counts)) }

def claudeStreamHandler (estimate : String → String → ℤ) (estimatePromptTokens : ℤ)
    (format : RelayFormat) (upstreamModelName : String) (events : List ClaudeEvent)
    : Except String Usage :=
  (events.foldlM (handleStreamResponseData format) { upstreamModelName }).map
    (handleStreamFinalResponse estimate estimatePromptTokens)

def handleClaudeResponseData (reported : Option ClaudeUsage) : Usage :=
  match reported with
  | none => {}
  | some reported =>
    { promptTokens := reported.inputTokens
      completionTokens := reported.outputTokens
      totalTokens := reported.inputTokens + reported.outputTokens
      usageSemantic := "anthropic"
      billingUsage := newClaudeMessagesBillingUsage reported
      promptTokensDetails :=
        { cachedTokens := reported.cacheReadInputTokens
          cachedCreationTokens := reported.cacheCreationInputTokens }
      claudeCacheCreation5mTokens := reported.getCacheCreation5mTokens
      claudeCacheCreation1hTokens := reported.getCacheCreation1hTokens }

def claudeWebSearchRequests (reported : Option ClaudeUsage) : ℤ :=
  match reported.bind ClaudeUsage.webSearchRequests with
  | some requests => if requests > 0 then requests else 0
  | none => 0

/-- The nested usage of a Claude answer, which is sent on as it is. -/
def nestedClaudeUsage (oaiUsage : Usage) : Option ClaudeUsage :=
  oaiUsage.billingUsage.bind fun billingUsage =>
    if billingUsage.source = "claude_messages" ∨ billingUsage.semantic = "anthropic" then
      billingUsage.claudeUsage
    else none

/-- The counts of the usage. The billing usage that it also carries is left out. -/
def buildClaudeUsageFromOpenAIUsage (oaiUsage : Usage) : ClaudeUsage :=
  match nestedClaudeUsage oaiUsage with
  | some claudeUsage => claudeUsage
  | none =>
    let details := oaiUsage.promptTokensDetails
    let (cacheCreation5m, cacheCreation1h) := normalizeCacheCreationSplit
      details.cachedCreationTokens oaiUsage.claudeCacheCreation5mTokens
      oaiUsage.claudeCacheCreation1hTokens
    let cacheCreationTokens := details.cacheCreationTokensTotal
    let inputTokens :=
      if details.cacheWriteTokens > 0 then
        let inputTokens := oaiUsage.promptTokens - details.cachedTokens - cacheCreationTokens
        if inputTokens < 0 then 0 else inputTokens
      else oaiUsage.promptTokens
    { inputTokens
      outputTokens := oaiUsage.completionTokens
      cacheCreationInputTokens := cacheCreationTokens
      cacheReadInputTokens := details.cachedTokens
      cacheCreation :=
        if cacheCreation5m > 0 ∨ cacheCreation1h > 0 then
          some ⟨cacheCreation5m, cacheCreation1h⟩
        else none }

/-- The parts of the input and of the cache creation sum to what they are parts of. -/
def ClaudeUsage.Conserves (usage : ClaudeUsage) (promptTokens : ℤ) : Prop :=
  usage.inputTokens + usage.cacheReadInputTokens + usage.cacheCreationInputTokens = promptTokens
  ∧ ∀ creation ∈ usage.cacheCreation,
      creation.ephemeral5mInputTokens + creation.ephemeral1hInputTokens
        = usage.cacheCreationInputTokens

/-- Cached tokens are taken from the prompt only where the upstream reports cache writes, and the
parts of the cache creation, which are sent if one is positive, are filled up only to the other
count of it.
-/
theorem client_usage_conserves_iff {oaiUsage : Usage}
    (openAI : nestedClaudeUsage oaiUsage = none)
    (within : oaiUsage.promptTokensDetails.cachedTokens
        + oaiUsage.promptTokensDetails.cacheCreationTokensTotal
      ≤ oaiUsage.promptTokens)
    : (buildClaudeUsageFromOpenAIUsage oaiUsage).Conserves oaiUsage.promptTokens
      ↔ (0 < oaiUsage.promptTokensDetails.cacheWriteTokens
          ∨ oaiUsage.promptTokensDetails.cachedTokens
              + oaiUsage.promptTokensDetails.cacheCreationTokensTotal = 0)
        ∧ (0 < oaiUsage.claudeCacheCreation5mTokens ∨ 0 < oaiUsage.claudeCacheCreation1hTokens
            ∨ oaiUsage.claudeCacheCreation1hTokens
              < oaiUsage.promptTokensDetails.cachedCreationTokens
          → max oaiUsage.promptTokensDetails.cachedCreationTokens
              (oaiUsage.claudeCacheCreation5mTokens + oaiUsage.claudeCacheCreation1hTokens)
            = oaiUsage.promptTokensDetails.cacheCreationTokensTotal) := by
  unfold ClaudeUsage.Conserves buildClaudeUsageFromOpenAIUsage
  rw [openAI]
  apply and_congr
  · dsimp only
    split <;> omega
  · dsimp only [normalizeCacheCreationSplit]
    split <;> split <;> simp <;> omega

def cacheReader : Usage := { promptTokens := 100, promptTokensDetails := { cachedTokens := 30 } }

def cacheWriter : Usage :=
  { promptTokens := 100, promptTokensDetails := { cachedTokens := 30, cacheWriteTokens := 20 } }

theorem cacheWriter_conserves : (buildClaudeUsageFromOpenAIUsage cacheWriter).Conserves 100 :=
  (client_usage_conserves_iff rfl (by decide)).mpr (by decide)

/-- Without cache writes the cached tokens are counted twice. -/
theorem cacheReader_counted_twice
    : nestedClaudeUsage cacheReader = none
      ∧ 30 + cacheReader.promptTokensDetails.cacheCreationTokensTotal ≤ 100
      ∧ ¬(buildClaudeUsageFromOpenAIUsage cacheReader).Conserves 100 :=
  ⟨rfl, by decide, fun conserves => absurd conserves.1 (by decide)⟩

open ClaudeUsage

/-- What the events of a stream reported: the latest counts, whether the message was finished, the
text and the model.
-/
structure ClaudeReport where
  model : String
  text : String := ""
  (inputTokens outputTokens cacheReadTokens cacheCreationTokens tokens5m tokens1h : ℤ := 0)
  finished : Bool := false

open ClaudeReport

/-- The report after an event: a message starts with all counts, its end overrides the counts it
has.
-/
def ClaudeReport.after (format : RelayFormat) (report : ClaudeReport)
    : ClaudeEvent → ClaudeReport
  | .messageStart (some message) =>
    let report :=
      match message.usage with
      | some usage =>
        { report with
          inputTokens := usage.inputTokens
          outputTokens := usage.outputTokens
          cacheReadTokens := usage.cacheReadInputTokens
          cacheCreationTokens := usage.cacheCreationInputTokens
          tokens5m := usage.getCacheCreation5mTokens
          tokens1h := usage.getCacheCreation1hTokens }
      | none => report
    if format = .claude then { report with model := message.model } else report
  | .contentBlockDelta text thinking =>
    { report with text := report.text ++ text.getD "" ++ thinking.getD "" }
  | .messageDelta (some usage) =>
    let latest (count known : ℤ) : ℤ := if count > 0 then count else known
    { report with
      inputTokens := latest usage.inputTokens report.inputTokens
      outputTokens := latest usage.outputTokens report.outputTokens
      cacheReadTokens := latest usage.cacheReadInputTokens report.cacheReadTokens
      cacheCreationTokens := latest usage.cacheCreationInputTokens report.cacheCreationTokens
      tokens5m := latest usage.getCacheCreation5mTokens report.tokens5m
      tokens1h := latest usage.getCacheCreation1hTokens report.tokens1h
      finished := true }
  | .messageDelta none => { report with finished := true }
  | _ => report

def claudeReport (format : RelayFormat) (model : String) (events : List ClaudeEvent)
    : ClaudeReport :=
  if format = .other then { model } else events.foldl (ClaudeReport.after format) { model }

def ClaudeReport.claudeUsage (report : ClaudeReport) : ClaudeUsage :=
  ClaudeUsage.withSplit
    { inputTokens := report.inputTokens
      cacheCreationInputTokens := report.cacheCreationTokens
      cacheReadInputTokens := report.cacheReadTokens
      outputTokens := report.outputTokens }
    (normalizeCacheCreationSplit report.cacheCreationTokens report.tokens5m report.tokens1h)

def ClaudeReport.Blank (report : ClaudeReport) : Prop :=
  report.inputTokens = 0 ∧ report.outputTokens = 0 ∧ report.cacheReadTokens = 0
  ∧ report.cacheCreationTokens = 0 ∧ report.tokens5m ≤ 0 ∧ report.tokens1h = 0
  deriving Decidable

theorem ClaudeUsage.hasTokens_withSplit (usage : ClaudeUsage) (split : ℤ × ℤ)
    (unsplit : usage.cacheCreation = none) (legacy5m : usage.claudeCacheCreation5mTokens = 0)
    (legacy1h : usage.claudeCacheCreation1hTokens = 0)
    : (usage.withSplit split).hasTokens
      ↔ usage.inputTokens ≠ 0 ∨ usage.outputTokens ≠ 0 ∨ usage.cacheCreationInputTokens ≠ 0
        ∨ usage.cacheReadInputTokens ≠ 0 ∨ split.1 > 0 ∨ split.2 > 0 := by
  unfold withSplit
  split
  next positive =>
    simp only [hasTokens, getCacheCreation5mTokens,
      getCacheCreation1hTokens, decide_eq_true_eq, legacy5m, legacy1h]
    omega
  next none =>
    simp only [hasTokens, getCacheCreation5mTokens,
      getCacheCreation1hTokens, decide_eq_true_eq, legacy5m, legacy1h, unsplit]
    omega

theorem ClaudeReport.hasTokens_iff (report : ClaudeReport)
    : report.claudeUsage.hasTokens ↔ ¬report.Blank := by
  unfold claudeUsage
  rw [ClaudeUsage.hasTokens_withSplit _ _ rfl rfl rfl]
  simp only [normalizeCacheCreationSplit, ClaudeReport.Blank]
  split <;> omega

namespace ClaudeResponseInfo

/-- The counts, the text and the billing usage kept while a stream is read are those of the report
so far.
-/
structure Tracks (info : ClaudeResponseInfo) (report : ClaudeReport) : Prop where
  model : info.upstreamModelName = report.model
  text : info.responseText = report.text
  input : info.usage.promptTokens = report.inputTokens
  output : info.usage.completionTokens = report.outputTokens
  cacheRead : info.usage.promptTokensDetails.cachedTokens = report.cacheReadTokens
  cacheCreation
    : info.usage.promptTokensDetails.cachedCreationTokens = report.cacheCreationTokens
  audio : info.usage.promptTokensDetails.audioTokens = 0
  tokens5m : info.usage.claudeCacheCreation5mTokens = report.tokens5m
  tokens1h : info.usage.claudeCacheCreation1hTokens = report.tokens1h
  finished : info.done = report.finished
  billing : info.usage.billingUsage = newClaudeMessagesBillingUsage report.claudeUsage

theorem Tracks.start (model : String) : Tracks { upstreamModelName := model } { model } := by
  refine ⟨rfl, rfl, rfl, rfl, rfl, rfl, rfl, rfl, rfl, rfl, ?_⟩
  rfl

variable {info : ClaudeResponseInfo} {report : ClaudeReport} (tracks : info.Tracks report)

include tracks

theorem Tracks.messageStart (usage)
    : Tracks { info with usage := startUsage info.usage usage }
        { report with
          inputTokens := usage.inputTokens
          outputTokens := usage.outputTokens
          cacheReadTokens := usage.cacheReadInputTokens
          cacheCreationTokens := usage.cacheCreationInputTokens
          tokens5m := usage.getCacheCreation5mTokens
          tokens1h := usage.getCacheCreation1hTokens } :=
  ⟨tracks.model, tracks.text, rfl, rfl, rfl, rfl, tracks.audio, rfl, rfl, tracks.finished, rfl⟩

variable {format : RelayFormat}

theorem Tracks.messageDelta (usage)
    : Tracks { info with usage := deltaUsage info.usage usage, done := true }
        (report.after format (.messageDelta (some usage))) := by
  obtain ⟨model, text, input, output, cacheRead, cacheCreation, audio, tokens5m, tokens1h,
    _, _⟩ := tracks
  -- The merged counts are the same expressions once the kept ones are replaced.
  refine ⟨model, text, ?_, ?_, ?_, ?_, audio, ?_, ?_, rfl, ?_⟩ <;>
    simp only [deltaUsage, after, claudeUsage,
      claudeBillingUsageFromSemanticUsage, input, output, cacheRead, cacheCreation, tokens5m,
      tokens1h]

theorem Tracks.named (model : String)
    : Tracks { info with upstreamModelName := model }
        { report with model } :=
  { tracks with model := rfl }

variable {info' : ClaudeResponseInfo}

theorem Tracks.step {event} (served : format ≠ .other)
    (handled : handleStreamResponseData format info event = .ok info')
    : info'.Tracks (report.after format event) := by
  cases event with
  | error message => cases handled
  | contentBlockStart | other => cases format <;> cases handled <;> exact tracks
  | contentBlockDelta text thinking =>
    have extended : Tracks
        (formatClaudeResponseInfo info (.contentBlockDelta text thinking))
        (report.after format (.contentBlockDelta text thinking)) :=
      { tracks with text := congrArg (· ++ text.getD "" ++ thinking.getD "") tracks.text }
    cases format <;> cases handled <;> first | exact extended | exact absurd rfl served
  | messageDelta usage =>
    have merged : Tracks
        (formatClaudeResponseInfo info (.messageDelta usage))
        (report.after format (.messageDelta usage)) := by
      cases usage with
      | none => exact { tracks with finished := rfl }
      | some usage => exact tracks.messageDelta usage
    cases format <;> cases handled <;> first | exact merged | exact absurd rfl served
  | messageStart message =>
    cases message with
    | none => cases format <;> cases handled <;> exact tracks
    | some message =>
      have kept : Tracks
          (formatClaudeResponseInfo info (.messageStart (some message)))
          (report.after .openAI (.messageStart (some message))) := by
        cases found : message.usage with
        | none => simpa [formatClaudeResponseInfo, after, found] using tracks
        | some usage =>
          simpa [formatClaudeResponseInfo, after, found] using
            tracks.messageStart usage
      cases format with try cases handled
      | claude => exact kept.named message.model
      | openAI => exact kept
      | other => exact absurd rfl served

variable {events : List ClaudeEvent}

/-- A stream that no event makes fail leaves its report, by induction on the events. -/
theorem Tracks.foldlM (served : format ≠ .other)
    (handled : events.foldlM (handleStreamResponseData format) info = .ok info')
    : info'.Tracks (events.foldl (after format) report) := by
  induction events generalizing info report with
  | nil =>
    cases handled
    exact tracks
  | cons event rest ih =>
    rw [List.foldlM_cons] at handled
    cases stepped : handleStreamResponseData format info event with rw [stepped] at handled
    | error message => cases handled
    | ok next => exact ih (tracks.step served stepped) handled

end ClaudeResponseInfo

variable {info : ClaudeResponseInfo} {format : RelayFormat}

variable {info' : ClaudeResponseInfo} {events : List ClaudeEvent}

theorem foldlM_handleData_other
    (handled : events.foldlM (handleStreamResponseData .other) info = .ok info')
    : info' = info := by
  induction events generalizing info with
  | nil =>
    cases handled
    rfl
  | cons event rest ih =>
    rw [List.foldlM_cons] at handled
    cases event with
    | error message => cases handled
    | messageStart | contentBlockStart | contentBlockDelta | messageDelta | other =>
      exact ih handled

theorem tracks_claudeReport {model}
    (handled : events.foldlM (handleStreamResponseData format)
      { upstreamModelName := model } = .ok info)
    : info.Tracks (claudeReport format model events) := by
  unfold claudeReport
  split
  next unserved =>
    rw [unserved] at handled
    rw [foldlM_handleData_other handled]
    exact .start model
  next served => exact (ClaudeResponseInfo.Tracks.start model).foldlM served handled

end HelsterApi.TextBilling
