import HelsterApi.TextBilling.ClaudeStream

/-! When the counts that settlement bills are the counts that a stream handler returned. A repair
that does not reach the billing usage is not billed.
-/

namespace HelsterApi.TextBilling

open BillingUsage ClaudeReport ClaudeUsage GeminiUsageMetadata Option Text InputTokenDetails

def UsageCounts.counts (usage : UsageCounts) : ℤ × ℤ := (usage.promptTokens, usage.completionTokens)

def BilledAsReturned (usage : Usage) : Prop :=
  (effectiveBillingUsage usage).counts = usage.counts
  deriving Decidable

def GeminiCounts.statedCounts (metadata : GeminiCounts) : ℤ × ℤ :=
  let promptTokens := metadata.promptTokenCount + metadata.toolUsePromptTokenCount
  let completionTokens := metadata.candidatesTokenCount + metadata.thoughtsTokenCount
  (promptTokens,
    if metadata.totalTokenCount ≠ 0 ∧ completionTokens ≤ 0 then
      metadata.totalTokenCount - promptTokens
    else completionTokens)

/-- The prompt and completion counts a billing usage states, by the first kind of counts it says it
has.
-/
def BillingUsage.statedCounts (billingUsage : BillingUsage) : Option (ℤ × ℤ) :=
  match billingUsage.openAIUsage.filter fun _ => billingUsage.isOpenAI with
  | some counts => some
      (if counts.promptTokens = 0 ∧ counts.inputTokens > 0 then counts.inputTokens
        else counts.promptTokens,
      if counts.completionTokens = 0 ∧ counts.outputTokens > 0 then counts.outputTokens
        else counts.completionTokens)
  | none =>
    match billingUsage.claudeUsage.filter fun _ => billingUsage.isClaude with
    | some claudeUsage => some (claudeUsage.inputTokens, claudeUsage.outputTokens)
    | none =>
      (billingUsage.geminiUsageMetadata.filter fun _ => billingUsage.isGemini).map
        GeminiCounts.statedCounts

theorem billedAsReturned_iff {usage}
    : BilledAsReturned usage
      ↔ ∀ billingUsage ∈ usage.billingUsage, ∀ stated ∈ billingUsage.statedCounts,
          stated = usage.counts := by
  unfold BilledAsReturned effectiveBillingUsage usageFromBillingUsage
  cases found : usage.billingUsage with
  | none => simp
  | some billingUsage =>
    have counts : billingUsage.usage?.map (fun usage => usage.counts)
        = billingUsage.statedCounts := by
      unfold BillingUsage.usage? BillingUsage.statedCounts
      rcases billingUsage.openAIUsage.filter fun _ => billingUsage.isOpenAI with _ | counts
      · rcases billingUsage.claudeUsage.filter fun _ => billingUsage.isClaude with _ | claudeUsage
        · rcases billingUsage.geminiUsageMetadata.filter fun _ => billingUsage.isGemini with _ | _
          <;> rfl
        · rfl
      · rfl
    cases made : billingUsage.usage? with
    | none => simp [made, ← counts]
    | some billed =>
      simp only [bind_some, made, getD_some, map_some, ← counts, mem_def, some.injEq, forall_eq']

/-- Beside a Claude usage with tokens a usage is billed as returned exactly if the counts agree;
without tokens always.
-/
theorem billedAsReturned_claude {usage reported}
    (billing : usage.billingUsage = newClaudeMessagesBillingUsage reported)
    : BilledAsReturned usage
      ↔ (reported.hasTokens
          → (reported.inputTokens, reported.outputTokens) = usage.counts) := by
  have claude : names "claude_messages" "claude_messages" = true := by decide
  rw [billedAsReturned_iff, billing, newClaudeMessagesBillingUsage]
  cases reported.hasTokens <;>
    simp [statedCounts, isClaude, claude, Option.filter]

/-- The counts a stream handler returns for a report: what is missing at the end of the stream is
estimated.
-/
def ClaudeReport.repaired (report : ClaudeReport) (estimated estimatePromptTokens : ℤ) : ℤ × ℤ :=
  if report.outputTokens = 0 ∨ !report.finished then
    (if report.inputTokens = 0 then estimatePromptTokens else report.inputTokens,
      if report.outputTokens = 0 ∨ estimated > report.outputTokens then estimated
      else report.outputTokens)
  else (report.inputTokens, report.outputTokens)

section

variable {estimate : String → String → ℤ} {estimatePromptTokens : ℤ}
  {info : ClaudeResponseInfo} {report : ClaudeReport}

theorem ClaudeResponseInfo.Tracks.counts (tracks : info.Tracks report)
    : (handleStreamFinalResponse estimate estimatePromptTokens info).counts
      = report.repaired (estimate report.model report.text) estimatePromptTokens := by
  change (repairUsage _ _ info.done info.usage.toUsageCounts).counts = _
  unfold repairUsage repaired
  rw [← tracks.model, ← tracks.text, ← tracks.input, ← tracks.output, ← tracks.finished]
  generalize estimate _ _ = estimated
  by_cases repairs : info.usage.completionTokens = 0 ∨ !info.done
  · have same : info.usage.completionTokens = 0
          ∨ (!info.done ∧ estimated > info.usage.completionTokens)
        ↔ info.usage.completionTokens = 0 ∨ estimated > info.usage.completionTokens := by
      tauto
    simp only [repairs, if_true, UsageCounts.counts, same]
  · simp only [repairs, if_false, UsageCounts.counts]

/-- Counts that were reported are billed as reported, so none may be repaired. Nothing but the
estimated prompt is billed for a blank report.
-/
def ClaudeReport.BillsReturned (report : ClaudeReport) (estimated estimatePromptTokens : ℤ)
    : Prop :=
  if report.Blank then estimated = 0 ∨ estimatePromptTokens ≤ 0
  else
    (report.outputTokens ≠ 0 ∧ report.finished)
    ∨ ((report.inputTokens = 0 → estimatePromptTokens = 0)
        ∧ (if report.outputTokens = 0 then estimated = 0
          else estimated ≤ report.outputTokens))

theorem ClaudeReport.repaired_eq_iff {estimated} (reported : ¬report.Blank)
    : (report.inputTokens, report.outputTokens)
        = report.repaired estimated estimatePromptTokens
      ↔ report.BillsReturned estimated estimatePromptTokens := by
  unfold repaired BillsReturned
  rw [if_neg reported]
  cases finished : report.finished with
  | false =>
    simp only [Bool.not_false, or_true, if_true, Prod.mk.injEq, Bool.false_eq_true,
      and_false, false_or]
    split_ifs <;> omega
  | true =>
    simp only [Bool.not_true, Bool.false_eq_true, or_false, and_true]
    split_ifs <;> simp_all <;> omega

theorem ClaudeUsage.withSplit_eq (usage : ClaudeUsage) (split : ℤ × ℤ)
    : ∃ cacheCreation, usage.withSplit split = { usage with cacheCreation } := by
  unfold withSplit
  split
  · exact ⟨_, rfl⟩
  · exact ⟨usage.cacheCreation, rfl⟩

theorem repairUsage_cache (estimated estimatePromptTokens : ℤ) (done : Bool) (usage : UsageCounts)
    : let repaired := repairUsage estimated estimatePromptTokens done usage
      repaired.promptTokensDetails = usage.promptTokensDetails
      ∧ repaired.claudeCacheCreation5mTokens = usage.claudeCacheCreation5mTokens
      ∧ repaired.claudeCacheCreation1hTokens = usage.claudeCacheCreation1hTokens := by
  dsimp only [repairUsage]
  split <;> exact ⟨rfl, rfl, rfl⟩

theorem deltaPatchUsage_uncached {usage}
    (cached : usage.promptTokensDetails.cachedTokens = 0)
    (creation : usage.promptTokensDetails.cachedCreationTokens = 0)
    (tokens5m : usage.claudeCacheCreation5mTokens ≤ 0)
    (tokens1h : usage.claudeCacheCreation1hTokens = 0)
    : buildMessageDeltaPatchUsage usage
      = { inputTokens := if usage.promptTokens > 0 then usage.promptTokens else 0 } := by
  have split : normalizeCacheCreationSplit 0 usage.claudeCacheCreation5mTokens 0 = (0, 0) := by
    simp only [normalizeCacheCreationSplit, Prod.mk.injEq, and_true]
    split_ifs <;> omega
  simp [buildMessageDeltaPatchUsage, cached, creation, tokens1h, split, withSplit]

theorem ClaudeResponseInfo.Tracks.counts_of_blank (tracks : info.Tracks report)
    (blank : report.Blank)
    : (handleStreamFinalResponse estimate estimatePromptTokens info).counts
      = (estimatePromptTokens, estimate report.model report.text) := by
  simp [tracks.counts, repaired, blank.1, blank.2.1]

theorem ClaudeResponseInfo.Tracks.billing_of_blank (tracks : info.Tracks report)
    (blank : report.Blank)
    : (handleStreamFinalResponse estimate estimatePromptTokens info).billingUsage
      = newClaudeMessagesBillingUsage
          { inputTokens := if estimatePromptTokens > 0 then estimatePromptTokens else 0 } := by
  have prompt : (handleStreamFinalResponse estimate estimatePromptTokens info).promptTokens
      = estimatePromptTokens := congrArg Prod.fst (tracks.counts_of_blank blank)
  have unbilled : info.usage.billingUsage = none := by
    have empty : report.claudeUsage.hasTokens = false := by
      simpa using report.hasTokens_iff.not_left.mpr blank
    simp [tracks.billing, newClaudeMessagesBillingUsage, empty]
  have billing : (handleStreamFinalResponse estimate estimatePromptTokens info).billingUsage
      = newClaudeMessagesBillingUsage (buildMessageDeltaPatchUsage
          (handleStreamFinalResponse estimate estimatePromptTokens info).toUsageCounts) := by
    simp [handleStreamFinalResponse, unbilled]
  obtain ⟨details, kept5m, kept1h⟩ :=
    repairUsage_cache (estimate info.upstreamModelName info.responseText)
      estimatePromptTokens info.done info.usage.toUsageCounts
  obtain ⟨_, _, cacheRead, cacheCreation, tokens5m, tokens1h⟩ := blank
  rw [billing, deltaPatchUsage_uncached, prompt]
  · exact (congrArg cachedTokens details).trans
      (tracks.cacheRead.trans cacheRead)
  · exact (congrArg cachedCreationTokens details).trans
      (tracks.cacheCreation.trans cacheCreation)
  · exact (kept5m.trans tracks.tokens5m).trans_le tokens5m
  · exact kept1h.trans (tracks.tokens1h.trans tokens1h)

theorem ClaudeUsage.hasTokens_input (inputTokens)
    : hasTokens { inputTokens } ↔ inputTokens ≠ 0 := by
  simp [hasTokens, getCacheCreation5mTokens, getCacheCreation1hTokens]

variable (tracks : info.Tracks report)

include tracks

theorem ClaudeResponseInfo.Tracks.billing_of_reported (reported : ¬report.Blank)
    : (handleStreamFinalResponse estimate estimatePromptTokens info).billingUsage
      = newClaudeMessagesBillingUsage report.claudeUsage := by
  simp [handleStreamFinalResponse, tracks.billing, newClaudeMessagesBillingUsage,
    report.hasTokens_iff.mpr reported]

theorem ClaudeResponseInfo.Tracks.billedAsReturned_iff
    : BilledAsReturned (handleStreamFinalResponse estimate estimatePromptTokens info)
      ↔ report.BillsReturned (estimate report.model report.text) estimatePromptTokens := by
  by_cases blank : report.Blank
  · rw [billedAsReturned_claude (tracks.billing_of_blank blank), hasTokens_input,
      tracks.counts_of_blank blank, BillsReturned, if_pos blank]
    simp only [Prod.mk.injEq]
    split <;> omega
  · have tokens := report.hasTokens_iff.mpr blank
    rw [billedAsReturned_claude (tracks.billing_of_reported blank),
      ← repaired_eq_iff blank, tracks.counts, imp_iff_right tokens]
    obtain ⟨_, split⟩ := withSplit_eq
      { inputTokens := report.inputTokens
        cacheCreationInputTokens := report.cacheCreationTokens
        cacheReadInputTokens := report.cacheReadTokens
        outputTokens := report.outputTokens }
      (normalizeCacheCreationSplit report.cacheCreationTokens report.tokens5m report.tokens1h)
    rw [ClaudeReport.claudeUsage, split]

end

/-- A stream is read to its end exactly if no event is an error, by induction on the
events.
-/
theorem foldlM_handleData_ok {format} {events : List ClaudeEvent}
    {info}
    : (∃ info', events.foldlM (handleStreamResponseData format) info = .ok info')
      ↔ ∀ message, .error message ∉ events := by
  induction events generalizing info with
  | nil => simp [pure, Except.pure]
  | cons event rest ih =>
    rw [List.foldlM_cons]
    by_cases fine : ∀ message, event ≠ .error message
    · obtain ⟨next, handled⟩ : ∃ next, handleStreamResponseData format info event = .ok next := by
        cases event with
        | error message => exact absurd rfl (fine message)
        | messageStart message => cases format <;> cases message <;> exact ⟨_, rfl⟩
        | contentBlockStart | contentBlockDelta | messageDelta | other =>
          cases format <;> exact ⟨_, rfl⟩
      have tail : ∀ message, .error message ∉ event :: rest ↔ .error message ∉ rest := by
        intro message
        simp [(fine message).symm]
      simp only [handled, tail]
      exact ih
    · push Not at fine
      obtain ⟨message, rfl⟩ := fine
      refine iff_of_false ?_ ?_
      · rintro ⟨_, handled⟩
        cases handled
      · intro clean
        exact clean message (by simp)

/-- Beside a Gemini metadata with tokens a usage is billed as returned exactly if the counts agree;
without tokens always.
-/
theorem billedAsReturned_gemini {usage metadata estimated}
    (billing : usage.billingUsage = newGeminiChatBillingUsage metadata estimated)
    : BilledAsReturned usage
      ↔ (metadata.hasTokens → metadata.statedCounts = usage.counts) := by
  have gemini : names "gemini_chat" "gemini_chat" = true := by decide
  rw [billedAsReturned_iff, billing, newGeminiChatBillingUsage]
  cases metadata.hasTokens with
  | false => simp
  | true =>
    simp only [if_true, mem_def, some.injEq, forall_eq', forall_const, statedCounts, isGemini,
      gemini, Bool.true_or, filter_none, filter_some, map_some]

theorem billedAsReturned_estimated {usage}
    (billing : usage.billingUsage = newEstimatedGeminiChatBillingUsage usage.toUsageCounts)
    (total : usage.totalTokens = usage.promptTokens + usage.completionTokens)
    : BilledAsReturned usage := by
  refine (billedAsReturned_gemini billing).mpr fun _ => ?_
  simp only [GeminiCounts.statedCounts, UsageCounts.counts, total, Prod.mk.injEq]
  split_ifs <;> omega

variable (metadata : GeminiUsageMetadata) (fallbackPromptTokens : ℤ)

def GeminiUsageMetadata.returnedCounts : ℤ × ℤ :=
  let reported := metadata.promptTokenCount + metadata.toolUsePromptTokenCount
  let promptTokens :=
    if reported ≤ 0 ∧ fallbackPromptTokens > 0 then fallbackPromptTokens else reported
  let completionTokens := metadata.candidatesTokenCount + metadata.thoughtsTokenCount
  (promptTokens,
    if metadata.totalTokenCount > 0 ∧ completionTokens ≤ 0 then
      metadata.totalTokenCount - promptTokens
    else completionTokens)

/-- What is billed for a metadata are the counts made of it. A billing usage that the upstream
embedded must state them; otherwise the prompt must not fall back to an estimate, nor a total be
negative.
-/
def GeminiUsageMetadata.StatesReturned : Prop :=
  match metadata.billingUsage with
  | some embedded =>
    ∀ stated ∈ embedded.statedCounts, stated = metadata.returnedCounts fallbackPromptTokens
  | none =>
    (metadata.promptTokenCount + metadata.toolUsePromptTokenCount > 0
      ∨ fallbackPromptTokens ≤ 0)
    ∧ (metadata.totalTokenCount ≥ 0
      ∨ metadata.candidatesTokenCount + metadata.thoughtsTokenCount > 0
      ∨ metadata.totalTokenCount
          - (metadata.promptTokenCount + metadata.toolUsePromptTokenCount)
        = metadata.candidatesTokenCount + metadata.thoughtsTokenCount)

/-- No metadata came, output came without a completion count, or the metadata states what is
returned.
-/
def GeminiReport.BillsReturned (report : GeminiReport) (estimatePromptTokens : ℤ) : Prop :=
  ∀ metadata ∈ report.metadata,
    ((metadata.returnedCounts estimatePromptTokens).2 ≤ 0
      ∧ (report.text ≠ "" ∨ report.images ≠ 0))
    ∨ metadata.StatesReturned estimatePromptTokens

/-- Without an embedded billing usage the stated counts are returned exactly if nothing
falls back.
-/
theorem GeminiUsageMetadata.statedCounts_eq_iff (plain : metadata.billingUsage = none)
    : metadata.statedCounts = metadata.returnedCounts fallbackPromptTokens
      ↔ metadata.StatesReturned fallbackPromptTokens := by
  simp only [GeminiCounts.statedCounts, returnedCounts, StatesReturned, plain, Prod.mk.injEq]
  split_ifs <;> omega

theorem usageFromMetadata_billedAsReturned {metadata}
    (billable : metadata.hasTokens) (fallbackPromptTokens)
    : BilledAsReturned (usageFromGeminiMetadata metadata fallbackPromptTokens)
      ↔ metadata.StatesReturned fallbackPromptTokens := by
  have counts : (usageFromGeminiMetadata metadata fallbackPromptTokens).counts
      = metadata.returnedCounts fallbackPromptTokens := rfl
  cases embedded : metadata.billingUsage with
  | none =>
    have billing : (usageFromGeminiMetadata metadata fallbackPromptTokens).billingUsage
        = newGeminiChatBillingUsage metadata.toGeminiCounts false := by
      simp [usageFromGeminiMetadata, embedded]
    rw [billedAsReturned_gemini billing, imp_iff_right billable, counts,
      metadata.statedCounts_eq_iff fallbackPromptTokens embedded]
  | some billingUsage =>
    have billing : (usageFromGeminiMetadata metadata fallbackPromptTokens).billingUsage
        = some billingUsage := by
      simp [usageFromGeminiMetadata, embedded]
    simp [billedAsReturned_iff, billing, counts, StatesReturned, embedded]

/-- The metadata that a report keeps has tokens, by induction on the responses. -/
theorem foldl_after_hasTokens (responses : List GeminiResponse) {report}
    (billable : ∀ metadata ∈ report.metadata, metadata.hasTokens)
    : ∀ metadata ∈ (responses.foldl GeminiReport.after report).metadata, metadata.hasTokens := by
  induction responses generalizing report with
  | nil => exact billable
  | cons response rest ih =>
    rw [List.foldl_cons]
    apply ih
    cases tokens : response.usageMetadata.hasTokens with
    | true => simp [GeminiReport.after, tokens]
    | false => simpa [GeminiReport.after, tokens] using billable

/-- The counts returned for a Gemini stream are billed exactly under the condition on what
the stream reported.
-/
theorem geminiStreamHandler_billedAsReturned_iff (estimate)
    (estimatePromptTokens upstreamModelName receivedResponseCount)
    (chunks)
    : BilledAsReturned (geminiStreamHandler estimate estimatePromptTokens upstreamModelName
        receivedResponseCount chunks)
      ↔ (geminiReport chunks).BillsReturned estimatePromptTokens := by
  rw [geminiStreamHandler_eq]
  have billable : ∀ metadata ∈ (geminiReport chunks).metadata, metadata.hasTokens :=
    foldl_after_hasTokens (deliveredResponses chunks) (by simp)
  unfold GeminiReport.BillsReturned
  cases found : (geminiReport chunks).metadata with
  | none =>
    refine iff_of_true (billedAsReturned_estimated rfl ?_) (by simp)
    simp only [estimatedGeminiUsage, UsageCounts.withImages]
    split_ifs <;> rfl
  | some metadata =>
    have counted := usageFromMetadata_billedAsReturned (billable metadata found)
      estimatePromptTokens
    simp only [mem_def, some.injEq, forall_eq']
    by_cases patched : (metadata.returnedCounts estimatePromptTokens).2 ≤ 0
      ∧ ((geminiReport chunks).text ≠ "" ∨ (geminiReport chunks).images ≠ 0)
    · refine iff_of_true ?_ (Or.inl patched)
      rw [patchGeminiZeroCompletionUsage, if_neg]
      · exact billedAsReturned_estimated rfl rfl
      · rintro (counted | ⟨noText, noImages⟩)
        · exact absurd counted (Int.not_lt.mpr patched.1)
        · exact patched.2.elim (absurd noText) (absurd noImages)
    · have kept : (usageFromGeminiMetadata metadata estimatePromptTokens).completionTokens > 0
          ∨ ((geminiReport chunks).text = "" ∧ (geminiReport chunks).images = 0) := by
        by_contra uncounted
        obtain ⟨notPositive, output⟩ := not_or.mp uncounted
        exact patched ⟨Int.not_lt.mp notPositive, not_and_or.mp output⟩
      rw [patchGeminiZeroCompletionUsage, if_pos kept, counted]
      simp only [patched, false_or]

inductive UpstreamStream where
  | claude (format : RelayFormat) (events : List ClaudeEvent)
  | gemini (receivedResponseCount : ℤ) (chunks : List GeminiChunk)

def UpstreamStream.usage (estimate : String → String → ℤ) (estimatePromptTokens : ℤ)
    (upstreamModelName : String)
    : UpstreamStream → Except String Usage
  | .claude format events =>
    claudeStreamHandler estimate estimatePromptTokens format upstreamModelName events
  | .gemini receivedResponseCount chunks =>
    .ok (geminiStreamHandler estimate estimatePromptTokens upstreamModelName
      receivedResponseCount chunks)

/-- A Claude stream with an error returns no counts. -/
def UpstreamStream.BillsReturned (estimate : String → String → ℤ) (estimatePromptTokens : ℤ)
    (upstreamModelName : String)
    : UpstreamStream → Prop
  | .claude format events =>
    let report := claudeReport format upstreamModelName events
    (∃ message, .error message ∈ events)
    ∨ report.BillsReturned (estimate report.model report.text) estimatePromptTokens
  | .gemini _ chunks => (geminiReport chunks).BillsReturned estimatePromptTokens

/-- The counts returned for a Claude stream are billed exactly if there are none, after an error, or
under the condition on its report.
-/
theorem claudeStreamHandler_billedAsReturned_iff (estimate)
    (estimatePromptTokens format upstreamModelName)
    (events)
    : (∀ usage, claudeStreamHandler estimate estimatePromptTokens format upstreamModelName
          events = .ok usage → BilledAsReturned usage)
      ↔ (UpstreamStream.claude format events).BillsReturned estimate estimatePromptTokens
          upstreamModelName := by
  unfold claudeStreamHandler UpstreamStream.BillsReturned
  cases read : events.foldlM (handleStreamResponseData format) { upstreamModelName } with
  | error failure =>
    have failed : ∃ message, .error message ∈ events := by
      by_contra clean
      obtain ⟨info, handled⟩ := foldlM_handleData_ok.mpr
        (not_exists.mp clean)
      cases read.symm.trans handled
    refine iff_of_true (fun usage returned => ?_) (.inl failed)
    cases returned
  | ok info =>
    have clean := not_exists.mpr (foldlM_handleData_ok.mp ⟨info, read⟩)
    simp only [clean, false_or, Except.map, Except.ok.injEq, forall_eq']
    exact (tracks_claudeReport read).billedAsReturned_iff

/-- Whatever an upstream streamed, the counts that settlement bills are those of the usage the
handler returned exactly if the stream reported them or nothing in their place.
-/
theorem streamUsage_billedAsReturned_iff (estimate : String → String → ℤ)
    (estimatePromptTokens : ℤ) (upstreamModelName : String) (stream : UpstreamStream)
    : (∀ usage, stream.usage estimate estimatePromptTokens upstreamModelName = .ok usage →
        BilledAsReturned usage)
      ↔ stream.BillsReturned estimate estimatePromptTokens upstreamModelName := by
  cases stream with
  | claude format events =>
    exact claudeStreamHandler_billedAsReturned_iff estimate estimatePromptTokens format
      upstreamModelName events
  | gemini receivedResponseCount chunks =>
    simp only [UpstreamStream.usage, Except.ok.injEq, forall_eq']
    exact geminiStreamHandler_billedAsReturned_iff estimate estimatePromptTokens
      upstreamModelName receivedResponseCount chunks

def cutOffStream : UpstreamStream :=
  .claude .claude
    [.messageStart (some
      { model := "claude-sonnet-4", usage := some { inputTokens := 10, outputTokens := 1 } }),
    .contentBlockStart,
    .contentBlockDelta (some "Once upon a time there was") none]

/-- The completion count of a stream that was cut off is estimated in the returned usage; that of
its first event is billed.
-/
theorem cutOffStream_estimate_unbilled
    : ∃ usage,
        cutOffStream.usage (fun _ text => text.length) 12 "claude-sonnet-4" = .ok usage
        ∧ usage.counts = (10, 26)
        ∧ (effectiveBillingUsage usage).counts = (10, 1)
        ∧ ¬BilledAsReturned usage := by
  refine ⟨_, rfl, ?_, ?_, ?_⟩ <;> decide +kernel

end HelsterApi.TextBilling
