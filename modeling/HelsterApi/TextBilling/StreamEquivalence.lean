import HelsterApi.TextBilling.BilledCounts
import HelsterApi.TextBilling.ReportPrice

/-! One usage report of a Claude upstream, in a single body or spread over the events of a stream,
and the quotas of both. The stream drops the web searches of a report, and estimates one without
counts.
-/

namespace HelsterApi.TextBilling

open Arithmetic ClaudeUsage Realtime UsageReport TextQuotaSummary

def UsageReport.claudeUsage (report : UsageReport) : ClaudeUsage where
  inputTokens := report.inputTokens
  outputTokens := report.outputTokens
  cacheReadInputTokens := report.cacheReadTokens
  cacheCreationInputTokens := report.cacheCreationTokens
  cacheCreation := report.split.map fun split => ⟨split.1, split.2⟩
  webSearchRequests := some report.webSearchRequests

def ClaudeEvent.usage? : ClaudeEvent → Option ClaudeUsage
  | .messageStart message => message.bind ClaudeMessage.usage
  | .messageDelta usage => usage
  | _ => none

def streamedSearches (events : List ClaudeEvent) : ℤ :=
  events.foldl
    (fun known event =>
      let requests := claudeWebSearchRequests event.usage?
      if requests > 0 then requests else known)
    0

/-- A stream without errors, for a client whose protocol is served, carries the totals of a report.
-/
structure UsageReport.CarriedBy (report : UsageReport) (format : RelayFormat)
    (model : String) (events : List ClaudeEvent)
    : Prop where
  served : format ≠ .other
  clean : ∀ message, .error message ∉ events
  input : (claudeReport format model events).inputTokens = report.inputTokens
  output : (claudeReport format model events).outputTokens = report.outputTokens
  cacheRead : (claudeReport format model events).cacheReadTokens = report.cacheReadTokens
  cacheCreation
    : (claudeReport format model events).cacheCreationTokens = report.cacheCreationTokens
  tokens5m : (claudeReport format model events).tokens5m = report.tokens5m
  tokens1h : (claudeReport format model events).tokens1h = report.tokens1h
  searches : streamedSearches events = report.webSearchRequests

def bodyQuota (settings : Settings) (relay : TextRelay) (report : UsageReport) : ℤ :=
  let reported := some report.claudeUsage
  (calculateTextQuotaSummary settings (relay.withSearches (claudeWebSearchRequests reported))
    (some (effectiveBillingUsage (handleClaudeResponseData reported)))).quota

def streamQuota (settings : Settings) (relay : TextRelay) (estimate : String → String → ℤ)
    (format : RelayFormat) (model : String) (events : List ClaudeEvent)
    : Except String ℤ :=
  (claudeStreamHandler estimate relay.estimatePromptTokens format model events).map
    fun usage =>
      (calculateTextQuotaSummary settings (relay.withSearches 0)
        (some (effectiveBillingUsage usage))).quota

def UsageReport.Blank (report : UsageReport) : Prop :=
  report.inputTokens = 0 ∧ report.outputTokens = 0 ∧ report.cacheReadTokens = 0
  ∧ report.cacheCreationTokens = 0 ∧ report.tokens5m = 0 ∧ report.tokens1h = 0
  deriving Decidable

/-- The tokens billed for a stream without counts: an estimated prompt alone, or what is estimated
at all.
-/
def billedEstimate (estimatePromptTokens estimated : ℤ) : ℤ :=
  if estimatePromptTokens > 0 then estimatePromptTokens else estimatePromptTokens + estimated

/-- Web searches must not change the rounded price within its bounds, and what is estimated for a
report without tokens must be free.
-/
def UsageReport.ChargedAlike (report : UsageReport) (settings : Settings) (relay : TextRelay)
    (estimated : ℤ)
    : Prop :=
  let ratio := relay.priceData.ratio
  if report.Blank then
    billedEstimate relay.estimatePromptTokens estimated = 0
    ∨ (ratio = 0
      ∧ |relay.priceData.applyOtherRatiosToDecimal (ownSurcharge settings relay)| < 1 / 2)
  else
    let plain := roundHalfAway (report.price settings relay 0)
    let searched := roundHalfAway (report.price settings relay report.webSearchRequests)
    report.inputTokens + report.outputTokens = 0
    ∨ plain = searched
    ∨ (plain ≤ leastQuota ratio ∧ searched ≤ leastQuota ratio)
    ∨ (maxQuota ≤ plain ∧ maxQuota ≤ searched)

section

variable {settings : Settings} {relay : TextRelay} {report : UsageReport} {usage : Usage}

theorem effectiveBillingUsage_claude {claudeUsage}
    (billing : usage.billingUsage = newClaudeMessagesBillingUsage claudeUsage)
    (tokens : claudeUsage.hasTokens)
    : ∃ billingUsage, effectiveBillingUsage usage
        = usageFromClaudeBillingUsage billingUsage claudeUsage := by
  have claude : HelsterApi.Text.names "claude_messages" "claude_messages" = true := by decide
  refine ⟨{ source := "claude_messages", semantic := "anthropic"
            claudeUsage := some claudeUsage }, ?_⟩
  simp [effectiveBillingUsage, usageFromBillingUsage, billing, newClaudeMessagesBillingUsage,
    tokens, BillingUsage.usage?, BillingUsage.isClaude, claude, Option.filter]

theorem effectiveBillingUsage_of_no_tokens {claudeUsage}
    (billing : usage.billingUsage = newClaudeMessagesBillingUsage claudeUsage)
    (empty : ¬claudeUsage.hasTokens)
    : effectiveBillingUsage usage = usage := by
  simp [effectiveBillingUsage, usageFromBillingUsage, billing, newClaudeMessagesBillingUsage, empty]

namespace UsageReport

theorem claudeUsage_split (report : UsageReport)
    : report.claudeUsage.getCacheCreation5mTokens = report.tokens5m
      ∧ report.claudeUsage.getCacheCreation1hTokens = report.tokens1h := by
  unfold tokens5m tokens1h getCacheCreation5mTokens getCacheCreation1hTokens claudeUsage
  cases report.split <;> simp

theorem hasTokens_iff (report : UsageReport) : report.claudeUsage.hasTokens ↔ ¬report.Blank := by
  obtain ⟨tokens5m, tokens1h⟩ := report.claudeUsage_split
  simp only [hasTokens, decide_eq_true_eq, tokens5m, tokens1h, Blank]
  simp only [claudeUsage]
  omega

end UsageReport

theorem normalizeSplit_eq (totalTokens tokens5m tokens1h)
    : normalizeCacheCreationSplit totalTokens tokens5m tokens1h
      = (max tokens5m (totalTokens - tokens1h), tokens1h) := by
  simp only [normalizeCacheCreationSplit, Prod.mk.injEq, and_true]
  split <;> omega

variable {estimate : String → String → ℤ} {format : RelayFormat} {model : String}
  {events : List ClaudeEvent}

section

variable (carried : report.CarriedBy format model events)

include carried

theorem UsageReport.CarriedBy.billedBy (billingUsage)
    : report.BilledBy (usageFromClaudeBillingUsage billingUsage
        (claudeReport format model events).claudeUsage) := by
  rw [ClaudeReport.claudeUsage, carried.input, carried.output, carried.cacheRead,
    carried.cacheCreation, carried.tokens5m, carried.tokens1h, normalizeSplit_eq]
  unfold withSplit
  split <;> refine ⟨rfl, rfl, rfl, rfl, .inr ?_, ?_, rfl⟩
  all_goals
    simp only [usageFromClaudeBillingUsage, getCacheCreation5mTokens, getCacheCreation1hTokens]
    split_ifs <;> omega

theorem UsageReport.CarriedBy.blank_iff
    : (claudeReport format model events).Blank ↔ report.Blank := by
  unfold ClaudeReport.Blank UsageReport.Blank
  rw [carried.input, carried.output, carried.cacheRead, carried.cacheCreation,
    carried.tokens5m, carried.tokens1h]
  omega

omit carried in
theorem bodyQuota_of_blank (blank : report.Blank) : bodyQuota settings relay report = 0 := by
  have empty : ¬report.claudeUsage.hasTokens := by
    rw [report.hasTokens_iff]
    exact not_not.mpr blank
  rw [bodyQuota, effectiveBillingUsage_of_no_tokens rfl empty]
  have total : (handleClaudeResponseData (some report.claudeUsage)).promptTokens
      + (handleClaudeResponseData (some report.claudeUsage)).completionTokens = 0 := by
    simp [handleClaudeResponseData, claudeUsage, blank.1, blank.2.1]
  exact if_pos total

omit carried in
theorem bodyQuota_of_reported (byRatio : relay.priceData.usePrice = false)
    (equal : relay.priceData.cacheCreation5mRatio = relay.priceData.cacheCreationRatio)
    (reported : ¬report.Blank)
    : bodyQuota settings relay report
      = if report.inputTokens + report.outputTokens = 0 then 0
        else
          saturate (leastQuota relay.priceData.ratio) maxQuota
            (roundHalfAway (report.price settings relay report.webSearchRequests)) := by
  have noted : claudeWebSearchRequests (some report.claudeUsage) = report.webSearchRequests := by
    simp only [claudeWebSearchRequests, Option.bind_some, claudeUsage]
    split <;> omega
  have billing : (handleClaudeResponseData (some report.claudeUsage)).billingUsage
      = newClaudeMessagesBillingUsage report.claudeUsage := rfl
  obtain ⟨billingUsage, billed⟩ :=
    effectiveBillingUsage_claude billing (report.hasTokens_iff.mpr reported)
  simp only [bodyQuota]
  rw [billed, noted]
  have body : report.BilledBy (usageFromClaudeBillingUsage billingUsage report.claudeUsage) := by
    obtain ⟨tokens5m, tokens1h⟩ := report.claudeUsage_split
    refine ⟨rfl, rfl, rfl, rfl, .inl ?_, ?_, rfl⟩
    · simp only [usageFromClaudeBillingUsage, tokens5m]
      simp only [claudeUsage]
      split <;> omega
    · simp only [usageFromClaudeBillingUsage, tokens1h]
      simp only [claudeUsage]
      split <;> omega
  exact body.quota byRatio equal report.webSearchRequests

theorem UsageReport.CarriedBy.read
    : ∃ info : ClaudeResponseInfo, info.Tracks (claudeReport format model events)
      ∧ streamQuota settings relay estimate format model events
        = .ok (calculateTextQuotaSummary settings (relay.withSearches 0)
            (some (effectiveBillingUsage
              (handleStreamFinalResponse estimate relay.estimatePromptTokens info)))).quota := by
  obtain ⟨info, read⟩ : ∃ info, events.foldlM (handleStreamResponseData format)
      { upstreamModelName := model } = .ok info :=
    foldlM_handleData_ok.mpr carried.clean
  refine ⟨info, tracks_claudeReport read, ?_⟩
  rw [streamQuota, claudeStreamHandler, read]
  rfl

theorem UsageReport.CarriedBy.streamQuota_of_reported (byRatio : relay.priceData.usePrice = false)
    (equal : relay.priceData.cacheCreation5mRatio = relay.priceData.cacheCreationRatio)
    (reported : ¬report.Blank)
    : streamQuota settings relay estimate format model events
      = .ok (if report.inputTokens + report.outputTokens = 0 then 0
        else
          saturate (leastQuota relay.priceData.ratio) maxQuota
            (roundHalfAway (report.price settings relay 0))) := by
  obtain ⟨info, tracks, quota⟩ := carried.read
  have counted := carried.blank_iff.not.mpr reported
  obtain ⟨billingUsage, billed⟩ := effectiveBillingUsage_claude
    (tracks.billing_of_reported counted)
    ((claudeReport format model events).hasTokens_iff.mpr counted)
  rw [quota, billed]
  exact congrArg Except.ok ((carried.billedBy billingUsage).quota byRatio equal 0)

omit carried in
theorem billed_of_blank (estimate : String → String → ℤ) {info}
    (tracks : info.Tracks (claudeReport format model events))
    (blank : (claudeReport format model events).Blank) (estimatePromptTokens : ℤ)
    : let billed := effectiveBillingUsage
        (handleStreamFinalResponse estimate estimatePromptTokens info)
      billed.usageSemantic = "anthropic" ∧ billed.promptTokensDetails.audioTokens = 0
      ∧ billed.promptTokens + billed.completionTokens
        = billedEstimate estimatePromptTokens
            (estimate (claudeReport format model events).model
              (claudeReport format model events).text) := by
  have billing : (handleStreamFinalResponse estimate estimatePromptTokens info).billingUsage
      = _ := tracks.billing_of_blank blank
  by_cases positive : estimatePromptTokens > 0
  · obtain ⟨billingUsage, billed⟩ := effectiveBillingUsage_claude billing
      ((hasTokens_input _).mpr (by rw [if_pos positive]; omega))
    rw [billed]
    simp [usageFromClaudeBillingUsage, billedEstimate, positive]
  · have returned := effectiveBillingUsage_of_no_tokens billing
      ((hasTokens_input _).not.mpr (by simp [positive]))
    have counts : (handleStreamFinalResponse estimate estimatePromptTokens info).counts = _ :=
      tracks.counts_of_blank blank
    have details := (repairUsage_cache (estimate info.upstreamModelName info.responseText)
      estimatePromptTokens info.done info.usage.toUsageCounts).1
    have audio := (congrArg InputTokenDetails.audioTokens details).trans tracks.audio
    simp only [UsageCounts.counts, Prod.mk.injEq] at counts
    rw [returned, billedEstimate, if_neg positive]
    exact ⟨rfl, audio, congrArg₂ (· + ·) counts.1 counts.2⟩

/-- A stream without counts costs nothing exactly if nothing is estimated, or it is free and its
surcharge rounds to nothing.
-/
theorem UsageReport.CarriedBy.streamQuota_of_blank
    (byRatio : relay.priceData.usePrice = false) (blank : report.Blank)
    : streamQuota settings relay estimate format model events = .ok 0
      ↔ report.ChargedAlike settings relay
          (estimate (claudeReport format model events).model
            (claudeReport format model events).text) := by
  obtain ⟨info, tracks, quota⟩ := carried.read
  obtain ⟨semantic, audio, total⟩ :=
    billed_of_blank estimate tracks (carried.blank_iff.mpr blank) relay.estimatePromptTokens
  have ratios : (relay.withSearches 0).priceData.usePrice = false := byRatio
  rw [quota, Except.ok.injEq, quotaSummary_anthropic semantic ratios, total,
    UsageReport.ChargedAlike, if_pos blank]
  have surcharge : calculateTextToolCallSurcharge settings (relay.withSearches 0)
      = ownSurcharge settings relay := by
    simpa using toolCallSurcharge_searches settings relay 0
  by_cases empty : billedEstimate relay.estimatePromptTokens
      (estimate (claudeReport format model events).model
        (claudeReport format model events).text) = 0
  · simp [empty]
  · rw [if_neg empty, saturate_leastQuota_eq_zero_iff]
    simp only [empty, false_or]
    refine and_congr_right fun free => ?_
    simp [ratioPrice, audioInputQuota, free, audio,
      roundHalfAway_eq_zero_iff_abs, ofUsage, surcharge]
    rfl

end

/-- For a price by ratios that are equal for short-lived cache writes and those of unknown
life time, a report is charged alike in a body and in a stream exactly if its web searches
do not change the rounded price, or, without tokens, if nothing is charged for estimates.
-/
theorem streamQuota_eq_bodyQuota_iff (carried : report.CarriedBy format model events)
    (byRatio : relay.priceData.usePrice = false)
    (equal : relay.priceData.cacheCreation5mRatio = relay.priceData.cacheCreationRatio)
    : streamQuota settings relay estimate format model events
        = .ok (bodyQuota settings relay report)
      ↔ report.ChargedAlike settings relay
          (estimate (claudeReport format model events).model
            (claudeReport format model events).text) := by
  by_cases blank : report.Blank
  · rw [bodyQuota_of_blank blank]
    exact carried.streamQuota_of_blank byRatio blank
  · rw [carried.streamQuota_of_reported byRatio equal blank,
      bodyQuota_of_reported byRatio equal blank, Except.ok.injEq, UsageReport.ChargedAlike,
      if_neg blank]
    have ordered : leastQuota relay.priceData.ratio < maxQuota := by
      unfold leastQuota
      split <;> decide
    by_cases empty : report.inputTokens + report.outputTokens = 0
    · simp only [empty, if_true, true_or]
    · simp only [empty, if_false, false_or]
      unfold saturate
      split_ifs <;> omega

end

def claudeRelay : TextRelay where
  originModelName := "claude-sonnet-4"
  priceData :=
    { modelRatio := 3 / 2, completionRatio := 5, cacheRatio := 1 / 10
      cacheCreationRatio := 5 / 4, cacheCreation5mRatio := 5 / 4, cacheCreation1hRatio := 2
      groupRatio := 1 }
  claudeFormat := true

def searchReport (searches : ℕ) : UsageReport where
  inputTokens := 100
  outputTokens := 20
  cacheCreationTokens := 50
  webSearchRequests := searches

def searchEvents (searches : ℕ) : List ClaudeEvent :=
  [.messageStart (some
    { model := "claude-sonnet-4"
      usage := some
        { inputTokens := 100, outputTokens := 1, cacheCreationInputTokens := 50 } }),
  .contentBlockStart,
  .contentBlockDelta (some "The search found nothing.") none,
  .messageDelta (some { outputTokens := 20, webSearchRequests := some searches })]

/-- Without a web search body and stream are charged alike. -/
theorem searchEvents_charged_alike
    : streamQuota plainSettings claudeRelay (fun _ text => text.length) .claude
        "claude-sonnet-4" (searchEvents 0)
      = .ok (bodyQuota plainSettings claudeRelay (searchReport 0)) := by
  have carried : (searchReport 0).CarriedBy .claude "claude-sonnet-4" (searchEvents 0) := by
    constructor <;> first | decide | simp [searchEvents]
  have counted : ¬(searchReport 0).Blank := by decide
  refine (streamQuota_eq_bodyQuota_iff carried rfl rfl).mpr ?_
  rw [UsageReport.ChargedAlike, if_neg counted]
  exact .inr (.inl rfl)

/-- The search that a stream reports is not charged. -/
theorem searchEvents_charged_less
    : (searchReport 1).CarriedBy .claude "claude-sonnet-4" (searchEvents 1)
      ∧ streamQuota plainSettings claudeRelay (fun _ text => text.length) .claude
          "claude-sonnet-4" (searchEvents 1) = .ok 394
      ∧ bodyQuota plainSettings claudeRelay (searchReport 1) = 5394 := by
  refine ⟨?_, by decide +kernel, by decide +kernel⟩
  constructor <;> first | decide | simp [searchEvents]

end HelsterApi.TextBilling
