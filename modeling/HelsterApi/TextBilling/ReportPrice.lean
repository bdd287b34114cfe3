import HelsterApi.TextBilling.QuotaBounds

/-! The price of a usage report of a Claude upstream, as a formula of its counts, by which a usage
with these counts is charged.
-/

namespace HelsterApi.TextBilling

open Arithmetic Realtime TextQuotaSummary TextRelay

/-- What a Claude response reports as used; cache writes may be split, five minutes before one hour.
-/
structure UsageReport where
  (inputTokens outputTokens cacheReadTokens cacheCreationTokens : ℕ := 0)
  split : Option (ℕ × ℕ) := none
  webSearchRequests : ℕ := 0

def UsageReport.tokens5m (report : UsageReport) : ℕ := (report.split.map Prod.fst).getD 0

def UsageReport.tokens1h (report : UsageReport) : ℕ := (report.split.map Prod.snd).getD 0

def TextRelay.withSearches (relay : TextRelay) (searches : ℤ) : TextRelay :=
  { relay with claudeWebSearchRequests := searches }

def UsageReport.cacheWrites (report : UsageReport) (settings : Settings) (relay : TextRelay) : ℤ :=
  let price := relay.priceData
  let found := calcOpenRouterCacheCreateTokens settings
    { promptTokens := report.inputTokens
      completionTokens := report.outputTokens
      promptTokensDetails := { cachedTokens := report.cacheReadTokens } }
    price
  if relay.openRouter ∧ report.cacheCreationTokens = 0 ∧ price.cacheCreationRatio ≠ 1
      ∧ ¬hasCustomModelRatio settings relay.originModelName price.modelRatio
      ∧ 0 ≤ found ∧ found ≤ report.inputTokens - report.cacheReadTokens then
    found
  else report.cacheCreationTokens

/-- The weighted tokens of a report. Cache writes of unknown life time cost like short-lived
ones.
-/
def UsageReport.weightedTokens (report : UsageReport) (settings : Settings) (relay : TextRelay)
    : ℚ :=
  let price := relay.priceData
  let writes := report.cacheWrites settings relay
  let uncached : ℤ :=
    if relay.openRouter then report.inputTokens - report.cacheReadTokens - writes
    else report.inputTokens
  (max 0 uncached : ℤ) + report.cacheReadTokens * price.cacheRatio
    + (max (report.tokens5m : ℤ) (writes - report.tokens1h) : ℤ) * price.cacheCreationRatio
    + report.tokens1h * price.cacheCreation1hRatio
    + report.outputTokens * price.completionRatio

def ownSurcharge (settings : Settings) (relay : TextRelay) : ℚ :=
  webSearchSurcharge settings relay + fileSearchSurcharge settings relay
    + imageGenerationSurcharge settings relay

def UsageReport.price (report : UsageReport) (settings : Settings) (relay : TextRelay)
    (searches : ℕ)
    : ℚ :=
  relay.priceData.applyOtherRatiosToDecimal
    (report.weightedTokens settings relay * relay.priceData.ratio
      + (ownSurcharge settings relay
        + settings.toolPrice "web_search" "" / 1000 * relay.unit settings * searches))

def leastQuota (ratio : ℚ) : ℤ :=
  if ratio = 0 then minQuota else 1

/-- The quota by ratio: nothing for no tokens, else the rounded price within bounds. -/
theorem chargedQuota_byRatio {summary : TextQuotaSummary} {settings}
    {relay : TextRelay} {apart} (byRatio : relay.priceData.usePrice = false)
    : chargedQuota summary.totalTokens relay.priceData.ratio
        (summary.decimal settings relay apart)
      = if summary.totalTokens = 0 then 0
        else
          saturate (leastQuota relay.priceData.ratio) maxQuota
            (roundHalfAway (summary.ratioPrice settings relay apart)) := by
  simp only [chargedQuota, decimal, byRatio, Bool.false_eq_true, if_false,
    leastQuota]
  by_cases free : relay.priceData.ratio = 0
  · simp [free, quotaFromDecimal]
  simp only [free, ne_eq, not_false_eq_true, true_and, if_false]
  congr 1
  by_cases positive : summary.ratioPrice settings relay apart ≤ 0
  · have nothing := (roundHalfAway_eq_zero_iff le_rfl).mpr (by norm_num)
    have rounded := (roundHalfAway_mono positive).trans_eq nothing
    rw [if_pos positive, quotaFromDecimal_one]
    simp only [saturate, maxQuota]
    split_ifs <;> omega
  · have rounded := roundHalfAway_nonneg (not_le.mp positive).le
    rw [if_neg positive]
    simp only [quotaFromDecimal, saturate, maxQuota, minQuota]
    split_ifs <;> omega

/-- A quota within bounds is zero only for a free model. -/
theorem saturate_leastQuota_eq_zero_iff {ratio n}
    : saturate (leastQuota ratio) maxQuota n = 0 ↔ ratio = 0 ∧ n = 0 := by
  by_cases free : ratio = 0
  · simp only [leastQuota, free, if_true, true_and]
    exact saturate_eq_zero_iff (by decide) (by decide)
  · simp only [leastQuota, free, if_false, false_and, iff_false, saturate, maxQuota]
    split_ifs <;> omega

/-- The quota of a usage counted the way of Claude. -/
theorem quotaSummary_anthropic {settings} {relay : TextRelay}
    {usage : Usage} (semantic : usage.usageSemantic = "anthropic")
    (byRatio : relay.priceData.usePrice = false)
    : (calculateTextQuotaSummary settings relay (some usage)).quota
      = if usage.promptTokens + usage.completionTokens = 0 then 0
        else
          saturate (leastQuota relay.priceData.ratio) maxQuota
            (roundHalfAway ((ofUsage settings relay usage true).ratioPrice
              settings relay true)) := by
  have isClaude : usageSemanticFromUsage relay (some usage) = "anthropic" := by
    simp [usageSemanticFromUsage, semantic]
  simp only [calculateTextQuotaSummary, isClaude, Option.getD_some, Bool.true_or, decide_true]
  rw [chargedQuota_byRatio byRatio]
  rfl

/-- A usage has the counts of a report. The short-lived cache writes may include those of unknown
life time.
-/
structure UsageReport.BilledBy (report : UsageReport) (usage : Usage) : Prop where
  semantic : usage.usageSemantic = "anthropic"
  prompt : usage.promptTokens = report.inputTokens
  completion : usage.completionTokens = report.outputTokens
  details : usage.promptTokensDetails
    = { cachedTokens := report.cacheReadTokens
        cachedCreationTokens := report.cacheCreationTokens }
  fiveMinutes : usage.claudeCacheCreation5mTokens = report.tokens5m
    ∨ usage.claudeCacheCreation5mTokens
      = max (report.tokens5m : ℤ) (report.cacheCreationTokens - report.tokens1h)
  oneHour : usage.claudeCacheCreation1hTokens = report.tokens1h
  cost : usage.cost = none

section

variable {settings : Settings} {relay : TextRelay} {report : UsageReport} {usage : Usage}

/-- Each search adds its price to the surcharge. -/
theorem toolCallSurcharge_searches (settings : Settings) (relay : TextRelay)
    (searches : ℕ)
    : calculateTextToolCallSurcharge settings (relay.withSearches searches)
      = ownSurcharge settings relay
        + settings.toolPrice "web_search" "" / 1000 * relay.unit settings * searches := by
  have claude : claudeWebSearchSurcharge settings (relay.withSearches searches)
      = settings.toolPrice "web_search" "" / 1000 * relay.unit settings * searches := by
    cases searches with
    | zero => simp [claudeWebSearchSurcharge, withSearches]
    | succ searches =>
      rw [claudeWebSearchSurcharge, if_pos (by simp [withSearches])]
      simp [withSearches, unit]
  -- The other surcharges do not read the searches of the upstream.
  have others : webSearchSurcharge settings (relay.withSearches searches)
        = webSearchSurcharge settings relay
      ∧ fileSearchSurcharge settings (relay.withSearches searches)
        = fileSearchSurcharge settings relay
      ∧ imageGenerationSurcharge settings (relay.withSearches searches)
        = imageGenerationSurcharge settings relay := ⟨rfl, rfl, rfl⟩
  rw [calculateTextToolCallSurcharge, claude, others.1, others.2.1, others.2.2, ownSurcharge]
  ring

namespace UsageReport

/-- The cache writes billed are those of the report. -/
theorem BilledBy.cacheCreationTokens (billed : report.BilledBy usage)
    (byRatio : relay.priceData.usePrice = false)
    : (ofUsage settings relay usage true).cacheCreationTokens
      = report.cacheWrites settings relay := by
  have found : calcOpenRouterCacheCreateTokens settings usage relay.priceData
      = calcOpenRouterCacheCreateTokens settings
          { promptTokens := report.inputTokens
            completionTokens := report.outputTokens
            promptTokensDetails := { cachedTokens := report.cacheReadTokens } }
          relay.priceData := by
    simp only [calcOpenRouterCacheCreateTokens, billed.prompt, billed.completion,
      billed.details, billed.cost]
  have total : usage.promptTokensDetails.cacheCreationTokensTotal
      = report.cacheCreationTokens := by
    simp only [InputTokenDetails.cacheCreationTokensTotal, billed.details]
    split_ifs <;> omega
  have cached : usage.promptTokensDetails.cachedTokens = report.cacheReadTokens := by
    rw [billed.details]
  simp only [ofUsage, cacheWrites, found, total, billed.prompt,
    cached, byRatio, Bool.false_eq_true, false_or, true_and, Nat.cast_eq_zero,
    and_assoc]

/-- The plain tokens billed are the input of the report, less the cache where it is part of it. -/
theorem BilledBy.baseTokens (billed : report.BilledBy usage)
    (byRatio : relay.priceData.usePrice = false) (audioPrice : ℚ)
    : (ofUsage settings relay usage true).baseTokens true audioPrice
      = (max 0 (if relay.openRouter then
            report.inputTokens - report.cacheReadTokens - report.cacheWrites settings relay
          else report.inputTokens) : ℤ) := by
  have prompt : (ofUsage settings relay usage true).promptTokens
      = if relay.openRouter then
          report.inputTokens - report.cacheReadTokens - report.cacheWrites settings relay
        else report.inputTokens := by
    rw [← billed.cacheCreationTokens byRatio]
    simp [ofUsage, billed.prompt, billed.details]
  have image : (ofUsage settings relay usage true).imageTokens = 0 := by
    simp [ofUsage, billed.details]
  have audio : (ofUsage settings relay usage true).audioTokens = 0 := by
    simp [ofUsage, billed.details]
  simp only [TextQuotaSummary.baseTokens, prompt, image, audio, Bool.not_true,
    Bool.false_eq_true, and_false, if_false, ne_eq, not_true_eq_false, false_and]
  generalize (if relay.openRouter = true then _ else _ : ℤ) = uncached
  rw [ite_neg_eq_max, max_comm, Int.cast_max, Int.cast_zero]

variable (billed : report.BilledBy usage)

include billed

variable (byRatio : relay.priceData.usePrice = false)

include byRatio

variable (equal : relay.priceData.cacheCreation5mRatio = relay.priceData.cacheCreationRatio)

include equal

/-- The cache writes are weighed by how long they are kept. -/
theorem BilledBy.cachedCreationTokensWithRatio
    : (TextQuotaSummary.ofUsage settings relay usage true).cachedCreationTokensWithRatio
        relay.priceData true
      = (max (report.tokens5m : ℤ) (report.cacheWrites settings relay - report.tokens1h) : ℤ)
          * relay.priceData.cacheCreationRatio
        + report.tokens1h * relay.priceData.cacheCreation1hRatio := by
  have writes : (ofUsage settings relay usage true).cacheCreationTokens
      = report.cacheWrites settings relay := billed.cacheCreationTokens byRatio
  have found : report.cacheWrites settings relay = report.cacheCreationTokens
      ∨ (report.cacheCreationTokens = 0 ∧ 0 ≤ report.cacheWrites settings relay) := by
    dsimp only [cacheWrites]
    split
    next found => exact .inr ⟨found.2.1, found.2.2.2.2.1⟩
    · exact .inl rfl
  have short : (if report.cacheWrites settings relay - usage.claudeCacheCreation5mTokens
          - report.tokens1h < 0 then 0
        else report.cacheWrites settings relay - usage.claudeCacheCreation5mTokens
          - report.tokens1h)
        + usage.claudeCacheCreation5mTokens
      = max (report.tokens5m : ℤ) (report.cacheWrites settings relay - report.tokens1h) := by
    rcases billed.fiveMinutes with known | all <;> split_ifs <;> omega
  simp only [TextQuotaSummary.cachedCreationTokensWithRatio, TextQuotaSummary.writesCache, writes]
  split
  · rw [← short]
    simp only [TextQuotaSummary.ofUsage, billed.oneHour, equal, if_true]
    push_cast
    ring
  next unwritten =>
    simp only [ofUsage, billed.oneHour, not_or, not_not, not_lt] at unwritten
    have long : report.tokens1h = 0 := by omega
    have none : max (report.tokens5m : ℤ) (report.cacheWrites settings relay - report.tokens1h)
        = 0 := by
      rcases billed.fiveMinutes with known | all <;> omega
    rw [none, long]
    simp

/-- The price is the weighed tokens of the report at the ratio, and the surcharge. -/
theorem BilledBy.ratioPrice_eq
    : (TextQuotaSummary.ofUsage settings relay usage true).ratioPrice settings relay true
      = relay.priceData.applyOtherRatiosToDecimal
          (report.weightedTokens settings relay * relay.priceData.ratio
            + calculateTextToolCallSurcharge settings relay) := by
  have weighted : (TextQuotaSummary.ofUsage settings relay usage true).weightedTokens
        relay.priceData true
        (getGeminiInputAudioPricePerMillionTokens relay.originModelName)
      = report.weightedTokens settings relay := by
    unfold TextQuotaSummary.weightedTokens
    rw [billed.baseTokens byRatio, billed.cachedCreationTokensWithRatio byRatio equal]
    simp only [TextQuotaSummary.ofUsage, billed.details, billed.completion, weightedTokens]
    push_cast
    ring
  have audio : (TextQuotaSummary.ofUsage settings relay usage true).audioInputQuota
        (relay.unit settings)
        (getGeminiInputAudioPricePerMillionTokens relay.originModelName) = 0 := by
    simp [TextQuotaSummary.audioInputQuota, TextQuotaSummary.ofUsage, billed.details]
  rw [TextQuotaSummary.ratioPrice, weighted, audio, add_zero]
  rfl

/-- The quota of a usage that a report is billed by. -/
theorem BilledBy.quota (searches : ℕ)
    : (calculateTextQuotaSummary settings (relay.withSearches searches) (some usage)).quota
      = if report.inputTokens + report.outputTokens = 0 then 0
        else
          saturate (leastQuota relay.priceData.ratio) maxQuota
            (roundHalfAway (report.price settings relay searches)) := by
  have ratios : (relay.withSearches searches).priceData.usePrice = false := byRatio
  rw [quotaSummary_anthropic billed.semantic ratios, billed.ratioPrice_eq ratios equal,
    toolCallSurcharge_searches, billed.prompt, billed.completion]
  norm_cast

end UsageReport

end

end HelsterApi.TextBilling
