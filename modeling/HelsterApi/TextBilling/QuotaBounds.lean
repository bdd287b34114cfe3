import HelsterApi.TextBilling.Quota
import Mathlib.Tactic.Positivity

/-! Bounds and monotonicity of the quota of a text request. The guards and clamps of the price
formula keep it non-negative, and more tokens never cost less.
-/

namespace HelsterApi.TextBilling

open Arithmetic Realtime TextRelay TextQuotaSummary

structure Usage.Nonneg (usage : Usage) : Prop where
  prompt : 0 ≤ usage.promptTokens
  completion : 0 ≤ usage.completionTokens
  cached : 0 ≤ usage.promptTokensDetails.cachedTokens
  image : 0 ≤ usage.promptTokensDetails.imageTokens
  audio : 0 ≤ usage.promptTokensDetails.audioTokens
  fiveMinutes : 0 ≤ usage.claudeCacheCreation5mTokens
  oneHour : 0 ≤ usage.claudeCacheCreation1hTokens

/-- No ratio or price of a model is negative. Extra ratios that are not positive are ignored. -/
structure PriceData.Nonneg (price : PriceData) : Prop where
  modelPrice : 0 ≤ price.modelPrice
  modelRatio : 0 ≤ price.modelRatio
  completionRatio : 0 ≤ price.completionRatio
  cacheRatio : 0 ≤ price.cacheRatio
  cacheCreationRatio : 0 ≤ price.cacheCreationRatio
  cacheCreation5mRatio : 0 ≤ price.cacheCreation5mRatio
  cacheCreation1hRatio : 0 ≤ price.cacheCreation1hRatio
  imageRatio : 0 ≤ price.imageRatio
  groupRatio : 0 ≤ price.groupRatio

structure Settings.Nonneg (settings : Settings) : Prop where
  quotaPerUnit : 0 ≤ settings.quotaPerUnit
  toolPrice : ∀ tool model, 0 ≤ settings.toolPrice tool model

theorem PriceData.Nonneg.ratio {price : PriceData} (nonneg : price.Nonneg) : 0 ≤ price.ratio :=
  mul_nonneg nonneg.modelRatio nonneg.groupRatio

/-- The extra ratios multiply by a positive factor, by induction on their list. -/
theorem applyRatios_eq (price : PriceData)
    : ∃ factor : ℚ, 0 < factor
        ∧ ∀ value, price.applyOtherRatiosToDecimal value = value * factor := by
  unfold PriceData.applyOtherRatiosToDecimal
  generalize price.otherRatios = ratios
  induction ratios with
  | nil => exact ⟨1, one_pos, fun value => (mul_one value).symm⟩
  | cons entry rest ih =>
    obtain ⟨factor, positive, applied⟩ := ih
    by_cases valid : isValidOtherRatio entry.2 ∧ entry.2 ≠ 1
    · have above : 0 < entry.2 := by simpa [isValidOtherRatio] using valid.1
      refine ⟨entry.2 * factor, mul_pos above positive, fun value => ?_⟩
      rw [List.foldl_cons, if_pos valid, applied, mul_assoc]
    · refine ⟨factor, positive, fun value => ?_⟩
      rw [List.foldl_cons, if_neg valid, applied]

theorem ite_neg_eq_max (q : ℚ) : (if q < 0 then 0 else q) = max q 0 := by
  split
  next negative => exact (max_eq_right negative.le).symm
  next nonneg => exact (max_eq_left (not_lt.mp nonneg)).symm

section

variable {settings : Settings} {relay : TextRelay} (fromSettings : settings.Nonneg)
  (fromPrice : relay.priceData.Nonneg)

include fromSettings fromPrice

theorem TextRelay.unit_nonneg : 0 ≤ relay.unit settings :=
  mul_nonneg fromPrice.groupRatio fromSettings.quotaPerUnit

theorem webSearchSurcharge_nonneg : 0 ≤ webSearchSurcharge settings relay := by
  have unit := unit_nonneg fromSettings fromPrice
  have price := fromSettings.toolPrice "web_search_preview" relay.originModelName
  dsimp only [webSearchSurcharge]
  split
  · split
    · split
      next callCount _ counted =>
        have counts : (0 : ℚ) ≤ callCount := by exact_mod_cast counted.le
        positivity
      · exact le_refl 0
    · exact le_refl 0
  · split
    · positivity
    · exact le_refl 0

theorem claudeWebSearchSurcharge_nonneg : 0 ≤ claudeWebSearchSurcharge settings relay := by
  have unit := unit_nonneg fromSettings fromPrice
  have price := fromSettings.toolPrice "web_search" ""
  unfold claudeWebSearchSurcharge
  split
  next counted =>
    have counts : (0 : ℚ) ≤ relay.claudeWebSearchRequests := by exact_mod_cast counted.le
    positivity
  · exact le_refl 0

theorem fileSearchSurcharge_nonneg : 0 ≤ fileSearchSurcharge settings relay := by
  have unit := unit_nonneg fromSettings fromPrice
  have price := fromSettings.toolPrice "file_search" ""
  unfold fileSearchSurcharge
  split
  · split
    next callCount _ counted =>
      have counts : (0 : ℚ) ≤ callCount := by exact_mod_cast counted.le
      positivity
    · exact le_refl 0
  · exact le_refl 0

theorem toolCallSurcharge_nonneg
    : 0 ≤ calculateTextToolCallSurcharge settings relay := by
  have web := webSearchSurcharge_nonneg fromSettings fromPrice
  have claude := claudeWebSearchSurcharge_nonneg fromSettings fromPrice
  have file := fileSearchSurcharge_nonneg fromSettings fromPrice
  have image : 0 ≤ imageGenerationSurcharge settings relay := by
    unfold imageGenerationSurcharge
    split
    · refine mul_nonneg ?_ (unit_nonneg fromSettings fromPrice)
      unfold getGPTImage1PriceOnceCall
      split_ifs <;> norm_num
    · exact le_refl 0
  unfold calculateTextToolCallSurcharge
  positivity

end

structure TextQuotaSummary.Nonneg (summary : TextQuotaSummary) : Prop where
  completion : 0 ≤ summary.completionTokens
  total : 0 ≤ summary.totalTokens
  cache : 0 ≤ summary.cacheTokens
  cacheCreation : 0 ≤ summary.cacheCreationTokens
  fiveMinutes : 0 ≤ summary.cacheCreationTokens5m
  oneHour : 0 ≤ summary.cacheCreationTokens1h
  image : 0 ≤ summary.imageTokens
  audio : 0 ≤ summary.audioTokens
  surcharge : 0 ≤ summary.toolCallSurchargeQuota

section

variable {summary : TextQuotaSummary} {settings : Settings} {relay : TextRelay}

namespace TextQuotaSummary

def pricedApart (summary : TextQuotaSummary) (apart : Bool) (audioPrice : ℚ) : ℚ :=
  (if summary.cacheTokens ≠ 0 ∧ !apart then summary.cacheTokens else 0 : ℤ)
    + (if summary.writesCache ∧ !apart then summary.cacheCreationTokens else 0 : ℤ)
    + (if summary.imageTokens ≠ 0 then summary.imageTokens else 0 : ℤ)
    + (if summary.audioTokens ≠ 0 ∧ audioPrice > 0 then summary.audioTokens else 0 : ℤ)

theorem baseTokens_eq (summary : TextQuotaSummary) (apart) (audioPrice : ℚ)
    : summary.baseTokens apart audioPrice
      = max (summary.promptTokens - summary.pricedApart apart audioPrice) 0 := by
  -- Each guard subtracts its tokens or zero.
  have step (guard : Prop) [Decidable guard] (base : ℚ) (tokens : ℤ)
      : (if guard then base - tokens else base)
        = base - (if guard then tokens else 0 : ℤ) := by
    split <;> simp
  simp only [baseTokens, pricedApart, step, ite_neg_eq_max]
  congr 1
  ring

theorem Nonneg.cachedCreationTokensWithRatio (counts : summary.Nonneg)
    {price} (prices : price.Nonneg) (apart)
    : 0 ≤ summary.cachedCreationTokensWithRatio price apart := by
  have remaining := prices.cacheCreationRatio
  have fiveMinutes := mul_nonneg (Int.cast_nonneg (R := ℚ) counts.fiveMinutes)
    prices.cacheCreation5mRatio
  have oneHour := mul_nonneg (Int.cast_nonneg (R := ℚ) counts.oneHour) prices.cacheCreation1hRatio
  have all := mul_nonneg (Int.cast_nonneg (R := ℚ) counts.cacheCreation) prices.cacheCreationRatio
  dsimp only [TextQuotaSummary.cachedCreationTokensWithRatio]
  split
  · split
    · split
      · simpa using add_nonneg fiveMinutes oneHour
      next left =>
        have rest := mul_nonneg (Int.cast_nonneg (R := ℚ) (not_lt.mp left)) remaining
        linarith
    · exact all
  · exact le_refl 0

theorem Nonneg.audioInputQuota (counts : summary.Nonneg) {unit} (units : 0 ≤ unit) (audioPrice : ℚ)
    : 0 ≤ summary.audioInputQuota unit audioPrice := by
  unfold TextQuotaSummary.audioInputQuota
  split
  next priced =>
    have tokens : (0 : ℚ) ≤ summary.audioTokens := by exact_mod_cast counts.audio
    have price := priced.2.le
    positivity
  · exact le_refl 0

theorem Nonneg.weightedTokens (counts : summary.Nonneg) {price}
    (prices : price.Nonneg) (apart) (audioPrice : ℚ)
    : 0 ≤ summary.weightedTokens price apart audioPrice := by
  have base : 0 ≤ summary.baseTokens apart audioPrice := by
    rw [summary.baseTokens_eq]
    exact le_max_right _ _
  have cache := mul_nonneg (Int.cast_nonneg (R := ℚ) counts.cache) prices.cacheRatio
  have image := mul_nonneg (Int.cast_nonneg (R := ℚ) counts.image) prices.imageRatio
  have creation := counts.cachedCreationTokensWithRatio prices apart
  have completion := mul_nonneg (Int.cast_nonneg (R := ℚ) counts.completion) prices.completionRatio
  unfold TextQuotaSummary.weightedTokens
  linarith

def withTokens (summary : TextQuotaSummary) (prompt completion total : ℤ) : TextQuotaSummary :=
  { summary with
    promptTokens := prompt, completionTokens := completion, totalTokens := total }

variable {completion : ℤ}

theorem Nonneg.withTokens (counts : summary.Nonneg) (prompt) {total}
    (completions : 0 ≤ completion) (totals : 0 ≤ total)
    : (summary.withTokens prompt completion total).Nonneg :=
  { counts with completion := completions, total := totals }

theorem weightedTokens_mono (summary : TextQuotaSummary) {price}
    (prices : price.Nonneg) (apart) (audioPrice : ℚ) {prompt} (total)
    (morePrompt : summary.promptTokens ≤ prompt)
    (moreCompletion : summary.completionTokens ≤ completion)
    : summary.weightedTokens price apart audioPrice
      ≤ (summary.withTokens prompt completion total).weightedTokens price apart audioPrice := by
  have base : summary.baseTokens apart audioPrice
      ≤ (summary.withTokens prompt completion total).baseTokens apart audioPrice := by
    have more : (summary.promptTokens : ℚ) ≤ prompt := by exact_mod_cast morePrompt
    rw [baseTokens_eq, baseTokens_eq]
    exact max_le_max (sub_le_sub_right more _) le_rfl
  have completions : (summary.completionTokens : ℚ) * price.completionRatio
      ≤ completion * price.completionRatio :=
    mul_le_mul_of_nonneg_right (by exact_mod_cast moreCompletion) prices.completionRatio
  have creation : summary.cachedCreationTokensWithRatio price apart
      = (summary.withTokens prompt completion total).cachedCreationTokensWithRatio price
          apart := rfl
  unfold weightedTokens
  rw [creation]
  exact add_le_add (add_le_add_left (add_le_add_left (add_le_add_left base _) _) _) completions

def price (summary : TextQuotaSummary) (settings : Settings) (relay : TextRelay) (apart : Bool)
    : ℚ :=
  if relay.priceData.usePrice then summary.fixedPrice settings relay
  else summary.ratioPrice settings relay apart

theorem Nonneg.price (counts : summary.Nonneg)
    (fromSettings : settings.Nonneg) (fromPrice : relay.priceData.Nonneg) (apart)
    : 0 ≤ summary.price settings relay apart := by
  obtain ⟨factor, positive, applied⟩ := applyRatios_eq relay.priceData
  have unit := unit_nonneg fromSettings fromPrice
  unfold TextQuotaSummary.price
  split
  · rw [fixedPrice, applied]
    have fixed := mul_nonneg (mul_nonneg fromPrice.modelPrice fromSettings.quotaPerUnit)
      fromPrice.groupRatio
    exact mul_nonneg (add_nonneg fixed counts.surcharge) positive.le
  · rw [ratioPrice, applied]
    have weighted := mul_nonneg (counts.weightedTokens fromPrice apart
      (getGeminiInputAudioPricePerMillionTokens relay.originModelName)) fromPrice.ratio
    have audio := counts.audioInputQuota unit
      (getGeminiInputAudioPricePerMillionTokens relay.originModelName)
    exact mul_nonneg (add_nonneg (add_nonneg weighted counts.surcharge) audio) positive.le

theorem price_mono (summary : TextQuotaSummary) (settings)
    (fromPrice : relay.priceData.Nonneg) (apart) {prompt} (total)
    (morePrompt : summary.promptTokens ≤ prompt)
    (moreCompletion : summary.completionTokens ≤ completion)
    : summary.price settings relay apart
      ≤ (summary.withTokens prompt completion total).price settings relay apart := by
  obtain ⟨factor, positive, applied⟩ := applyRatios_eq relay.priceData
  unfold price
  split
  · exact le_refl _
  · rw [ratioPrice, ratioPrice, applied, applied]
    have weighted := mul_le_mul_of_nonneg_right
      (summary.weightedTokens_mono fromPrice apart
        (getGeminiInputAudioPricePerMillionTokens relay.originModelName) total morePrompt
        moreCompletion) fromPrice.ratio
    exact mul_le_mul_of_nonneg_right (add_le_add_left (add_le_add_left weighted _) _) positive.le

end TextQuotaSummary

end

theorem quotaFromDecimal_one : quotaFromDecimal 1 = 1 := by
  have rounded : roundHalfAway 1 = 1 := by
    rw [roundHalfAway, if_pos zero_le_one, Int.floor_eq_iff]
    norm_num
  rw [quotaFromDecimal, rounded]
  decide

variable {summary : TextQuotaSummary} {settings : Settings} {relay : TextRelay} {apart : Bool}

namespace TextQuotaSummary

theorem chargedQuota_decimal (nonneg : 0 ≤ summary.price settings relay apart)
    : chargedQuota summary.totalTokens relay.priceData.ratio
        (summary.decimal settings relay apart)
      = if summary.totalTokens = 0 then 0
        else if relay.priceData.ratio = 0 then quotaFromDecimal (summary.price settings relay apart)
        else max 1 (quotaFromDecimal (summary.price settings relay apart)) := by
  have quota := quotaFromDecimal_nonneg nonneg
  unfold chargedQuota
  by_cases empty : summary.totalTokens = 0
  · simp [empty]
  by_cases free : relay.priceData.ratio = 0
  · simp [empty, free, decimal, price]
  simp only [empty, free, if_false, ne_eq, not_false_eq_true, true_and]
  have minimum (d : ℚ) (quota : 0 ≤ quotaFromDecimal d)
      : (if quotaFromDecimal d = 0 then 1 else quotaFromDecimal d)
        = max 1 (quotaFromDecimal d) := by
    split <;> omega
  unfold decimal
  unfold price at nonneg quota ⊢
  by_cases fixed : relay.priceData.usePrice
  · simpa [fixed] using minimum _ quota
  · simp only [fixed, if_false, Bool.false_eq_true, free, ne_eq, not_false_eq_true,
      true_and] at nonneg quota ⊢
    split
    next notPositive =>
      have zero := le_antisymm notPositive nonneg
      have nothing := (quotaFromDecimal_eq_zero_iff le_rfl).mpr (by norm_num)
      rw [zero, nothing, quotaFromDecimal_one]
      decide
    · exact minimum _ quota

theorem Nonneg.charged (nonneg : 0 ≤ summary.price settings relay apart)
    : let charged := chargedQuota summary.totalTokens relay.priceData.ratio
        (summary.decimal settings relay apart)
      0 ≤ charged ∧ charged ≤ maxQuota
        ∧ (summary.totalTokens ≠ 0 → relay.priceData.ratio ≠ 0 → 1 ≤ charged) := by
  have quota := quotaFromDecimal_nonneg nonneg
  have bound : quotaFromDecimal (summary.price settings relay apart) ≤ maxQuota :=
    saturate_le (by decide)
  have room : (1 : ℤ) ≤ maxQuota := by decide
  rw [chargedQuota_decimal nonneg]
  split_ifs with empty free
  · exact ⟨le_rfl, by omega, fun some _ => absurd empty some⟩
  · exact ⟨quota, bound, fun _ ratio => absurd free ratio⟩
  · exact ⟨by omega, max_le room bound, fun _ _ => le_max_left _ _⟩

end TextQuotaSummary

theorem chargedQuota_decimal_mono {grown : TextQuotaSummary}
    (nonneg : 0 ≤ summary.price settings relay apart)
    (more : summary.price settings relay apart ≤ grown.price settings relay apart)
    (tokens : summary.totalTokens ≠ 0 → grown.totalTokens ≠ 0)
    : chargedQuota summary.totalTokens relay.priceData.ratio
        (summary.decimal settings relay apart)
      ≤ chargedQuota grown.totalTokens relay.priceData.ratio
          (grown.decimal settings relay apart) := by
  have grownNonneg := nonneg.trans more
  by_cases empty : summary.totalTokens = 0
  · rw [chargedQuota, if_pos empty]
    exact (TextQuotaSummary.Nonneg.charged grownNonneg).1
  · rw [chargedQuota_decimal nonneg,
      chargedQuota_decimal grownNonneg, if_neg empty, if_neg (tokens empty)]
    have ordered := quotaFromDecimal_mono more
    split
    · exact ordered
    · exact max_le_max le_rfl ordered

theorem InputTokenDetails.cacheCreationTotal_nonneg (details : InputTokenDetails)
    : 0 ≤ details.cacheCreationTokensTotal := by
  dsimp only [cacheCreationTokensTotal]
  split_ifs <;> omega

section

variable {settings : Settings} {relay : TextRelay} {usage : Usage}

namespace TextQuotaSummary

theorem ofUsage_nonneg (fromSettings : settings.Nonneg) (fromPrice : relay.priceData.Nonneg)
    (counts : usage.Nonneg) (direct : relay.openRouter = false) (isClaude)
    : (ofUsage settings relay usage isClaude).Nonneg where
  completion := counts.completion
  total := add_nonneg counts.prompt counts.completion
  cache := counts.cached
  cacheCreation := by
    simpa [ofUsage, direct] using usage.promptTokensDetails.cacheCreationTotal_nonneg
  fiveMinutes := counts.fiveMinutes
  oneHour := counts.oneHour
  image := counts.image
  audio := counts.audio
  surcharge := toolCallSurcharge_nonneg fromSettings fromPrice

theorem ofUsage_withTokens (direct : relay.openRouter = false)
    (isClaude : Bool) (prompt completion : ℤ)
    : ofUsage settings relay
        { usage with promptTokens := prompt, completionTokens := completion } isClaude
      = (ofUsage settings relay usage isClaude).withTokens prompt
          completion (prompt + completion) := by
  simp [ofUsage, withTokens, direct]

end TextQuotaSummary

theorem quotaSummary_quota (settings usage)
    (direct : relay.openRouter = false)
    : ∃ isClaude apart, ∀ prompt completion,
        (calculateTextQuotaSummary settings relay (some
          { usage with promptTokens := prompt, completionTokens := completion })).quota
        = chargedQuota (prompt + completion) relay.priceData.ratio
            (((ofUsage settings relay usage isClaude).withTokens prompt
              completion (prompt + completion)).decimal settings relay apart) := by
  refine ⟨usageSemanticFromUsage relay (some usage) = "anthropic",
    (usageSemanticFromUsage relay (some usage) = "anthropic")
      || isLegacyClaudeDerivedOpenAIUsage relay usage, fun prompt completion => ?_⟩
  rw [← ofUsage_withTokens direct]
  rfl

theorem quotaSummary_mono (fromSettings : settings.Nonneg)
    (fromPrice : relay.priceData.Nonneg) (counts : usage.Nonneg) (direct : relay.openRouter = false)
    {prompt completion} (morePrompt : usage.promptTokens ≤ prompt)
    (moreCompletion : usage.completionTokens ≤ completion)
    : (calculateTextQuotaSummary settings relay (some usage)).quota
      ≤ (calculateTextQuotaSummary settings relay (some
          { usage with promptTokens := prompt, completionTokens := completion })).quota := by
  obtain ⟨isClaude, apart, charged⟩ := quotaSummary_quota settings usage direct
  have nonneg := ((ofUsage_nonneg fromSettings fromPrice counts direct
    isClaude).withTokens usage.promptTokens counts.completion
    (add_nonneg counts.prompt counts.completion)).price fromSettings fromPrice apart
  have more := ((ofUsage settings relay usage isClaude).withTokens
    usage.promptTokens usage.completionTokens
    (usage.promptTokens + usage.completionTokens)).price_mono settings
    fromPrice apart (prompt + completion) morePrompt moreCompletion
  rw [charged prompt completion]
  refine (charged usage.promptTokens usage.completionTokens).trans_le
    (chargedQuota_decimal_mono nonneg more ?_)
  intro tokens
  have prompts := counts.prompt
  have completions := counts.completion
  simp only [withTokens] at tokens ⊢
  omega

/-- Outside OpenRouter, with non-negative counts, ratios and prices, a quota is between zero
and `MaxQuota` and at least one for tokens of a model and a group with a ratio, and it never
decreases when prompt or completion tokens alone increase.
-/
theorem calculateTextQuotaSummary_bounded_mono (settings : Settings) (relay : TextRelay)
    (usage : Usage) (fromSettings : settings.Nonneg) (fromPrice : relay.priceData.Nonneg)
    (counts : usage.Nonneg) (direct : relay.openRouter = false)
    : let quota (usage : Usage) := (calculateTextQuotaSummary settings relay usage).quota
      (0 ≤ quota usage ∧ quota usage ≤ maxQuota)
      ∧ (relay.priceData.modelRatio ≠ 0 → relay.priceData.groupRatio ≠ 0
          → 0 < usage.promptTokens + usage.completionTokens → 1 ≤ quota usage)
      ∧ (∀ prompt, usage.promptTokens ≤ prompt
          → quota usage ≤ quota { usage with promptTokens := prompt })
      ∧ (∀ completion, usage.completionTokens ≤ completion
          → quota usage ≤ quota { usage with completionTokens := completion }) := by
  intro quota
  obtain ⟨isClaude, apart, charged⟩ := quotaSummary_quota settings usage direct
  have nonneg := ((ofUsage_nonneg fromSettings fromPrice counts direct
    isClaude).withTokens usage.promptTokens counts.completion
    (add_nonneg counts.prompt counts.completion)).price fromSettings fromPrice apart
  obtain ⟨low, high, minimum⟩ := TextQuotaSummary.Nonneg.charged nonneg
  have same : quota usage = _ := charged usage.promptTokens usage.completionTokens
  refine ⟨⟨same ▸ low, same ▸ high⟩, ?_, ?_, ?_⟩
  · intro modelRatio groupRatio tokens
    exact same ▸ minimum tokens.ne' (mul_ne_zero modelRatio groupRatio)
  · intro prompt more
    exact quotaSummary_mono fromSettings fromPrice counts direct more le_rfl
  · intro completion more
    exact quotaSummary_mono fromSettings fromPrice counts direct le_rfl more

end

def plainSettings : Settings where
  quotaPerUnit := 500000
  toolPrice := fun _ _ => 10
  defaultModelRatio := fun _ => none

def chatRelay : TextRelay where
  originModelName := "gpt-4o"
  priceData :=
    { modelRatio := 5 / 4, completionRatio := 4, cacheRatio := 1 / 2, groupRatio := 1 }

def chatUsage : Usage where
  promptTokens := 1000
  completionTokens := 200
  promptTokensDetails := { cachedTokens := 400 }

/-- The chat request costs something, and no less with a longer prompt. -/
theorem chatUsage_bounded_mono
    : 1 ≤ (calculateTextQuotaSummary plainSettings chatRelay chatUsage).quota
      ∧ (calculateTextQuotaSummary plainSettings chatRelay chatUsage).quota ≤ maxQuota
      ∧ (calculateTextQuotaSummary plainSettings chatRelay chatUsage).quota
        ≤ (calculateTextQuotaSummary plainSettings chatRelay
            (some { chatUsage with promptTokens := 2000 })).quota := by
  have fromSettings : plainSettings.Nonneg := by constructor <;> norm_num [plainSettings]
  have fromPrice : chatRelay.priceData.Nonneg := by constructor <;> norm_num [chatRelay]
  have counts : chatUsage.Nonneg := by constructor <;> decide
  obtain ⟨⟨_, high⟩, minimum, prompts, _⟩ := calculateTextQuotaSummary_bounded_mono
    plainSettings chatRelay chatUsage fromSettings fromPrice counts rfl
  exact ⟨minimum (by norm_num [chatRelay]) (by norm_num [chatRelay]) (by decide), high,
    prompts 2000 (by decide)⟩

end HelsterApi.TextBilling
