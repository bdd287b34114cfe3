import HelsterApi.Arithmetic.Rounding

/-! Usage of a realtime session and its price. Decimals are exact rationals; the ratios of a model
are given.
-/

namespace HelsterApi.Realtime

open Arithmetic

def maxQuota : ℤ := 2147483647

def minQuota : ℤ := -2147483648

def quotaFromDecimal (d : ℚ) : ℤ := saturate minQuota maxQuota (roundHalfAway d)

/-- Rounding and the bounds keep signs. -/
theorem quotaFromDecimal_nonneg {d} (nonneg : 0 ≤ d) : 0 ≤ quotaFromDecimal d :=
  saturate_nonneg (by decide) (roundHalfAway_nonneg nonneg) (by decide)

/-- Only what is below one half rounds to nothing. -/
theorem quotaFromDecimal_eq_zero_iff {d} (nonneg : 0 ≤ d) : quotaFromDecimal d = 0 ↔ d < 1 / 2 := by
  rw [quotaFromDecimal, saturate_eq_zero_iff (by decide) (by decide),
    roundHalfAway_eq_zero_iff nonneg]

theorem quotaFromDecimal_eq_zero_iff_abs {d} : quotaFromDecimal d = 0 ↔ |d| < 1 / 2 := by
  rw [quotaFromDecimal, saturate_eq_zero_iff (by decide) (by decide), roundHalfAway_eq_zero_iff_abs]

/-- A higher price is no lower quota. -/
theorem quotaFromDecimal_mono {d e} (below : d ≤ e) : quotaFromDecimal d ≤ quotaFromDecimal e := by
  have ordered : minQuota ≤ maxQuota := by decide
  have rounded := roundHalfAway_mono below
  unfold quotaFromDecimal saturate
  split_ifs <;> omega

structure RealtimeUsage where
  (totalTokens inputTokens outputTokens inputCachedTokens inputTextTokens inputAudioTokens : ℤ := 0)
  (outputTextTokens outputAudioTokens : ℤ := 0)

structure QuotaInfo where
  usage : RealtimeUsage
  usePrice : Bool
  (modelPrice quotaPerUnit modelRatio groupRatio completionRatio : ℚ)
  (audioRatio audioCompletionRatio : ℚ)

def QuotaInfo.ratio (info : QuotaInfo) : ℚ := info.groupRatio * info.modelRatio

def QuotaInfo.price (info : QuotaInfo) : ℚ :=
  (info.usage.inputTextTokens
    + info.usage.outputTextTokens * info.completionRatio
    + info.usage.inputAudioTokens * info.audioRatio
    + info.usage.outputAudioTokens * info.audioRatio * info.audioCompletionRatio)
  * info.ratio

def calculateAudioQuota (info : QuotaInfo) : ℤ :=
  if info.usePrice then quotaFromDecimal (info.modelPrice * info.quotaPerUnit * info.groupRatio)
  else if info.ratio ≠ 0 ∧ info.price ≤ 0 then quotaFromDecimal 1
  else quotaFromDecimal info.price

end HelsterApi.Realtime
