import Mathlib.Data.Rat.Floor

/-! Conversions from rationals to integers: truncation toward zero, rounding with halves away from
zero, saturation. Signed 64-bit words are read as integers.
-/

namespace HelsterApi.Arithmetic

/-- The integer part of a rational, dropping the fraction toward zero. -/
def truncate (q : ℚ) : ℤ :=
  if 0 ≤ q then ⌊q⌋ else ⌈q⌉

/-- Truncation does not change an integer. -/
@[simp] theorem truncate_intCast (n : ℤ) : truncate n = n := by
  unfold truncate
  split
  · exact Int.floor_intCast n
  · exact Int.ceil_intCast n

theorem truncate_eq_iff_of_pos {q n} (positive : 0 < n) : truncate q = n ↔ n ≤ q ∧ q < n + 1 := by
  have positiveCast : (0 : ℚ) < n := by exact_mod_cast positive
  unfold truncate
  split
  · exact Int.floor_eq_iff
  next negative =>
    have below : q < 0 := not_le.mp negative
    have notPositive : ⌈q⌉ ≤ 0 := Int.ceil_le.mpr (by exact_mod_cast below.le)
    constructor
    · intro same
      omega
    · rintro ⟨atLeast, _⟩
      linarith

theorem truncate_neg (q : ℚ) : truncate (-q) = -truncate q := by
  rcases lt_trichotomy q 0 with negative | rfl | positive
  · rw [truncate, if_pos (by linarith), truncate, if_neg (by linarith), Int.floor_neg]
  · rfl
  · rw [truncate, if_neg (by linarith), truncate, if_pos positive.le, Int.ceil_neg]

def roundHalfAway (q : ℚ) : ℤ :=
  if 0 ≤ q then ⌊q + 1 / 2⌋ else ⌈q - 1 / 2⌉

theorem roundHalfAway_nonneg {q} (nonneg : 0 ≤ q) : 0 ≤ roundHalfAway q := by
  rw [roundHalfAway, if_pos nonneg]
  exact Int.floor_nonneg.mpr (by linarith)

theorem roundHalfAway_eq_zero_iff {q} (nonneg : 0 ≤ q) : roundHalfAway q = 0 ↔ q < 1 / 2 := by
  rw [roundHalfAway, if_pos nonneg, Int.floor_eq_zero_iff, Set.mem_Ico]
  constructor
  · rintro ⟨_, below⟩
    linarith
  · intro below
    exact ⟨by linarith, by linarith⟩

theorem roundHalfAway_eq_zero_iff_abs {q} : roundHalfAway q = 0 ↔ |q| < 1 / 2 := by
  by_cases nonneg : 0 ≤ q
  · rw [roundHalfAway_eq_zero_iff nonneg, abs_of_nonneg nonneg]
  · have negative : q < 0 := not_le.mp nonneg
    rw [roundHalfAway, if_neg nonneg, abs_of_neg negative, Int.ceil_eq_zero_iff, Set.mem_Ioc]
    constructor
    · rintro ⟨above, _⟩
      linarith
    · intro below
      exact ⟨by linarith, by linarith⟩

theorem roundHalfAway_mono {a b} (below : a ≤ b) : roundHalfAway a ≤ roundHalfAway b := by
  unfold roundHalfAway
  split <;> split
  · exact Int.floor_le_floor (by linarith)
  · linarith
  next negative nonneg =>
    have left : ⌈a - 1 / 2⌉ ≤ 0 := Int.ceil_le.mpr (by push_cast; linarith [not_le.mp negative])
    have right : 0 ≤ ⌊b + 1 / 2⌋ := Int.floor_nonneg.mpr (by linarith)
    exact left.trans right
  · exact Int.ceil_le_ceil (by linarith)

/-- Clamping to the bounds `lo` and `hi`. -/
def saturate (lo hi n : ℤ) : ℤ :=
  if hi ≤ n then hi else if n ≤ lo then lo else n

section

variable {lo hi n : ℤ}

theorem saturate_nonneg (high : 0 ≤ hi) (nonneg : 0 ≤ n) (low : lo < 0) : 0 ≤ saturate lo hi n := by
  unfold saturate
  split
  · exact high
  · split <;> omega

theorem saturate_le (ordered : lo ≤ hi) : saturate lo hi n ≤ hi := by
  unfold saturate
  split
  · exact le_refl hi
  · split <;> omega

theorem saturate_eq_zero_iff (low : lo < 0) (high : 0 < hi) : saturate lo hi n = 0 ↔ n = 0 := by
  unfold saturate
  split
  · omega
  · split <;> omega

end

/-- Truncation that stops at the bounds `lo` and `hi`. -/
def truncateWithin (lo hi : ℤ) (q : ℚ) : ℤ :=
  if hi ≤ q then hi else if q ≤ lo then lo else truncate q

section

variable {lo hi n : ℤ} {q : ℚ}

theorem truncateWithin_intCast (low : lo ≤ n) (high : n ≤ hi) : truncateWithin lo hi n = n := by
  unfold truncateWithin
  rw [truncate_intCast]
  split
  next above => exact le_antisymm (by exact_mod_cast above) high
  · split
    next below => exact le_antisymm low (by exact_mod_cast below)
    · rfl

theorem truncateWithin_between (low : lo < 0) (high : 0 < hi) (nonneg : 0 ≤ q)
    : 0 ≤ truncateWithin lo hi q ∧ (truncateWithin lo hi q : ℚ) ≤ q
      ∧ truncateWithin lo hi q ≤ hi := by
  have lowCast : (lo : ℚ) < 0 := by exact_mod_cast low
  unfold truncateWithin
  split
  next above => exact ⟨high.le, above, le_refl hi⟩
  next below =>
    rw [if_neg (by linarith), truncate, if_pos nonneg]
    have floored := Int.floor_le q
    refine ⟨Int.floor_nonneg.mpr nonneg, floored, ?_⟩
    exact_mod_cast (floored.trans (not_le.mp below).le)

theorem le_truncateWithin (low : lo < 0) (positive : 0 ≤ n) (high : n ≤ hi) (below : (n : ℚ) ≤ q)
    : n ≤ truncateWithin lo hi q := by
  have lowCast : (lo : ℚ) < 0 := by exact_mod_cast low
  have nonneg : 0 ≤ q := le_trans (by exact_mod_cast positive) below
  unfold truncateWithin
  split
  · exact high
  · rw [if_neg (by linarith), truncate, if_pos nonneg]
    exact Int.le_floor.mpr below

theorem truncateWithin_eq_iff_of_le (low : lo < 0) (high : 0 < hi) {r} (nonneg : 0 ≤ r)
    (below : r ≤ q)
    : truncateWithin lo hi r = truncateWithin lo hi q ↔ (truncateWithin lo hi q : ℚ) ≤ r := by
  obtain ⟨smallNonneg, smallBelow, smallHigh⟩ := truncateWithin_between low high nonneg
  obtain ⟨largeNonneg, _, largeHigh⟩ := truncateWithin_between low high (nonneg.trans below)
  constructor
  · intro same
    rwa [← same]
  · intro atLeast
    apply le_antisymm
    · exact le_truncateWithin low smallNonneg smallHigh (smallBelow.trans below)
    · exact le_truncateWithin low largeNonneg largeHigh atLeast

/-- A rational truncates to a positive integer inside the bounds exactly on the unit interval
above it.
-/
theorem truncateWithin_eq_iff_of_pos (low : lo < 0) (positive : 0 < n) (high : n < hi)
    : truncateWithin lo hi q = n ↔ n ≤ q ∧ q < n + 1 := by
  have lowCast : (lo : ℚ) < 0 := by exact_mod_cast low
  have positiveCast : (0 : ℚ) < n := by exact_mod_cast positive
  have highCast : (n : ℚ) + 1 ≤ hi := by exact_mod_cast high
  unfold truncateWithin
  split
  · exact ⟨fun same => absurd same high.ne', fun inside => by linarith⟩
  · split
    · exact ⟨fun same => by omega, fun inside => by linarith⟩
    · exact truncate_eq_iff_of_pos positive

theorem truncateWithin_neg (ordered : lo < hi) (q : ℚ)
    : truncateWithin lo hi (-q) = -truncateWithin (-hi) (-lo) q := by
  have orderedCast : (lo : ℚ) < hi := by exact_mod_cast ordered
  unfold truncateWithin
  push_cast
  split
  next above => rw [if_neg (by linarith), if_pos (by linarith), neg_neg]
  next notAbove =>
    split
    next below => rw [if_pos (by linarith), neg_neg]
    next notBelow =>
      rw [if_neg fun under => notBelow (by linarith),
        if_neg fun under => notAbove (by linarith), truncate_neg]

/-- Scaling a truncated non-negative rational gives the truncation of the scaled one exactly if the
part dropped before, scaled, is at most the part dropped after.
-/
theorem truncateWithin_scale_of_nonneg (low : lo < 0) (high : 0 < hi) {scale}
    (positive : 0 < scale) (nonneg : 0 ≤ q)
    : truncateWithin lo hi (scale * truncateWithin lo hi q) = truncateWithin lo hi (scale * q)
      ↔ scale * |q - truncateWithin lo hi q|
        ≤ |scale * q - truncateWithin lo hi (scale * q)| := by
  obtain ⟨keptNonneg, kept, _⟩ := truncateWithin_between low high nonneg
  have scaledNonneg := mul_nonneg positive.le nonneg
  obtain ⟨_, scaledKept, _⟩ := truncateWithin_between low high scaledNonneg
  have keptCast : (0 : ℚ) ≤ truncateWithin lo hi q := by exact_mod_cast keptNonneg
  rw [truncateWithin_eq_iff_of_le low high (mul_nonneg positive.le keptCast)
      (mul_le_mul_of_nonneg_left kept positive.le),
    abs_of_nonneg (sub_nonneg.mpr kept), abs_of_nonneg (sub_nonneg.mpr scaledKept), mul_sub]
  constructor
  · intro atLeast
    linarith
  · intro dropped
    linarith

theorem truncateWithin_scale_iff (low : lo < 0) (high : 0 < hi) {scale}
    (positive : 0 < scale) (q : ℚ)
    : truncateWithin lo hi (scale * truncateWithin lo hi q) = truncateWithin lo hi (scale * q)
      ↔ scale * |q - truncateWithin lo hi q|
        ≤ |scale * q - truncateWithin lo hi (scale * q)| := by
  rcases le_total 0 q with nonneg | negative
  · exact truncateWithin_scale_of_nonneg low high positive nonneg
  · have mirrored := truncateWithin_scale_of_nonneg (Int.neg_neg_iff_pos.mpr high)
      (Int.neg_pos.mpr low) positive (Left.nonneg_neg_iff.mpr negative)
    have kept := truncateWithin_neg (low.trans high) (-q)
    have scaledKept := truncateWithin_neg (low.trans high) (-(scale * q))
    rw [neg_neg] at kept scaledKept
    rw [kept, scaledKept, Int.cast_neg, mul_neg, truncateWithin_neg (low.trans high), neg_inj,
      Int.cast_neg, sub_neg_eq_add, sub_neg_eq_add]
    rw [mul_neg] at mirrored
    rw [mirrored, abs_sub_comm, abs_sub_comm (-(scale * q)), sub_neg_eq_add, sub_neg_eq_add,
      add_comm q, add_comm (scale * q)]

/-- A factor leaves a positive integer within the bounds alone exactly if it is at least one and
adds less than one.
-/
theorem truncateWithin_mul_eq_self_of_pos (low : lo < 0) (positive : 0 < n) (high : n < hi)
    (factor : ℚ)
    : truncateWithin lo hi (n * factor) = n ↔ 1 ≤ factor ∧ (n : ℚ) * (factor - 1) < 1 := by
  have positiveCast : (0 : ℚ) < n := by exact_mod_cast positive
  rw [truncateWithin_eq_iff_of_pos low positive high, le_mul_iff_one_le_right positiveCast,
    mul_sub_one, sub_lt_iff_lt_add']

theorem truncateWithin_mul_eq_self_iff (lowNeg : lo < 0) (highPos : 0 < hi) (low : lo < n)
    (high : n < hi) (factor : ℚ)
    : truncateWithin lo hi (n * factor) = n
      ↔ n = 0 ∨ 1 ≤ factor ∧ |(n : ℚ)| * (factor - 1) < 1 := by
  rcases lt_trichotomy n 0 with negative | rfl | positive
  · have negativeCast : (n : ℚ) < 0 := by exact_mod_cast negative
    have mirrored := truncateWithin_mul_eq_self_of_pos (Int.neg_neg_iff_pos.mpr highPos)
      (Int.neg_pos.mpr negative) (neg_lt_neg low) factor
    have flipped := truncateWithin_neg (lowNeg.trans highPos) (-(n * factor))
    rw [neg_neg, ← neg_mul] at flipped
    rw [Int.cast_neg] at mirrored
    rw [flipped, neg_eq_iff_eq_neg, mirrored, abs_of_neg negativeCast]
    simp [negative.ne]
  · have zero := truncateWithin_intCast lowNeg.le highPos.le
    simpa using zero
  · have positiveCast : (0 : ℚ) < n := by exact_mod_cast positive
    rw [truncateWithin_mul_eq_self_of_pos lowNeg positive high factor, abs_of_pos positiveCast]
    simp [positive.ne']

end

theorem toInt_add_of_inRange {a b : Int64} (low : -2 ^ 63 ≤ a.toInt + b.toInt)
    (high : a.toInt + b.toInt < 2 ^ 63)
    : (a + b).toInt = a.toInt + b.toInt := by
  rw [Int64.toInt_add]
  exact Int.bmod_eq_of_le (by omega) (by omega)

end HelsterApi.Arithmetic
