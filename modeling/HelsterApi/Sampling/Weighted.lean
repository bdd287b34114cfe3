import Mathlib

/-! Weighted draws and ranks: a draw below the total weight picks each element of a list as
often as its weight says, once for each time it is listed. The elements of a descending list
are ranked by their positions.
-/

namespace HelsterApi.Sampling

open List

variable {α : Type*}

/-- The element a drawn value picks: the weights are taken off it in turn until it falls below zero.
-/
def pick (weight : α → ℤ) : List α → ℤ → Option α
  | [], _ => none
  | a :: rest, r => if r - weight a < 0 then some a else pick weight rest (r - weight a)

/-- A value below the total weight picks an element, by induction on the list. -/
theorem exists_pick {weight} {l : List α} {r} (start : 0 ≤ r) (below : r < (l.map weight).sum)
    : ∃ a ∈ l, pick weight l r = some a := by
  induction l generalizing r with
  | nil =>
    rw [map_nil, sum_nil] at below
    omega
  | cons head rest ih =>
    rw [map_cons, sum_cons] at below
    by_cases falls : r - weight head < 0
    · exact ⟨head, mem_cons_self, if_pos falls⟩
    · obtain ⟨a, member, picked⟩ := ih (r := r - weight head) (by omega) (by omega)
      exact ⟨a, mem_cons_of_mem _ member, (if_neg falls).trans picked⟩

/-- The values below a sum that meet a condition, counted below its first part and from
there on.
-/
theorem card_filter_Ico_add (p : ℤ → Prop) [DecidablePred p] {a b} (first : 0 ≤ a) (second : 0 ≤ b)
    : ((Finset.Ico 0 (a + b)).filter p).card
      = ((Finset.Ico 0 a).filter p).card
        + ((Finset.Ico 0 b).filter fun r => p (a + r)).card := by
  have split : Finset.Ico 0 (a + b) = Finset.Ico 0 a ∪ Finset.Ico a (a + b) :=
    (Finset.Ico_union_Ico_eq_Ico first (by omega)).symm
  have apart : Disjoint ((Finset.Ico 0 a).filter p) ((Finset.Ico a (a + b)).filter p) :=
    Finset.disjoint_filter_filter (Finset.Ico_disjoint_Ico_consecutive 0 a (a + b))
  have shifted : Finset.Ico a (a + b) = (Finset.Ico 0 b).map (addLeftEmbedding a) := by
    rw [Finset.map_add_left_Ico, add_zero]
  rw [split, Finset.filter_union, Finset.card_union_of_disjoint apart, shifted,
    Finset.filter_map, Finset.card_map]
  rfl

/-- Below the total weight an element is picked as often as it weighs, for each time it is listed,
by induction on the list: the values below the weight of the head pick the head, the others what
they pick in the rest less that weight.
-/
theorem card_pick [DecidableEq α] {weight l} (weighs : ∀ a ∈ l, 0 ≤ weight a) (a : α)
    : (((Finset.Ico 0 (l.map weight).sum).filter fun r => pick weight l r = some a).card : ℤ)
      = l.count a * weight a := by
  induction l with
  | nil => simp
  | cons head rest ih =>
    have headWeighs := weighs head mem_cons_self
    have restWeighs : ∀ b ∈ rest, 0 ≤ weight b :=
      fun b member => weighs b (mem_cons_of_mem _ member)
    have total : 0 ≤ (rest.map weight).sum := by
      refine sum_nonneg ?_
      intro value listed
      obtain ⟨b, member, rfl⟩ := mem_map.mp listed
      exact restWeighs b member
    have onHead : (Finset.Ico 0 (weight head)).filter
          (fun r => pick weight (head :: rest) r = some a)
        = if head = a then Finset.Ico 0 (weight head) else ∅ := by
      have picksHead : ∀ r ∈ Finset.Ico 0 (weight head),
          (pick weight (head :: rest) r = some a ↔ head = a) := by
        intro r inside
        rw [Finset.mem_Ico] at inside
        rw [pick, if_pos (by omega), Option.some.injEq]
      rw [Finset.filter_congr picksHead]
      by_cases same : head = a <;> simp [same]
    have onRest : (Finset.Ico 0 (rest.map weight).sum).filter
          (fun r => pick weight (head :: rest) (weight head + r) = some a)
        = (Finset.Ico 0 (rest.map weight).sum).filter
          (fun r => pick weight rest r = some a) := by
      refine Finset.filter_congr ?_
      intro r inside
      rw [Finset.mem_Ico] at inside
      rw [pick, if_neg (by omega), add_sub_cancel_left]
    rw [map_cons, sum_cons, card_filter_Ico_add _ headWeighs total, onHead, onRest,
      Nat.cast_add, ih restWeighs, count_cons]
    by_cases same : head = a
    · subst same
      simp only [if_true, beq_self_eq_true, Int.card_Ico, sub_zero, Nat.cast_add,
        Nat.cast_one, Int.toNat_of_nonneg headWeighs]
      ring
    · simp [same]

/-- `a` is one of the values and as many of them as its rank says are greater. -/
def HasRank [LinearOrder α] (values : Finset α) (rank : ℕ) (a : α) : Prop :=
  a ∈ values ∧ (values.filter (a < ·)).card = rank

/-- The element at a position of a descending list has that rank, by induction on the
list.
-/
theorem hasRank_of_getElem? [LinearOrder α] {l : List α} (descends : l.Pairwise (· > ·))
    {i a} (found : l[i]? = some a)
    : HasRank l.toFinset i a := by
  refine ⟨mem_toFinset.mpr (mem_of_getElem? found), ?_⟩
  induction l generalizing i with
  | nil => simp at found
  | cons head rest ih =>
    obtain ⟨above, descendsOn⟩ := pairwise_cons.mp descends
    cases i with
    | zero =>
      rw [getElem?_cons_zero, Option.some.injEq] at found
      subst found
      rw [Finset.card_eq_zero, Finset.filter_eq_empty_iff]
      intro b member
      rcases mem_cons.mp (mem_toFinset.mp member) with rfl | later
      · exact lt_irrefl _
      · exact (above b later).asymm
    | succ i =>
      rw [getElem?_cons_succ] at found
      have new : head ∉ rest.toFinset.filter (a < ·) := by
        intro member
        have later := mem_toFinset.mp (Finset.mem_filter.mp member).1
        exact lt_irrefl _ (above head later)
      rw [toFinset_cons, Finset.filter_insert, if_pos (above a (mem_of_getElem? found)),
        Finset.card_insert_of_notMem new, ih descendsOn found]

theorem HasRank.unique [LinearOrder α] {values rank} {a b : α}
    (first : HasRank values rank a) (second : HasRank values rank b)
    : a = b := by
  have fewer {a b : α} (first : HasRank values rank a) (second : HasRank values rank b)
      : ¬a < b := by
    intro less
    have grows : values.filter (b < ·) ⊂ values.filter (a < ·) := by
      refine Finset.ssubset_iff_subset_ne.mpr ⟨?_, ?_⟩
      · intro c member
        obtain ⟨listed, above⟩ := Finset.mem_filter.mp member
        exact Finset.mem_filter.mpr ⟨listed, less.trans above⟩
      · intro same
        have listed := Finset.mem_filter.mpr ⟨second.1, less⟩
        rw [← same] at listed
        exact lt_irrefl b (Finset.mem_filter.mp listed).2
    have smaller := Finset.card_lt_card grows
    rw [first.2, second.2] at smaller
    exact lt_irrefl _ smaller
  exact le_antisymm (not_lt.mp (fewer second first)) (not_lt.mp (fewer first second))

end HelsterApi.Sampling
