import Mathlib.Data.List.Basic
import Mathlib.Data.List.Pairwise

/-! Tables with unique keys. A table cannot be built with two rows that clash, so an insert that
would violate a key is refused, and an update carries the reason why it violates none. The key is a
single one, or a primary key beside a unique index.
-/

namespace HelsterApi.Relational

section

open List

variable {ρ : Type*} {clash : ρ → ρ → Prop}

structure Table (ρ : Type*) (clash : ρ → ρ → Prop) where
  rows : List ρ
  distinct : rows.Pairwise fun a b => ¬clash a b

def Table.empty : Table ρ clash := ⟨[], .nil⟩

def written (selects : ρ → Bool) (set : ρ → ρ) (row : ρ) : ρ :=
  if selects row then set row else row

/-- An update makes no two rows clash that did not before. -/
def Separates (clash : ρ → ρ → Prop) (selects : ρ → Bool) (set : ρ → ρ) : Prop :=
  ∀ a b, clash (written selects set a) (written selects set b) → clash a b

namespace Table

/-- Appending a row; `none` if it clashes with another. -/
def insert [∀ a b, Decidable (clash a b)] (t : Table ρ clash) (row : ρ) : Option (Table ρ clash) :=
  if fresh : ∀ a ∈ t.rows, ¬clash a row then
    some ⟨t.rows ++ [row], pairwise_append.mpr
      ⟨t.distinct, pairwise_singleton _ row, fun a member _ only =>
        mem_singleton.mp only ▸ fresh a member⟩⟩
  else none

def update (t : Table ρ clash) (selects : ρ → Bool) (set : ρ → ρ)
    (separates : Separates clash selects set)
    : Table ρ clash :=
  ⟨t.rows.map (written selects set), pairwise_map.mpr
    (t.distinct.imp fun apart clashes => apart (separates _ _ clashes))⟩

/-- Writing the rows that are selected; `none` if that would violate a key. -/
def tryUpdate [∀ a b, Decidable (clash a b)] (t : Table ρ clash) (selects : ρ → Bool) (set : ρ → ρ)
    : Option (Table ρ clash) :=
  if distinct : (t.rows.map (written selects set)).Pairwise fun a b => ¬clash a b then
    some ⟨t.rows.map (written selects set), distinct⟩
  else none

def affects (t : Table ρ clash) (selects : ρ → Bool) : Bool := t.rows.any selects

def delete (t : Table ρ clash) (selects : ρ → Bool) : Table ρ clash :=
  ⟨t.rows.filter (!selects ·), t.distinct.filter _⟩

variable {t t' : Table ρ clash} {row : ρ}

theorem insert_eq_some [∀ a b, Decidable (clash a b)] (inserted : t.insert row = some t')
    : t'.rows = t.rows ++ [row] := by
  unfold insert at inserted
  split at inserted <;> cases inserted
  rfl

theorem not_clash_of_insert [∀ a b, Decidable (clash a b)] {a}
    (inserted : t.insert row = some t') (member : a ∈ t.rows)
    : ¬clash a row := by
  unfold insert at inserted
  split at inserted
  next fresh => exact fresh a member
  · cases inserted

variable {selects : ρ → Bool} {set : ρ → ρ}

theorem tryUpdate_eq_some [∀ a b, Decidable (clash a b)]
    (updated : t.tryUpdate selects set = some t')
    : t'.rows = t.rows.map (written selects set) := by
  unfold tryUpdate at updated
  split at updated <;> cases updated
  rfl

theorem tryUpdate_of_separates [∀ a b, Decidable (clash a b)]
    (separates : ∀ a ∈ t.rows, ∀ b ∈ t.rows,
      clash (written selects set a) (written selects set b) → clash a b)
    : ∃ t', t.tryUpdate selects set = some t' := by
  unfold tryUpdate
  rw [dif_pos]
  · exact ⟨_, rfl⟩
  · refine pairwise_map.mpr (t.distinct.imp_of_mem ?_)
    intro a b left right apart clashes
    exact apart (separates a left b right clashes)

theorem mem_update {separates}
    : row ∈ (t.update selects set separates).rows
      ↔ ∃ a ∈ t.rows, written selects set a = row := mem_map

theorem mem_update_of_not_selected {separates} (member : row ∈ t.rows)
    (skipped : selects row = false)
    : row ∈ (t.update selects set separates).rows :=
  mem_update.mpr ⟨row, member, by simp [written, skipped]⟩

theorem mem_delete : row ∈ (t.delete selects).rows ↔ row ∈ t.rows ∧ selects row = false := by
  simp [delete]

theorem eq_of_clash [symmetric : Std.Symm clash] {a b} (left : a ∈ t.rows) (right : b ∈ t.rows)
    (clashes : clash a b)
    : a = b := by
  have : Std.Symm fun a b => ¬clash a b :=
    ⟨fun a b apart turned => apart (symmetric.symm b a turned)⟩
  by_contra different
  exact t.distinct.forall left right different clashes

theorem find?_eq_some [Std.Symm clash] (clashes : ∀ a b, selects a → selects b → clash a b)
    : t.rows.find? selects = some row ↔ row ∈ t.rows ∧ selects row = true := by
  have spec {row : ρ} (found : t.rows.find? selects = some row)
      : row ∈ t.rows ∧ selects row = true := ⟨mem_of_find?_eq_some found, find?_some found⟩
  refine ⟨spec, fun ⟨member, selected⟩ => ?_⟩
  cases found : t.rows.find? selects with
  | none => exact absurd selected (find?_eq_none.mp found row member)
  | some other =>
    obtain ⟨otherMember, otherSelected⟩ := spec found
    rw [eq_of_clash otherMember member (clashes other row otherSelected selected)]

theorem length_filter_le_one
    (clashes : ∀ a ∈ t.rows, ∀ b ∈ t.rows, selects a → selects b → clash a b)
    : (t.rows.filter selects).length ≤ 1 := by
  have apart := t.distinct.filter selects
  have members : ∀ a ∈ t.rows.filter selects, a ∈ t.rows ∧ selects a := by
    intro a member
    exact mem_filter.mp member
  match found : t.rows.filter selects with
  | [] => exact Nat.zero_le 1
  | [_] => exact Nat.le_refl 1
  | a :: b :: rest =>
    rw [found] at apart members
    have first := members a (by simp)
    have second := members b (by simp)
    exact absurd (clashes a first.1 b second.1 first.2 second.2)
      ((pairwise_cons.mp apart).1 b (by simp))

end Table

end

section

open Table List

variable {ρ κ : Type*} {key : ρ → κ}

/-- A table whose rows are told apart by `key`. -/
abbrev Keyed (key : ρ → κ) : Type _ := Table ρ fun a b => key a = key b

instance symmKey : Std.Symm fun a b : ρ => key a = key b := ⟨fun _ _ same => same.symm⟩

namespace Keyed

theorem separates_of_key {selects set} (keeps : ∀ row, selects row → key (set row) = key row)
    : Separates (fun a b => key a = key b) selects set := by
  have writtenKey : ∀ row, key (written selects set row) = key row := by
    intro row
    unfold written
    split
    next selected => exact keeps row selected
    · rfl
  intro a b same
  rwa [writtenKey, writtenKey] at same

variable {t : Keyed key} {a : ρ}

theorem eq_of_key {b} (left : a ∈ t.rows) (right : b ∈ t.rows) (same : key a = key b) : a = b :=
  eq_of_clash left right same

variable [DecidableEq κ]

def get? (t : Keyed key) (k : κ) : Option ρ := t.rows.find? fun row => decide (key row = k)

/-- Writing `row` over the row that has its key. -/
def save (t : Keyed key) (row : ρ) : Keyed key :=
  t.update (fun a => decide (key a = key row)) (fun _ => row)
    (separates_of_key fun _ selected => (of_decide_eq_true selected).symm)

def erase (t : Keyed key) (k : κ) : Keyed key := t.delete fun a => decide (key a = k)

variable {k : κ} {row : ρ}

theorem get?_eq_some : t.get? k = some row ↔ row ∈ t.rows ∧ key row = k := by
  rw [get?, find?_eq_some, decide_eq_true_iff]
  intro a b left right
  exact (of_decide_eq_true left).trans (of_decide_eq_true right).symm

theorem mem_save
    : a ∈ (t.save row).rows
      ↔ (a = row ∧ ∃ b ∈ t.rows, key b = key row) ∨ (a ∈ t.rows ∧ key a ≠ key row) := by
  rw [save, mem_update]
  constructor
  · rintro ⟨b, member, same⟩
    unfold written at same
    split at same
    next selected => exact .inl ⟨same.symm, b, member, of_decide_eq_true selected⟩
    next skipped =>
      subst same
      exact .inr ⟨member, by simpa using skipped⟩
  · rintro (⟨rfl, b, member, same⟩ | ⟨member, different⟩)
    · exact ⟨b, member, by simp [written, same]⟩
    · exact ⟨a, member, by simp [written, different]⟩

theorem forall_mem_save {P : ρ → Prop} (before : ∀ a ∈ t.rows, P a) (saved : P row)
    : ∀ a ∈ (t.save row).rows, P a := by
  intro a member
  rcases mem_save.mp member with ⟨rfl, _⟩ | ⟨old, _⟩
  · exact saved
  · exact before a old

theorem get?_save_self {old} (found : t.get? (key row) = some old)
    : (t.save row).get? (key row) = some row := by
  have ⟨member, same⟩ := get?_eq_some.mp found
  exact get?_eq_some.mpr ⟨mem_save.mpr (.inl ⟨rfl, old, member, same⟩), rfl⟩

theorem save_eq_self (found : t.get? (key row) = some row) : t.save row = t := by
  have unchanged : t.rows.map (written (fun a => decide (key a = key row)) fun _ => row)
      = t.rows := by
    refine (map_congr_left fun a member => ?_).trans (map_id t.rows)
    unfold written
    split
    next same => exact eq_of_key (get?_eq_some.mp found).1 member (of_decide_eq_true same).symm
    · rfl
  obtain ⟨rows, distinct⟩ := t
  unfold save update
  congr 1

theorem get?_save_of_ne (other : k ≠ key row) : (t.save row).get? k = t.get? k := by
  refine Option.ext fun a => ?_
  simp only [get?_eq_some, mem_save]
  constructor
  · rintro ⟨⟨rfl, _⟩ | ⟨member, _⟩, same⟩
    · exact absurd same.symm other
    · exact ⟨member, same⟩
  · rintro ⟨member, same⟩
    exact ⟨.inr ⟨member, same ▸ other⟩, same⟩

theorem mem_erase : a ∈ (t.erase k).rows ↔ a ∈ t.rows ∧ key a ≠ k := by
  rw [erase, mem_delete, decide_eq_false_iff_not]

variable {t' : Keyed key}

variable (inserted : t.insert row = some t')

include inserted

theorem get?_insert_self : t'.get? (key row) = some row :=
  get?_eq_some.mpr ⟨by simp [insert_eq_some inserted], rfl⟩

theorem get?_insert_of_ne (other : k ≠ key row) : t'.get? k = t.get? k := by
  refine Option.ext fun a => ?_
  simp only [get?_eq_some, insert_eq_some inserted, mem_append, mem_singleton]
  constructor
  · rintro ⟨member | rfl, same⟩
    · exact ⟨member, same⟩
    · exact absurd same.symm other
  · rintro ⟨member, same⟩
    exact ⟨.inl member, same⟩

omit inserted in
/-- An insert fails exactly if the key is taken. -/
theorem insert_eq_none : t.insert row = none ↔ ∃ old, t.get? (key row) = some old := by
  unfold Table.insert
  split
  next fresh =>
    simp only [reduceCtorEq, false_iff, not_exists]
    intro old found
    obtain ⟨member, same⟩ := get?_eq_some.mp found
    exact fresh old member same
  next taken =>
    push Not at taken
    obtain ⟨old, member, same⟩ := taken
    exact iff_of_true rfl ⟨old, get?_eq_some.mpr ⟨member, same⟩⟩

theorem get?_of_insert : t.get? (key row) = none := by
  cases found : t.get? (key row) with
  | none => rfl
  | some old => simp [insert_eq_none.mpr ⟨old, found⟩] at inserted

theorem get?_insert_of_some {old} (found : t.get? k = some old) : t'.get? k = some old := by
  have other : k ≠ key row := by
    rintro rfl
    simp [get?_of_insert inserted] at found
  rwa [get?_insert_of_ne inserted other]

end Keyed

end

variable {ρ κ κ' : Type*} {first : ρ → κ} {second : ρ → κ'}

/-- Two rows share one of two keys. -/
def EitherKey (first : ρ → κ) (second : ρ → κ') (a b : ρ) : Prop :=
  first a = first b ∨ second a = second b

instance decidableEitherKey [DecidableEq κ] [DecidableEq κ']
    : ∀ a b : ρ, Decidable (EitherKey first second a b) :=
  fun _ _ => inferInstanceAs (Decidable (_ ∨ _))

instance symmEitherKey : Std.Symm (EitherKey first second) :=
  ⟨fun _ _ clashes => clashes.imp Eq.symm Eq.symm⟩

/-- A table whose rows are told apart by each of two keys. -/
abbrev TwoKeyed (first : ρ → κ) (second : ρ → κ') : Type _ := Table ρ (EitherKey first second)

namespace TwoKeyed

variable {selects : ρ → Bool} {set : ρ → ρ}

/-- What an update makes of a row has its keys, if the update keeps the keys of the rows it
selects.
-/
theorem keys_written {row}
    (keeps : selects row → first (set row) = first row ∧ second (set row) = second row)
    : first (written selects set row) = first row
      ∧ second (written selects set row) = second row := by
  unfold written
  split
  next selected => exact keeps selected
  · exact ⟨rfl, rfl⟩

theorem separates_of_keys
    (keeps : ∀ row, selects row → first (set row) = first row ∧ second (set row) = second row)
    : Separates (EitherKey first second) selects set := by
  intro a b clashes
  have left := keys_written (keeps a)
  have right := keys_written (keeps b)
  unfold EitherKey at clashes
  rwa [left.1, left.2, right.1, right.2] at clashes

variable {t : TwoKeyed first second} {a b : ρ}

theorem eq_of_first (left : a ∈ t.rows) (right : b ∈ t.rows) (same : first a = first b) : a = b :=
  Table.eq_of_clash left right (.inl same)

end TwoKeyed

end HelsterApi.Relational
