import HelsterApi.Transition.Machine
import Mathlib.Algebra.Order.BigOperators.Group.List
import Mathlib.Algebra.Order.Group.Defs

/-! Accounts in the abstract: a cell that is decided once, with the effects its decision owes;
stored quantities, whose changes last exactly if the steps store what they intend; a budget spent in
pieces, each checked and taken in one step; and an authorization hold, which ends once.
-/

namespace HelsterApi.Transition

section

open Function List

variable {κ ε : Type*}

/-- A cell: its verdict, the effects still owed and the effects performed, oldest first. -/
structure Cell (κ ε : Type*) where
  verdict : Option κ
  (owed performed : List ε)

inductive Cell.Action (κ ε : Type*) where
  | decide (verdict : κ) (effects : List ε)
  | perform

/-- (Cell.next policy) decides an undecided cell, with effects the policy allows for the
verdict, and performs what is owed all at once.
-/
def Cell.next (policy : κ → List ε → Prop) [∀ v es, Decidable (policy v es)] (c : Cell κ ε)
    : Cell.Action κ ε → Option (Cell κ ε)
  | .decide verdict effects =>
    match c.verdict with
    | none =>
      if policy verdict effects then some { c with verdict := some verdict, owed := effects }
      else none
    | some _ => none
  | .perform => some { c with owed := [], performed := c.performed ++ c.owed }

/-- Cells start undecided, with nothing owed or performed. -/
def Cell.machine (policy : κ → List ε → Prop) [∀ v es, Decidable (policy v es)]
    : Machine (Cell κ ε) (Cell.Action κ ε) where
  initial c := c = ⟨none, [], []⟩
  next := Cell.next policy

/-- An undecided cell has no effects, and those performed and owed together are what the policy
allows for the verdict.
-/
structure Cell.Sound (policy : κ → List ε → Prop) (c : Cell κ ε) : Prop where
  undecided : c.verdict = none → c.owed = [] ∧ c.performed = []
  decided : ∀ v, c.verdict = some v → policy v (c.performed ++ c.owed)

theorem Cell.Sound.short {policy} {c : Cell κ ε} (sound : c.Sound policy)
    (single : ∀ v es, policy v es → es.length ≤ 1)
    : c.performed.length + c.owed.length ≤ 1 := by
  cases decided : c.verdict with
  | none =>
    obtain ⟨owed, performed⟩ := sound.undecided decided
    rw [owed, performed]
    exact Nat.zero_le 1
  | some v =>
    rw [← length_append]
    exact single v _ (sound.decided v decided)

section

variable {policy : κ → List ε → Prop} [∀ v es, Decidable (policy v es)] {c c' : Cell κ ε}

namespace Cell

theorem next_cases {action} (moved : c.next policy action = some c')
    : (∃ v es, c.verdict = none ∧ policy v es
        ∧ c' = { c with verdict := some v, owed := es })
      ∨ c' = { c with owed := [], performed := c.performed ++ c.owed } := by
  cases action with
  | decide v es =>
    left
    simp only [next] at moved
    split at moved
    next undecided =>
      split at moved
      next allowed => exact ⟨v, es, undecided, allowed, (Option.some.inj moved).symm⟩
      · cases moved
    · cases moved
  | perform => exact .inr (Option.some.inj moved).symm

variable {v : κ}

theorem leads_decide {es} (undecided : c.verdict = none) (allowed : policy v es)
    : (machine policy).Leads anyStep c { c with verdict := some v, owed := es } := by
  refine Machine.Leads.single (a := .decide v es) trivial ?_
  simp only [machine, next, undecided, if_pos allowed]

theorem leads_perform (c : Cell κ ε)
    : (machine policy).Leads anyStep c
        { c with owed := [], performed := c.performed ++ c.owed } :=
  Machine.Leads.single (a := .perform) trivial rfl

/-- A cell without debts follows a verdict that stays, with its effects, or is given once, with
effects the policy allows.
-/
theorem follows {verdict performed} (owed : c.owed = [])
    (moves : (verdict = c.verdict ∧ performed = c.performed)
      ∨ (c.verdict = none ∧ ∃ v es, verdict = some v ∧ policy v es
        ∧ performed = c.performed ++ es))
    : (machine policy).Leads anyStep c ⟨verdict, [], performed⟩ := by
  rcases moves with ⟨rfl, rfl⟩ | ⟨undecided, v, es, rfl, allowed, rfl⟩
  · rw [← owed]
    exact .refl
  · exact (leads_decide undecided allowed).trans (leads_perform _)

/-- Every reachable cell is sound, by induction on the run. -/
theorem sound_of_reaches (reached : (machine policy).Reaches anyStep c) : c.Sound policy := by
  refine reached.invariant (Sound policy) ?_ ?_
  · rintro _ rfl
    exact ⟨fun _ => ⟨rfl, rfl⟩, fun v decided => by cases decided⟩
  · intro c action c' _ sound _ moved
    rcases next_cases moved with ⟨v, es, undecided, allowed, rfl⟩ | rfl
    · refine ⟨fun none_ => (by cases none_), ?_⟩
      rintro _ ⟨⟩
      simpa only [(sound.undecided undecided).2, nil_append] using allowed
    · refine ⟨fun undecided => ?_, fun v decided => ?_⟩
      · obtain ⟨owed, performed⟩ := sound.undecided undecided
        simp [owed, performed]
      · simpa only [append_nil] using sound.decided v decided

theorem verdict_stable (led : (machine policy).Leads anyStep c c') (decided : c.verdict = some v)
    : c'.verdict = some v := by
  induction led with
  | refl => exact decided
  | step _ _ moved ih =>
    rcases next_cases moved with ⟨_, _, undecided, _, rfl⟩ | rfl
    · simp [ih] at undecided
    · exact ih

end Cell

end

section

variable {ι : Type*} [DecidableEq ι] {owed : List (ι × ε)} {dues : ι → List ε} {i : ι}

/-- A list of tagged effects is what the owners have due, each its own part in order. -/
def Owes (owed : List (ι × ε)) (dues : ι → List ε) : Prop :=
  ∀ i, (dues i).map (Prod.mk i) = owed.filter (·.1 = i)

/-- Nothing is owed exactly if nobody has anything due. -/
theorem owes_nil_iff : Owes [] dues ↔ ∀ i, dues i = [] := by
  simp [Owes]

theorem Owes.eq_nil (owes : Owes owed dues) (nothing : ∀ i, dues i = []) : owed = [] := by
  refine eq_nil_iff_forall_not_mem.mpr fun effect member => ?_
  have part := owes effect.1
  rw [nothing, map_nil, eq_comm, filter_eq_nil_iff] at part
  exact part effect member (decide_eq_true rfl)

theorem Owes.assign (nothing : Owes [] dues) (i : ι) (effects : List ε)
    : Owes (effects.map (Prod.mk i)) (update dues i effects) := by
  intro j
  by_cases same : j = i
  · subst same
    rw [update_self, filter_eq_self.mpr]
    intro effect member
    obtain ⟨e, _, rfl⟩ := mem_map.mp member
    exact decide_eq_true rfl
  · rw [update_of_ne same, owes_nil_iff.mp nothing j, map_nil, eq_comm, filter_eq_nil_iff]
    intro effect member tagged
    obtain ⟨e, _, rfl⟩ := mem_map.mp member
    exact same (of_decide_eq_true tagged).symm

variable {effect : ε} {rest : List ε}

theorem Owes.single (owes : Owes owed dues) (short : owed.length ≤ 1)
    (due : dues i = effect :: rest)
    : owed = [(i, effect)] ∧ rest = [] := by
  have part := owes i
  rw [due, map_cons] at part
  match owed, short with
  | [], _ => cases part
  | [tagged], _ =>
    rw [filter_singleton, Bool.cond_decide] at part
    split at part
    · simp only [cons.injEq, map_eq_nil_iff] at part
      exact ⟨by rw [part.1], part.2⟩
    · cases part

theorem Owes.clear (owes : Owes owed dues) (short : owed.length ≤ 1) (due : dues i = effect :: rest)
    : Owes [] (update dues i rest) := by
  obtain ⟨rfl, rfl⟩ := owes.single short due
  refine owes_nil_iff.mpr fun j => ?_
  by_cases same : j = i
  · rw [same, update_self]
  · have part := owes j
    rw [update_of_ne same]
    rwa [filter_singleton, Bool.cond_decide, if_neg (Ne.symm same), map_eq_nil_iff] at part

end

end

variable {σ M : Type*}

/-- An intended change of a quantity: by a delta, or to a new value. -/
inductive Change (M : Type*) where
  | add (delta : M)
  | set (value : M)

/-- The value that changes amount to, latest first: the value set last and every delta
since.
-/
def due [Add M] [Zero M] : List (Change M) → M
  | [] => 0
  | .add delta :: rest => due rest + delta
  | .set value :: _ => value

/-- A quantity stored in the states of a machine, with the changes intended so far. -/
structure Stored (σ M : Type*) where
  value : σ → M
  changes : σ → List (Change M)

section

variable [Add M] [Zero M] {q : Stored σ M} {s s' : σ}

/-- The stored value is what the intended changes amount to. -/
def Stored.Reflects (q : Stored σ M) (s : σ) : Prop := q.value s = due (q.changes s)

instance [DecidableEq M] (q : Stored σ M) (s : σ) : Decidable (q.Reflects s) :=
  inferInstanceAs (Decidable (_ = _))

theorem Stored.Reflects.add (reflects : q.Reflects s) {delta}
    (value : q.value s' = q.value s + delta) (changes : q.changes s' = .add delta :: q.changes s)
    : q.Reflects s' := by
  unfold Stored.Reflects at reflects ⊢
  rw [value, changes, due, reflects]

theorem Stored.reflects_of_set {value} (stored : q.value s' = value)
    (changes : q.changes s' = .set value :: q.changes s)
    : q.Reflects s' := by
  unfold Stored.Reflects
  rw [stored, changes, due]

/-- A step that intends no change keeps those before it exactly if it keeps the value. -/
theorem Stored.Reflects.iff_kept (reflects : q.Reflects s) (changes : q.changes s' = q.changes s)
    : q.Reflects s' ↔ q.value s' = q.value s := by
  unfold Stored.Reflects at reflects ⊢
  rw [changes, reflects]

end

variable {A : Type*}

/-- A budget: what was granted, what is left and the pieces spent, latest first. -/
structure Budget (A : Type*) where
  (granted left : A)
  spent : List A

section

variable [AddCommGroup A] [LinearOrder A]

namespace Budget

def next (b : Budget A) (piece : A) : Option (Budget A) :=
  if 0 ≤ piece ∧ piece ≤ b.left then
    some { b with left := b.left - piece, spent := piece :: b.spent }
  else none

def machine (A : Type*) [AddCommGroup A] [LinearOrder A] : Machine (Budget A) A where
  initial b := b.left = b.granted ∧ b.spent = []
  next := next

variable {b : Budget A}

theorem leads_spend {piece} (nonneg : 0 ≤ piece) (available : piece ≤ b.left)
    : (machine A).Leads anyStep b
        { b with left := b.left - piece, spent := piece :: b.spent } :=
  Machine.Leads.single (a := piece) trivial (if_pos ⟨nonneg, available⟩)

/-- The books of a budget agree and nothing was spent beyond it. -/
structure Kept (b : Budget A) : Prop where
  balanced : b.left + b.spent.sum = b.granted
  within : b.spent = [] ∨ 0 ≤ b.left

variable [IsOrderedAddMonoid A]

end Budget

end

inductive Hold.Phase (A : Type*) where
  | held (reserved : A)
  | captured (amount : A)
  | released

/-- A hold together with the amount taken so far. -/
structure Hold (A : Type*) where
  phase : Hold.Phase A
  taken : A

inductive Hold.Action (A : Type*) where
  | reserve (more : A)
  | capture (amount : A)
  | release

section

variable [AddCommGroup A]

namespace Hold

def Phase.charge : Phase A → A
  | .held reserved => reserved
  | .captured amount => amount
  | .released => 0

/-- Only an open hold moves; ending it corrects the amount taken by the difference. -/
def next (h : Hold A) (action : Action A) : Option (Hold A) :=
  match h.phase, action with
  | .held reserved, .reserve more => some ⟨.held (reserved + more), h.taken + more⟩
  | .held reserved, .capture amount => some ⟨.captured amount, h.taken + (amount - reserved)⟩
  | .held reserved, .release => some ⟨.released, h.taken - reserved⟩
  | _, _ => none

/-- Holds start open, with the reserved amount taken. -/
def machine (A : Type*) [AddCommGroup A] : Machine (Hold A) (Action A) where
  initial h := ∃ reserved, h = ⟨.held reserved, reserved⟩
  next := next

variable {h : Hold A}

theorem next_cases {h' action} (moved : h.next action = some h')
    : ∃ reserved, h.phase = .held reserved
      ∧ ((∃ more, h' = ⟨.held (reserved + more), h.taken + more⟩)
        ∨ (∃ amount, h' = ⟨.captured amount, h.taken + (amount - reserved)⟩)
        ∨ h' = ⟨.released, h.taken - reserved⟩) := by
  obtain ⟨phase, taken⟩ := h
  cases phase with
  | held reserved =>
    refine ⟨reserved, rfl, ?_⟩
    cases action with
    | reserve more => exact .inl ⟨more, (Option.some.inj moved).symm⟩
    | capture amount => exact .inr (.inl ⟨amount, (Option.some.inj moved).symm⟩)
    | release => exact .inr (.inr (Option.some.inj moved).symm)
  | captured | released => cases action <;> cases moved

variable {reserved : A}

section

variable (open_ : h.phase = .held reserved)

include open_

theorem leads_reserve (more)
    : (machine A).Leads anyStep h ⟨.held (reserved + more), h.taken + more⟩ := by
  refine Machine.Leads.single (a := .reserve more) trivial ?_
  simp only [machine, next, open_]

theorem leads_capture (amount)
    : (machine A).Leads anyStep h ⟨.captured amount, h.taken + (amount - reserved)⟩ := by
  refine Machine.Leads.single (a := .capture amount) trivial ?_
  simp only [machine, next, open_]

theorem leads_release : (machine A).Leads anyStep h ⟨.released, h.taken - reserved⟩ := by
  refine Machine.Leads.single (a := .release) trivial ?_
  simp only [machine, next, open_]

end

theorem taken_eq_charge (reached : (machine A).Reaches anyStep h) : h.taken = h.phase.charge := by
  refine reached.invariant (fun h => h.taken = h.phase.charge) ?_ ?_
  · rintro _ ⟨reserved, rfl⟩
    rfl
  · intro h action h' _ balanced _ moved
    obtain ⟨reserved, open_, ended⟩ := next_cases moved
    rw [open_] at balanced
    simp only [Phase.charge] at balanced
    rcases ended with ⟨more, rfl⟩ | ⟨amount, rfl⟩ | rfl
    · simp only [Phase.charge, balanced]
    · simp only [Phase.charge, balanced, add_sub_cancel]
    · simp only [Phase.charge, balanced, sub_self]

end Hold

end

end HelsterApi.Transition
