import Mathlib.Data.Fintype.BigOperators

/-! Labelled machines with an executable, partial step function. Runs are restricted by a condition
on each step, so a safety result can say which steps it excludes. A measure that each step changes
by a known gain changes over a run by the sum of the gains.
-/

namespace HelsterApi.Transition

section

variable {σ τ α β : Type*}

/-- A machine: its initial states and what each action makes of a state, `none` where it is not
enabled.
-/
structure Machine (σ α : Type*) where
  initial : σ → Prop
  next : σ → α → Option σ

def anyStep (_ : σ) (_ : α) : Prop :=
  True
  deriving Decidable

namespace Machine

/-- (m.Reaches ok s) holds of the states of runs from an initial state whose steps all
meet `ok`.
-/
inductive Reaches (m : Machine σ α) (ok : σ → α → Prop) : σ → Prop where
  | initial {s : σ} (start : m.initial s)
    : m.Reaches ok s
  | step {s s' : σ} {a : α} (reached : m.Reaches ok s) (allowed : ok s a)
      (moved : m.next s a = some s')
    : m.Reaches ok s'

/-- (m.Leads ok s s') connects two states by a run whose steps all meet `ok`. -/
inductive Leads (m : Machine σ α) (ok : σ → α → Prop) (s : σ) : σ → Prop where
  | refl
    : m.Leads ok s s
  | step {s' s'' : σ} {a : α} (led : m.Leads ok s s') (allowed : ok s' a)
      (moved : m.next s' a = some s'')
    : m.Leads ok s s''

/-- The state after a list of actions; one that is not enabled changes nothing. -/
def play (m : Machine σ α) : σ → List α → σ
  | s, [] => s
  | s, a :: rest => m.play ((m.next s a).getD s) rest

/-- Each of the actions is enabled in its turn and meets `ok`. -/
def Plays (m : Machine σ α) (ok : σ → α → Prop) : σ → List α → Prop
  | _, [] => True
  | s, a :: rest => ok s a ∧ (m.next s a).isSome ∧ m.Plays ok ((m.next s a).getD s) rest

instance decidablePlays (m : Machine σ α) (ok : σ → α → Prop) [∀ s a, Decidable (ok s a)]
    : ∀ s actions, Decidable (m.Plays ok s actions)
  | _, [] => .isTrue trivial
  | s, a :: rest =>
    have := m.decidablePlays ok ((m.next s a).getD s) rest
    inferInstanceAs (Decidable (_ ∧ _ ∧ _))

variable {m : Machine σ α} {ok : σ → α → Prop} {s : σ} {actions : List α}

/-- Actions that meet a condition meet each weaker one, by induction on their list. -/
theorem Plays.imp {weaker} (implies : ∀ s a, ok s a → weaker s a) (plays : m.Plays ok s actions)
    : m.Plays weaker s actions := by
  induction actions generalizing s with
  | nil => trivial
  | cons a rest ih => exact ⟨implies s a plays.1, plays.2.1, ih plays.2.2⟩

/-- A property of initial states that allowed steps from reachable states preserve holds of every
reachable state.
-/
theorem Reaches.invariant (reached : m.Reaches ok s) (inv : σ → Prop)
    (start : ∀ {s}, m.initial s → inv s)
    (preserved : ∀ {s a s'}, m.Reaches ok s → inv s → ok s a → m.next s a = some s'
      → inv s')
    : inv s := by
  induction reached with
  | initial begun => exact start begun
  | step reached allowed moved ih => exact preserved reached ih allowed moved

/-- `good` holds in every state of a run whose steps all meet `ok`, and from a good state of any run
a step leads to a good state only if it meets `ok`.
-/
structure KeepsExactly (m : Machine σ α) (ok : σ → α → Prop) (good : σ → Prop) : Prop where
  safe : ∀ s, m.Reaches ok s → good s
  tight : ∀ s a s', m.Reaches anyStep s → good s → m.next s a = some s'
    → (good s' ↔ ok s a)

theorem Reaches.any (reached : m.Reaches ok s) : m.Reaches anyStep s := by
  induction reached with
  | initial start => exact .initial start
  | step _ _ moved ih => exact .step ih trivial moved

/-- The condition of a step is exact if the machine starts in good states and each step from one
keeps to them exactly if it meets it.
-/
theorem keepsExactly_of_step {good} (start : ∀ s, m.initial s → good s)
    (tight : ∀ s a s', m.Reaches anyStep s → good s → m.next s a = some s'
      → (good s' ↔ ok s a))
    : m.KeepsExactly ok good := by
  refine ⟨fun s reached => ?_, tight⟩
  refine reached.invariant good (fun {s} => start s) ?_
  intro s a s' earlier holds allowed moved
  exact (tight s a s' earlier.any holds moved).mpr allowed

variable {s' : σ}

/-- A continuation of a run is a run, by induction on the continuation. -/
theorem Leads.reaches (led : m.Leads ok s s') (reached : m.Reaches ok s) : m.Reaches ok s' := by
  induction led with
  | refl => exact reached
  | step _ allowed moved ih => exact .step ih allowed moved

/-- Continuations compose, by induction on the second one. -/
theorem Leads.trans {s''} (first : m.Leads ok s s') (second : m.Leads ok s' s'')
    : m.Leads ok s s'' := by
  induction second with
  | refl => exact first
  | step _ allowed moved ih => exact .step ih allowed moved

theorem Leads.single {a} (allowed : ok s a) (moved : m.next s a = some s') : m.Leads ok s s' :=
  .step .refl allowed moved

/-- A property that allowed steps preserve holds along a continuation once it holds, by induction on
it.
-/
theorem Leads.preserves (led : m.Leads ok s s') (P : σ → Prop) (start : P s)
    (preserved : ∀ {s a s'}, P s → ok s a → m.next s a = some s' → P s')
    : P s' := by
  induction led with
  | refl => exact start
  | step _ allowed moved ih => exact preserved ih allowed moved

/-- Actions that are enabled and allowed lead to the state they play to, by induction on
their list.
-/
theorem leads_play (plays : m.Plays ok s actions) : m.Leads ok s (m.play s actions) := by
  induction actions generalizing s with
  | nil => exact .refl
  | cons a rest ih =>
    obtain ⟨allowed, enabled, onwards⟩ := plays
    have moved : m.next s a = some ((m.next s a).getD s) := by
      rw [Option.getD_of_ne_none (Option.isSome_iff_ne_none.mp enabled)]
    exact (Leads.single allowed moved).trans (ih onwards)

theorem reaches_play (start : m.initial s) (plays : m.Plays ok s actions)
    : m.Reaches ok (m.play s actions) := (leads_play plays).reaches (.initial start)

/-- Relates the runs of `m` whose steps meet `ok` to runs of the more abstract `n`: related states
stay related, and one step of `m` may be any number of steps of `n`.
-/
structure Simulates (m : Machine σ α) (ok : σ → α → Prop) (n : Machine τ β) (R : σ → τ → Prop)
    : Prop where
  initial : ∀ {s}, m.initial s → ∃ t, n.initial t ∧ R s t
  step : ∀ {s a s' t}, n.Reaches anyStep t → R s t → ok s a → m.next s a = some s'
    → ∃ t', n.Leads anyStep t t' ∧ R s' t'

/-- Every reachable state is related to a reachable abstract state, by induction on the
run.
-/
theorem Simulates.reaches {n : Machine τ β} {R : σ → τ → Prop}
    (simulation : m.Simulates ok n R) (reached : m.Reaches ok s)
    : ∃ t, n.Reaches anyStep t ∧ R s t := by
  induction reached with
  | initial begun =>
    obtain ⟨t, start, related⟩ := simulation.initial begun
    exact ⟨t, .initial start, related⟩
  | step _ allowed moved ih =>
    obtain ⟨t, reachedAbstract, related⟩ := ih
    obtain ⟨t', led, related'⟩ := simulation.step reachedAbstract related allowed moved
    exact ⟨t', led.reaches reachedAbstract, related'⟩

/-- Every continuation is matched by an abstract continuation, by induction on it. -/
theorem Simulates.leads {n : Machine τ β} {R : σ → τ → Prop} (simulation : m.Simulates ok n R)
    {t : τ} (reached : n.Reaches anyStep t) (related : R s t) (led : m.Leads ok s s')
    : ∃ t', n.Leads anyStep t t' ∧ R s' t' := by
  induction led with
  | refl => exact ⟨t, .refl, related⟩
  | step _ allowed moved ih =>
    obtain ⟨middle, led, relatedMiddle⟩ := ih
    obtain ⟨t', ledOn, related'⟩ :=
      simulation.step (led.reaches reached) relatedMiddle allowed moved
    exact ⟨t', led.trans ledOn, related'⟩

end Machine

end

open Function List

variable {σ α A : Type*}

/-- The gains of a list of actions, summed up along the states they lead through. -/
def Machine.total [AddMonoid A] (m : Machine σ α) (gain : σ → α → A) : σ → List α → A
  | _, [] => 0
  | s, a :: rest => gain s a + m.total gain ((m.next s a).getD s) rest

/-- Each allowed step adds its gain to the measure. -/
def Machine.Tallies [Add A] (m : Machine σ α) (ok : σ → α → Prop) (measure : σ → A)
    (gain : σ → α → A)
    : Prop := ∀ s a s', ok s a → m.next s a = some s' → measure s' = measure s + gain s a

section

variable [AddCommMonoid A] {m : Machine σ α} {ok : σ → α → Prop}

variable {gain : σ → α → A} {s : σ} {actions : List α}

/-- A run adds the sum of its gains to the measure, by induction on its actions. -/
theorem Machine.Tallies.play {measure} (tallies : m.Tallies ok measure gain)
    (plays : m.Plays ok s actions)
    : measure (m.play s actions) = measure s + m.total gain s actions := by
  induction actions generalizing s with
  | nil => exact (add_zero _).symm
  | cons a rest ih =>
    obtain ⟨allowed, enabled, onwards⟩ := plays
    obtain ⟨s', moved⟩ := Option.isSome_iff_exists.mp enabled
    simp only [play, total, moved, Option.getD_some] at onwards ⊢
    rw [ih onwards, tallies s a s' allowed moved, add_assoc]

theorem Machine.total_eq_sum (amount : α → A) (s : σ) (actions : List α)
    : m.total (fun _ a => amount a) s actions = (actions.map amount).sum := by
  induction actions generalizing s with
  | nil => rfl
  | cons a rest ih => simp [total, ih]

theorem Machine.total_eq_zero (none : ∀ s a, ok s a → gain s a = 0) (plays : m.Plays ok s actions)
    : m.total gain s actions = 0 := by
  induction actions generalizing s with
  | nil => rfl
  | cons a rest ih =>
    obtain ⟨allowed, _, onwards⟩ := plays
    simp only [total, none s a allowed, ih onwards, add_zero]

end

theorem Machine.total_sub [AddCommGroup A] {m : Machine σ α} (gain loss : σ → α → A) (s : σ)
    (actions : List α)
    : m.total (fun s a => gain s a - loss s a) s actions
      = m.total gain s actions - m.total loss s actions := by
  induction actions generalizing s with
  | nil => exact (sub_zero _).symm
  | cons a rest ih => simp only [total, ih, add_sub_add_comm]

theorem sum_update_share {ι τ : Type*} [Fintype ι] [DecidableEq ι] [AddCommMonoid A]
    (share : τ → A) (parties : ι → τ) (i : ι) (now : τ)
    : ∑ j, share (update parties i now j) + share (parties i)
      = ∑ j, share (parties j) + share now := by
  have others : ∀ j ∈ Finset.univ.erase i,
      share (update parties i now j) = share (parties j) := by
    intro j member
    rw [update_of_ne (Finset.ne_of_mem_erase member)]
  rw [← Finset.add_sum_erase _ _ (Finset.mem_univ i), Finset.sum_congr rfl others,
    ← Finset.add_sum_erase _ (fun j => share (parties j)) (Finset.mem_univ i),
    update_self]
  ac_rfl

/-- If the share of one party in a list changes, the sum of all changes by as much, by induction on
the list.
-/
theorem sum_set_share {τ : Type*} [AddCommMonoid A] (share : τ → A) {parties : List τ}
    {i before} (found : parties[i]? = some before) (now : τ)
    : ((parties.set i now).map share).sum + share before
      = (parties.map share).sum + share now := by
  induction parties generalizing i with
  | nil => simp at found
  | cons head rest ih =>
    cases i with
    | zero =>
      rw [getElem?_cons_zero, Option.some.injEq] at found
      subst found
      simp only [set_cons_zero, map_cons, sum_cons]
      ac_rfl
    | succ i =>
      rw [getElem?_cons_succ] at found
      simp only [set_cons_succ, map_cons, sum_cons]
      rw [add_assoc, ih found, add_assoc]

end HelsterApi.Transition
