import Mathlib.Data.List.Basic
import Mathlib.Order.Nat

/-! Inversion of computations that may fail; loops driven by what each of their iterations meets, a
run being the list of these; and loops over batches of work, which go on while a pass finds a full
batch.
-/

namespace HelsterApi.Control

section

variable {ε ε' α : Type*}

theorem ite_error_eq_ok {p} [Decidable p] {e} {body : Except ε α} {a : α}
    : (if p then .error e else body) = .ok a ↔ ¬p ∧ body = .ok a := by
  by_cases fires : p <;> simp [fires]

theorem mapError_eq_ok {called : Except ε α} {f : ε → ε'} {a : α}
    : called.mapError f = .ok a ↔ called = .ok a := by
  cases called with
  | ok => exact ⟨fun h => congrArg _ (Except.ok.inj h), fun h => congrArg _ (Except.ok.inj h)⟩
  | error => exact ⟨(by cases ·), (by cases ·)⟩

theorem map_eq_ok {β : Type*} {called : Except ε α} {f : α → β} {b : β}
    : called.map f = .ok b ↔ ∃ a, called = .ok a ∧ f a = b := by
  cases called <;> simp [Except.map]

theorem bind_eq_ok {α β : Type _} {called} {onwards : α → Except ε β} {b : β}
    : called >>= onwards = .ok b ↔ ∃ a, called = .ok a ∧ onwards a = .ok b := by
  cases called <;> simp [bind, Except.bind]

open List

variable {σ ω : Type*}

/-- The loop `for enters { body } advance`: the body says whether the loop goes on, and `none` is
returned if the list does not end where the loop does.
-/
def loop (enters : σ → Bool) (body : σ → ω → σ × Bool) (advance : σ → σ)
    : List ω → σ → Option σ
  | [], s => if enters s then none else some s
  | o :: rest, s =>
    if enters s then
      match body s o with
      | (s, true) => loop enters body advance rest (advance s)
      | (s, false) => if rest.isEmpty then some s else none
    else none

variable {enters : σ → Bool} {body : σ → ω → σ × Bool} {advance : σ → σ} {s s' : σ}

theorem loop_nil (ended : loop enters body advance [] s = some s') : enters s = false ∧ s' = s := by
  unfold loop at ended
  split at ended
  · cases ended
  rename_i skipped
  exact ⟨by simpa using skipped, (Option.some.inj ended).symm⟩

/-- A loop that meets something was entered, and its first iteration goes on or is the
last.
-/
theorem loop_cons {o rest} (ended : loop enters body advance (o :: rest) s = some s')
    : enters s = true
      ∧ ((∃ middle, body s o = (middle, true)
          ∧ loop enters body advance rest (advance middle) = some s')
        ∨ (body s o = (s', false) ∧ rest = [])) := by
  unfold loop at ended
  split at ended
  next entered =>
    refine ⟨entered, ?_⟩
    split at ended
    next middle continued => exact .inl ⟨middle, continued, ended⟩
    next last stopped =>
      split at ended
      next empty =>
        cases ended
        exact .inr ⟨stopped, isEmpty_iff.mp empty⟩
      · cases ended
  · cases ended

/-- The rule for loops: an invariant that every continuing iteration keeps, from which each way to
end the loop gives the postcondition. By induction on the iterations.
-/
theorem loop_post (inv post : σ → Prop)
    (ended : loop enters body advance met s = some s') (start : inv s)
    (continues : ∀ {s middle}, ∀ o ∈ met, inv s → enters s = true
      → body s o = (middle, true) → inv (advance middle))
    (stops : ∀ {s last}, ∀ o ∈ met, inv s → enters s = true → body s o = (last, false)
      → post last) (leaves : ∀ {s}, inv s → enters s = false → post s)
    : post s' := by
  induction met generalizing s with
  | nil =>
    obtain ⟨skipped, rfl⟩ := loop_nil ended
    exact leaves start skipped
  | cons o rest ih =>
    have first := mem_cons_self (a := o) (l := rest)
    obtain ⟨entered, ⟨middle, continued, onwards⟩ | ⟨stopped, _⟩⟩ := loop_cons ended
    · refine ih onwards (continues o first start entered continued) ?_ ?_
      · exact fun later member => continues later (mem_cons_of_mem o member)
      · exact fun later member => stops later (mem_cons_of_mem o member)
    · exact stops o first start entered stopped

/-- The iterations that a loop makes, each with the state it starts in. -/
def made (enters : σ → Bool) (body : σ → ω → σ × Bool) (advance : σ → σ)
    : List ω → σ → List (σ × ω)
  | [], _ => []
  | o :: rest, s =>
    if enters s then
      (s, o) :: match body s o with
        | (s, true) => made enters body advance rest (advance s)
        | (_, false) => []
    else []

/-- Every iteration starts in the invariant, by induction on what the iterations meet. -/
theorem made_inv (inv : σ → Prop) (start : inv s)
    (continues : ∀ {s middle}, ∀ o ∈ met, inv s → enters s = true
      → body s o = (middle, true) → inv (advance middle))
    : ∀ p ∈ made enters body advance met s, inv p.1 := by
  induction met generalizing s with
  | nil => simp [made]
  | cons o rest ih =>
    unfold made
    split
    next entered =>
      refine forall_mem_cons.mpr ⟨start, ?_⟩
      split
      next middle continued =>
        exact ih (continues o mem_cons_self start entered continued)
          fun later member => continues later (mem_cons_of_mem o member)
      · simp
    · simp

/-- The rule for the length of a loop: each iteration that counts needs some potential, and each
that goes on uses some up and does not lower the index. By induction on the iterations.
-/
theorem made_bounded (inv : σ → Prop) (potential index : σ → ℕ) (counts : σ × ω → Bool)
    (start : inv s)
    (spends : ∀ {s}, ∀ o ∈ met, inv s → enters s = true → counts (s, o) → 0 < potential s)
    (continues : ∀ {s middle}, ∀ o ∈ met, inv s → enters s = true
      → body s o = (middle, true) → inv (advance middle)
        ∧ potential (advance middle) < potential s ∧ index s ≤ index (advance middle))
    : ((made enters body advance met s).filter counts).length ≤ potential s
      ∧ (made enters body advance met s).Pairwise (fun p q => index p.1 ≤ index q.1)
      ∧ (potential s < met.length
        → ∃ k, (loop enters body advance (met.take k) s).isSome) := by
  induction met generalizing s with
  | nil => simp [made]
  | cons o rest ih =>
    have first := mem_cons_self (a := o) (l := rest)
    unfold made
    split
    next entered =>
      cases went : body s o with
      | mk middle goesOn =>
        cases goesOn with
        | false =>
          refine ⟨?_, pairwise_singleton _ _, fun _ => ⟨1, by simp [loop, entered, went]⟩⟩
          by_cases counted : counts (s, o)
          · simpa [counted] using Nat.succ_le_of_lt (spends o first start entered counted)
          · simp [counted]
        | true =>
          obtain ⟨onwards, less, further⟩ := continues o first start entered went
          have later := fun {s middle} o' member =>
            @continues s middle o' (mem_cons_of_mem o member)
          obtain ⟨bounded, sorted, ends⟩ := ih onwards
            (fun o' member => spends o' (mem_cons_of_mem o member)) later
          refine ⟨?_, pairwise_cons.mpr ⟨?_, sorted⟩, fun long => ?_⟩
          · rw [filter_cons]
            split <;> simp only [length_cons] <;> omega
          · intro p member
            refine (made_inv (fun t => inv t ∧ index s ≤ index t) ⟨onwards, further⟩ ?_ p member).2
            intro t _ o' member held entered' went'
            obtain ⟨onwards', _, further'⟩ := later o' member held.1 entered' went'
            exact ⟨onwards', Nat.le_trans held.2 further'⟩
          · rw [length_cons] at long
            obtain ⟨k, ended⟩ := ends (by omega)
            exact ⟨k + 1, by simpa [loop, entered, went] using ended⟩
    next skipped => exact ⟨Nat.zero_le _, List.Pairwise.nil, fun _ => ⟨0, by simp [loop, skipped]⟩⟩

end

variable {σ ε : Type*}

/-- The loop over passes from the `k`-th on: it ends with the first that fails or processes less
than `size` items. The result is `none` if a pass does not return, or if the passes do not suffice.
-/
def batchLoop (pass : ℕ → σ → Option (Except ε ℕ × σ)) (size : ℕ)
    : ℕ → ℕ → σ → Option (Except ε Unit × σ)
  | 0, _, _ => none
  | left + 1, k, s =>
    match pass k s with
    | none => none
    | some (.error e, s') => some (.error e, s')
    | some (.ok n, s') =>
      if n = 0 then some (.ok (), s')
      else if n < size then some (.ok (), s')
      else batchLoop pass size left (k + 1) s'

/-- The `k`-th pass processes a full batch. -/
def FullPass (pass : ℕ → σ → Option (Except ε ℕ × σ)) (size k : ℕ) (s s' : σ) : Prop :=
  ∃ n, pass k s = some (.ok n, s') ∧ 0 < n ∧ size ≤ n

/-- The loop begun in `s` comes to its `k`-th pass in the state `s'`. -/
inductive BeforePass (pass : ℕ → σ → Option (Except ε ℕ × σ)) (size : ℕ) (s : σ)
    : ℕ → σ → Prop where
  | first
    : BeforePass pass size s 0 s
  | later {k : ℕ} {s' s'' : σ} (before : BeforePass pass size s k s')
      (full : FullPass pass size k s' s'')
    : BeforePass pass size s (k + 1) s''

variable {pass : ℕ → σ → Option (Except ε ℕ × σ)} {size : ℕ} {k : ℕ}

theorem batchLoop_succ (size) {s s' outcome} (returned : pass k s = some (outcome, s'))
    : (∃ ended, ∀ left, batchLoop pass size (left + 1) k s = some (ended, s'))
      ∨ (FullPass pass size k s s'
        ∧ ∀ left, batchLoop pass size (left + 1) k s = batchLoop pass size left (k + 1) s') := by
  cases outcome with
  | error e =>
    refine .inl ⟨.error e, fun left => ?_⟩
    rw [batchLoop, returned]
  | ok n =>
    by_cases none : n = 0
    · refine .inl ⟨.ok (), fun left => ?_⟩
      rw [batchLoop, returned]
      exact if_pos none
    · by_cases few : n < size
      · refine .inl ⟨.ok (), fun left => ?_⟩
        rw [batchLoop, returned]
        dsimp only
        rw [if_neg none, if_pos few]
      · refine .inr ⟨⟨n, returned, Nat.pos_of_ne_zero none, not_lt.mp few⟩, fun left => ?_⟩
        rw [batchLoop, returned]
        dsimp only
        rw [if_neg none, if_neg few]

/-- The rule for termination: if every pass returns and every full one lowers a measure, the loop
ends. By induction on the passes left.
-/
theorem batchLoop_ends (measure : σ → ℕ) (inv : ℕ → σ → Prop)
    (returns : ∀ k s, inv k s → ∃ outcome s', pass k s = some (outcome, s'))
    (lowers : ∀ k s s', inv k s → FullPass pass size k s s'
      → inv (k + 1) s' ∧ measure s' < measure s)
    {s} (start : inv k s) {passes} (enough : measure s < passes)
    : ∃ outcome s', batchLoop pass size passes k s = some (outcome, s') := by
  induction passes generalizing k s with
  | zero => exact absurd enough (Nat.not_lt_zero _)
  | succ left ih =>
    obtain ⟨outcome, s', returned⟩ := returns k s start
    rcases batchLoop_succ size returned with ⟨ended, stops⟩ | ⟨full, goesOn⟩
    · exact ⟨ended, s', stops left⟩
    · obtain ⟨kept, lower⟩ := lowers k s s' start full
      rw [goesOn]
      exact ih kept (by omega)

/-- A loop that ends does so with more passes too, by induction on the passes. -/
theorem batchLoop_mono {passes passes' s result}
    (ended : batchLoop pass size passes k s = some result) (more : passes ≤ passes')
    : batchLoop pass size passes' k s = some result := by
  induction passes generalizing passes' k s with
  | zero => cases ended
  | succ left ih =>
    obtain ⟨left', rfl⟩ : ∃ left', passes' = left' + 1 := ⟨passes' - 1, by omega⟩
    cases returned : pass k s with
    | none => simp [batchLoop, returned] at ended
    | some outcome =>
      rcases batchLoop_succ size returned with ⟨_, stops⟩ | ⟨_, goesOn⟩
      · rwa [stops, ← stops left]
      · rw [goesOn] at ended ⊢
        exact ih ended (by omega)

/-- If every pass is full, the loop never ends, by induction on the passes. -/
theorem batchLoop_runs (inv : ℕ → σ → Prop)
    (full : ∀ k s, inv k s → ∃ s', FullPass pass size k s s' ∧ inv (k + 1) s') {s}
    (start : inv k s) (passes)
    : batchLoop pass size passes k s = none := by
  induction passes generalizing k s with
  | zero => rfl
  | succ left ih =>
    obtain ⟨s', ⟨n, returned, some, enough⟩, kept⟩ := full k s start
    rw [batchLoop, returned]
    dsimp only
    rw [if_neg some.ne', if_neg (not_lt.mpr enough)]
    exact ih kept

end HelsterApi.Control
