import HelsterApi.Subscriptions.Groups
import HelsterApi.Transition.Machine

/-! Runs of the transactions on subscriptions, which row locks serialize, and what they write. Each
rewrites rows in place, so whatever relates a row to every row that one of them may write over it
relates the rows before and after.
-/

namespace HelsterApi.Subscriptions

section

open Transition

inductive Action where
  | create (fault : Option String) (id userId : ℤ) (plan : SubscriptionPlan) (now : ℤ)
  | invalidate (w : EndReads) (id now : ℤ)
  | delete (w : EndReads) (id now : ℤ)
  | expireUser (w : EndReads) (userId now : ℤ)
  | preConsume (w : PreConsumeReads) (call : PreConsumeCall)
  | refund (deltaFault recordFault : Option String) (requestId : String)
  | postConsume (fault : Option String) (id : ℤ) (delta : Int64)
  | resetDue (iterations : ℕ) (plan : SubscriptionPlan) (fault : Option String) (now id : ℤ)
  | adminResetUser (fault : Option String) (userId : ℤ) (plan : SubscriptionPlan) (now : ℤ)
      (advanceResetTime : Bool)
  | adminResetPlan (fault : Option String) (plan : SubscriptionPlan) (now : ℤ)
      (advanceResetTime : Bool)

def Store.committed (s : Store) : Except SubscriptionError Store → Store
  | .error _ => s
  | .ok s' => s'

def step (cal : Calendar) (s : Store) : Action → Store
  | .create fault id userId plan now =>
    s.committed (createUserSubscriptionFromPlanTx cal fault id userId plan now s)
  | .invalidate w id now => s.committed (adminInvalidateUserSubscription w id now s)
  | .delete w id now => s.committed (adminDeleteUserSubscription w id now s)
  | .expireUser w userId now => s.committed (expireUserSubscriptions w userId now s)
  | .preConsume w call => s.committed ((preConsumeUserSubscription cal w call s).map Prod.snd)
  | .refund deltaFault recordFault requestId =>
    (refundSubscriptionPreConsume deltaFault recordFault requestId s).2
  | .postConsume fault id delta => s.committed (postConsumeUserSubscriptionDelta fault id delta s)
  | .resetDue iterations plan fault now id =>
    s.committed (resetDueSubscription cal iterations plan fault now id s)
  | .adminResetUser fault userId plan now advanceResetTime =>
    s.committed ((adminResetUserSubscriptionsByPlanTx cal fault userId plan now
      advanceResetTime s).map Prod.snd)
  | .adminResetPlan fault plan now advanceResetTime =>
    s.committed ((adminResetPlanSubscriptionsTx cal fault plan now advanceResetTime s).map Prod.snd)

/-- It starts without any subscription, and every transaction can run in every state. -/
def machine (cal : Calendar) : Machine Store Action where
  initial s := ∃ groups, s = .fresh groups
  next s a := some (step cal s a)

def plainCalendar : Calendar where
  addYears start years := start + years * 31536000
  addMonths start months := start + months * 2592000
  nextMidnight base := (base / 86400 + 1) * 86400
  nextMonday base := ((base + 259200) / 604800 + 1) * 604800 - 259200
  nextMonth base := (base / 2592000 + 1) * 2592000

theorem Store.committed_of {P : Store → Prop} {s : Store} {outcome}
    (before : P s) (after : ∀ s', outcome = .ok s' → P s')
    : P (s.committed outcome) := by
  cases outcome with
  | error e => exact before
  | ok s' => exact after s' rfl

theorem map_snd_eq_ok {α : Type} {outcome : Except SubscriptionError (α × Store)} {s}
    : outcome.map Prod.snd = .ok s ↔ ∃ a, outcome = .ok (a, s) := by
  cases outcome with
  | error e =>
    constructor
    · nofun
    · rintro ⟨a, succeeded⟩
      cases succeeded
  | ok pair =>
    obtain ⟨a, s'⟩ := pair
    constructor
    · intro succeeded
      exact ⟨a, by rw [← Except.ok.inj succeeded]⟩
    · rintro ⟨b, succeeded⟩
      cases succeeded
      rfl

end

open List Relational Store PreConsumeReads Keyed

variable {R : UserSubscription → UserSubscription → Prop} {cal : Calendar}

/-- Each row of `s` is rewritten in place to a row that `R` relates it to, and no user changes the
group.
-/
structure Store.Rewrites (R : UserSubscription → UserSubscription → Prop) (s s' : Store)
    : Prop where
  rows : List.Forall₂ R s.subs.rows s'.subs.rows
  groups : s'.groups = s.groups

/-- Rewriting the rows on the right once more, by induction on the lists. -/
theorem forall₂_map_right_of {α : Type} {R} {rows rows' : List α} {f}
    (related : List.Forall₂ R rows rows') (rewrites : ∀ a ∈ rows, ∀ b, R a b → R a (f b))
    : List.Forall₂ R rows (rows'.map f) := by
  induction related with
  | nil => exact .nil
  | cons head _ ih =>
    refine .cons (rewrites _ (by simp) _ head) (ih fun a member => ?_)
    exact rewrites a (mem_cons_of_mem _ member)

variable {s s' : Store}

theorem Store.Rewrites.refl (reflexive : ∀ a, R a a) (subs : s'.subs = s.subs)
    (groups : s'.groups = s.groups)
    : s.Rewrites R s' := ⟨by rw [subs]; exact forall₂_same.mpr fun a _ => reflexive a, groups⟩

/-- What stands on the right is related to something on the left, by induction on the lists. -/
theorem exists_of_forall₂ {α : Type} {R} {rows rows' : List α}
    (related : List.Forall₂ R rows rows') {b : α} (member : b ∈ rows')
    : ∃ a ∈ rows, R a b := by
  induction related with
  | nil => cases member
  | cons head _ ih =>
    rcases mem_cons.mp member with rfl | later
    · exact ⟨_, by simp, head⟩
    · obtain ⟨a, memberA, related⟩ := ih later
      exact ⟨a, mem_cons_of_mem _ memberA, related⟩

theorem Store.Rewrites.origin (rewritten : s.Rewrites R s') {b : UserSubscription}
    (member : b ∈ s'.subs.rows)
    : ∃ a ∈ s.subs.rows, R a b := exists_of_forall₂ rewritten.rows member

variable {a : UserSubscription}

theorem Store.Rewrites.image (rewritten : s.Rewrites R s') (member : a ∈ s.subs.rows)
    : ∃ b ∈ s'.subs.rows, R a b := exists_of_forall₂ (R := flip R) rewritten.rows.flip member

variable {id : ℤ}

theorem Store.Rewrites.get? (keepsId : ∀ {a b}, R a b → b.id = a.id) (rewritten : s.Rewrites R s')
    (found : s.subs.get? id = some a)
    : ∃ b, s'.subs.get? id = some b ∧ R a b := by
  obtain ⟨member, hasId⟩ := get?_eq_some.mp found
  obtain ⟨b, memberB, related⟩ := rewritten.image member
  exact ⟨b, get?_eq_some.mpr ⟨memberB, (keepsId related).trans hasId⟩, related⟩

variable {row sub : UserSubscription} {s₀ : Store}

theorem Store.Rewrites.saveSub (keepsId : ∀ {a b}, R a b → b.id = a.id)
    (rewritten : s₀.Rewrites R s) (member : row ∈ s₀.subs.rows) (related : R row sub)
    : s₀.Rewrites R (s.saveSub sub) := by
  refine ⟨forall₂_map_right_of rewritten.rows fun a memberA b relatedB => ?_, rewritten.groups⟩
  unfold written
  split
  next sameKey =>
    have sameId : a.id = row.id := by
      rw [← keepsId relatedB, ← keepsId related]
      exact of_decide_eq_true sameKey
    rwa [eq_of_key memberA member sameId]
  · exact relatedB

structure RowRule (R : UserSubscription → UserSubscription → Prop) : Prop where
  keepsId : ∀ {a b}, R a b → b.id = a.id
  refl : ∀ a, R a a

/-- `R` relates a row to every row that a reset or an adjustment may write over it. -/
structure WriteRule (cal : Calendar) (R : UserSubscription → UserSubscription → Prop)
    : Prop extends RowRule R where
  reset : ∀ {iterations plan now a b},
    maybeResetUserSubscriptionWithPlanTx cal iterations plan now a = .ok b → R a b
  renew : ∀ plan now advanceResetTime a,
    R a (resetUserSubscriptionTx cal plan now advanceResetTime a)
  adjust : ∀ {a : UserSubscription} {delta : Int64},
    ¬(0 < a.amountTotal ∧ a.amountTotal < a.usedAfter delta)
      → R a { a with amountUsed := a.usedAfter delta }

/-- The row a pre-consume makes of a candidate before it looks at what is left; `none` if
that fails.
-/
def PreConsumeReads.resetRow (cal : Calendar) (w : PreConsumeReads) (now : ℤ)
    (candidate : UserSubscription)
    : Option UserSubscription :=
  match w.plans candidate.planId with
  | .error _ => none
  | .ok plan => (maybeResetUserSubscriptionWithPlanTx cal w.iterations plan now candidate).toOption

variable {now : ℤ} {w : PreConsumeReads}

theorem PreConsumeReads.resetRow_eq_some (reset : w.resetRow cal now row = some sub)
    : ∃ plan, w.plans row.planId = .ok plan
      ∧ maybeResetUserSubscriptionWithPlanTx cal w.iterations plan now row = .ok sub := by
  unfold resetRow at reset
  split at reset
  · cases reset
  rename_i plan found
  cases outcome : maybeResetUserSubscriptionWithPlanTx cal w.iterations plan now row with
  | error e =>
    rw [outcome] at reset
    cases reset
  | ok b =>
    rw [outcome] at reset
    cases reset
    exact ⟨plan, found, outcome⟩

theorem PreConsumeReads.resetRow_related (rule : WriteRule cal R)
    (reset : w.resetRow cal now row = some sub)
    : R row sub := by
  obtain ⟨plan, _, outcome⟩ := resetRow_eq_some reset
  exact rule.reset outcome

def PreConsumeReads.firstFit (cal : Calendar) (w : PreConsumeReads) (call : PreConsumeCall)
    (candidates : List UserSubscription)
    : Option UserSubscription :=
  (candidates.filterMap (w.resetRow cal call.now)).find? (·.fits call.amount)

def PreConsumeCall.candidates (call : PreConsumeCall) (s : Store) : List UserSubscription :=
  s.activeSubscriptions call.now fun sub => decide (sub.userId = call.userId)

def UserSubscription.charged (sub : UserSubscription) (amount : Int64) : UserSubscription :=
  { sub with amountUsed := sub.amountUsed + amount }

theorem Store.mem_activeSubscriptions {selects} (member : sub ∈ s.activeSubscriptions now selects)
    : sub ∈ s.subs.rows := by
  rw [activeSubscriptions, mem_insertionSort] at member
  exact (mem_filter.mp member).1

section

variable {w : PreConsumeReads} {call : PreConsumeCall} {s₀ s s' : Store}
  {result : SubscriptionPreConsumeResult}

theorem chargeCandidates_cons_ok {row rest}
    (done : chargeCandidates cal w call (row :: rest) s = .ok (result, s'))
    : ∃ sub, w.resetRow cal call.now row = some sub
      ∧ (w.firstFit cal call (row :: rest) = some sub
          ∧ chargeCandidate w call sub (s.saveSub sub) = .ok (result, s')
        ∨ w.firstFit cal call (row :: rest) = w.firstFit cal call rest
          ∧ chargeCandidates cal w call rest (s.saveSub sub) = .ok (result, s')) := by
  simp only [chargeCandidates] at done
  split at done
  · cases done
  rename_i plan planned
  split at done
  · cases done
  rename_i sub reset
  have resetRow : w.resetRow cal call.now row = some sub := by
    simp [resetRow, planned, reset, Except.toOption]
  refine ⟨sub, resetRow, ?_⟩
  split at done
  next fits => exact .inl ⟨by simp [firstFit, resetRow, fits], done⟩
  next full =>
    refine .inr ⟨?_, done⟩
    rw [firstFit, filterMap_cons_some resetRow,
      find?_cons_of_neg (by simpa using full)]
    rfl

/-- A pre-consume writes the resets of the candidates it tries and the charge of the first that
fits, by induction on them.
-/
theorem chargeCandidates_rewrites (rule : RowRule R) {candidates}
    (rewritten : s₀.Rewrites R s) (members : ∀ row ∈ candidates, row ∈ s₀.subs.rows)
    (resets : ∀ row sub, w.resetRow cal call.now row = some sub → R row sub)
    (charge : ∀ row ∈ candidates, ∀ sub, w.resetRow cal call.now row = some sub
      → w.firstFit cal call candidates = some sub → R row (sub.charged call.amount))
    (done : chargeCandidates cal w call candidates s = .ok (result, s'))
    : s₀.Rewrites R s' := by
  induction candidates generalizing s with
  | nil => cases done
  | cons row rest ih =>
    obtain ⟨sub, reset, outcome⟩ := chargeCandidates_cons_ok done
    have saved := rewritten.saveSub rule.keepsId (members row (by simp)) (resets row sub reset)
    rcases outcome with ⟨first, charged⟩ | ⟨later, goesOn⟩
    · unfold chargeCandidate at charged
      split at charged
      · split at charged
        · cases charged
        · split at charged
          · cases charged
          · cases charged
            exact saved
      · cases charged
        have spent := saved.saveSub rule.keepsId (members row (by simp))
          (charge row (by simp) sub reset first)
        exact ⟨spent.rows, spent.groups⟩
    · refine ih saved (fun a member => members a (by simp [member])) ?_ goesOn
      intro a member b resetB first
      exact charge a (by simp [member]) b resetB (later.trans first)

theorem preConsumeSubscription_rewrites (rule : RowRule R)
    (resets : ∀ row sub, w.resetRow cal call.now row = some sub → R row sub)
    (charge : call.check = .ok () → s.records.get? call.requestId = none
      → ∀ row ∈ call.candidates s, ∀ sub, w.resetRow cal call.now row = some sub
      → w.firstFit cal call (call.candidates s) = some sub → R row (sub.charged call.amount))
    (done : preConsumeUserSubscription cal w call s = .ok (result, s'))
    : s.Rewrites R s' := by
  have unchanged : s.Rewrites R s := .refl rule.refl rfl rfl
  unfold preConsumeUserSubscription at done
  split at done
  · cases done
  rename_i checked
  split at done
  · split at done
    · cases done
    · cases done
      exact unchanged
  next unrecorded =>
    obtain ⟨_, done⟩ := transaction_eq_ok.mp done
    split at done
    · cases done
    exact chargeCandidates_rewrites rule unchanged
      (fun row member => mem_activeSubscriptions member) resets
      (charge checked unrecorded) done

end

variable {fault : Option String}

theorem postConsumeDelta_rewrites (rule : WriteRule cal R) {delta}
    (done : postConsumeUserSubscriptionDelta fault id delta s = .ok s')
    : s.Rewrites R s' := by
  have unchanged : s.Rewrites R s := .refl rule.refl rfl rfl
  unfold postConsumeUserSubscriptionDelta at done
  split at done
  · cases done
  split at done
  · cases done
    exact unchanged
  · obtain ⟨_, done⟩ := transaction_eq_ok.mp done
    split at done
    · cases done
    rename_i sub found
    dsimp only at done
    split at done
    · cases done
    rename_i within
    cases done
    exact unchanged.saveSub rule.keepsId (get?_eq_some.mp found).1
      (rule.adjust within)

theorem markRefunded_subs (fault record)
    (s : Store)
    : (markRefunded fault record s).2.subs = s.subs
      ∧ (markRefunded fault record s).2.groups = s.groups := by
  cases fault <;> exact ⟨rfl, rfl⟩

theorem refundPreConsume_rewrites (rule : WriteRule cal R)
    (deltaFault recordFault : Option String) (requestId : String) (s : Store)
    : s.Rewrites R (refundSubscriptionPreConsume deltaFault recordFault requestId s).2 := by
  have unchanged : s.Rewrites R s := .refl rule.refl rfl rfl
  have marks {record : SubscriptionPreConsumeRecord} {adjusted : Store}
      (rewritten : s.Rewrites R adjusted)
      : s.Rewrites R (markRefunded recordFault record adjusted).2 := by
    obtain ⟨subs, groups⟩ := markRefunded_subs recordFault record adjusted
    exact ⟨by rw [subs]; exact rewritten.rows, groups.trans rewritten.groups⟩
  unfold refundSubscriptionPreConsume
  split
  · exact unchanged
  · split
    · exact unchanged
    · split
      · exact unchanged
      · split
        · exact marks unchanged
        · split
          · exact unchanged
          next adjusted done => exact marks (postConsumeDelta_rewrites rule done)

variable {plan : SubscriptionPlan}

theorem resetDueOne_rewrites (rule : RowRule R) {iterations}
    (resets : ∀ row sub, row.id = id
      → maybeResetUserSubscriptionWithPlanTx cal iterations plan now row = .ok sub
      → R row sub) (done : resetDueSubscription cal iterations plan fault now id s = .ok s')
    : s.Rewrites R s' := by
  have unchanged : s.Rewrites R s := .refl rule.refl rfl rfl
  obtain ⟨_, done⟩ := transaction_eq_ok.mp done
  split at done
  · cases done
    exact unchanged
  next locked found =>
    split at done
    · split at done
      · cases done
      next sub reset =>
        cases done
        obtain ⟨member, sameId⟩ := get?_eq_some.mp found
        exact unchanged.saveSub rule.keepsId member (resets locked sub sameId reset)
    · cases done
      exact unchanged

/-- Resetting several subscriptions writes their rows, by induction on them. -/
theorem resetEach_rewrites (rule : WriteRule cal R) (plan now)
    (advanceResetTime) {subs} (rewritten : s₀.Rewrites R s)
    (members : ∀ sub ∈ subs, sub ∈ s₀.subs.rows)
    : s₀.Rewrites R (resetEach cal plan now advanceResetTime subs s) := by
  induction subs generalizing s with
  | nil => exact rewritten
  | cons sub rest ih =>
    have saved := rewritten.saveSub rule.keepsId (members sub (by simp))
      (rule.renew plan now advanceResetTime sub)
    exact ih saved fun a member => members a (by simp [member])

variable {advanceResetTime : Bool}

/-- A transaction writes to rows that exist, and not what a request pre-consumes. -/
def Action.Adjusts : Action → Prop
  | .create .. | .invalidate .. | .delete .. | .expireUser .. | .preConsume .. => False
  | .refund .. | .postConsume .. | .resetDue .. | .adminResetUser .. | .adminResetPlan .. => True

theorem step_rewrites (rule : WriteRule cal R) {a} (adjusts : a.Adjusts) (s : Store)
    : s.Rewrites R (step cal s a) := by
  have unchanged : s.Rewrites R s := .refl rule.refl rfl rfl
  cases a with
  | create | invalidate | delete | expireUser | preConsume => exact adjusts.elim
  | refund deltaFault recordFault requestId => exact refundPreConsume_rewrites rule ..
  | postConsume fault id delta =>
    exact committed_of unchanged fun _ done =>
      postConsumeDelta_rewrites rule done
  | resetDue iterations plan fault now id =>
    exact committed_of unchanged fun _ done =>
      resetDueOne_rewrites rule.toRowRule (fun _ _ _ => rule.reset) done
  | adminResetUser fault userId plan now advanceResetTime =>
    refine committed_of unchanged fun s' done => ?_
    obtain ⟨_, done⟩ := map_snd_eq_ok.mp done
    obtain ⟨_, done⟩ := transaction_eq_ok.mp done
    split at done
    · cases done
    cases done
    exact resetEach_rewrites rule _ _ _ (.refl rule.refl rfl rfl)
      fun sub member => mem_activeSubscriptions member
  | adminResetPlan fault plan now advanceResetTime =>
    refine committed_of unchanged fun s' done => ?_
    obtain ⟨_, done⟩ := map_snd_eq_ok.mp done
    obtain ⟨_, done⟩ := transaction_eq_ok.mp done
    cases done
    refine resetEach_rewrites rule _ _ _ unchanged ?_
    intro sub member
    exact mem_activeSubscriptions (mem_insertionSort _ |>.mp member)

end HelsterApi.Subscriptions
