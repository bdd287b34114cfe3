import HelsterApi.Subscriptions.Writes

/-! The used amount of a subscription stays between zero and its total over every run, as long as no
charge of an unlimited subscription leaves the 64-bit range.
-/

namespace HelsterApi.Subscriptions

open Arithmetic UserSubscription List
open Relational
open Transition

/-- A limited subscription has used between nothing and its total, an unlimited one not less
than nothing.
-/
def UserSubscription.UsageBounded (sub : UserSubscription) : Prop :=
  (0 < sub.amountTotal → 0 ≤ sub.amountUsed ∧ sub.amountUsed ≤ sub.amountTotal)
    ∧ (sub.amountTotal = 0 → 0 ≤ sub.amountUsed)
  deriving Decidable

/-- The bounds as integers; they also cover a negative total, which counts as unlimited. -/
structure UserSubscription.InBounds (sub : UserSubscription) : Prop where
  nonneg : 0 ≤ sub.amountUsed.toInt
  within : 0 < sub.amountTotal.toInt → sub.amountUsed.toInt ≤ sub.amountTotal.toInt

variable {sub : UserSubscription}

theorem UserSubscription.InBounds.usageBounded (bounds : sub.InBounds) : sub.UsageBounded := by
  have nonneg : 0 ≤ sub.amountUsed := Int64.le_iff_toInt_le.mpr bounds.nonneg
  refine ⟨fun limited => ⟨nonneg, ?_⟩, fun _ => nonneg⟩
  exact Int64.le_iff_toInt_le.mpr (bounds.within (Int64.lt_iff_toInt_lt.mp limited))

theorem UserSubscription.inBounds_of_unused (unused : sub.amountUsed = 0) : sub.InBounds where
  nonneg := by simp [unused]
  within limited := by
    rw [unused]
    exact limited.le

variable {a : UserSubscription}

theorem UserSubscription.InBounds.congr {b : UserSubscription} (bounds : a.InBounds)
    (total : b.amountTotal = a.amountTotal) (used : b.amountUsed = a.amountUsed)
    : b.InBounds where
  nonneg := used ▸ bounds.nonneg
  within := by
    rw [total, used]
    exact bounds.within

structure UserSubscription.KeepsBounds (a b : UserSubscription) : Prop where
  id : b.id = a.id
  bounds : a.InBounds → b.InBounds

variable {cal : Calendar} {now : ℤ}

theorem maybeReset_keepsBounds {iterations plan b}
    (reset : maybeResetUserSubscriptionWithPlanTx cal iterations plan now a = .ok b)
    : a.KeepsBounds b := by
  rcases maybeReset_ok reset with rfl | ⟨base, next, rfl | rfl⟩
  · exact ⟨rfl, fun bounds => bounds⟩
  · exact ⟨rfl, fun bounds => bounds.congr rfl rfl⟩
  · exact ⟨rfl, fun _ => inBounds_of_unused rfl⟩

theorem keepsBounds_writeRule (cal) : WriteRule cal UserSubscription.KeepsBounds where
  keepsId kept := kept.id
  refl _ := ⟨rfl, fun bounds => bounds⟩
  reset := maybeReset_keepsBounds
  renew _ _ advanceResetTime _ := by
    cases advanceResetTime <;> exact ⟨rfl, fun _ => inBounds_of_unused rfl⟩
  adjust accepted := {
    id := rfl
    bounds _ := {
      nonneg := by
        change 0 ≤ (usedAfter _ _).toInt
        unfold usedAfter
        split
        · exact le_rfl
        next nonneg => exact not_lt.mp (Int64.lt_iff_toInt_lt.not.mp nonneg)
      within := by
        intro limited
        rw [Int64.lt_iff_toInt_lt, Int64.lt_iff_toInt_lt] at accepted
        exact not_lt.mp fun exceeds => accepted ⟨limited, exceeds⟩ } }

theorem UserSubscription.InBounds.charged {amount} (bounds : sub.InBounds)
    (positive : 0 < amount.toInt) (fits : sub.fits amount)
    (room : sub.amountTotal ≤ 0 → sub.amountUsed.toInt + amount.toInt < 2 ^ 63)
    : (sub.charged amount).InBounds := by
  obtain ⟨nonneg, within⟩ := bounds
  have totalHigh := Int64.toInt_lt sub.amountTotal
  rw [UserSubscription.fits, Bool.not_eq_true', decide_eq_false_iff_not,
    Int64.lt_iff_toInt_lt, Int64.lt_iff_toInt_lt] at fits
  rw [Int64.le_iff_toInt_le] at room
  have zero : (0 : Int64).toInt = 0 := rfl
  rw [zero] at fits room
  by_cases limited : 0 < sub.amountTotal.toInt
  · have used := within limited
    have left : (sub.amountTotal - sub.amountUsed).toInt
        = sub.amountTotal.toInt - sub.amountUsed.toInt := by
      rw [Int64.toInt_sub]
      exact Int.bmod_eq_of_le (by omega) (by omega)
    have enough : amount.toInt ≤ sub.amountTotal.toInt - sub.amountUsed.toInt := by
      rw [← left]
      exact not_lt.mp fun short => fits ⟨limited, short⟩
    have sum := toInt_add_of_inRange (a := sub.amountUsed) (b := amount) (by omega) (by omega)
    constructor
    · change 0 ≤ (sub.amountUsed + amount).toInt
      omega
    · intro _
      change (sub.amountUsed + amount).toInt ≤ sub.amountTotal.toInt
      omega
  · have sum := toInt_add_of_inRange (a := sub.amountUsed) (b := amount) (by omega)
      (room (not_lt.mp limited))
    constructor
    · change 0 ≤ (sub.amountUsed + amount).toInt
      omega
    · intro unlimited
      exact absurd unlimited limited

/-- A pre-consume whose first fitting subscription is unlimited finds room in the 64-bit range. -/
def KeepsRange (cal : Calendar) (s : Store) : Action → Prop
  | .preConsume w call =>
    s.records.get? call.requestId = none
      → ∀ sub ∈ w.firstFit cal call (call.candidates s), sub.amountTotal ≤ 0
      → sub.amountUsed.toInt + call.amount.toInt < 2 ^ 63
  | _ => True

instance (cal : Calendar) (s : Store) : DecidablePred (KeepsRange cal s)
  | .preConsume .. => by
    dsimp only [KeepsRange]
    infer_instance
  | .create .. | .invalidate .. | .delete .. | .expireUser .. | .refund .. | .postConsume ..
    | .resetDue .. | .adminResetUser .. | .adminResetPlan .. => instDecidableTrue

namespace Store

def InBounds (s : Store) : Prop := ∀ sub ∈ s.subs.rows, sub.InBounds

variable {s s' : Store}

variable (bounds : s.InBounds)

include bounds

theorem InBounds.rewrites (rewritten : s.Rewrites UserSubscription.KeepsBounds s')
    : s'.InBounds := by
  intro b member
  obtain ⟨a, memberA, kept⟩ := rewritten.origin member
  exact kept.bounds (bounds a memberA)

theorem InBounds.preConsume {w call result} (inRange : KeepsRange cal s (.preConsume w call))
    (done : preConsumeUserSubscription cal w call s = .ok (result, s'))
    : s'.InBounds := by
  have rule := keepsBounds_writeRule cal
  refine bounds.rewrites (preConsumeSubscription_rewrites rule.toRowRule
    (fun _ _ => PreConsumeReads.resetRow_related rule)
    (fun checked fresh row member sub reset first => ?_) done)
  have positive : 0 < call.amount.toInt := by
    simp only [PreConsumeCall.check, Control.ite_error_eq_ok] at checked
    have positive := checked.2.2.1
    rw [Int64.le_iff_toInt_le] at positive
    exact not_le.mp positive
  have kept := PreConsumeReads.resetRow_related rule reset
  have fits : sub.fits call.amount := by simpa using find?_some first
  exact ⟨kept.id, fun rowBounds =>
    (kept.bounds rowBounds).charged positive fits (inRange fresh sub first)⟩

variable {id : ℤ}

theorem InBounds.create {fault userId plan}
    (done : createUserSubscriptionFromPlanTx cal fault id userId plan now s = .ok s')
    : s'.InBounds := by
  obtain ⟨_, endTime, _, rows, _⟩ := createFromPlan_ok done
  intro sub member
  rw [rows, mem_append, mem_singleton] at member
  rcases member with old | rfl
  · exact bounds sub old
  · exact inBounds_of_unused rfl

variable {w : EndReads}

theorem InBounds.invalidate (done : adminInvalidateUserSubscription w id now s = .ok s')
    : s'.InBounds := by
  obtain ⟨sub, found, downgraded⟩ := adminInvalidate_ok done
  intro a member
  rw [downgradeUserGroup_subs downgraded] at member
  have cancelled : (sub.cancelled now).InBounds :=
    (bounds sub (Keyed.get?_eq_some.mp found).1).congr rfl rfl
  exact Keyed.forall_mem_save bounds cancelled a member

theorem InBounds.delete (done : adminDeleteUserSubscription w id now s = .ok s') : s'.InBounds := by
  obtain ⟨sub, moved, _, downgraded, rfl⟩ := adminDelete_ok done
  intro a member
  have kept := (Keyed.mem_erase.mp member).1
  rw [downgradeUserGroup_subs downgraded] at kept
  exact bounds a kept

theorem InBounds.expire (userId now) : (s.expire userId now).InBounds := by
  intro b member
  obtain ⟨a, memberA, rfl⟩ := mem_expire.mp member
  split
  · exact (bounds a memberA).congr rfl rfl
  · exact bounds a memberA

theorem InBounds.expireUser {userId} (done : expireUserSubscriptions w userId now s = .ok s')
    : s'.InBounds := by
  intro a member
  rw [expireSubscriptions_subs done] at member
  exact bounds.expire userId now a member

theorem InBounds.step {a} (inRange : KeepsRange cal s a) : (step cal s a).InBounds := by
  have rule := keepsBounds_writeRule cal
  cases a with
  | create fault id userId plan now => exact committed_of bounds fun _ done => bounds.create done
  | invalidate w id now => exact committed_of bounds fun _ done => bounds.invalidate done
  | delete w id now => exact committed_of bounds fun _ done => bounds.delete done
  | expireUser w userId now => exact committed_of bounds fun _ done => bounds.expireUser done
  | preConsume w call =>
    refine committed_of bounds fun s' done => ?_
    obtain ⟨_, done⟩ := map_snd_eq_ok.mp done
    exact bounds.preConsume inRange done
  | refund | postConsume | resetDue | adminResetUser | adminResetPlan =>
    exact bounds.rewrites (step_rewrites rule (by trivial) s)

end Store

/-- In every state of a run whose pre-consumes stay in range, every subscription has used between
nothing and its total.
-/
theorem inRange_usageBounded (cal : Calendar) {s}
    (reached : (machine cal).Reaches (KeepsRange cal) s)
    : ∀ sub ∈ s.subs.rows, sub.UsageBounded := by
  have bounds : s.InBounds := by
    refine reached.invariant Store.InBounds ?_ ?_
    · rintro _ ⟨groups, rfl⟩ sub member
      exact absurd member not_mem_nil
    · intro s a s' _ bounds inRange moved
      have stepped := Option.some.inj moved
      exact stepped ▸ bounds.step inRange
  exact fun sub member => (bounds sub member).usageBounded

def twoRequests (total amount : Int64) : List Action :=
  let plan : SubscriptionPlan := { id := 1, totalAmount := total }
  let reads : PreConsumeReads := ⟨fun _ => .ok plan, 0, true, none⟩
  [.create none 1 1 plan 1000, .preConsume reads ⟨"first", 1, amount, 2000⟩,
    .preConsume reads ⟨"second", 1, amount, 3000⟩]

/-- Of two requests for 60 a subscription for 100 takes one. -/
theorem limited_twoRequests_usageBounded
    : ((machine plainCalendar).play (.fresh fun _ => none) (twoRequests 100 60)).subs.rows.map
        amountUsed = [60]
      ∧ ∀ sub ∈ ((machine plainCalendar).play (.fresh fun _ => none)
        (twoRequests 100 60)).subs.rows, sub.UsageBounded :=
  ⟨by decide, inRange_usageBounded plainCalendar
    (Machine.reaches_play ⟨_, rfl⟩ (by decide))⟩

/-- Two requests for half the range each drive the used amount of an unlimited subscription
below zero.
-/
theorem unlimited_twoRequests_negative
    : ∃ s, (machine plainCalendar).Reaches anyStep s
      ∧ ∃ sub ∈ s.subs.rows, sub.amountTotal = 0 ∧ sub.amountUsed < 0 := by
  have reached : (machine plainCalendar).Reaches anyStep
      ((machine plainCalendar).play (.fresh fun _ => none)
        (twoRequests 0 4611686018427387904)) := Machine.reaches_play ⟨_, rfl⟩ (by decide)
  exact ⟨_, reached, by decide⟩

end HelsterApi.Subscriptions
