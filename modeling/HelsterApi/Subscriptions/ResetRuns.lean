import HelsterApi.Subscriptions.ResetSchedule
import HelsterApi.Subscriptions.Writes

/-! The periods of one subscription over a run of pre-consumes and resets. In every state the reset
zeroes the used amount exactly if a boundary has passed since it was zeroed last, which may be the
purchase.
-/

namespace HelsterApi.Subscriptions

open Clock List Option
open Relational
open Transition

/-- The transactions that may reset a subscription. A sweep is a sequence of the second kind. -/
inductive UsageAction where
  | preConsume (w : PreConsumeReads) (call : PreConsumeCall)
  | resetDue (iterations : ℕ) (plan : SubscriptionPlan) (fault : Option String) (now id : ℤ)

def UsageAction.action : UsageAction → Action
  | .preConsume w call => .preConsume w call
  | .resetDue iterations plan fault now id => .resetDue iterations plan fault now id

def UsageAction.time : UsageAction → ℤ
  | .preConsume _ call => call.now
  | .resetDue _ _ _ now _ => now

/-- If the transaction finds the plan of the subscription `id`, it is the plan that was bought. -/
def UsageAction.Unedited (plan : SubscriptionPlan) (id : ℤ) : UsageAction → Prop
  | .preConsume w _ => (w.plans plan.id).toOption.all (decide <| · = plan)
  | .resetDue _ found _ _ reset => reset = id → found = plan

instance (plan : SubscriptionPlan) (id : ℤ)
    : ∀ a : UsageAction, Decidable (a.Unedited plan id)
  | .preConsume .. => inferInstanceAs (Decidable (_ = true))
  | .resetDue .. => inferInstanceAs (Decidable (_ → _))

/-- The rows, the time of the last transaction, and the times at which the subscription's used
amount became zero, the last one apart, latest first.
-/
structure PeriodState where
  store : Store
  (now zeroed : ℤ)
  earlier : List ℤ

def Store.lastReset (s : Store) (id : ℤ) : Option ℤ :=
  (s.subs.get? id).map UserSubscription.lastResetTime

def PeriodState.after (cal : Calendar) (id : ℤ) (s : PeriodState) (a : UsageAction) : PeriodState :=
  let store := step cal s.store a.action
  if store.lastReset id = s.store.lastReset id then { s with store := store, now := a.time }
  else ⟨store, a.time, a.time, s.zeroed :: s.earlier⟩

variable {cal : Calendar} {id : ℤ} {s : PeriodState} {a : UsageAction}

theorem PeriodState.after_of_zeroed
    (zeroed : (step cal s.store a.action).lastReset id ≠ s.store.lastReset id)
    : s.after cal id a
      = ⟨step cal s.store a.action, a.time, a.time, s.zeroed :: s.earlier⟩ := if_neg zeroed

/-- Transactions on one subscription, bought at `start`, in the order of their times, which find
its plan unedited.
-/
def periodMachine (cal : Calendar) (plan : SubscriptionPlan) (id start : ℤ)
    : Machine PeriodState UsageAction where
  initial s := ∃ fault userId before,
    createUserSubscriptionFromPlanTx cal fault id userId plan start before = .ok s.store
      ∧ s.now = start ∧ s.zeroed = start ∧ s.earlier = []
  next s a := if s.now ≤ a.time ∧ a.Unedited plan id then some (s.after cal id a) else none

/-- A reset returns, the next reset is then none or later, a second reset changes nothing, and
the used amount is zeroed exactly if a boundary has passed since `zeroed`.
-/
structure ResetsExactly (cal : Calendar) (plan : SubscriptionPlan) (B : ℤ → Prop)
    (zeroed : ℤ) (sub : UserSubscription) (now : ℤ)
    : Prop where
  returns : ∃ enough, ∀ iterations, enough ≤ iterations → ∃ sub',
    maybeResetUserSubscriptionWithPlanTx cal iterations plan now sub = .ok sub'
  ahead : ∀ {iterations sub'},
    maybeResetUserSubscriptionWithPlanTx cal iterations plan now sub = .ok sub'
      → sub'.nextResetTime = 0 ∨ now < sub'.nextResetTime
  again : ∀ {iterations sub'},
    maybeResetUserSubscriptionWithPlanTx cal iterations plan now sub = .ok sub'
      → ∀ iterations, maybeResetUserSubscriptionWithPlanTx cal iterations plan now sub' = .ok sub'
  zeroes : Passed B zeroed now → ∀ {iterations sub'},
    maybeResetUserSubscriptionWithPlanTx cal iterations plan now sub = .ok sub'
      → ∃ base next, sub.lastResetTime < base ∧ sub' = sub.renewed base next
  keeps : ¬ Passed B zeroed now → ∀ {iterations sub'},
    maybeResetUserSubscriptionWithPlanTx cal iterations plan now sub = .ok sub' → sub' = sub

def Spaced (B : ℤ → Prop) (times : List ℤ) : Prop :=
  times.Pairwise fun later earlier => Passed B earlier later

section

variable {cal : Calendar} {plan : SubscriptionPlan} {id start endTime now : ℤ}
  {B : ℤ → Prop}

variable {zeroed : ℤ}

theorem Spaced.cons {earlier} (spaced : Spaced B (zeroed :: earlier)) (passed : Passed B zeroed now)
    : Spaced B (now :: zeroed :: earlier) := by
  refine pairwise_cons.mpr ⟨?_, spaced⟩
  obtain ⟨boundary, holds, after, due⟩ := passed
  intro time member
  rcases mem_cons.mp member with rfl | before
  · exact ⟨boundary, holds, after, due⟩
  · obtain ⟨t, _, _, inTime⟩ := (pairwise_cons.mp spaced).1 time before
    exact ⟨boundary, holds, by omega, due⟩

/-- A subscription is on schedule, and its last reset covers the time its used amount was zeroed. -/
structure OnTrack (cal : Calendar) (plan : SubscriptionPlan) (start endTime : ℤ)
    (B : ℤ → Prop) (zeroed : ℤ) (sub : UserSubscription)
    : Prop where
  onSchedule : OnSchedule cal plan start endTime B sub
  before : sub.resetBase ≤ zeroed
  covered : ¬ Passed B sub.resetBase zeroed

variable {sub : UserSubscription}

section

variable (track : OnTrack cal plan start endTime B zeroed sub)

include track

namespace OnTrack

/-- A boundary has passed since the last reset exactly if one has since the used amount was
zeroed.
-/
theorem passed_iff : Passed B sub.resetBase now ↔ Passed B zeroed now := by
  have before := track.before
  constructor
  · rintro ⟨t, boundary, after, due⟩
    refine ⟨t, boundary, ?_, due⟩
    by_contra early
    exact track.covered ⟨t, boundary, after, not_lt.mp early⟩
  · rintro ⟨t, boundary, after, due⟩
    exact ⟨t, boundary, by omega, due⟩

theorem reset {sub' iterations} (bought : 0 < start)
    (follows : FollowsBoundaries cal plan start endTime B now) (notBefore : zeroed ≤ now)
    (done : maybeResetUserSubscriptionWithPlanTx cal iterations plan now sub = .ok sub')
    : (¬ Passed B zeroed now ∧ sub' = sub)
      ∨ (Passed B zeroed now ∧ OnTrack cal plan start endTime B now sub'
        ∧ ∃ base next, sub.resetBase < base ∧ sub' = sub.renewed base next) := by
  have before := track.before.trans notBefore
  have on := track.onSchedule
  by_cases passed : Passed B sub.resetBase now
  · obtain ⟨base, next, rfl, moved, caughtUp⟩ :=
      (maybeReset_renews follows on before passed).2 sub' done
    obtain ⟨renewed, same⟩ := on.renewed bought caughtUp
    refine .inr ⟨track.passed_iff.mp passed, ⟨renewed, ?_, ?_⟩, base, next, moved, rfl⟩
    · rw [same]
      exact caughtUp.before
    · rw [same]
      exact caughtUp.nonePassed
  · rw [maybeReset_idle follows on before passed] at done
    cases done
    exact .inl ⟨mt track.passed_iff.mpr passed, rfl⟩

theorem lastReset_lt {base} (bought : 0 < start) (moved : sub.resetBase < base)
    : sub.lastResetTime < base := by
  have after := track.onSchedule.after
  unfold UserSubscription.resetBase at moved after
  split at moved <;> omega

theorem ahead (follows : FollowsBoundaries cal plan start endTime B now)
    (notBefore : zeroed ≤ now) (nonePassed : ¬ Passed B zeroed now)
    : sub.nextResetTime = 0 ∨ now < sub.nextResetTime := by
  have on := track.onSchedule
  have next := follows _ on.after (track.before.trans notBefore) on.aligned
  have notDue := mt (next.due_iff now).mp (mt track.passed_iff.mp nonePassed)
  rw [on.next_eq]
  rcases next with ⟨none, _⟩ | ⟨positive, _⟩
  · exact .inl none
  · omega

theorem resetsExactly (bought : 0 < start)
    (follows : FollowsBoundaries cal plan start endTime B now) (notBefore : zeroed ≤ now)
    : ResetsExactly cal plan B zeroed sub now := by
  have before := track.before.trans notBefore
  have on := track.onSchedule
  -- After the reset the subscription is on track, and no boundary has passed.
  have settled : ∀ {iterations sub'},
      maybeResetUserSubscriptionWithPlanTx cal iterations plan now sub = .ok sub'
      → ∃ zeroed', zeroed' ≤ now ∧ OnTrack cal plan start endTime B zeroed' sub'
        ∧ ¬ Passed B zeroed' now := by
    intro iterations sub' done
    rcases track.reset bought follows notBefore done with ⟨nonePassed, rfl⟩ | ⟨_, renewed, _⟩
    · exact ⟨zeroed, notBefore, track, nonePassed⟩
    · refine ⟨now, le_rfl, renewed, ?_⟩
      rintro ⟨t, _, after, due⟩
      omega
  constructor
  · refine ⟨(now - sub.resetBase).toNat, fun iterations enough => ?_⟩
    by_cases passed : Passed B sub.resetBase now
    · exact (maybeReset_renews follows on before passed).1 (by omega)
    · exact ⟨sub, maybeReset_idle follows on before passed iterations⟩
  · intro iterations sub' done
    obtain ⟨zeroed', notBefore', track', nonePassed⟩ := settled done
    exact track'.ahead follows notBefore' nonePassed
  · intro iterations sub' done again
    obtain ⟨zeroed', notBefore', track', nonePassed⟩ := settled done
    exact maybeReset_idle follows track'.onSchedule (track'.before.trans notBefore')
      (mt track'.passed_iff.mp nonePassed) again
  · intro passed iterations sub' done
    rcases track.reset bought follows notBefore done with
      ⟨nonePassed, _⟩ | ⟨_, _, base, next, moved, same⟩
    · exact absurd passed nonePassed
    · exact ⟨base, next, track.lastReset_lt bought moved, same⟩
  · intro nonePassed iterations sub' done
    rcases track.reset bought follows notBefore done with ⟨_, same⟩ | ⟨passed, _⟩
    · exact same
    · exact absurd passed nonePassed

theorem charged (amountUsed)
    : OnTrack cal plan start endTime B zeroed { sub with amountUsed := amountUsed } := by
  obtain ⟨⟨planId, startTime, endTime_eq, after, aligned, next_eq⟩, before, covered⟩ := track
  exact ⟨⟨planId, startTime, endTime_eq, after, aligned, next_eq⟩, before, covered⟩

end OnTrack

end

/-- A transaction at `now` that finds `plan` may write `b` over `a`: the subscription `id` changes
only by a reset and in its used amount.
-/
def ResetsRow (cal : Calendar) (plan : SubscriptionPlan) (id now : ℤ) (a b : UserSubscription)
    : Prop :=
  b.id = a.id ∧ (a.id = id → a.planId = plan.id → ∃ sub,
    (sub = a ∨ ∃ iterations,
      maybeResetUserSubscriptionWithPlanTx cal iterations plan now a = .ok sub)
    ∧ b = { sub with amountUsed := b.amountUsed })

theorem resetsRow_rule (cal plan id now)
    : RowRule (ResetsRow cal plan id now) where
  keepsId related := related.1
  refl a := ⟨rfl, fun _ _ => ⟨a, .inl rfl, rfl⟩⟩

theorem resetsRow_of_resetRow {w call}
    (unedited : UsageAction.Unedited plan id (.preConsume w call)) {row}
    (reset : w.resetRow cal call.now row = some sub) (amountUsed)
    : ResetsRow cal plan id call.now row { sub with amountUsed := amountUsed } := by
  obtain ⟨found, planned, outcome⟩ := PreConsumeReads.resetRow_eq_some reset
  have keepsId := maybeReset_id outcome
  refine ⟨keepsId, fun _ ofPlan => ⟨sub, .inr ⟨w.iterations, ?_⟩, rfl⟩⟩
  have same : found = plan := by
    rw [ofPlan] at planned
    simpa [UsageAction.Unedited, planned, Except.toOption] using unedited
  rwa [same] at outcome

variable {a : UsageAction}

theorem UsageAction.rewrites (unedited : a.Unedited plan id) (s : Store)
    : s.Rewrites (ResetsRow cal plan id a.time) (step cal s a.action) := by
  have rule := resetsRow_rule cal plan id a.time
  have unchanged : s.Rewrites (ResetsRow cal plan id a.time) s := .refl rule.refl rfl rfl
  cases a with
  | preConsume w call =>
    refine Store.committed_of unchanged fun s' done => ?_
    obtain ⟨_, done⟩ := map_snd_eq_ok.mp done
    refine preConsumeSubscription_rewrites rule ?_ ?_ done
    · exact fun row sub reset => resetsRow_of_resetRow unedited reset sub.amountUsed
    · exact fun _ _ row _ sub reset _ => resetsRow_of_resetRow unedited reset _
  | resetDue iterations found fault now reset =>
    refine Store.committed_of unchanged fun s' done => ?_
    refine resetDueOne_rewrites rule ?_ done
    intro row sub isRow outcome
    refine ⟨maybeReset_id outcome, fun tracked _ => ?_⟩
    refine ⟨sub, .inr ⟨iterations, ?_⟩, rfl⟩
    rwa [unedited (isRow.symm.trans tracked)] at outcome

/-- The subscription `id` is on track and a boundary lies between any two times at which its use
became zero.
-/
structure PeriodState.KeepsTrack (cal : Calendar) (plan : SubscriptionPlan)
    (id start endTime : ℤ) (B : ℤ → Prop) (s : PeriodState)
    : Prop where
  row : ∃ sub, s.store.subs.get? id = some sub ∧ OnTrack cal plan start endTime B s.zeroed sub
  notBefore : s.zeroed ≤ s.now
  spaced : Spaced B (s.zeroed :: s.earlier)

variable {s : PeriodState}

theorem keepsTrack_initial (ends : calcPlanEndTime cal start plan = .ok endTime)
    (begun : (periodMachine cal plan id start).initial s)
    : s.KeepsTrack cal plan id start endTime B := by
  obtain ⟨fault, userId, before, done, now, zeroed, earlier⟩ := begun
  obtain ⟨_, ended, sameEnd, rows, _⟩ := createFromPlan_ok done
  cases ends.symm.trans sameEnd
  have base : (newSubscription cal id userId plan start endTime
      (before.userGroup userId)).resetBase = start := by
    dsimp only [UserSubscription.resetBase, newSubscription]
    split_ifs
    · rfl
    · rfl
    · rfl
    · omega
  have found : s.store.subs.get? id
      = some (newSubscription cal id userId plan start endTime (before.userGroup userId)) := by
    refine Keyed.get?_eq_some.mpr ⟨?_, rfl⟩
    rw [rows]
    exact mem_append_right _ (mem_singleton_self _)
  refine ⟨⟨_, found, ⟨rfl, rfl, rfl, ?_, ?_, ?_⟩, ?_, ?_⟩, ?_, ?_⟩
  · rw [base]
  · exact .inl base
  · rw [base]
    rfl
  · rw [base, zeroed]
  · rw [base, zeroed]
    rintro ⟨t, _, after, due⟩
    omega
  · rw [zeroed, now]
  · rw [earlier]
    exact pairwise_singleton _ _

theorem PeriodState.KeepsTrack.step {s'} (bought : 0 < start)
    (follows : FollowsBoundaries cal plan start endTime B a.time)
    (keeps : s.KeepsTrack cal plan id start endTime B)
    (moved : (periodMachine cal plan id start).next s a = some s')
    : s'.KeepsTrack cal plan id start endTime B := by
  obtain ⟨⟨inTime, unedited⟩, same⟩ := ite_none_right_eq_some.mp moved
  cases same
  obtain ⟨⟨row, found, track⟩, notBefore, spaced⟩ := keeps
  have later := notBefore.trans inTime
  have rule := resetsRow_rule cal plan id a.time
  obtain ⟨row', found', _, written⟩ := (a.rewrites unedited s.store).get? rule.keepsId found
  obtain ⟨sub, reset, used⟩ := written (Keyed.get?_eq_some.mp found).2 track.onSchedule.planId
  have lastReset : s.store.lastReset id = some row.lastResetTime := by
    rw [Store.lastReset, found, map_some]
  have lastReset' : (Subscriptions.step cal s.store a.action).lastReset id
      = some sub.lastResetTime := by
    rw [Store.lastReset, found', used, map_some]
  -- The row is left alone but for its used amount, or the used amount was zeroed.
  have kept (same : sub = row) : (s.after cal id a).KeepsTrack cal plan id start endTime B := by
    subst same
    rw [after, if_pos (lastReset'.trans lastReset.symm)]
    exact ⟨⟨row', found', used ▸ track.charged _⟩, later, spaced⟩
  rcases reset with same | ⟨iterations, done⟩
  · exact kept same
  · rcases track.reset bought follows later done with
      ⟨_, same⟩ | ⟨passed, track', base, next, moved, same⟩
    · exact kept same
    · have zeroed : (Subscriptions.step cal s.store a.action).lastReset id
          ≠ s.store.lastReset id := by
        rw [lastReset, lastReset', same]
        exact fun unmoved => (track.lastReset_lt bought moved).ne (some.inj unmoved).symm
      rw [after_of_zeroed zeroed]
      exact ⟨⟨row', found', used ▸ track'.charged _⟩, le_rfl, spaced.cons passed⟩

end

/-- In every run of pre-consumes and resets in whose time the days of the server are regular,
whenever the subscription is reset: the reset returns, leaves a next reset that is none or
later, does nothing the second time, and zeroes the used amount exactly if a boundary no
later than the end has passed since it was zeroed last. So a boundary lies between any two
times at which it was zeroed.
-/
theorem resets_follow_boundaries {loc plan id start endTime} (fits : plan.SecondsFit)
    (bought : 0 < start)
    (ends : calcPlanEndTime (zoneCalendar loc) start plan = .ok endTime)
    (endsLater : 0 < endTime) {s}
    (reached : (periodMachine (zoneCalendar loc) plan id start).Reaches
      (fun _ a => RegularUntil loc plan start a.time) s)
    : Spaced (Boundary loc plan start endTime) (s.zeroed :: s.earlier)
      ∧ ∃ sub, s.store.subs.get? id = some sub
        ∧ ∀ now, s.now ≤ now → RegularUntil loc plan start now
          → ResetsExactly (zoneCalendar loc) plan (Boundary loc plan start endTime) s.zeroed
              sub now := by
  have follows {now : ℤ} (regular : RegularUntil loc plan start now) :=
    followsBoundaries_of_regular fits bought endsLater regular
  have keeps : s.KeepsTrack (zoneCalendar loc) plan id start endTime
      (Boundary loc plan start endTime) := by
    refine reached.invariant _ (fun begun => keepsTrack_initial ends begun) ?_
    intro s a s' _ keeps regular moved
    exact keeps.step bought (follows regular) moved
  obtain ⟨⟨sub, found, track⟩, notBefore, spaced⟩ := keeps
  refine ⟨spaced, sub, found, fun now later regular => ?_⟩
  exact track.resetsExactly bought (follows regular) (notBefore.trans later)

def utc : Location := .changing 0 0 0 (by decide)

theorem regularUntil_utc (plan start now) : RegularUntil utc plan start now := by
  intro _ day _ _
  have steady : utc.Steady (day * 86400 - 2 * 86400) (day * 86400 + 3 * 86400) := by
    have zero : ∀ instant, (utc.lookup instant).offset = 0 := by
      intro instant
      change (if instant < 0 then _ else _ : Zone).offset = 0
      split <;> rfl
    intro instant _ _
    rw [zero, zero]
  exact steady.regularDay (by omega) (by omega)

def thirtyDays : PricedPlan :=
  { resetEvery .daily 0 with durationUnit := "day", durationValue := 30 }

def boughtThirtyDays (loc : Location) (start : ℤ) : Store :=
  (Store.fresh fun _ => some "default").committed
    (createUserSubscriptionFromPlanTx (zoneCalendar loc) none 1 1 thirtyDays.toSubscriptionPlan
      start (.fresh fun _ => some "default"))

/-- A subscription bought at 22:13 and reset at midnight, as a use of
`resets_follow_boundaries`.
-/
theorem resets_follow_boundaries_midnight
    : ∃ s : PeriodState, s.zeroed = 1700006400 ∧ s.earlier = [1700000000]
      ∧ Spaced (Boundary utc thirtyDays.toSubscriptionPlan 1700000000 1702592000)
          (s.zeroed :: s.earlier)
      ∧ ∃ sub, s.store.subs.get? 1 = some sub
        ∧ ResetsExactly (zoneCalendar utc) thirtyDays.toSubscriptionPlan
            (Boundary utc thirtyDays.toSubscriptionPlan 1700000000 1702592000) s.zeroed sub
            1700100000 := by
  let m := periodMachine (zoneCalendar utc) thirtyDays.toSubscriptionPlan 1 1700000000
  let s : PeriodState := ⟨boughtThirtyDays utc 1700000000, 1700000000, 1700000000, []⟩
  let a : UsageAction := .resetDue 5 thirtyDays.toSubscriptionPlan none 1700006400 1
  have start : m.initial s := ⟨none, 1, .fresh fun _ => some "default", rfl, rfl, rfl, rfl⟩
  have moved : m.next s a = some (s.after (zoneCalendar utc) 1 a) := rfl
  have zeroed : (step (zoneCalendar utc) s.store a.action).lastReset 1
      ≠ s.store.lastReset 1 := by
    decide
  have regular := regularUntil_utc thirtyDays.toSubscriptionPlan 1700000000
  have fits : thirtyDays.SecondsFit := fun _ => by decide
  have ends : calcPlanEndTime (zoneCalendar utc) 1700000000 thirtyDays.toSubscriptionPlan
      = .ok 1702592000 := rfl
  obtain ⟨spaced, sub, found, resets⟩ := resets_follow_boundaries fits (by decide) ends
    (by decide) (.step (.initial start) (regular _) moved)
  rw [PeriodState.after_of_zeroed zeroed] at spaced found resets
  exact ⟨_, rfl, rfl, spaced, sub, found, resets _ (by decide) (regular _)⟩

/-- Where the clocks skip a midnight, a due reset never returns: the day before the clocks of Chile
change, a plan with a reset at each midnight is bought.
-/
theorem reset_never_returns
    : thirtyDays.Accepted ∧ ∃ s, (periodMachine (zoneCalendar santiago)
        thirtyDays.toSubscriptionPlan 1 1725720000).Reaches anyStep s
      ∧ s.now ≤ 1725764400 ∧ ∃ sub, s.store.subs.get? 1 = some sub
        ∧ sub.nextResetTime = 1725764400
        ∧ ∀ iterations, maybeResetUserSubscriptionWithPlanTx (zoneCalendar santiago) iterations
            thirtyDays.toSubscriptionPlan 1725764400 sub = .error .resetRunning := by
  have accepted : thirtyDays.Accepted := ⟨fun _ => true, 1, thirtyDays, .inl rfl⟩
  refine ⟨accepted, ⟨boughtThirtyDays santiago 1725720000, 1725720000, 1725720000, []⟩,
    .initial ⟨none, 1, .fresh fun _ => some "default", rfl, rfl, rfl, rfl⟩, by decide, _, rfl,
    rfl, ?_⟩
  exact maybeReset_stuck (by decide) rfl rfl (by decide)

end HelsterApi.Subscriptions
