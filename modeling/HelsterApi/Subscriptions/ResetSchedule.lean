import HelsterApi.Subscriptions.ResetTimes

/-! The boundaries at which the quota of a plan starts anew, said without the code, and what the
reset of a subscription makes of them: it passes all boundaries up to the current time at once.
-/

namespace HelsterApi.Subscriptions

open Clock ResetPeriod

def ResetPeriod.BeginsOn : ResetPeriod → ℤ → Prop
  | .daily, _ => True
  | .weekly, day => (day + 4) % 7 = 1
  | .monthly, day => monthStart (monthOf day) = day
  | .never, _ | .custom, _ => False

/-- A new period begins: the first instant of a day, a Monday or a month on the server's clocks, or
some number of the plan's seconds after the purchase.
-/
def IsBoundary (loc : Location) (plan : SubscriptionPlan) (start instant : ℤ) : Prop :=
  match normalizeResetPeriod plan.quotaResetPeriod with
  | .custom =>
    0 < plan.quotaResetCustomSeconds
      ∧ ∃ count : ℕ, instant = start + (count + 1) * plan.quotaResetCustomSeconds
  | period => loc.DayBegins instant ∧ period.BeginsOn (loc.day instant)

/-- A new period begins no later than the end of the subscription. -/
def Boundary (loc : Location) (plan : SubscriptionPlan) (start endTime instant : ℤ) : Prop :=
  IsBoundary loc plan start instant ∧ instant ≤ endTime

def Passed (B : ℤ → Prop) (base now : ℤ) : Prop :=
  ∃ instant, B instant ∧ base < instant ∧ instant ≤ now

/-- If the plan follows the calendar, the days from five weeks before `start` to five weeks
after `now` are regular.
-/
def RegularUntil (loc : Location) (plan : SubscriptionPlan) (start now : ℤ) : Prop :=
  plan.FollowsCalendar → ∀ day, start - 35 * 86400 ≤ day * 86400
    → day * 86400 ≤ now + 35 * 86400 → loc.RegularDay day

/-- The nanoseconds of the plan's seconds, if it counts them, fit into a signed 64-bit word. -/
def SubscriptionPlan.SecondsFit (plan : SubscriptionPlan) : Prop :=
  normalizeResetPeriod plan.quotaResetPeriod = .custom
    → plan.quotaResetCustomSeconds * 1000000000 < 2 ^ 63

section Calendar

variable {loc : Location} {plan : SubscriptionPlan} {start base now : ℤ}

theorem RegularUntil.days (regular : RegularUntil loc plan start now)
    (follows : plan.FollowsCalendar) (after : start ≤ base) (before : base ≤ now)
    : loc.RegularDays (loc.day base - 31) (loc.day base + 31) := by
  have near := Location.day_bounds loc base
  exact fun day low high => regular follows day (by omega) (by omega)

section

variable (days : loc.RegularDays (loc.day base - 31) (loc.day base + 31))

include days

theorem nextMidnight_firstAfter
    : FirstAfter (fun t => loc.DayBegins t ∧ daily.BeginsOn (loc.day t)) base
        ((zoneCalendar loc).nextMidnight base) := by
  have next : (zoneCalendar loc).nextMidnight base = loc.midnight (loc.day base + 1) :=
    (days (loc.day base) (by omega) (by omega)).shows.addDays 1
  rw [next]
  refine (days.within (by omega) (by omega)).firstAfter (by omega) trivial ?_
  intro day low high
  omega

theorem nextMonday_firstAfter
    : FirstAfter (fun t => loc.DayBegins t ∧ weekly.BeginsOn (loc.day t)) base
        ((zoneCalendar loc).nextMonday base) := by
  have ofWeek : loc.weekday base = (loc.day base + 4) % 7 := rfl
  have next : (zoneCalendar loc).nextMonday base
      = loc.midnight (loc.day base + (8 - if loc.weekday base = 0 then 7 else loc.weekday base)) :=
    (days (loc.day base) (by omega) (by omega)).shows.addDays _
  rw [next]
  generalize found : (8 - if loc.weekday base = 0 then 7 else loc.weekday base) = ahead
  have monday : 1 ≤ ahead ∧ ahead ≤ 7 ∧ (loc.day base + ahead + 4) % 7 = 1 := by
    split at found <;> omega
  refine (days.within (by omega) (by omega)).firstAfter (by omega) monday.2.2 ?_
  intro day low high begins
  change (day + 4) % 7 = 1 at begins
  omega

theorem nextMonth_firstAfter
    : FirstAfter (fun t => loc.DayBegins t ∧ monthly.BeginsOn (loc.day t)) base
        ((zoneCalendar loc).nextMonth base) := by
  obtain ⟨begins, ends⟩ := monthOf_spec (loc.day base)
  have length := monthStart_succ (monthOf (loc.day base))
  have next : (zoneCalendar loc).nextMonth base
      = loc.midnight (monthStart (monthOf (loc.day base) + 1)) :=
    (days (monthStart (monthOf (loc.day base))) (by omega) (by omega)).shows.addMonths 1
  rw [next]
  refine (days.within (by omega) (by omega)).firstAfter ends ?_ ?_
  · exact congrArg monthStart (monthOf_eq le_rfl (monthStart_succ _).1)
  · intro day low high first
    have sameMonth := monthOf_eq (by omega) high
    change monthStart (monthOf day) = day at first
    rw [sameMonth] at first
    omega

end

theorem addDuration_of_fit {seconds} (positive : 0 < seconds)
    (fits : seconds * 1000000000 < 2 ^ 63) (base)
    : addDuration base seconds 1 = base + seconds := by
  have word : (seconds * 1 * 1000000000).bmod (2 ^ 64) = seconds * 1000000000 := by
    rw [mul_one]
    apply Int.bmod_eq_of_le <;> omega
  rw [addDuration, word, Int.mul_ediv_cancel _ (by decide)]

theorem firstAfter_multiple {seconds start base : ℤ} (positive : 0 < seconds)
    (aligned : base = start ∨ 0 < seconds ∧ ∃ count : ℕ, base = start + (count + 1) * seconds)
    : FirstAfter (fun t => 0 < seconds ∧ ∃ count : ℕ, t = start + (count + 1) * seconds) base
        (base + seconds) := by
  obtain ⟨count, rfl⟩ : ∃ count : ℕ, base = start + count * seconds := by
    rcases aligned with purchase | ⟨_, count, boundary⟩
    · exact ⟨0, by simp [purchase]⟩
    · exact ⟨count + 1, by rw [boundary, Nat.cast_add_one]⟩
  refine ⟨⟨positive, count, by ring⟩, by omega, ?_⟩
  rintro t ⟨_, other, rfl⟩ later
  have more : (count : ℤ) * seconds < (other + 1) * seconds := by omega
  have counted := lt_of_mul_lt_mul_right more positive.le
  calc start + count * seconds + seconds = start + (count + 1) * seconds := by ring
    _ ≤ start + (other + 1) * seconds := by gcongr; omega

theorem nextReset_firstAfter (fits : plan.SecondsFit)
    (regular : RegularUntil loc plan start now) (after : start ≤ base) (before : base ≤ now)
    (aligned : base = start ∨ IsBoundary loc plan start base)
    : (nextReset (zoneCalendar loc) base plan = none ∧ ∀ t, ¬ IsBoundary loc plan start t)
      ∨ ∃ next, nextReset (zoneCalendar loc) base plan = some next
        ∧ FirstAfter (IsBoundary loc plan start) base next := by
  have days : plan.FollowsCalendar
      → loc.RegularDays (loc.day base - 31) (loc.day base + 31) :=
    fun follows => regular.days follows after before
  unfold SubscriptionPlan.FollowsCalendar at days
  unfold nextReset IsBoundary
  unfold IsBoundary at aligned
  cases period : normalizeResetPeriod plan.quotaResetPeriod with
  | never => exact .inl ⟨rfl, fun t boundary => boundary.2⟩
  | daily => exact .inr ⟨_, rfl, nextMidnight_firstAfter (days (by simp [period]))⟩
  | weekly => exact .inr ⟨_, rfl, nextMonday_firstAfter (days (by simp [period]))⟩
  | monthly => exact .inr ⟨_, rfl, nextMonth_firstAfter (days (by simp [period]))⟩
  | custom =>
    rw [period] at aligned
    by_cases none : plan.quotaResetCustomSeconds ≤ 0
    · exact .inl ⟨if_pos none, fun t boundary => absurd boundary.1 (not_lt.mpr none)⟩
    · have positive := not_le.mp none
      refine .inr ⟨base + plan.quotaResetCustomSeconds, ?_, ?_⟩
      · simp [none, addDuration_of_fit positive (fits period)]
      · exact firstAfter_multiple positive aligned

end Calendar

def UserSubscription.resetBase (sub : UserSubscription) : ℤ :=
  if sub.lastResetTime ≤ 0 then sub.startTime else sub.lastResetTime

def UserSubscription.renewed (sub : UserSubscription) (base next : ℤ) : UserSubscription :=
  { sub with amountUsed := 0, lastResetTime := base, nextResetTime := next }

section Reset

variable {cal : Calendar} {plan : SubscriptionPlan} {now : ℤ}

/-- Where the loop stops no reset is due. It has advanced if one was due before, and past the
first if the resets move forward. By induction on the iterations.
-/
theorem advanceReset_stops {endTime iterations base next base' next' advanced advanced'}
    (ended : advanceReset cal plan endTime now iterations base next advanced
      = some (base', next', advanced')) (due : 0 < next ∧ next ≤ now)
    : ¬(0 < next' ∧ next' ≤ now) ∧ advanced' = true ∧ base' ≤ now
      ∧ ((∀ reset, next ≤ reset → reset ≤ now → ResetsForward cal plan reset endTime)
        → next ≤ base') := by
  induction iterations generalizing base next advanced with
  | zero =>
    simp [advanceReset, due] at ended
  | succ left ih =>
    rw [advanceReset, if_pos due] at ended
    by_cases again : 0 < calcNextResetTime cal next plan endTime
        ∧ calcNextResetTime cal next plan endTime ≤ now
    · obtain ⟨notDue, moved, before, past⟩ := ih ended again
      refine ⟨notDue, moved, before, fun forward => ?_⟩
      have later := (forward next le_rfl due.2).resolve_left again.1.ne'
      exact later.le.trans (past fun reset after => forward reset (later.le.trans after))
    · rw [advanceReset_of_not_due again] at ended
      cases ended
      exact ⟨again, rfl, due.2, fun _ => le_rfl⟩

variable {sub : UserSubscription}

theorem maybeReset_of_not_due (notDue : ¬(0 < calcNextResetTime cal sub.resetBase plan sub.endTime
      ∧ calcNextResetTime cal sub.resetBase plan sub.endTime ≤ now))
    (planned : sub.nextResetTime = 0 → calcNextResetTime cal sub.resetBase plan sub.endTime ≤ 0)
    (iterations)
    : maybeResetUserSubscriptionWithPlanTx cal iterations plan now sub = .ok sub := by
  unfold maybeResetUserSubscriptionWithPlanTx
  rw [← UserSubscription.resetBase]
  dsimp only
  rw [advanceReset_of_not_due notDue]
  split
  · rfl
  · split
    · rfl
    · simp only [Bool.false_eq_true, if_false]
      rw [if_neg (by omega)]

theorem maybeReset_of_due (reached : ¬(0 < sub.nextResetTime ∧ now < sub.nextResetTime))
    (due : 0 < calcNextResetTime cal sub.resetBase plan sub.endTime
      ∧ calcNextResetTime cal sub.resetBase plan sub.endTime ≤ now) (iterations)
    : maybeResetUserSubscriptionWithPlanTx cal iterations plan now sub
      = match advanceReset cal plan sub.endTime now iterations sub.resetBase
          (calcNextResetTime cal sub.resetBase plan sub.endTime) false with
        | none => .error .resetRunning
        | some (base, next, _) => .ok (sub.renewed base next) := by
  have resets : ¬ normalizeResetPeriod plan.quotaResetPeriod = .never := by
    intro never
    rw [calcNextResetTime_never never] at due
    omega
  unfold maybeResetUserSubscriptionWithPlanTx
  rw [if_neg reached, if_neg resets, ← UserSubscription.resetBase]
  dsimp only
  cases ended : advanceReset cal plan sub.endTime now iterations sub.resetBase
      (calcNextResetTime cal sub.resetBase plan sub.endTime) false with
  | none => rfl
  | some outcome =>
    obtain ⟨base, next, advanced⟩ := outcome
    exact if_pos (advanceReset_stops ended due).2.1

theorem maybeReset_stuck {next} (reached : sub.nextResetTime ≤ now)
    (first : calcNextResetTime cal sub.resetBase plan sub.endTime = next)
    (same : calcNextResetTime cal next plan sub.endTime = next) (due : 0 < next ∧ next ≤ now)
    (iterations)
    : maybeResetUserSubscriptionWithPlanTx cal iterations plan now sub = .error .resetRunning := by
  have runs : advanceReset cal plan sub.endTime now iterations sub.resetBase next false
      = none := by
    cases iterations with
    | zero => rw [advanceReset, if_pos due]
    | succ left => rw [advanceReset, if_pos due, same, advanceReset_stuck same due]
  rw [maybeReset_of_due (by omega) (by rwa [first]), first, runs]

end Reset

def NextOf (B : ℤ → Prop) (base next : ℤ) : Prop :=
  (next = 0 ∧ ∀ instant, B instant → instant ≤ base) ∨ (0 < next ∧ FirstAfter B base next)

/-- Up to `now`, from the purchase or a boundary on, the next reset is the next boundary. -/
def FollowsBoundaries (cal : Calendar) (plan : SubscriptionPlan) (start endTime : ℤ)
    (B : ℤ → Prop) (now : ℤ)
    : Prop :=
  ∀ base, start ≤ base → base ≤ now → (base = start ∨ B base)
    → NextOf B base (calcNextResetTime cal base plan endTime)

theorem followsBoundaries_of_regular {loc plan start endTime now} (fits : plan.SecondsFit)
    (bought : 0 < start)
    (ends : 0 < endTime) (regular : RegularUntil loc plan start now)
    : FollowsBoundaries (zoneCalendar loc) plan start endTime
        (Boundary loc plan start endTime) now := by
  intro base after before aligned
  have next := nextReset_firstAfter fits regular after before (aligned.imp_right And.left)
  unfold calcNextResetTime
  rcases next with ⟨found, never⟩ | ⟨next, found, first⟩ <;> rw [found]
  · exact .inl ⟨rfl, fun t boundary => absurd boundary.1 (never t)⟩
  · dsimp only
    have later := first.later
    split
    next beyond =>
      refine .inl ⟨rfl, fun t boundary => ?_⟩
      by_contra afterBase
      have least := first.least t boundary.1 (not_le.mp afterBase)
      have inTime := boundary.2
      omega
    next inTime =>
      refine .inr ⟨by omega, ⟨first.holds, by omega⟩, later, ?_⟩
      exact fun t boundary => first.least t boundary.1

theorem NextOf.due_iff {B base next} (first : NextOf B base next) (now)
    : (0 < next ∧ next ≤ now) ↔ Passed B base now := by
  rcases first with ⟨zero, none⟩ | ⟨positive, first⟩
  · constructor
    · omega
    · rintro ⟨t, boundary, after, before⟩
      have earlier := none t boundary
      omega
  · constructor
    · rintro ⟨_, due⟩
      exact ⟨next, first.holds, first.later, due⟩
    · rintro ⟨t, boundary, after, before⟩
      exact ⟨positive, (first.least t boundary after).trans before⟩

section Schedule

variable {cal : Calendar} {plan : SubscriptionPlan} {start endTime now : ℤ} {B : ℤ → Prop}

/-- `base` is the purchase or a boundary, `next` is the reset after it, and no boundary has passed
in between.
-/
structure CaughtUp (cal : Calendar) (plan : SubscriptionPlan) (start endTime : ℤ)
    (B : ℤ → Prop) (now base next : ℤ)
    : Prop where
  after : start ≤ base
  before : base ≤ now
  aligned : base = start ∨ B base
  next_eq : next = calcNextResetTime cal base plan endTime
  nonePassed : ¬ Passed B base now

variable {iterations : ℕ} {base : ℤ}

/-- The loop stops at once if no boundary has passed, otherwise at the last one. By induction on
the iterations.
-/
theorem advanceReset_outcome (follows : FollowsBoundaries cal plan start endTime B now)
    {base' next' advanced advanced'} (after : start ≤ base) (before : base ≤ now)
    (aligned : base = start ∨ B base) (ended : advanceReset cal plan endTime now iterations base
      (calcNextResetTime cal base plan endTime) advanced = some (base', next', advanced'))
    : CaughtUp cal plan start endTime B now base' next'
      ∧ ((¬ Passed B base now ∧ base' = base) ∨ (Passed B base now ∧ base < base')) := by
  induction iterations generalizing base advanced with
  | zero =>
    have due_iff := (follows base after before aligned).due_iff now
    by_cases passed : Passed B base now
    · simp [advanceReset, (due_iff.mpr passed)] at ended
    · rw [advanceReset_of_not_due (mt due_iff.mp passed)] at ended
      cases ended
      exact ⟨⟨after, before, aligned, rfl, passed⟩, .inl ⟨passed, rfl⟩⟩
  | succ left ih =>
    have first := follows base after before aligned
    have due_iff := first.due_iff now
    by_cases passed : Passed B base now
    · have due := due_iff.mpr passed
      rw [advanceReset, if_pos due] at ended
      obtain ⟨_, next⟩ := first.resolve_left (fun none => by omega)
      have later := next.later
      obtain ⟨caughtUp, outcome⟩ := ih (by omega) due.2 (.inr next.holds) ended
      refine ⟨caughtUp, .inr ⟨passed, ?_⟩⟩
      rcases outcome with ⟨_, same⟩ | ⟨_, moved⟩ <;> omega
    · rw [advanceReset_of_not_due (mt due_iff.mp passed)] at ended
      cases ended
      exact ⟨⟨after, before, aligned, rfl, passed⟩, .inl ⟨passed, rfl⟩⟩

theorem advanceReset_caughtUp (follows : FollowsBoundaries cal plan start endTime B now)
    (after : start ≤ base) (before : base ≤ now) (aligned : base = start ∨ B base)
    (enough : now - base ≤ iterations)
    : ∃ outcome, advanceReset cal plan endTime now iterations base
      (calcNextResetTime cal base plan endTime) false = some outcome := by
  have forward : ∀ reset, (start ≤ reset ∧ (reset = start ∨ B reset)) → reset ≤ now
      → calcNextResetTime cal reset plan endTime ≤ 0
        ∨ (reset < calcNextResetTime cal reset plan endTime
          ∧ (start ≤ calcNextResetTime cal reset plan endTime
            ∧ (calcNextResetTime cal reset plan endTime = start
              ∨ B (calcNextResetTime cal reset plan endTime)))) := by
    rintro reset ⟨afterStart, onBoundary⟩ beforeNow
    rcases follows reset afterStart beforeNow onBoundary with ⟨none, _⟩ | ⟨_, next⟩
    · exact .inl none.le
    · have later := next.later
      exact .inr ⟨later, by omega, .inr next.holds⟩
  exact advanceReset_ends false forward (forward base ⟨after, aligned⟩ before) enough

/-- The last reset is the purchase or a boundary, and the next reset is the one after it. -/
structure OnSchedule (cal : Calendar) (plan : SubscriptionPlan) (start endTime : ℤ)
    (B : ℤ → Prop) (sub : UserSubscription)
    : Prop where
  planId : sub.planId = plan.id
  startTime : sub.startTime = start
  endTime_eq : sub.endTime = endTime
  after : start ≤ sub.resetBase
  aligned : sub.resetBase = start ∨ B sub.resetBase
  next_eq : sub.nextResetTime = calcNextResetTime cal sub.resetBase plan endTime

variable {sub : UserSubscription}

theorem OnSchedule.renewed {next} (bought : 0 < start)
    (on : OnSchedule cal plan start endTime B sub)
    (caughtUp : CaughtUp cal plan start endTime B now base next)
    : OnSchedule cal plan start endTime B (sub.renewed base next)
      ∧ (sub.renewed base next).resetBase = base := by
  have after := caughtUp.after
  have same : (sub.renewed base next).resetBase = base := by
    have positive : ¬ base ≤ 0 := by omega
    exact if_neg positive
  refine ⟨⟨on.planId, on.startTime, on.endTime_eq, ?_, ?_, ?_⟩, same⟩ <;> rw [same]
  · exact after
  · exact caughtUp.aligned
  · exact caughtUp.next_eq

theorem maybeReset_idle (follows : FollowsBoundaries cal plan start endTime B now)
    (on : OnSchedule cal plan start endTime B sub) (before : sub.resetBase ≤ now)
    (nonePassed : ¬ Passed B sub.resetBase now) (iterations)
    : maybeResetUserSubscriptionWithPlanTx cal iterations plan now sub = .ok sub := by
  have first := follows sub.resetBase on.after before on.aligned
  have planned := on.next_eq
  have ends := on.endTime_eq
  subst ends
  exact maybeReset_of_not_due (mt (first.due_iff now).mp nonePassed) (by omega) iterations

theorem maybeReset_renews (follows : FollowsBoundaries cal plan start endTime B now)
    (on : OnSchedule cal plan start endTime B sub) (before : sub.resetBase ≤ now)
    (passed : Passed B sub.resetBase now)
    : (now - sub.resetBase ≤ iterations → ∃ sub',
        maybeResetUserSubscriptionWithPlanTx cal iterations plan now sub = .ok sub')
      ∧ ∀ sub', maybeResetUserSubscriptionWithPlanTx cal iterations plan now sub = .ok sub'
        → ∃ base next, sub' = sub.renewed base next ∧ sub.resetBase < base
          ∧ CaughtUp cal plan start endTime B now base next := by
  have first := follows sub.resetBase on.after before on.aligned
  have due := (first.due_iff now).mpr passed
  have planned := on.next_eq
  have ends := on.endTime_eq
  subst ends
  rw [maybeReset_of_due (by omega) due]
  constructor
  · intro enough
    obtain ⟨⟨base, next, advanced⟩, ended⟩ :=
      advanceReset_caughtUp follows on.after before on.aligned enough
    rw [ended]
    exact ⟨sub.renewed base next, rfl⟩
  · intro sub' done
    cases ended : advanceReset cal plan sub.endTime now iterations sub.resetBase
        (calcNextResetTime cal sub.resetBase plan sub.endTime) false with
    | none => simp [ended] at done
    | some outcome =>
      obtain ⟨base, next, advanced⟩ := outcome
      obtain ⟨caughtUp, outcome⟩ := advanceReset_outcome follows on.after before on.aligned ended
      obtain ⟨_, moved⟩ := outcome.resolve_left fun idle => idle.1 passed
      rw [ended] at done
      cases done
      exact ⟨base, next, rfl, moved, caughtUp⟩

end Schedule

end HelsterApi.Subscriptions
