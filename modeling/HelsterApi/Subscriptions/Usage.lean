import HelsterApi.Billing.Session
import HelsterApi.Relational.Table
import Mathlib.Data.List.Sort

/-! The rows of subscriptions, and the transactions that write the used amount: pre-consuming,
adjusting and refunding it, and starting a new period. Amounts are 64-bit words, so a sum can wrap
around; what the calendar makes of a date in the server's time zone is a parameter.
-/

namespace HelsterApi.Subscriptions

open Relational
open Billing (LedgerError RecordStatus isBlank trimSpace)

structure SubscriptionPlan where
  id : ℤ
  title : String := ""
  durationUnit : String := "month"
  durationValue : ℤ := 1
  (customSeconds maxPurchasePerUser : ℤ := 0)
  (upgradeGroup downgradeGroup : String := "")
  totalAmount : Int64 := 0
  quotaResetPeriod : String := "never"
  quotaResetCustomSeconds : ℤ := 0
  deriving DecidableEq

inductive SubscriptionStatus where
  | active | expired | cancelled
  deriving DecidableEq

structure UserSubscription where
  (id userId planId : ℤ)
  (amountTotal amountUsed : Int64)
  (startTime endTime : ℤ)
  status : SubscriptionStatus
  (lastResetTime nextResetTime : ℤ)
  (upgradeGroup prevUserGroup downgradeGroup : String)

structure SubscriptionPreConsumeRecord where
  requestId : String
  (userId userSubscriptionId : ℤ)
  preConsumed : Int64
  status : RecordStatus
  deriving DecidableEq

/-- The subscriptions by id, the pre-consume records by request id, and the group of each user. -/
structure Store where
  subs : Keyed UserSubscription.id
  records : Keyed SubscriptionPreConsumeRecord.requestId
  groups : ℤ → Option String

def Store.fresh (groups : ℤ → Option String) : Store := ⟨Table.empty, Table.empty, groups⟩

def Store.saveSub (s : Store) (sub : UserSubscription) : Store :=
  { s with subs := s.subs.save sub }

/-- The last one is no error of the code: the reset loop has not ended within the iterations it was
given.
-/
inductive SubscriptionError where
  | ledger (error : LedgerError)
  | invalidPlan
  | invalidUser
  | purchaseLimit
  | durationValue
  | customSeconds
  | durationUnit (unit : String)
  | noSubscriptionOfPlan
  | resetRunning
  deriving DecidableEq

def SubscriptionError.message : SubscriptionError → String
  | .ledger error => error.message
  | .invalidPlan => "invalid plan"
  | .invalidUser => "invalid user id"
  | .purchaseLimit => "已达到该套餐购买上限"
  | .durationValue => "duration_value must be > 0"
  | .customSeconds => "custom_seconds must be > 0"
  | .durationUnit unit => "invalid duration_unit: " ++ unit
  | .noSubscriptionOfPlan => "该用户没有有效的此套餐订阅"
  | .resetRunning => ""

/-- A statement that fails with `fault`, the commit included, rolls all of them back. -/
def transaction {α : Type} (fault : Option String) (body : Except SubscriptionError α)
    : Except SubscriptionError α :=
  match fault with
  | some text => .error (.ledger (.database text))
  | none => body

theorem transaction_eq_ok {α : Type} {fault body} {a : α}
    : transaction fault body = .ok a ↔ fault = none ∧ body = .ok a := by
  cases fault <;> simp [transaction]

structure Calendar where
  (addYears addMonths : ℤ → ℤ → ℤ)
  (nextMidnight nextMonday nextMonth : ℤ → ℤ)

/-- `base.Add(time.Duration(count) * unit)`. A duration is a signed 64-bit number of nanoseconds. -/
def addDuration (base count seconds : ℤ) : ℤ :=
  base + (count * seconds * 1000000000).bmod (2 ^ 64) / 1000000000

def calcPlanEndTime (cal : Calendar) (start : ℤ) (plan : SubscriptionPlan)
    : Except SubscriptionError ℤ :=
  if plan.durationValue ≤ 0 ∧ plan.durationUnit ≠ "custom" then .error .durationValue
  else
    match plan.durationUnit with
    | "year" => .ok (cal.addYears start plan.durationValue)
    | "month" => .ok (cal.addMonths start plan.durationValue)
    | "day" => .ok (addDuration start plan.durationValue (24 * 3600))
    | "hour" => .ok (addDuration start plan.durationValue 3600)
    | "custom" =>
      if plan.customSeconds ≤ 0 then .error .customSeconds
      else .ok (addDuration start plan.customSeconds 1)
    | unit => .error (.durationUnit unit)

inductive ResetPeriod where
  | never | daily | weekly | monthly | custom
  deriving DecidableEq

def normalizeResetPeriod (period : String) : ResetPeriod :=
  match trimSpace period with
  | "daily" => .daily
  | "weekly" => .weekly
  | "monthly" => .monthly
  | "custom" => .custom
  | _ => .never

def nextReset (cal : Calendar) (base : ℤ) (plan : SubscriptionPlan) : Option ℤ :=
  match normalizeResetPeriod plan.quotaResetPeriod with
  | .never => none
  | .daily => some (cal.nextMidnight base)
  | .weekly => some (cal.nextMonday base)
  | .monthly => some (cal.nextMonth base)
  | .custom =>
    if plan.quotaResetCustomSeconds ≤ 0 then none
    else some (addDuration base plan.quotaResetCustomSeconds 1)

def calcNextResetTime (cal : Calendar) (base : ℤ) (plan : SubscriptionPlan) (endUnix : ℤ) : ℤ :=
  match nextReset cal base plan with
  | none => 0
  | some next => if 0 < endUnix ∧ endUnix < next then 0 else next

/-- The loop from one reset to the next, until it lies after `now` or there is none: the last
reset passed, the next one and whether any was passed; `none` if the iterations do not suffice.
-/
def advanceReset (cal : Calendar) (plan : SubscriptionPlan) (endTime now : ℤ)
    : ℕ → ℤ → ℤ → Bool → Option (ℤ × ℤ × Bool)
  | iterations, base, next, advanced =>
    if 0 < next ∧ next ≤ now then
      match iterations with
      | 0 => none
      | left + 1 =>
        advanceReset cal plan endTime now left next
          (calcNextResetTime cal next plan endTime) true
    else some (base, next, advanced)

variable {cal : Calendar} {plan : SubscriptionPlan} {endTime now : ℤ} {next : ℤ}

theorem advanceReset_of_not_due (notDue : ¬(0 < next ∧ next ≤ now)) (iterations base)
    (advanced)
    : advanceReset cal plan endTime now iterations base next advanced
      = some (base, next, advanced) := by
  unfold advanceReset
  exact if_neg notDue

variable {iterations : ℕ} {base : ℤ}

/-- A calendar that moves forward up to `now` ends the loop. Only resets the loop can come to
matter, which `visited` bounds. By induction on the iterations left.
-/
theorem advanceReset_ends {visited : ℤ → Prop} (advanced)
    (forward : ∀ reset, visited reset → reset ≤ now
      → calcNextResetTime cal reset plan endTime ≤ 0
        ∨ (reset < calcNextResetTime cal reset plan endTime
          ∧ visited (calcNextResetTime cal reset plan endTime)))
    (ahead : next ≤ 0 ∨ (base < next ∧ visited next)) (enough : now - base ≤ iterations)
    : ∃ outcome, advanceReset cal plan endTime now iterations base next advanced
      = some outcome := by
  induction iterations generalizing base next advanced with
  | zero =>
    have past : ¬(0 < next ∧ next ≤ now) := by omega
    exact ⟨_, advanceReset_of_not_due past 0 base advanced⟩
  | succ left ih =>
    by_cases due : 0 < next ∧ next ≤ now
    · obtain ⟨after, reached⟩ := ahead.resolve_left (by omega)
      rw [advanceReset, if_pos due]
      exact ih true (forward next reached due.2) (by omega)
    · exact ⟨_, advanceReset_of_not_due due _ base advanced⟩

theorem advanceReset_stuck (same : calcNextResetTime cal base plan endTime = base)
    (due : 0 < base ∧ base ≤ now) (iterations advanced)
    : advanceReset cal plan endTime now iterations base base advanced = none := by
  induction iterations generalizing advanced with
  | zero => rw [advanceReset, if_pos due]
  | succ left ih =>
    rw [advanceReset, if_pos due, same]
    exact ih true

def maybeResetUserSubscriptionWithPlanTx (cal : Calendar) (iterations : ℕ)
    (plan : SubscriptionPlan) (now : ℤ) (sub : UserSubscription)
    : Except SubscriptionError UserSubscription :=
  if 0 < sub.nextResetTime ∧ now < sub.nextResetTime then .ok sub
  else if normalizeResetPeriod plan.quotaResetPeriod = .never then .ok sub
  else
    let base := if sub.lastResetTime ≤ 0 then sub.startTime else sub.lastResetTime
    let next := calcNextResetTime cal base plan sub.endTime
    match advanceReset cal plan sub.endTime now iterations base next false with
    | none => .error .resetRunning
    | some (base, next, advanced) =>
      if advanced then
        .ok { sub with amountUsed := 0, lastResetTime := base, nextResetTime := next }
      else if sub.nextResetTime = 0 ∧ 0 < next then
        .ok { sub with lastResetTime := base, nextResetTime := next }
      else .ok sub

variable {sub sub' : UserSubscription}

theorem maybeReset_ok
    (done : maybeResetUserSubscriptionWithPlanTx cal iterations plan now sub = .ok sub')
    : sub' = sub
      ∨ ∃ base next, sub' = { sub with lastResetTime := base, nextResetTime := next }
        ∨ sub' = { sub with amountUsed := 0, lastResetTime := base, nextResetTime := next } := by
  unfold maybeResetUserSubscriptionWithPlanTx at done
  split at done
  · cases done
    exact .inl rfl
  · split at done
    · cases done
      exact .inl rfl
    · dsimp only at done
      split at done
      · cases done
      rename_i base next advanced _
      split at done
      · cases done
        exact .inr ⟨base, next, .inr rfl⟩
      · split at done <;> cases done
        · exact .inr ⟨base, next, .inl rfl⟩
        · exact .inl rfl

theorem maybeReset_id
    (done : maybeResetUserSubscriptionWithPlanTx cal iterations plan now sub = .ok sub')
    : sub'.id = sub.id := by
  rcases maybeReset_ok done with rfl | ⟨base, next, rfl | rfl⟩ <;> rfl

def resetUserSubscriptionTx (cal : Calendar) (plan : SubscriptionPlan) (now : ℤ)
    (advanceResetTime : Bool) (sub : UserSubscription)
    : UserSubscription :=
  if advanceResetTime then
    let next := calcNextResetTime cal now plan sub.endTime
    { sub with
      amountUsed := 0, nextResetTime := next, lastResetTime := if 0 < next then now else 0 }
  else { sub with amountUsed := 0 }

def UserSubscription.EndsBefore (a b : UserSubscription) : Prop :=
  a.endTime < b.endTime ∨ (a.endTime = b.endTime ∧ a.id ≤ b.id)
  deriving Decidable

def Store.activeSubscriptions (s : Store) (now : ℤ) (selects : UserSubscription → Bool)
    : List UserSubscription :=
  (s.subs.rows.filter fun sub =>
    selects sub && decide (sub.status = .active ∧ now < sub.endTime)).insertionSort
      UserSubscription.EndsBefore

def UserSubscription.fits (sub : UserSubscription) (amount : Int64) : Bool :=
  !decide (0 < sub.amountTotal ∧ sub.amountTotal - sub.amountUsed < amount)

/-- A call at a database time; the model name and the quota type it is passed are unused. -/
structure PreConsumeCall where
  requestId : String
  userId : ℤ
  amount : Int64
  now : ℤ
  deriving DecidableEq

/-- The plans looked up, the iterations of the reset loop, whether the transaction can read a
record committed after it began, and the statement that fails.
-/
structure PreConsumeReads where
  plans : ℤ → Except String SubscriptionPlan
  iterations : ℕ
  readsCommitted : Bool
  fault : Option String

structure SubscriptionPreConsumeResult where
  userSubscriptionId : ℤ
  (preConsumed amountTotal amountUsedBefore amountUsedAfter : Int64)
  deriving DecidableEq

def SubscriptionPreConsumeRecord.replay (record : SubscriptionPreConsumeRecord)
    (sub : UserSubscription)
    : SubscriptionPreConsumeResult :=
  ⟨sub.id, record.preConsumed, sub.amountTotal, sub.amountUsed, sub.amountUsed⟩

/-- If the request id is taken, the result is put together from the record and the subscription. -/
def chargeCandidate (w : PreConsumeReads) (call : PreConsumeCall) (sub : UserSubscription)
    (s : Store)
    : Except SubscriptionError (SubscriptionPreConsumeResult × Store) :=
  match s.records.insert ⟨call.requestId, call.userId, sub.id, call.amount, .consumed⟩ with
  | none =>
    match if w.readsCommitted then s.records.get? call.requestId else none with
    | none => .error (.ledger (.database "duplicate key"))
    | some record =>
      if record.status = .refunded then .error (.ledger .alreadyRefunded)
      else .ok (record.replay sub, s)
  | some records =>
    let charged := { sub with amountUsed := sub.amountUsed + call.amount }
    .ok (⟨sub.id, call.amount, sub.amountTotal, sub.amountUsed, charged.amountUsed⟩,
      { s with records := records, subs := s.subs.save charged })

/-- The loop over the active subscriptions: reset what is due, charge the first that fits. -/
def chargeCandidates (cal : Calendar) (w : PreConsumeReads) (call : PreConsumeCall)
    : List UserSubscription → Store
      → Except SubscriptionError (SubscriptionPreConsumeResult × Store)
  | [], _ => .error (.ledger (.quotaInsufficient call.amount.toInt))
  | candidate :: rest, s =>
    match w.plans candidate.planId with
    | .error text => .error (.ledger (.database text))
    | .ok plan =>
      match maybeResetUserSubscriptionWithPlanTx cal w.iterations plan call.now candidate with
      | .error e => .error e
      | .ok sub =>
        let s := s.saveSub sub
        if sub.fits call.amount then chargeCandidate w call sub s
        else chargeCandidates cal w call rest s

/-- What follows a lookup that found no record, from the locking query to the commit. -/
def chargeRequest (cal : Calendar) (w : PreConsumeReads) (call : PreConsumeCall) (s : Store)
    : Except SubscriptionError (SubscriptionPreConsumeResult × Store) :=
  transaction w.fault
    (match s.activeSubscriptions call.now fun sub => decide (sub.userId = call.userId) with
    | [] => .error (.ledger .noActiveSubscription)
    | candidates => chargeCandidates cal w call candidates s)

def PreConsumeCall.check (call : PreConsumeCall) : Except SubscriptionError Unit :=
  if call.userId ≤ 0 then .error (.ledger .invalidUserId)
  else if isBlank call.requestId then .error (.ledger .requestIdEmpty)
  else if call.amount ≤ 0 then .error (.ledger .amountNotPositive)
  else .ok ()

def replayRecord (record : SubscriptionPreConsumeRecord) (s : Store)
    : Except SubscriptionError SubscriptionPreConsumeResult :=
  if record.status = .refunded then .error (.ledger .alreadyRefunded)
  else
    match s.subs.get? record.userSubscriptionId with
    | none => .error (.ledger .recordNotFound)
    | some sub => .ok (record.replay sub)

/-- `PreConsumeUserSubscription` without anything in between its lookup and its charge. -/
def preConsumeUserSubscription (cal : Calendar) (w : PreConsumeReads) (call : PreConsumeCall)
    (s : Store)
    : Except SubscriptionError (SubscriptionPreConsumeResult × Store) :=
  match call.check with
  | .error e => .error e
  | .ok () =>
    match s.records.get? call.requestId with
    | some existing =>
      match replayRecord existing s with
      | .error e => .error e
      | .ok result => .ok (result, s)
    | none => chargeRequest cal w call s

def UserSubscription.usedAfter (sub : UserSubscription) (delta : Int64) : Int64 :=
  if sub.amountUsed + delta < 0 then 0 else sub.amountUsed + delta

def postConsumeUserSubscriptionDelta (fault : Option String) (userSubscriptionId : ℤ)
    (delta : Int64) (s : Store)
    : Except SubscriptionError Store :=
  if userSubscriptionId ≤ 0 then .error (.ledger .invalidUserSubscriptionId)
  else if delta = 0 then .ok s
  else
    transaction fault
      (match s.subs.get? userSubscriptionId with
      | none => .error (.ledger .recordNotFound)
      | some sub =>
        let newUsed := sub.usedAfter delta
        if 0 < sub.amountTotal ∧ sub.amountTotal < newUsed then
          .error (.ledger (.usedExceedsTotal newUsed.toInt sub.amountTotal.toInt))
        else .ok (s.saveSub { sub with amountUsed := newUsed }))

variable {fault : Option String} {s s' : Store} {id : ℤ}

theorem postConsumeDelta_records {delta}
    (done : postConsumeUserSubscriptionDelta fault id delta s = .ok s')
    : s'.records = s.records := by
  unfold postConsumeUserSubscriptionDelta at done
  split at done
  · cases done
  split at done
  · cases done
    rfl
  · obtain ⟨_, done⟩ := transaction_eq_ok.mp done
    split at done
    · cases done
    dsimp only at done
    split at done
    · cases done
    cases done
    rfl

def markRefunded (fault : Option String) (record : SubscriptionPreConsumeRecord) (s : Store)
    : Option SubscriptionError × Store :=
  match fault with
  | some text => (some (.ledger (.database text)), s)
  | none => (none, { s with records := s.records.save { record with status := .refunded } })

/-- With the rows it leaves even when it fails: the adjustment is a transaction of its own. -/
def refundSubscriptionPreConsume (deltaFault recordFault : Option String)
    (requestId : String) (s : Store)
    : Option SubscriptionError × Store :=
  if isBlank requestId then (some (.ledger .requestIdEmpty), s)
  else
    match s.records.get? requestId with
    | none => (some (.ledger .recordNotFound), s)
    | some record =>
      if record.status = .refunded then (none, s)
      else if record.preConsumed ≤ 0 then markRefunded recordFault record s
      else
        match postConsumeUserSubscriptionDelta deltaFault record.userSubscriptionId
          (-record.preConsumed) s with
        | .error e => (some e, s)
        | .ok adjusted => markRefunded recordFault record adjusted

/-- `ResetDueSubscriptions` for one subscription: its row is read again and left alone if not
due.
-/
def resetDueSubscription (cal : Calendar) (iterations : ℕ) (plan : SubscriptionPlan)
    (fault : Option String) (now id : ℤ) (s : Store)
    : Except SubscriptionError Store :=
  transaction fault
    (match s.subs.get? id with
    | none => .ok s
    | some locked =>
      if 0 < locked.nextResetTime ∧ locked.nextResetTime ≤ now then
        match maybeResetUserSubscriptionWithPlanTx cal iterations plan now locked with
        | .error e => .error e
        | .ok sub => .ok (s.saveSub sub)
      else .ok s)

theorem resetDueOne_records
    (done : resetDueSubscription cal iterations plan fault now id s = .ok s')
    : s'.records = s.records := by
  obtain ⟨_, done⟩ := transaction_eq_ok.mp done
  split at done
  · cases done
    rfl
  · split at done
    · split at done
      · cases done
      · cases done
        rfl
    · cases done
      rfl

structure SubscriptionResetResult where
  planId : ℤ
  (matchedCount resetCount userCount : ℕ)
  advanceResetTime : Bool
  planTitle : String
  affectedUserIds : List ℤ

/-- The users in the order of their first subscription. -/
def buildSubscriptionResetResult (plan : SubscriptionPlan) (subs : List UserSubscription)
    (advanceResetTime : Bool)
    : SubscriptionResetResult :=
  let userIds := (subs.map UserSubscription.userId).reverse.dedup.reverse
  ⟨plan.id, subs.length, subs.length, userIds.length, advanceResetTime, plan.title, userIds⟩

def resetEach (cal : Calendar) (plan : SubscriptionPlan) (now : ℤ) (advanceResetTime : Bool)
    (subs : List UserSubscription) (s : Store)
    : Store :=
  subs.foldl
    (fun s sub => s.saveSub (resetUserSubscriptionTx cal plan now advanceResetTime sub)) s

/-- Resetting several subscriptions leaves the records alone, by induction on them. -/
theorem resetEach_records (cal plan now)
    (advanceResetTime subs) (s : Store)
    : (resetEach cal plan now advanceResetTime subs s).records = s.records := by
  induction subs generalizing s with
  | nil => rfl
  | cons sub rest ih =>
    exact ih (s.saveSub (resetUserSubscriptionTx cal plan now advanceResetTime sub))

def adminResetUserSubscriptionsByPlanTx (cal : Calendar) (fault : Option String)
    (userId : ℤ) (plan : SubscriptionPlan) (now : ℤ) (advanceResetTime : Bool) (s : Store)
    : Except SubscriptionError (SubscriptionResetResult × Store) :=
  transaction fault
    (match s.activeSubscriptions now fun sub =>
      decide (sub.userId = userId ∧ sub.planId = plan.id) with
    | [] => .error .noSubscriptionOfPlan
    | subs =>
      .ok (buildSubscriptionResetResult plan subs advanceResetTime,
        resetEach cal plan now advanceResetTime subs s))

variable {advanceResetTime : Bool}

/-- The rows of one user are reset together. -/
def adminResetPlanSubscriptionsTx (cal : Calendar) (fault : Option String)
    (plan : SubscriptionPlan) (now : ℤ) (advanceResetTime : Bool) (s : Store)
    : Except SubscriptionError (SubscriptionResetResult × Store) :=
  transaction fault
    (let subs := (s.activeSubscriptions now fun sub => decide (sub.planId = plan.id))
        |>.insertionSort fun a b => a.userId ≤ b.userId
    .ok (buildSubscriptionResetResult plan subs advanceResetTime,
      resetEach cal plan now advanceResetTime subs s))

end HelsterApi.Subscriptions
