import HelsterApi.Subscriptions.ResetSchedule

/-! The maintenance task: passes over batches of subscriptions that have ended or whose reset is
due, one transaction each, until a batch is not full.
-/

namespace HelsterApi.Subscriptions

open List Relational UserSubscription
open Control

def batchLimit (limit : ℤ) : ℕ :=
  if limit ≤ 0 then 200 else limit.toNat

/-- How a pass over ended subscriptions comes out: its query, and each user's transaction. -/
structure ExpiryReads where
  queryFault : Option String
  users : ℤ → EndReads

def UserSubscription.ended (sub : UserSubscription) (now : ℤ) : Bool :=
  decide (sub.status = .active ∧ 0 < sub.endTime ∧ sub.endTime ≤ now)

variable (s : Store)

def Store.expiryBatch (limit now : ℤ) : List UserSubscription :=
  ((s.subs.rows.filter (·.ended now)).insertionSort EndsBefore).take
    (batchLimit limit)

def expireEach (w : ℤ → EndReads) (now : ℤ)
    : List ℤ → ℕ → Store → Except SubscriptionError ℕ × Store
  | [], count, s => (.ok count, s)
  | userId :: rest, count, s =>
    match expireUserSubscriptions (w userId) userId now s with
    | .error e => (.error e, s)
    | .ok s' => expireEach w now rest (count + s.subs.rows.countP (·.due userId now)) s'

/-- The order of the users is that of their first row. -/
def expireDueSubscriptions (w : ExpiryReads) (limit now : ℤ) (s : Store)
    : Except SubscriptionError ℕ × Store :=
  match w.queryFault with
  | some text => (.error (.ledger (.database text)), s)
  | none =>
    let userIds := ((s.expiryBatch limit now).map userId).filter (0 < ·)
    expireEach w.users now userIds.reverse.dedup.reverse 0 s

/-- How a pass over due resets comes out: its query, and for each subscription the plan, whether the
row is read again, and its transaction.
-/
structure SweepReads where
  queryFault : Option String
  plans : ℤ → Except String SubscriptionPlan
  lockRead : ℤ → Bool
  faults : ℤ → Option String

def UserSubscription.resetDue (sub : UserSubscription) (now : ℤ) : Bool :=
  decide (sub.status = .active ∧ 0 < sub.nextResetTime ∧ sub.nextResetTime ≤ now)

def Store.resetBatch (limit now : ℤ) : List UserSubscription :=
  ((s.subs.rows.filter (·.resetDue now)).insertionSort
    fun a b => a.nextResetTime ≤ b.nextResetTime).take (batchLimit limit)

/-- The transaction of one subscription, and whether it counts as reset. A row that cannot be
read, or is not due any more, is skipped.
-/
def resetLocked (cal : Calendar) (iterations : ℕ) (w : SweepReads) (plan : SubscriptionPlan)
    (now id : ℤ) (s : Store)
    : Except SubscriptionError (Bool × Store) :=
  if w.lockRead id then
    match resetDueSubscription cal iterations plan (w.faults id) now id s with
    | .error e => .error e
    | .ok s' =>
      .ok ((s.subs.get? id).any fun row =>
        decide (0 < row.nextResetTime ∧ row.nextResetTime ≤ now), s')
  else transaction (w.faults id) (.ok (false, s))

/-- The transactions of a batch, with the subscriptions counted so far; `none` if one does not
return. One whose plan is not found is skipped.
-/
def resetEachDue (cal : Calendar) (iterations : ℕ) (w : SweepReads) (now : ℤ)
    : List UserSubscription → List ℤ → Store
      → Option (Except SubscriptionError (List ℤ) × Store)
  | [], counted, s => some (.ok counted, s)
  | sub :: rest, counted, s =>
    match w.plans sub.planId with
    | .error _ => resetEachDue cal iterations w now rest counted s
    | .ok plan =>
      match resetLocked cal iterations w plan now sub.id s with
      | .error .resetRunning => none
      | .error e => some (.error e, s)
      | .ok (true, s') => resetEachDue cal iterations w now rest (counted ++ [sub.id]) s'
      | .ok (false, s') => resetEachDue cal iterations w now rest counted s'

def resetDueSubscriptions (cal : Calendar) (iterations : ℕ) (w : SweepReads) (limit now : ℤ)
    (s : Store)
    : Option (Except SubscriptionError (List ℤ) × Store) :=
  match w.queryFault with
  | some text => some (.error (.ledger (.database text)), s)
  | none => resetEachDue cal iterations w now (s.resetBatch limit now) [] s

def subscriptionResetBatchSize : ℕ := 300

/-- Whether another run is going on, and for each pass the database time and its statements. -/
structure MaintenanceReads where
  running : Bool
  expiryTime : ℕ → ℤ
  expiry : ℕ → ExpiryReads
  sweepTime : ℕ → ℤ
  sweep : ℕ → SweepReads

variable (r : MaintenanceReads)

def MaintenanceReads.expiryPass (k : ℕ) (s : Store) : Option (Except SubscriptionError ℕ × Store) :=
  some (expireDueSubscriptions (r.expiry k) subscriptionResetBatchSize (r.expiryTime k) s)

def MaintenanceReads.sweepPass (cal : Calendar) (iterations k : ℕ) (s : Store)
    : Option (Except SubscriptionError ℕ × Store) :=
  (resetDueSubscriptions cal iterations (r.sweep k) subscriptionResetBatchSize (r.sweepTime k)
    s).map fun (counted, s') => (counted.map length, s')

/-- Up to the cleanup of old records; `none` if it does not end within its passes. -/
def runSubscriptionQuotaResetOnce (cal : Calendar) (iterations : ℕ) (r : MaintenanceReads)
    (passes : ℕ) (s : Store)
    : Option Store :=
  if r.running then some s
  else
    match batchLoop r.expiryPass subscriptionResetBatchSize passes 0 s with
    | none => none
    | some (.error _, s') => some s'
    | some (.ok (), s') =>
      match batchLoop (r.sweepPass cal iterations) subscriptionResetBatchSize passes 0 s' with
      | none => none
      | some (_, s'') => some s''

def Store.activeCount : ℕ := s.subs.rows.countP fun sub => decide (sub.status = .active)

/-- The rows a user's expiry counts are active no more, by induction on the rows. -/
theorem Store.activeCount_expire (userId now : ℤ)
    : (s.expire userId now).activeCount + s.subs.rows.countP (·.due userId now)
      = s.activeCount := by
  change (s.subs.rows.map _).countP _ + _ = s.subs.rows.countP _
  induction s.subs.rows with
  | nil => rfl
  | cons sub rest ih =>
    rw [map_cons, countP_cons, countP_cons, countP_cons]
    have single : (if decide ((written (·.due userId now) expired
          sub).status = .active) then 1 else 0) + (if sub.due userId now then 1 else 0)
        = if decide (sub.status = .active) then 1 else 0 := by
      unfold written
      by_cases due : sub.due userId now
      · have active := (of_decide_eq_true due).2.1
        simp [due, active, expired]
      · simp [due]
    omega

/-- The users' transactions count what is active no more, by induction on the users. -/
theorem expireEach_activeCount {w now userIds count n s s'}
    (done : expireEach w now userIds count s = (.ok n, s'))
    : s'.activeCount + n = s.activeCount + count := by
  induction userIds generalizing count s with
  | nil =>
    cases done
    rfl
  | cons userId rest ih =>
    unfold expireEach at done
    split at done
    · cases done
    rename_i marked expired
    have counted := s.activeCount_expire userId now
    have same : marked.activeCount = (s.expire userId now).activeCount := by
      rw [Store.activeCount, expireSubscriptions_subs expired, Store.activeCount]
    have onwards := ih done
    omega

theorem expiryLoop_ends (s : Store)
    : ∃ outcome s', batchLoop r.expiryPass subscriptionResetBatchSize (s.activeCount + 1) 0 s
      = some (outcome, s') := by
  refine batchLoop_ends Store.activeCount (fun _ _ => True) ?_ ?_ trivial (Nat.lt_succ_self _)
  · exact fun k s _ => ⟨_, _, rfl⟩
  · rintro k s s' _ ⟨n, passed, some, _⟩
    refine ⟨trivial, ?_⟩
    have done := Option.some.inj passed
    unfold expireDueSubscriptions at done
    split at done
    · cases done
    have counted := expireEach_activeCount done
    omega

end HelsterApi.Subscriptions
