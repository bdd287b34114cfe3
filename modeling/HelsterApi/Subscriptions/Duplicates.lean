import HelsterApi.Subscriptions.Writes

/-! Repeated and concurrent pre-consumes of one request. A call looks for a record of its request id
without a lock; the rows may change before it locks the caller's subscriptions, charges one of them
and records the charge.
-/

namespace HelsterApi.Subscriptions

open Function Option Relational SubscriptionPreConsumeRecord Keyed Store
open Transition
open Billing (RecordStatus)

/-- How far a call has come: not begun, past a lookup that found no record, or returned. -/
inductive CallPhase where
  | idle
  | lookedUp (call : PreConsumeCall)
  | returned (call : PreConsumeCall)
      (outcome : Except SubscriptionError SubscriptionPreConsumeResult)
  deriving DecidableEq

structure CallState where
  store : Store
  calls : ℕ → CallPhase
  forgotten : List String

open CallState

/-- The two halves of a call, any other transaction on subscriptions, and the cleanup of old
records.
-/
inductive CallAction where
  | lookUp (i : ℕ) (call : PreConsumeCall)
  | charge (i : ℕ) (w : PreConsumeReads)
  | other (a : Action)
  | cleanup (old : List String)

def lookUp (call : PreConsumeCall) (s : Store) : CallPhase :=
  match call.check with
  | .error e => .returned call (.error e)
  | .ok () =>
    match s.records.get? call.requestId with
    | some existing => .returned call (replayRecord existing s)
    | none => .lookedUp call

/-- Which records are older than the cutoff is an input. -/
def cleanupSubscriptionPreConsumeRecords (old : List String) (s : Store) : Store :=
  { s with records := s.records.delete fun record => decide (record.requestId ∈ old) }

def callStep (cal : Calendar) (s : CallState) : CallAction → Option CallState
  | .lookUp i call =>
    match s.calls i with
    | .idle => some { s with calls := update s.calls i (lookUp call s.store) }
    | _ => none
  | .charge i w =>
    match s.calls i with
    | .lookedUp call =>
      match chargeRequest cal w call s.store with
      | .error e => some { s with calls := update s.calls i (.returned call (.error e)) }
      | .ok (result, store) =>
        some { s with
          store := store, calls := update s.calls i (.returned call (.ok result)) }
    | _ => none
  | .other (.preConsume _ _) => none
  | .other a => some { s with store := step cal s.store a }
  | .cleanup old =>
    some { s with
      store := cleanupSubscriptionPreConsumeRecords old s.store
      forgotten := old ++ s.forgotten }

def callMachine (cal : Calendar) : Machine CallState CallAction where
  initial s := ∃ groups, s = ⟨.fresh groups, fun _ => .idle, []⟩
  next := callStep cal

theorem lookUp_chargeRequest (cal w call)
    (s)
    : preConsumeUserSubscription cal w call s
      = match lookUp call s with
        | .lookedUp call => chargeRequest cal w call s
        | .returned _ (.ok result) => .ok (result, s)
        | .returned _ (.error e) => .error e
        | .idle => .error .resetRunning := by
  unfold preConsumeUserSubscription lookUp
  cases call.check with
  | error e => rfl
  | ok checked =>
    cases s.records.get? call.requestId with
    | none => rfl
    | some existing => cases replayed : replayRecord existing s <;> simp [replayed]

def SubscriptionPreConsumeResult.Charges (result : SubscriptionPreConsumeResult) : Prop :=
  result.amountUsedAfter ≠ result.amountUsedBefore
  deriving Decidable

/-- A call inserted its record and charged `sub`, whose row has used what the call returned. -/
structure Recorded (call : PreConsumeCall) (sub : UserSubscription) (s : Store)
    (result : SubscriptionPreConsumeResult) (s' : Store) : Prop where
  reported : result = ⟨sub.id, call.amount, sub.amountTotal, sub.amountUsed,
    sub.amountUsed + call.amount⟩
  used : ∀ row ∈ s'.subs.get? sub.id, row.amountUsed = result.amountUsedAfter
  inserted : s.records.insert ⟨call.requestId, call.userId, sub.id, call.amount, .consumed⟩
    = some s'.records

/-- A call found its request id taken and returned the record's amount for `sub`. -/
structure Replayed (w : PreConsumeReads) (call : PreConsumeCall) (sub : UserSubscription)
    (s : Store) (result : SubscriptionPreConsumeResult) (s' : Store) : Prop where
  record : ∃ record, s.records.get? call.requestId = some record
    ∧ record.status ≠ .refunded ∧ result = record.replay sub
  read : w.readsCommitted
  unchanged : s'.records = s.records

variable {record : SubscriptionPreConsumeRecord}

section

variable {cal : Calendar} {w : PreConsumeReads} {call : PreConsumeCall} {s s' : Store}
  {result : SubscriptionPreConsumeResult}

variable {sub : UserSubscription}

theorem chargeCandidate_ok (done : chargeCandidate w call sub s = .ok (result, s'))
    : Recorded call sub s result s' ∨ Replayed w call sub s result s' := by
  unfold chargeCandidate at done
  split at done
  · right
    by_cases read : w.readsCommitted
    · rw [if_pos read] at done
      split at done
      · cases done
      rename_i record found
      split at done
      · cases done
      rename_i consumed
      cases done
      exact ⟨⟨record, found, consumed, rfl⟩, read, rfl⟩
    · simp [read] at done
  next records inserted =>
    cases done
    refine .inl ⟨rfl, fun row found => ?_, inserted⟩
    have ⟨member, sameId⟩ := get?_eq_some.mp found
    rcases mem_save.mp member with ⟨charged, _⟩ | ⟨_, different⟩
    · rw [charged]
    · exact absurd sameId different

/-- The loop charges the first candidate that fits, by induction on the candidates. -/
theorem chargeCandidates_ok {candidates}
    (done : chargeCandidates cal w call candidates s = .ok (result, s'))
    : ∃ sub, w.firstFit cal call candidates = some sub
      ∧ (Recorded call sub s result s' ∨ Replayed w call sub s result s') := by
  induction candidates generalizing s with
  | nil => cases done
  | cons row rest ih =>
    obtain ⟨sub, _, ⟨first, charged⟩ | ⟨later, goesOn⟩⟩ := chargeCandidates_cons_ok done
    · exact ⟨sub, first, (chargeCandidate_ok charged).imp
        (fun ⟨reported, used, inserted⟩ => ⟨reported, used, inserted⟩)
        fun ⟨record, read, unchanged⟩ => ⟨record, read, unchanged⟩⟩
    · obtain ⟨chosen, first, outcome⟩ := ih goesOn
      exact ⟨chosen, later.trans first, outcome.imp
        (fun ⟨reported, used, inserted⟩ => ⟨reported, used, inserted⟩)
        fun ⟨record, read, unchanged⟩ => ⟨record, read, unchanged⟩⟩

theorem replayRecord_ok (done : replayRecord record s = .ok result)
    : result.userSubscriptionId = record.userSubscriptionId ∧ ¬result.Charges := by
  unfold replayRecord at done
  split at done
  · cases done
  split at done
  · cases done
  rename_i sub found
  cases done
  exact ⟨(get?_eq_some.mp found).2, fun charges => charges rfl⟩

theorem Recorded.charges (recorded : Recorded call sub s result s') (checked : call.check = .ok ())
    : result.Charges := by
  simp only [PreConsumeCall.check, Control.ite_error_eq_ok] at checked
  have positive := checked.2.2.1
  intro same
  rw [recorded.reported] at same
  have zero : call.amount = 0 := by simpa using same
  rw [zero] at positive
  exact positive (Int64.le_refl 0)

end

def Store.SameRecords (s s' : Store) : Prop :=
  ∀ requestId, (s'.records.get? requestId).map SubscriptionPreConsumeRecord.userSubscriptionId
    = (s.records.get? requestId).map SubscriptionPreConsumeRecord.userSubscriptionId

theorem Store.SameRecords.of_eq {s s' : Store} (same : s'.records = s.records)
    : s.SameRecords s' := by
  intro requestId
  rw [same]

theorem get?_save_userSubscriptionId {records : Keyed SubscriptionPreConsumeRecord.requestId}
    (saved : SubscriptionPreConsumeRecord) (found : records.get? saved.requestId = some record)
    (same : saved.userSubscriptionId = record.userSubscriptionId) (requestId)
    : ((records.save saved).get? requestId).map userSubscriptionId
      = (records.get? requestId).map userSubscriptionId := by
  by_cases own : requestId = saved.requestId
  · rw [own, get?_save_self found, found, map_some, map_some, same]
  · rw [get?_save_of_ne own]

theorem refundPreConsume_sameRecords (deltaFault recordFault : Option String)
    (requestId : String) (s : Store)
    : s.SameRecords (refundSubscriptionPreConsume deltaFault recordFault requestId s).2 := by
  have marks {record : SubscriptionPreConsumeRecord} {adjusted : Store}
      (found : s.records.get? requestId = some record) (same : adjusted.records = s.records)
      : s.SameRecords (markRefunded recordFault record adjusted).2 := by
    have named := (get?_eq_some.mp found).2
    cases recordFault with
    | some text => exact .of_eq same
    | none =>
      subst named
      intro other
      change ((adjusted.records.save { record with status := .refunded }).get? other).map _ = _
      rw [same]
      exact get?_save_userSubscriptionId { record with status := .refunded } found rfl other
  unfold refundSubscriptionPreConsume
  split
  · exact .of_eq rfl
  · split
    · exact .of_eq rfl
    next record found =>
      split
      · exact .of_eq rfl
      · split
        · exact marks found rfl
        · split
          · exact .of_eq rfl
          next adjusted done => exact marks found (postConsumeDelta_records done)

theorem step_sameRecords (cal : Calendar) {a : Action} (s : Store)
    (other : ∀ w call, a ≠ .preConsume w call)
    : s.SameRecords (step cal s a) := by
  cases a with
  | create fault id userId plan now =>
    exact committed_of (.of_eq rfl) fun _ done =>
      .of_eq (createFromPlan_ok done).1
  | invalidate w id now =>
    refine committed_of (.of_eq rfl) fun _ done => .of_eq ?_
    obtain ⟨sub, _, downgraded⟩ := adminInvalidate_ok done
    rw [downgradeUserGroup_records downgraded]
    rfl
  | delete w id now =>
    refine committed_of (.of_eq rfl) fun _ done => .of_eq ?_
    obtain ⟨sub, moved, _, downgraded, rfl⟩ := adminDelete_ok done
    have records := downgradeUserGroup_records downgraded
    exact records
  | expireUser w userId now =>
    refine committed_of (.of_eq rfl) fun _ done => .of_eq ?_
    rcases expireSubscriptions_ok done with ⟨same, _⟩ | ⟨last, _, moved⟩
    · rw [same]
      rfl
    · rw [moved, moveUser_records]
      rfl
  | preConsume w call => exact absurd rfl (other w call)
  | refund deltaFault recordFault requestId =>
    exact refundPreConsume_sameRecords deltaFault recordFault requestId s
  | postConsume fault id delta =>
    exact committed_of (.of_eq rfl) fun _ done =>
      .of_eq (postConsumeDelta_records done)
  | resetDue iterations plan fault now id =>
    exact committed_of (.of_eq rfl) fun _ done =>
      .of_eq (resetDueOne_records done)
  | adminResetUser fault userId plan now advanceResetTime =>
    refine committed_of (.of_eq rfl) fun s' done => ?_
    obtain ⟨_, done⟩ := map_snd_eq_ok.mp done
    obtain ⟨_, done⟩ := transaction_eq_ok.mp done
    split at done
    · cases done
    cases done
    exact .of_eq (resetEach_records ..)
  | adminResetPlan fault plan now advanceResetTime =>
    refine committed_of (.of_eq rfl) fun s' done => ?_
    obtain ⟨_, done⟩ := map_snd_eq_ok.mp done
    obtain ⟨_, done⟩ := transaction_eq_ok.mp done
    cases done
    exact .of_eq (resetEach_records ..)

def CallState.Returned (s : CallState) (i : ℕ) (call : PreConsumeCall)
    (result : SubscriptionPreConsumeResult) : Prop :=
  s.calls i = .returned call (.ok result)
  deriving Decidable

def CallState.ChargedAs (s : CallState) (requestId : String) (id : ℤ) : Prop :=
  ∃ i call result, s.Returned i call result ∧ call.requestId = requestId ∧ result.Charges
    ∧ result.userSubscriptionId = id

/-- At most one call of each request charged a subscription, and every call that succeeded returned
that one, which its record also names.
-/
structure ChargedOnce (s : CallState) : Prop where
  once : ∀ {i j : ℕ} {call call' : PreConsumeCall}
    {result result' : SubscriptionPreConsumeResult}, s.Returned i call result
      → s.Returned j call' result' → call.requestId = call'.requestId → result.Charges
      → result'.Charges → i = j
  charged : ∀ {i call result}, s.Returned i call result
    → s.ChargedAs call.requestId result.userSubscriptionId
  recorded : ∀ {i call result}, s.Returned i call result
    → ∀ record ∈ s.store.records.get? call.requestId,
      record.userSubscriptionId = result.userSubscriptionId

def CallPhase.pending : CallPhase → Option PreConsumeCall
  | .lookedUp call => some call
  | _ => none

/-- A call that finds its request id taken after all, and can read the record, finds the
recorded subscription to be the first that fits.
-/
def FindsRecorded (cal : Calendar) (w : PreConsumeReads) (call : PreConsumeCall) (s : Store)
    : Prop :=
  ∀ record ∈ s.records.get? call.requestId, record.status ≠ .refunded → w.readsCommitted
    → ∀ sub ∈ w.firstFit cal call (call.candidates s), sub.id = record.userSubscriptionId
deriving Decidable

/-- No call comes for a request whose record was cleaned up, and calls find the recorded
subscription.
-/
def ReplaysCharged (cal : Calendar) (s : CallState) : CallAction → Prop
  | .lookUp _ call => call.requestId ∉ s.forgotten
  | .charge i w => ∀ call ∈ (s.calls i).pending,
      call.requestId ∉ s.forgotten ∧ FindsRecorded cal w call s.store
  | _ => True

instance (cal : Calendar) (s : CallState) : DecidablePred (ReplaysCharged cal s) := fun a => by
  cases a <;> dsimp only [ReplaysCharged] <;> infer_instance

/-- Every record goes back to the call that charged its subscription, and every call that succeeded
has its record until the clean-up.
-/
structure Accounted (s : CallState) : Prop where
  checked : ∀ {i call}, s.calls i = .lookedUp call → call.check = .ok ()
  once : ∀ {i j : ℕ} {call call' : PreConsumeCall}
    {result result' : SubscriptionPreConsumeResult}, s.Returned i call result
      → s.Returned j call' result' → call.requestId = call'.requestId → result.Charges
      → result'.Charges → i = j
  charged : ∀ {i call result}, s.Returned i call result
    → s.ChargedAs call.requestId result.userSubscriptionId
  kept : ∀ {i call result}, s.Returned i call result → call.requestId ∉ s.forgotten
    → (s.store.records.get? call.requestId).map
        userSubscriptionId = some result.userSubscriptionId
  origin : ∀ {requestId record}, s.store.records.get? requestId = some record
    → s.ChargedAs requestId record.userSubscriptionId
  gone : ∀ requestId ∈ s.forgotten, s.store.records.get? requestId = none

variable {s : CallState}

theorem Accounted.chargedOnce (accounted : Accounted s) : ChargedOnce s where
  once := accounted.once
  charged := accounted.charged
  recorded := by
    intro i call result returned record found
    have remembered : call.requestId ∉ s.forgotten := by
      intro forgotten
      simp [accounted.gone _ forgotten] at found
    have kept := accounted.kept returned remembered
    rw [show s.store.records.get? call.requestId = some record from found] at kept
    exact some.inj kept

section

variable {s : CallState} {i : ℕ} {store : Store}

theorem Accounted.sameRecords (accounted : Accounted s) (same : s.store.SameRecords store)
    : Accounted { s with store := store } where
  __ := accounted
  kept := by
    intro i call result returned remembered
    exact (same call.requestId).trans (accounted.kept returned remembered)
  origin := by
    intro requestId record found
    have before := same requestId
    rw [show store.records.get? requestId = some record from found, map_some,
      eq_comm, map_eq_some_iff] at before
    obtain ⟨old, foundOld, sameSub⟩ := before
    exact sameSub ▸ accounted.origin foundOld
  gone := by
    intro requestId forgotten
    have before := same requestId
    rwa [accounted.gone requestId forgotten, map_none, map_eq_none_iff] at before

variable (waiting : ∀ call result, s.calls i ≠ .returned call (.ok result))

include waiting

theorem Accounted.unreturned (accounted : Accounted s) {phase}
    (unsuccessful : ∀ call result, phase ≠ .returned call (.ok result))
    (checked : ∀ call, phase = .lookedUp call → call.check = .ok ())
    : Accounted { s with calls := update s.calls i phase } := by
  have returned {j : ℕ} {call : PreConsumeCall} {result : SubscriptionPreConsumeResult}
      : CallState.Returned { s with calls := update s.calls i phase } j call result
        ↔ s.Returned j call result := by
    unfold CallState.Returned
    by_cases own : j = i
    · subst own
      simp only [update_self]
      exact iff_of_false (unsuccessful call result) (waiting call result)
    · simp only [update_of_ne own]
  have chargedAs {requestId : String} {id : ℤ} (charged : s.ChargedAs requestId id)
      : CallState.ChargedAs { s with calls := update s.calls i phase } requestId id := by
    obtain ⟨j, call, result, before, rest⟩ := charged
    exact ⟨j, call, result, returned.mpr before, rest⟩
  exact {
    checked := by
      intro j call lookedUp
      by_cases own : j = i
      · subst own
        simp only [update_self] at lookedUp
        exact checked call lookedUp
      · simp only [update_of_ne own] at lookedUp
        exact accounted.checked lookedUp
    once := fun first second => accounted.once (returned.mp first) (returned.mp second)
    charged := fun success => chargedAs (accounted.charged (returned.mp success))
    kept := fun success => accounted.kept (returned.mp success)
    origin := fun found => chargedAs (accounted.origin found)
    gone := accounted.gone
  }

variable {call call' : PreConsumeCall} {result : SubscriptionPreConsumeResult} {j : ℕ}

variable {result' : SubscriptionPreConsumeResult}

theorem CallState.returned_update
    : CallState.Returned { s with
          store := store, calls := update s.calls i (.returned call (.ok result)) }
        j call' result'
      ↔ (j = i ∧ call' = call ∧ result' = result) ∨ s.Returned j call' result' := by
  unfold CallState.Returned
  by_cases own : j = i
  · subst own
    simp only [update_self, CallPhase.returned.injEq, Except.ok.injEq, true_and]
    constructor
    · rintro ⟨rfl, rfl⟩
      exact .inl ⟨rfl, rfl⟩
    · rintro (⟨rfl, rfl⟩ | before)
      · exact ⟨rfl, rfl⟩
      · exact absurd before (waiting call' result')
  · simp [own]

theorem CallState.ChargedAs.returned {requestId id} (charged : s.ChargedAs requestId id)
    : CallState.ChargedAs { s with
        store := store, calls := update s.calls i (.returned call (.ok result)) }
      requestId id := by
  obtain ⟨j, call', result', before, rest⟩ := charged
  exact ⟨j, call', result', (returned_update waiting).mpr (.inr before), rest⟩

variable (accounted : Accounted s)

include accounted

omit waiting in
theorem Accounted.checked_returned
    (lookedUp : update s.calls i (.returned call (.ok result)) j = .lookedUp call')
    : call'.check = .ok () := by
  by_cases own : j = i
  · subst own
    simp only [update_self, reduceCtorEq] at lookedUp
  · rw [update_of_ne own] at lookedUp
    exact accounted.checked lookedUp

theorem Accounted.replayed (same : store.records = s.store.records)
    (found : s.store.records.get? call.requestId = some record)
    (named : result.userSubscriptionId = record.userSubscriptionId) (idle : ¬result.Charges)
    : Accounted { s with
        store := store, calls := update s.calls i (.returned call (.ok result)) } where
  checked := accounted.checked_returned
  once := by
    intro j k call₁ call₂ result₁ result₂ first second sameRequest charges₁ charges₂
    rcases (returned_update waiting).mp first with ⟨_, _, rfl⟩ | first
    · exact absurd charges₁ idle
    · rcases (returned_update waiting).mp second with ⟨_, _, rfl⟩ | second
      · exact absurd charges₂ idle
      · exact accounted.once first second sameRequest charges₁ charges₂
  charged := by
    intro j call' result' success
    rcases (returned_update waiting).mp success with ⟨_, rfl, rfl⟩ | before
    · rw [named]
      exact (accounted.origin found).returned waiting
    · exact (accounted.charged before).returned waiting
  kept := by
    intro j call' result' success remembered
    rw [same]
    rcases (returned_update waiting).mp success with ⟨_, rfl, rfl⟩ | before
    · rw [found, map_some, named]
    · exact accounted.kept before remembered
  origin := by
    intro requestId other foundOther
    rw [same] at foundOther
    exact (accounted.origin foundOther).returned waiting
  gone := by
    intro requestId forgotten
    rw [same]
    exact accounted.gone requestId forgotten

variable {sub : UserSubscription}

theorem Accounted.recorded (remembered : call.requestId ∉ s.forgotten) (charges : result.Charges)
    (recorded : Recorded call sub s.store result store)
    : Accounted { s with
        store := store, calls := update s.calls i (.returned call (.ok result)) } := by
  have named : result.userSubscriptionId = sub.id := by rw [recorded.reported]
  have stored := get?_insert_self recorded.inserted
  have elsewhere {requestId : String} (other : requestId ≠ call.requestId)
      : store.records.get? requestId = s.store.records.get? requestId :=
    get?_insert_of_ne recorded.inserted other
  have first {j : ℕ} {call' : PreConsumeCall} {result' : SubscriptionPreConsumeResult}
      (before : s.Returned j call' result') : call'.requestId ≠ call.requestId := by
    intro same
    have fresh := get?_of_insert recorded.inserted
    have kept := accounted.kept before (same ▸ remembered)
    simp [same, fresh] at kept
  have chargedNow : CallState.ChargedAs { s with
      store := store, calls := update s.calls i (.returned call (.ok result)) }
        call.requestId result.userSubscriptionId :=
    ⟨i, call, result, (returned_update waiting).mpr (.inl ⟨rfl, rfl, rfl⟩), rfl,
      charges, rfl⟩
  exact {
    checked := accounted.checked_returned
    once := by
      intro j k call₁ call₂ result₁ result₂ left right sameRequest charges₁ charges₂
      rcases (returned_update waiting).mp left with ⟨now₁, own₁, _⟩ | before₁
      · rcases (returned_update waiting).mp right with ⟨now₂, _, _⟩ | before₂
        · exact now₁.trans now₂.symm
        · exact absurd (own₁ ▸ sameRequest.symm) (first before₂)
      · rcases (returned_update waiting).mp right with ⟨_, own₂, _⟩ | before₂
        · exact absurd (own₂ ▸ sameRequest) (first before₁)
        · exact accounted.once before₁ before₂ sameRequest charges₁ charges₂
    charged := by
      intro j call' result' success
      rcases (returned_update waiting).mp success with ⟨_, rfl, rfl⟩ | before
      · exact chargedNow
      · exact (accounted.charged before).returned waiting
    kept := by
      intro j call' result' success remembered'
      rcases (returned_update waiting).mp success with ⟨_, rfl, rfl⟩ | before
      · rw [stored, map_some, named]
      · rw [elsewhere (first before)]
        exact accounted.kept before remembered'
    origin := by
      intro requestId record found
      by_cases own : requestId = call.requestId
      · subst own
        rw [stored] at found
        cases found
        rwa [named] at chargedNow
      · rw [elsewhere own] at found
        exact (accounted.origin found).returned waiting
    gone := by
      intro requestId forgotten
      rw [elsewhere fun same => remembered (same ▸ forgotten)]
      exact accounted.gone requestId forgotten
  }

end

variable {i : ℕ}

section

variable (accounted : Accounted s)

include accounted

theorem Accounted.lookUp {call} (idle : s.calls i = .idle)
    : Accounted { s with calls := update s.calls i (lookUp call s.store) } := by
  have waiting : ∀ call result, s.calls i ≠ .returned call (.ok result) := by simp [idle]
  unfold Subscriptions.lookUp
  cases checked : call.check with
  | error e => exact accounted.unreturned waiting (by simp) (by simp)
  | ok _ =>
    cases found : s.store.records.get? call.requestId with
    | none => exact accounted.unreturned waiting (by simp) (by simp [checked])
    | some record =>
      cases replayed : replayRecord record s.store with
      | error e => exact accounted.unreturned waiting (by simp [replayed]) (by simp)
      | ok result =>
        obtain ⟨named, idleResult⟩ := replayRecord_ok replayed
        simp only [replayed]
        exact accounted.replayed waiting rfl found named idleResult

variable {cal : Calendar} {s' : CallState}

theorem Accounted.charge {w}
    (allowed : ReplaysCharged cal s (.charge i w)) (moved : callStep cal s (.charge i w) = some s')
    : Accounted s' := by
  dsimp only [callStep] at moved
  split at moved
  next call lookedUp =>
    have waiting : ∀ call result, s.calls i ≠ .returned call (.ok result) := by simp [lookedUp]
    obtain ⟨remembered, findsRecorded⟩ := allowed call (by rw [lookedUp]; rfl)
    split at moved
    · cases moved
      exact accounted.unreturned waiting (by simp) (by simp)
    next result store done =>
      cases moved
      obtain ⟨_, done⟩ := transaction_eq_ok.mp done
      split at done
      · cases done
      obtain ⟨sub, first, recorded | replayed⟩ := chargeCandidates_ok done
      · exact accounted.recorded waiting remembered
          (recorded.charges (accounted.checked lookedUp)) recorded
      · obtain ⟨record, found, consumed, rfl⟩ := replayed.record
        exact accounted.replayed waiting replayed.unchanged found
          (findsRecorded record found consumed replayed.read sub first)
          fun charges => charges rfl
  · cases moved

theorem Accounted.cleanup (old : List String)
    : Accounted { s with
        store := cleanupSubscriptionPreConsumeRecords old s.store
        forgotten := old ++ s.forgotten } := by
  have kept {requestId : String} {record : SubscriptionPreConsumeRecord}
      : (cleanupSubscriptionPreConsumeRecords old s.store).records.get? requestId = some record
        ↔ s.store.records.get? requestId = some record ∧ requestId ∉ old := by
    unfold cleanupSubscriptionPreConsumeRecords
    simp only [get?_eq_some, Table.mem_delete, decide_eq_false_iff_not]
    constructor
    · rintro ⟨⟨member, spared⟩, rfl⟩
      exact ⟨⟨member, rfl⟩, spared⟩
    · rintro ⟨⟨member, rfl⟩, spared⟩
      exact ⟨⟨member, spared⟩, rfl⟩
  exact { accounted with
    kept := by
      intro i call result returned remembered
      rw [List.mem_append, not_or] at remembered
      have before := accounted.kept returned remembered.2
      rw [map_eq_some_iff] at before ⊢
      obtain ⟨record, found, named⟩ := before
      exact ⟨record, kept.mpr ⟨found, remembered.1⟩, named⟩
    origin := fun found => accounted.origin (kept.mp found).1
    gone := by
      intro requestId forgotten
      cases found : (cleanupSubscriptionPreConsumeRecords old s.store).records.get? requestId with
      | none => rfl
      | some record =>
        obtain ⟨before, spared⟩ := kept.mp found
        rcases List.mem_append.mp forgotten with now | earlier
        · exact absurd now spared
        · simp [accounted.gone requestId earlier] at before
  }

theorem Accounted.step {a} (allowed : ReplaysCharged cal s a) (moved : callStep cal s a = some s')
    : Accounted s' := by
  cases a with
  | lookUp i call =>
    dsimp only [callStep] at moved
    split at moved
    next idle =>
      rw [← some.inj moved]
      exact accounted.lookUp idle
    · cases moved
  | charge i w => exact accounted.charge allowed moved
  | other a =>
    have other : ∀ w call, a ≠ .preConsume w call := by
      rintro w call rfl
      cases moved
    have stepped : s' = { s with store := Subscriptions.step cal s.store a } := by
      cases a <;> first
        | exact (some.inj moved).symm
        | exact absurd rfl (other _ _)
    rw [stepped]
    exact accounted.sameRecords (step_sameRecords cal s.store other)
  | cleanup old =>
    rw [← some.inj moved]
    exact accounted.cleanup old

end

/-- In every state of a run whose calls find the recorded subscription, each request was
charged at most once, and every call that succeeded returned the charged subscription.
-/
theorem calls_chargedOnce (cal : Calendar) {s}
    (reached : (callMachine cal).Reaches (ReplaysCharged cal) s)
    : ChargedOnce s := by
  have accounted : Accounted s := by
    refine reached.invariant Accounted ?_ fun _ accounted allowed moved =>
      accounted.step allowed moved
    rintro _ ⟨groups, rfl⟩
    exact {
      checked := nofun
      once := nofun
      charged := nofun
      kept := nofun
      origin := nofun
      gone := nofun
    }
  exact accounted.chargedOnce

/-- A user with subscriptions of the given totals makes one request for 60 twice: both calls look
for a record first.
-/
def simultaneousCalls (totals : List Int64) : List CallAction :=
  let plan (total : Int64) : SubscriptionPlan := { id := 1, totalAmount := total }
  let reads : PreConsumeReads := ⟨fun _ => .ok (plan 0), 0, true, none⟩
  let call : PreConsumeCall := ⟨"req", 1, 60, 2000⟩
  (totals.zipIdx 1).map (fun (total, id) => .other (.create none id 1 (plan total) 1000))
    ++ [.lookUp 0 call, .lookUp 1 call, .charge 0 reads, .charge 1 reads]

/-- With one subscription that has room for both, both calls return it and one is charged. -/
theorem simultaneousCalls_one_chargedOnce
    : ChargedOnce ((callMachine plainCalendar).play ⟨.fresh fun _ => none, fun _ => .idle, []⟩
        (simultaneousCalls [200]))
      ∧ ((callMachine plainCalendar).play ⟨.fresh fun _ => none, fun _ => .idle, []⟩
        (simultaneousCalls [200])).calls 1
          = .returned ⟨"req", 1, 60, 2000⟩ (.ok ⟨1, 60, 200, 60, 60⟩) :=
  ⟨calls_chargedOnce plainCalendar (Machine.reaches_play ⟨_, rfl⟩ (by decide)), by decide⟩

/-- With room for one charge in each of two subscriptions, the second call returns the second one,
although the first was charged.
-/
theorem simultaneousCalls_two_wrong_subscription
    : ∃ s, (callMachine plainCalendar).Reaches anyStep s
      ∧ s.Returned 0 ⟨"req", 1, 60, 2000⟩ ⟨1, 60, 100, 0, 60⟩
      ∧ s.Returned 1 ⟨"req", 1, 60, 2000⟩ ⟨2, 60, 100, 0, 0⟩
      ∧ s.store.records.get? "req" = some ⟨"req", 1, 1, 60, .consumed⟩ := by
  have reached : (callMachine plainCalendar).Reaches anyStep
      ((callMachine plainCalendar).play ⟨.fresh fun _ => none, fun _ => .idle, []⟩
        (simultaneousCalls [100, 100])) := Machine.reaches_play ⟨_, rfl⟩ (by decide)
  exact ⟨_, reached, by decide, by decide, by decide⟩

end HelsterApi.Subscriptions
