import HelsterApi.Text.Folding
import Mathlib.Data.List.Infix

/-! The rows a billing session writes, and pre-consuming, adjusting and refunding subscription
quota. Whether a statement succeeds is an input. A failed transaction returns an error and changes
nothing; a refund adjusts the subscription in a transaction of its own, so it can fail with that
committed.
-/

namespace HelsterApi.Billing

/-- A `user_subscriptions` row. Every writer keeps the used amount non-negative. -/
structure UserSubscription where
  amountTotal : ℤ
  amountUsed : ℕ

inductive RecordStatus where
  | consumed | refunded
  deriving DecidableEq

/-- A `subscription_pre_consume_records` row, unique per request id. -/
structure SubscriptionPreConsumeRecord where
  (userSubscriptionId preConsumed : ℤ)
  status : RecordStatus
  deriving DecidableEq

/-- The rows one request can write: its user's wallet, its token, subscriptions and pre-consume
records.
-/
structure Ledger where
  (userQuota tokenRemain tokenUsed : ℤ)
  subs : ℤ → Option UserSubscription
  records : String → Option SubscriptionPreConsumeRecord

/-- Result of an `UPDATE` whose affected-row count the caller checks. -/
inductive Write where
  | applied
  | noRows
  | failed (text : String)
  deriving DecidableEq

/-- Result of a `Save` or `Create`, of which only the error is checked. -/
inductive Save where
  | applied
  | failed (text : String)
  deriving DecidableEq

inductive LedgerError where
  | quotaNegative
  | userNotFound
  | tokenNotFound
  | database (text : String)
  | recordNotFound
  | invalidUserId
  | requestIdEmpty
  | amountNotPositive
  | invalidUserSubscriptionId
  | usedExceedsTotal (used total : ℤ)
  | alreadyRefunded
  | noActiveSubscription
  | quotaInsufficient (need : ℤ)
  deriving DecidableEq

def LedgerError.message : LedgerError → String
  | .quotaNegative => "quota 不能为负数！"
  | .userNotFound => "用户不存在"
  | .tokenNotFound => "令牌不存在"
  | .database text => text
  | .recordNotFound => "record not found"
  | .invalidUserId => "invalid userId"
  | .requestIdEmpty => "requestId is empty"
  | .amountNotPositive => "amount must be > 0"
  | .invalidUserSubscriptionId => "invalid userSubscriptionId"
  | .usedExceedsTotal used total =>
    "subscription used exceeds total, used=" ++ toString used
      ++ " total=" ++ toString total
  | .alreadyRefunded => "subscription pre-consume already refunded"
  | .noActiveSubscription => "no active subscription"
  | .quotaInsufficient need => "subscription quota insufficient, need=" ++ toString need

def containsText (text part : String) : Bool := decide (part.toList <:+: text.toList)

def isBlank (text : String) : Bool := Text.trimSpace text = []

/-- Reject a negative quota, then issue one relative `UPDATE` and report a missing row. -/
def quotaWrite (missing : LedgerError) (change : ℤ → Ledger → Ledger) (w : Write)
    (quota : ℤ) (l : Ledger)
    : Except LedgerError Ledger :=
  if quota < 0 then .error .quotaNegative
  else
    match w with
    | .applied => .ok (change quota l)
    | .noRows => .error missing
    | .failed text => .error (.database text)

def increaseUserQuota : Write → ℤ → Ledger → Except LedgerError Ledger :=
  quotaWrite .userNotFound fun quota l => { l with userQuota := l.userQuota + quota }

/-- `DecreaseUserQuota`; the balance is not part of the `WHERE` clause. -/
def decreaseUserQuota : Write → ℤ → Ledger → Except LedgerError Ledger :=
  quotaWrite .userNotFound fun quota l => { l with userQuota := l.userQuota - quota }

def increaseTokenQuota : Write → ℤ → Ledger → Except LedgerError Ledger :=
  quotaWrite .tokenNotFound fun quota l =>
    { l with tokenRemain := l.tokenRemain + quota, tokenUsed := l.tokenUsed - quota }

def decreaseTokenQuota : Write → ℤ → Ledger → Except LedgerError Ledger :=
  quotaWrite .tokenNotFound fun quota l =>
    { l with tokenRemain := l.tokenRemain - quota, tokenUsed := l.tokenUsed + quota }

theorem quotaWrite_eq_ok {missing change w quota l l'}
    : quotaWrite missing change w quota l = .ok l'
      ↔ 0 ≤ quota ∧ w = .applied ∧ l' = change quota l := by
  unfold quotaWrite
  split
  next negative =>
    simp only [reduceCtorEq, false_iff, not_and]
    omega
  next nonneg => cases w <;> simp [Int.not_lt.mp nonneg, eq_comm]

theorem quotaWrite_applied (missing change)
    {quota} (nonneg : 0 ≤ quota) (l)
    : ∃ l', quotaWrite missing change .applied quota l = .ok l' :=
  ⟨change quota l, quotaWrite_eq_ok.mpr ⟨nonneg, rfl, rfl⟩⟩

def Ledger.saveSub (l : Ledger) (id : ℤ) (sub : UserSubscription) : Ledger :=
  { l with subs := Function.update l.subs id (some sub) }

def Ledger.saveRecord (l : Ledger) (requestId : String) (record : SubscriptionPreConsumeRecord)
    : Ledger :=
  { l with records := Function.update l.records requestId (some record) }

def UserSubscription.usedAfter (sub : UserSubscription) (delta : ℤ) : ℤ :=
  if sub.amountUsed + delta < 0 then 0 else sub.amountUsed + delta

def postConsumeUserSubscriptionDelta (save : Save) (userSubscriptionId delta : ℤ) (l : Ledger)
    : Except LedgerError Ledger :=
  if userSubscriptionId ≤ 0 then .error .invalidUserSubscriptionId
  else if delta = 0 then .ok l
  else
    match l.subs userSubscriptionId with
    | none => .error .recordNotFound
    | some sub =>
      let newUsed := sub.usedAfter delta
      if 0 < sub.amountTotal ∧ sub.amountTotal < newUsed then
        .error (.usedExceedsTotal newUsed sub.amountTotal)
      else
        match save with
        | .failed text => .error (.database text)
        | .applied => .ok (l.saveSub userSubscriptionId { sub with amountUsed := newUsed.toNat })

variable {id delta : ℤ} {l l' : Ledger}

theorem postConsumeDelta_ok {save}
    (adjusted : postConsumeUserSubscriptionDelta save id delta l = .ok l')
    : 0 < id
      ∧ ((delta = 0 ∧ l' = l)
        ∨ ∃ sub, l.subs id = some sub
          ∧ (0 < sub.amountTotal → sub.usedAfter delta ≤ sub.amountTotal)
          ∧ l' = l.saveSub id { sub with amountUsed := (sub.usedAfter delta).toNat }) := by
  unfold postConsumeUserSubscriptionDelta at adjusted
  split at adjusted
  · cases adjusted
  rename_i positive
  refine ⟨Int.not_le.mp positive, ?_⟩
  split at adjusted
  next zero => exact .inl ⟨zero, (Except.ok.inj adjusted).symm⟩
  · right
    split at adjusted
    · cases adjusted
    rename_i sub found
    dsimp only at adjusted
    split at adjusted
    · cases adjusted
    rename_i fits
    split at adjusted
    · cases adjusted
    exact ⟨sub, found, fun limited => Int.not_lt.mp fun exceeds => fits ⟨limited, exceeds⟩,
      (Except.ok.inj adjusted).symm⟩

theorem postConsumeDelta_applied {sub} (positive : 0 < id)
    (found : l.subs id = some sub)
    (within : 0 < sub.amountTotal → sub.usedAfter delta ≤ sub.amountTotal) (changes : delta ≠ 0)
    : postConsumeUserSubscriptionDelta .applied id delta l
      = .ok (l.saveSub id { sub with amountUsed := (sub.usedAfter delta).toNat }) := by
  have fits : ¬(0 < sub.amountTotal ∧ sub.amountTotal < sub.usedAfter delta) :=
    fun exceeds => absurd (within exceeds.1) (Int.not_le.mpr exceeds.2)
  simp only [postConsumeUserSubscriptionDelta, Int.not_le.mpr positive, changes, found,
    fits, if_false]

theorem applied_of_postConsume_ok {save} (changes : delta ≠ 0)
    (adjusted : postConsumeUserSubscriptionDelta save id delta l = .ok l')
    : save = .applied := by
  unfold postConsumeUserSubscriptionDelta at adjusted
  rw [if_neg changes] at adjusted
  cases save with
  | applied => rfl
  | failed text =>
    split at adjusted
    · cases adjusted
    split at adjusted
    · cases adjusted
    dsimp only at adjusted
    split at adjusted <;> cases adjusted

/-- What the reset calendar says about a subscription: leave it, only store the next reset
time, or start a new period.
-/
inductive ResetDecision where
  | keep
  | schedule (save : Save)
  | restart (save : Save)

/-- Once the calendar has decided. -/
def maybeResetUserSubscriptionWithPlanTx (sub : UserSubscription)
    : ResetDecision → Except LedgerError UserSubscription
  | .keep => .ok sub
  | .schedule .applied => .ok sub
  | .restart .applied => .ok { sub with amountUsed := 0 }
  | .schedule (.failed text) => .error (.database text)
  | .restart (.failed text) => .error (.database text)

/-- An active subscription the locking query returned, with the plan lookup and the reset decision
for it.
-/
structure Candidate where
  id : ℤ
  positive : 0 < id
  planError : Option String
  reset : ResetDecision

structure SubscriptionPreConsumeResult where
  (userSubscriptionId preConsumed amountTotal amountUsedBefore amountUsedAfter : ℤ)

/-- The lookup of an existing record, the locking query, the insert with the record a failed one
then reads back, and the final save.
-/
structure PreConsumeWrites where
  existingError : Option String
  candidates : Option (List Candidate)
  create : Save
  duplicate : Option SubscriptionPreConsumeRecord
  save : Save

def SubscriptionPreConsumeRecord.replay (record : SubscriptionPreConsumeRecord) (id : ℤ)
    (sub : UserSubscription)
    : SubscriptionPreConsumeResult :=
  ⟨id, record.preConsumed, sub.amountTotal, sub.amountUsed, sub.amountUsed⟩

def chargeCandidate (w : PreConsumeWrites) (requestId : String) (amount id : ℤ)
    (sub : UserSubscription) (l : Ledger)
    : Except LedgerError (SubscriptionPreConsumeResult × Ledger) :=
  match w.create with
  | .failed text =>
    match w.duplicate with
    | none => .error (.database text)
    | some record =>
      if record.status = .refunded then .error .alreadyRefunded
      else .ok (record.replay id sub, l)
  | .applied =>
    match w.save with
    | .failed text => .error (.database text)
    | .applied =>
      let charged := { sub with amountUsed := (sub.amountUsed + amount).toNat }
      .ok (⟨id, amount, sub.amountTotal, sub.amountUsed, sub.amountUsed + amount⟩,
        (l.saveRecord requestId ⟨id, amount, .consumed⟩).saveSub id charged)

/-- Reset each subscription that is due and charge the first that has `amount` left. The query
returns rows of the table.
-/
def chargeCandidates (w : PreConsumeWrites) (requestId : String) (amount : ℤ)
    : List Candidate → Ledger → Except LedgerError (SubscriptionPreConsumeResult × Ledger)
  | [], _ => .error (.quotaInsufficient amount)
  | candidate :: rest, l =>
    match l.subs candidate.id, candidate.planError with
    | none, _ => chargeCandidates w requestId amount rest l
    | some _, some text => .error (.database text)
    | some row, none =>
      match maybeResetUserSubscriptionWithPlanTx row candidate.reset with
      | .error e => .error e
      | .ok sub =>
        let l := l.saveSub candidate.id sub
        if 0 < sub.amountTotal ∧ sub.amountTotal - sub.amountUsed < amount then
          chargeCandidates w requestId amount rest l
        else chargeCandidate w requestId amount candidate.id sub l

/-- `PreConsumeUserSubscription`; the model name and quota type it is passed are unused. -/
def preConsumeUserSubscription (w : PreConsumeWrites) (requestId : String)
    (userId amount : ℤ) (l : Ledger)
    : Except LedgerError (SubscriptionPreConsumeResult × Ledger) :=
  if userId ≤ 0 then .error .invalidUserId
  else if isBlank requestId then .error .requestIdEmpty
  else if amount ≤ 0 then .error .amountNotPositive
  else
    match w.existingError, l.records requestId with
    | some text, _ => .error (.database text)
    | none, some existing =>
      if existing.status = .refunded then .error .alreadyRefunded
      else
        match l.subs existing.userSubscriptionId with
        | none => .error .recordNotFound
        | some sub => .ok (existing.replay existing.userSubscriptionId sub, l)
    | none, none =>
      match w.candidates with
      | none => .error .noActiveSubscription
      | some [] => .error .noActiveSubscription
      | some candidates => chargeCandidates w requestId amount candidates l

/-- What charging a fresh request does: one positive amount on one subscription, recorded under the
request id.
-/
structure Charged (requestId : String) (amount : ℤ) (l : Ledger)
    (result : SubscriptionPreConsumeResult) (l' : Ledger) : Prop where
  positive : 0 < result.userSubscriptionId
  preConsumed : result.preConsumed = amount
  drawn : result.amountUsedAfter - result.amountUsedBefore = amount
  recorded : l'.records requestId = some ⟨result.userSubscriptionId, amount, .consumed⟩
  row : ∃ sub, l'.subs result.userSubscriptionId = some sub ∧ amount ≤ sub.amountUsed
  userQuota : l'.userQuota = l.userQuota
  tokenRemain : l'.tokenRemain = l.tokenRemain

variable {w : PreConsumeWrites} {requestId : String} {amount : ℤ}
  {result : SubscriptionPreConsumeResult}

theorem chargeCandidate_charged {sub} (positive : 0 < id) (alone : w.duplicate = none)
    (charged : chargeCandidate w requestId amount id sub l = .ok (result, l'))
    : Charged requestId amount l result l' := by
  unfold chargeCandidate at charged
  rw [alone] at charged
  split at charged
  · cases charged
  split at charged
  · cases charged
  cases charged
  refine ⟨positive, rfl, by dsimp only; omega,
    by simp [Ledger.saveRecord, Ledger.saveSub], ⟨_, Function.update_self .., ?_⟩, rfl, rfl⟩
  dsimp only
  omega

/-- The candidate loop charges one candidate, by induction on the candidates. -/
theorem chargeCandidates_charged {candidates} (alone : w.duplicate = none)
    (charged : chargeCandidates w requestId amount candidates l = .ok (result, l'))
    : Charged requestId amount l result l' := by
  induction candidates generalizing l with
  | nil => cases charged
  | cons candidate rest ih =>
    simp only [chargeCandidates] at charged
    split at charged
    · exact ih charged
    · cases charged
    · split at charged
      · cases charged
      · split at charged
        · -- a reset is saved even when the candidate is then skipped
          have later := ih charged
          exact ⟨later.positive, later.preConsumed, later.drawn, later.recorded,
            later.row, later.userQuota, later.tokenRemain⟩
        · have chosen := chargeCandidate_charged candidate.positive alone charged
          exact ⟨chosen.positive, chosen.preConsumed, chosen.drawn, chosen.recorded,
            chosen.row, chosen.userQuota, chosen.tokenRemain⟩

theorem preConsumeSubscription_ok {userId}
    (done : preConsumeUserSubscription w requestId userId amount l = .ok (result, l'))
    : isBlank requestId = false ∧ 0 < amount
      ∧ ((∃ record, l.records requestId = some record ∧ l' = l)
        ∨ l.records requestId = none ∧ ∃ candidates, w.candidates = some candidates
          ∧ chargeCandidates w requestId amount candidates l = .ok (result, l')) := by
  unfold preConsumeUserSubscription at done
  split at done
  · cases done
  split at done
  · cases done
  rename_i named
  split at done
  · cases done
  rename_i positive
  refine ⟨by simpa using named, Int.not_le.mp positive, ?_⟩
  split at done
  · cases done
  next record _ recorded =>
    split at done
    · cases done
    split at done
    · cases done
    cases done
    exact .inl ⟨record, recorded, rfl⟩
  next fresh =>
    split at done
    · cases done
    · cases done
    next candidates _ listed => exact .inr ⟨fresh, candidates, listed, done⟩

theorem preConsumeSubscription_charged {userId} (fresh : l.records requestId = none)
    (alone : w.duplicate = none)
    (charged : preConsumeUserSubscription w requestId userId amount l = .ok (result, l'))
    : 0 < amount ∧ isBlank requestId = false ∧ Charged requestId amount l result l' := by
  obtain ⟨named, positive, ⟨record, recorded, _⟩ | ⟨_, candidates, _, chosen⟩⟩ :=
    preConsumeSubscription_ok charged
  · cases fresh.symm.trans recorded
  · exact ⟨positive, named, chargeCandidates_charged alone chosen⟩

/-- The subscription adjustment, which is a transaction of its own, and the save of the record. -/
structure RefundAttempt where
  (delta record : Save)

def markRefunded (save : Save) (requestId : String) (record : SubscriptionPreConsumeRecord)
    (l : Ledger)
    : Option LedgerError × Ledger :=
  match save with
  | .failed text => (some (.database text), l)
  | .applied => (none, l.saveRecord requestId { record with status := .refunded })

/-- With the rows it leaves behind even when it fails. -/
def refundSubscriptionPreConsume (w : RefundAttempt) (requestId : String) (l : Ledger)
    : Option LedgerError × Ledger :=
  if isBlank requestId then (some .requestIdEmpty, l)
  else
    match l.records requestId with
    | none => (some .recordNotFound, l)
    | some record =>
      if record.status = .refunded then (none, l)
      else if record.preConsumed ≤ 0 then markRefunded w.record requestId record l
      else
        match postConsumeUserSubscriptionDelta w.delta record.userSubscriptionId
          (-record.preConsumed) l with
        | .error e => (some e, l)
        | .ok adjusted => markRefunded w.record requestId record adjusted

end HelsterApi.Billing
