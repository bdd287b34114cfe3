import HelsterApi.Billing.Movements

/-! What a refund job gives back: an open session holds its pre-consumed quota, and a job whose
writes go through returns exactly that. The usage of a subscription is adjusted in a transaction of
its own, so an attempt that then fails to mark the record leaves the adjustment behind, and the next
adjusts again.
-/

namespace HelsterApi.Billing

section

open Funding Ledger RefundJob

section

variable {requestId : String} {record : SubscriptionPreConsumeRecord} {l : Ledger}

theorem refundPreConsume_unapplied {w} (named : isBlank requestId = false)
    (recorded : l.records requestId = some record) (consumed : record.status = .consumed)
    (positive : 0 < record.preConsumed) (failed : w.delta ≠ .applied)
    : ∃ e, refundSubscriptionPreConsume w requestId l = (some e, l) := by
  cases refused : postConsumeUserSubscriptionDelta w.delta record.userSubscriptionId
      (-record.preConsumed) l with
  | ok adjusted => exact absurd (applied_of_postConsume_ok (by omega) refused) failed
  | error e =>
    refine ⟨e, ?_⟩
    simp [refundSubscriptionPreConsume, named, recorded, consumed, not_le.mpr positive, refused]

theorem refundPreConsume_applied {sub} (named : isBlank requestId = false)
    (recorded : l.records requestId = some record) (consumed : record.status = .consumed)
    (positive : 0 < record.preConsumed) (identified : 0 < record.userSubscriptionId)
    (found : l.subs record.userSubscriptionId = some sub)
    (covered : record.preConsumed ≤ sub.amountUsed)
    (within : 0 < sub.amountTotal → (sub.amountUsed : ℤ) ≤ sub.amountTotal)
    : refundSubscriptionPreConsume ⟨.applied, .applied⟩ requestId l
      = (none, (l.saveSub record.userSubscriptionId
          { sub with amountUsed := (sub.amountUsed - record.preConsumed).toNat }).saveRecord
            requestId { record with status := .refunded }) := by
  have lowered : sub.usedAfter (-record.preConsumed) = sub.amountUsed - record.preConsumed :=
    UserSubscription.usedAfter_of_nonneg (by omega)
  have fits : 0 < sub.amountTotal → sub.usedAfter (-record.preConsumed) ≤ sub.amountTotal := by
    intro limited
    have := within limited
    omega
  have adjusted := postConsumeDelta_applied identified found fits
    (neg_ne_zero.mpr positive.ne')
  simp only [refundSubscriptionPreConsume, named, recorded, consumed, not_le.mpr positive,
    adjusted, lowered, markRefunded, Bool.false_eq_true, reduceCtorEq, if_false]

end

variable {l l' : Ledger}

/-- The retry loop returns what its first successful attempt returns if those before it change
nothing, by induction on their number.
-/
theorem refundAttempts_first {attempt k left i lastError} (enough : k < left)
    (failed : ∀ j < k, ∃ e, attempt (i + j) l = (some e, l))
    (succeeded : attempt (i + k) l = (none, l'))
    : refundAttempts attempt left i lastError l = (none, l') := by
  induction k generalizing left i lastError with
  | zero =>
    obtain ⟨left, rfl⟩ := Nat.exists_eq_succ_of_ne_zero (Nat.ne_of_gt enough)
    rw [Nat.add_zero] at succeeded
    simp only [refundAttempts, succeeded]
  | succ k ih =>
    obtain ⟨left, rfl⟩ := Nat.exists_eq_succ_of_ne_zero (Nat.ne_of_gt (Nat.zero_lt_of_lt enough))
    obtain ⟨e, first⟩ := failed 0 (Nat.succ_pos k)
    rw [Nat.add_zero] at first
    simp only [refundAttempts, first]
    refine ih (Nat.lt_of_succ_lt_succ enough) (fun j below => ?_) ?_
    · rw [Nat.add_assoc, Nat.add_comm 1 j]
      exact failed (j + 1) (Nat.succ_lt_succ below)
    · rwa [Nat.add_assoc, Nat.add_comm 1 k]

/-- The record and the reserved extra of a subscription session add up to its pre-consumed quota. -/
structure SubscriptionHeld (s : BillingSession) (f : SubscriptionFunding) (l : Ledger) : Prop where
  total : f.preConsumed + s.extraReserved = s.preConsumedQuota
  preConsumed : 0 < f.preConsumed
  extra : 0 ≤ s.extraReserved
  identified : 0 < f.subscriptionId
  sameId : s.relayInfo.subscriptionId = f.subscriptionId
  sameRequest : s.relayInfo.requestId = f.requestId
  named : isBlank f.requestId = false
  recorded : l.records f.requestId = some ⟨f.subscriptionId, f.preConsumed, .consumed⟩

def HeldFrom (s : BillingSession) (l : Ledger) : Funding → Prop
  | .wallet consumed => consumed = s.preConsumedQuota
  | .subscription f => SubscriptionHeld s f l

/-- A session holds its pre-consumed quota from the token and from the funding source. -/
structure Held (s : BillingSession) (l : Ledger) : Prop where
  nonneg : 0 ≤ s.preConsumedQuota
  token : s.tokenConsumed = s.preConsumedQuota
  source : HeldFrom s l s.funding

variable {s : BillingSession}

theorem Held.congr {s'} (held : Held s l) (hold : s.SameHold s')
    (records : l'.records s.relayInfo.requestId = l.records s.relayInfo.requestId)
    : Held s' l' := by
  obtain ⟨nonneg, token, source⟩ := held
  refine ⟨by rwa [hold.preConsumedQuota], by rw [hold.tokenConsumed, token,
    hold.preConsumedQuota], ?_⟩
  rw [hold.funding]
  cases funding : s.funding with rw [funding] at source
  | wallet consumed => exact source.trans hold.preConsumedQuota.symm
  | subscription f =>
    exact { source with
      total := by rw [hold.extraReserved, hold.preConsumedQuota, source.total]
      extra := by rw [hold.extraReserved]; exact source.extra
      sameId := by rw [hold.subscriptionId, source.sameId]
      sameRequest := by rw [hold.requestId, source.sameRequest]
      recorded := by rw [← source.sameRequest, records, source.sameRequest, source.recorded]
    }

theorem Held.extend {delta} (held : Held s l) (positive : 0 < delta)
    (records : l'.records = l.records)
    : Held (s.extend delta) l' := by
  obtain ⟨nonneg, token, source⟩ := held
  cases funding : s.funding with rw [funding] at source
  | wallet consumed =>
    simp only [BillingSession.extend, funding, Funding.extend, BillingSession.syncRelayInfo]
    exact ⟨by dsimp only; omega, by dsimp only; omega, congrArg (· + delta) source⟩
  | subscription f =>
    have total := source.total
    have extra := source.extra
    simp only [BillingSession.extend, funding, Funding.extend, BillingSession.syncRelayInfo]
    refine ⟨by dsimp only; omega, by dsimp only; omega, ?_⟩
    exact { source with
      total := by dsimp only; omega
      extra := by dsimp only; omega
      sameId := rfl
      recorded := by rw [records]; exact source.recorded
    }

/-- A refund job's writes go through, for a subscription at one of its three attempts, with nothing
applied before.
-/
structure RefundWrites.Succeeds (w : RefundWrites) : Prop where
  wallet : w.funding.wallet = .applied
  attempt : ∃ k < 3, w.funding.attempt k = ⟨.applied, .applied⟩
    ∧ ∀ j < k, (w.funding.attempt j).delta ≠ .applied
  extra : w.extra = .applied
  token : w.token = .applied

/-- A subscription still has its row and the row can take `amount` back. -/
def Ledger.CanReturn (l : Ledger) (funding : Funding) (amount : ℤ) : Prop :=
  match funding with
  | .wallet _ => True
  | .subscription f => ∃ sub, l.subs f.subscriptionId = some sub
      ∧ amount ≤ sub.amountUsed
      ∧ (0 < sub.amountTotal → (sub.amountUsed : ℤ) ≤ sub.amountTotal)

theorem BillingSession.refundToken_drawn (nonneg : 0 ≤ s.tokenConsumed) (funding)
    (l : Ledger)
    : (s.refundJob.refundToken .applied l).drawn funding
      = l.drawn funding + (0, -s.relayInfo.tokenShare s.tokenConsumed) := by
  unfold refundToken
  split
  next due =>
    obtain ⟨l', increased⟩ := quotaWrite_applied .tokenNotFound
      (fun quota l => { l with
        tokenRemain := l.tokenRemain + quota, tokenUsed := l.tokenUsed - quota }) nonneg l
    change increaseTokenQuota .applied s.refundJob.tokenConsumed l = .ok l' at increased
    have keyed : s.relayInfo.isPlayground = false := due.2
    simp only [increased, RelayInfo.tokenShare, keyed, Bool.false_eq_true, if_false]
    exact (increaseTokenQuota_moves funding increased).drawn
  next notDue =>
    have none_ : s.relayInfo.tokenShare s.tokenConsumed = 0 := by
      by_cases playground : s.relayInfo.isPlayground = true
      · exact if_pos playground
      · have zero : ¬0 < s.tokenConsumed := fun some_ =>
          notDue ⟨some_, Bool.not_eq_true _ ▸ playground⟩
        rw [RelayInfo.tokenShare, if_neg playground]
        omega
    rw [none_, neg_zero, Prod.mk_zero_zero, add_zero]

theorem Funding.refund_wallet_drawn {w consumed}
    (applied : w.wallet = .applied) (nonneg : 0 ≤ consumed) (l : Ledger)
    : ((wallet consumed).refund w l).2.drawn (.wallet consumed)
      = l.drawn (.wallet consumed) + (-consumed, 0) := by
  dsimp only [refund]
  split
  next zero =>
    have : consumed = 0 := by omega
    simp [this]
  · obtain ⟨l', increased⟩ := quotaWrite_applied .userNotFound
      (fun quota l => { l with userQuota := l.userQuota + quota }) nonneg l
    change increaseUserQuota .applied consumed l = .ok l' at increased
    rw [applied, increased]
    exact (increaseUserQuota_moves increased).drawn

variable {w : RefundWrites}

theorem SubscriptionHeld.refund_eq {f sub}
    (held : SubscriptionHeld s f l) (goesThrough : w.Succeeds)
    (found : l.subs f.subscriptionId = some sub) (covered : f.preConsumed ≤ sub.amountUsed)
    (within : 0 < sub.amountTotal → (sub.amountUsed : ℤ) ≤ sub.amountTotal)
    : (subscription f).refund w.funding l
      = (none, (l.saveSub f.subscriptionId
          { sub with amountUsed := (sub.amountUsed - f.preConsumed).toNat }).saveRecord
            f.requestId ⟨f.subscriptionId, f.preConsumed, .refunded⟩) := by
  obtain ⟨k, few, success, failed⟩ := goesThrough.attempt
  simp only [Funding.refund, not_le.mpr held.preConsumed, if_false, refundWithRetry]
  refine refundAttempts_first few (fun j below => ?_) ?_
  · rw [Nat.zero_add]
    exact refundPreConsume_unapplied held.named held.recorded rfl
      held.preConsumed (failed j below)
  · rw [Nat.zero_add, success]
    exact refundPreConsume_applied held.named held.recorded rfl
      held.preConsumed held.identified found covered within

theorem SubscriptionHeld.refund_drawn {f} (held : SubscriptionHeld s f l)
    (goesThrough : w.Succeeds) (returnable : l.CanReturn (.subscription f) s.preConsumedQuota)
    : (s.refundJob.refundExtra w.extra (.subscription f)
        ((subscription f).refund w.funding l).2).drawn (.subscription f)
      = l.drawn (.subscription f) + (-s.preConsumedQuota, 0) := by
  obtain ⟨sub, found, covered, within⟩ := returnable
  have total := held.total
  have extra := held.extra
  have positive := held.preConsumed
  rw [held.refund_eq goesThrough found (by omega) within, goesThrough.extra]
  set lowered : UserSubscription :=
    { sub with amountUsed := (sub.amountUsed - f.preConsumed).toNat }
  set refunded := (l.saveSub f.subscriptionId lowered).saveRecord f.requestId
    ⟨f.subscriptionId, f.preConsumed, .refunded⟩
  have loweredUsed : (lowered.amountUsed : ℤ) = sub.amountUsed - f.preConsumed :=
    Int.toNat_of_nonneg (by omega)
  have foundLowered : refunded.subs f.subscriptionId = some lowered := by
    simp [refunded, saveRecord, saveSub]
  have refundedDrawn : refunded.drawn (.subscription f)
      = l.drawn (.subscription f) + (-f.preConsumed, 0) := by
    refine Prod.ext ?_ ?_
    · simp only [drawn, fundingDrawn_of_found foundLowered,
        fundingDrawn_of_found found, Prod.fst_add]
      omega
    · simp only [drawn, Prod.snd_add, add_zero]
      rfl
  unfold refundExtra
  split
  next due =>
    have more : 0 < s.extraReserved := due.1
    have sameId : s.refundJob.subscriptionId = f.subscriptionId := held.sameId
    have covered' : (0 : ℤ) ≤ lowered.amountUsed + -s.extraReserved := by omega
    have fits : 0 < lowered.amountTotal
        → lowered.usedAfter (-s.extraReserved) ≤ lowered.amountTotal := by
      intro limited
      have := within limited
      rw [UserSubscription.usedAfter_of_nonneg covered']
      change _ ≤ sub.amountTotal
      omega
    have adjusted := postConsumeDelta_applied held.identified foundLowered
      fits (by omega)
    have moved := postConsumeDelta_moves (f := f) (fun _ => by
      rw [fundingDrawn_of_found foundLowered]; exact covered') adjusted
    have given : s.refundJob.extraReserved = s.extraReserved := rfl
    rw [sameId, given, adjusted]
    rw [moved.drawn, refundedDrawn, add_assoc, ← total, neg_add]
    simp
  next notDue =>
    have identified : 0 < s.refundJob.subscriptionId := by
      change 0 < s.relayInfo.subscriptionId
      rw [held.sameId]
      exact held.identified
    have none_ : ¬0 < s.extraReserved := fun more => notDue ⟨more, rfl, identified⟩
    have recordedAll : s.preConsumedQuota = f.preConsumed := by omega
    rwa [recordedAll]

theorem Held.refund_drawn (held : Held s l) (goesThrough : w.Succeeds)
    (returnable : l.CanReturn s.funding s.preConsumedQuota)
    : (s.refundJob.run w s.funding l).drawn s.funding
      = l.drawn s.funding
        - (s.preConsumedQuota, s.relayInfo.tokenShare s.preConsumedQuota) := by
  have tokenNonneg := held.token ▸ held.nonneg
  have fundingDrawn : (s.refundJob.refundExtra w.extra s.funding
      (s.funding.refund w.funding l).2).drawn s.funding
      = l.drawn s.funding + (-s.preConsumedQuota, 0) := by
    have source := held.source
    cases funding : s.funding with
    | wallet consumed =>
      rw [funding] at source
      have consumedAll := source
      have noExtra : ∀ l', s.refundJob.refundExtra w.extra (.wallet consumed) l' = l' :=
        fun l' => if_neg fun due => by cases due.2.1
      rw [noExtra, refund_wallet_drawn goesThrough.wallet (consumedAll ▸ held.nonneg), consumedAll]
    | subscription f =>
      rw [funding] at source returnable
      exact SubscriptionHeld.refund_drawn source goesThrough returnable
  unfold run
  rw [goesThrough.token, BillingSession.refundToken_drawn tokenNonneg, fundingDrawn,
    held.token, add_assoc, sub_eq_add_neg]
  simp

end

def Ledger.subscriptionUsed (l : Ledger) (id : ℤ) : ℕ :=
  match l.subs id with
  | none => 0
  | some sub => sub.amountUsed

def Ledger.refundEach (requestId : String) (attempts : List RefundAttempt) (l : Ledger) : Ledger :=
  attempts.foldl (fun l w => (refundSubscriptionPreConsume w requestId l).2) l

/-- The number of adjustments that commit: those up to the first attempt that marks the record as
well.
-/
def adjustments : List RefundAttempt → ℕ
  | [] => 0
  | w :: rest =>
    if w.delta = .applied then
      if w.record = .applied then 1 else adjustments rest + 1
    else adjustments rest

/-- A refund of the request gets as far as adjusting the subscription: its record is consumed, and
the subscription's row exists and can be saved.
-/
structure Ledger.Refundable (l : Ledger) (requestId : String)
    (record : SubscriptionPreConsumeRecord) (sub : UserSubscription) : Prop where
  named : isBlank requestId = false
  recorded : l.records requestId = some record
  consumed : record.status = .consumed
  positive : 0 < record.preConsumed
  identified : 0 < record.userSubscriptionId
  found : l.subs record.userSubscriptionId = some sub
  fits : 0 < sub.amountTotal → sub.usedAfter (-record.preConsumed) ≤ sub.amountTotal

def UserSubscription.lowered (sub : UserSubscription) (amount : ℤ) : UserSubscription :=
  { sub with amountUsed := (sub.usedAfter (-amount)).toNat }

theorem UserSubscription.lowered_amountUsed (sub : UserSubscription) (amount : ℕ)
    : (sub.lowered amount).amountUsed = sub.amountUsed - amount := by
  dsimp only [lowered, usedAfter]
  split <;> omega

variable (w : RefundAttempt)

section

variable {requestId : String} {record : SubscriptionPreConsumeRecord} {l : Ledger}
  {sub : UserSubscription}

theorem Ledger.Refundable.adjusts (refundable : l.Refundable requestId record sub) (save)
    : refundSubscriptionPreConsume ⟨.applied, save⟩ requestId l
      = markRefunded save requestId record
          (l.saveSub record.userSubscriptionId (sub.lowered record.preConsumed)) := by
  have adjusted := postConsumeDelta_applied refundable.identified
    refundable.found refundable.fits (neg_ne_zero.mpr refundable.positive.ne')
  simp only [refundSubscriptionPreConsume, refundable.named, refundable.recorded,
    refundable.consumed, not_le.mpr refundable.positive, adjusted, UserSubscription.lowered,
    Bool.false_eq_true, reduceCtorEq, if_false]

theorem Ledger.Refundable.again (refundable : l.Refundable requestId record sub)
    : (l.saveSub record.userSubscriptionId (sub.lowered record.preConsumed)).Refundable
        requestId record (sub.lowered record.preConsumed) where
  __ := refundable
  found := by simp [saveSub]
  fits := by
    intro limited
    have fits := refundable.fits limited
    have positive := refundable.positive
    obtain ⟨amount, same⟩ := Int.eq_ofNat_of_zero_le positive.le
    have used := sub.lowered_amountUsed amount
    change _ ≤ sub.amountTotal
    rw [same] at fits positive ⊢
    unfold UserSubscription.usedAfter at fits ⊢
    split at fits <;> split <;> omega

theorem refundPreConsume_unrefundable (recorded : l.records requestId = some record)
    (unrefundable : ∀ sub, ¬l.Refundable requestId record sub)
    : (refundSubscriptionPreConsume w requestId l).2 = l
      ∨ (refundSubscriptionPreConsume w requestId l).2
        = l.saveRecord requestId { record with status := .refunded } := by
  unfold refundSubscriptionPreConsume
  split
  · exact .inl rfl
  next named =>
    rw [recorded]
    dsimp only
    split
    · exact .inl rfl
    next consumed =>
      split
      · cases saved : w.record with
        | applied => exact .inr rfl
        | failed text => exact .inl rfl
      next positive =>
        split
        · exact .inl rfl
        next adjusted outcome =>
          obtain ⟨identified, zero | ⟨sub, found, fits, _⟩⟩ :=
            postConsumeDelta_ok outcome
          · omega
          · have status : record.status = .consumed := by
              cases stored : record.status with
              | consumed => rfl
              | refunded => exact absurd stored consumed
            exact absurd ⟨by simpa using named, recorded, status, not_le.mp positive,
              identified, found, fits⟩ (unrefundable sub)

end

section

variable {requestId : String} {record : SubscriptionPreConsumeRecord} {l : Ledger}

theorem Ledger.refundEach_cons (rest)
    : l.refundEach requestId (w :: rest)
      = (refundSubscriptionPreConsume w requestId l).2.refundEach requestId rest := rfl

variable (attempts : List RefundAttempt)

/-- Attempts on a record that is marked already change nothing, by induction on them. -/
theorem Ledger.refundEach_refunded
    (recorded : l.records requestId = some record) (refunded : record.status = .refunded)
    : l.refundEach requestId attempts = l := by
  induction attempts with
  | nil => rfl
  | cons w rest ih =>
    have same : (refundSubscriptionPreConsume w requestId l).2 = l := by
      unfold refundSubscriptionPreConsume
      split
      · rfl
      · simp only [recorded, refunded, if_true]
    rwa [refundEach_cons, same]

theorem Ledger.refundEach_saveRecord
    : (l.saveRecord requestId { record with status := .refunded }).refundEach requestId attempts
      = l.saveRecord requestId { record with status := .refunded } :=
  refundEach_refunded attempts (Function.update_self ..) rfl

/-- Attempts on a request that is not refundable leave the subscriptions alone, by
induction on them.
-/
theorem Ledger.refundEach_unrefundable (recorded : l.records requestId = some record)
    (unrefundable : ∀ sub, ¬l.Refundable requestId record sub)
    : (l.refundEach requestId attempts).subs = l.subs := by
  induction attempts with
  | nil => rfl
  | cons w rest ih =>
    rw [refundEach_cons]
    rcases refundPreConsume_unrefundable w recorded unrefundable with
      unchanged | marked
    · rwa [unchanged]
    · rw [marked, refundEach_saveRecord]
      rfl

/-- Each adjustment that commits takes the recorded amount off, by induction on the attempts: one
that marks the record is the last to matter.
-/
theorem Ledger.Refundable.refundEach_used {sub} {amount : ℕ}
    (refundable : l.Refundable requestId record sub)
    (recordedAmount : record.preConsumed = amount) (attempts : List RefundAttempt)
    : (l.refundEach requestId attempts).subscriptionUsed record.userSubscriptionId
      = sub.amountUsed - adjustments attempts * amount := by
  induction attempts generalizing l sub with
  | nil => simp [refundEach, subscriptionUsed, adjustments, refundable.found]
  | cons w rest ih =>
    obtain ⟨delta, save⟩ := w
    rw [refundEach_cons]
    cases delta with
    | failed text =>
      obtain ⟨e, unchanged⟩ := refundPreConsume_unapplied
        (w := ⟨.failed text, save⟩) refundable.named refundable.recorded
        refundable.consumed refundable.positive (by simp)
      rw [unchanged, ih refundable]
      simp [adjustments]
    | applied =>
      have used : (sub.lowered record.preConsumed).amountUsed = sub.amountUsed - amount := by
        rw [recordedAmount, sub.lowered_amountUsed]
      rw [refundable.adjusts save]
      cases save with
      | applied =>
        simp only [markRefunded, refundEach_saveRecord]
        simp [subscriptionUsed, saveRecord, saveSub, adjustments, used]
      | failed text =>
        simp only [markRefunded]
        rw [ih refundable.again, used]
        simp only [adjustments, reduceCtorEq, if_true, if_false]
        rw [Nat.add_mul, Nat.one_mul, Nat.sub_sub, Nat.add_comm]

theorem refundPreConsume_marks {w l'}
    (succeeded : refundSubscriptionPreConsume w requestId l = (none, l'))
    : ∃ record, l'.records requestId = some record ∧ record.status = .refunded := by
  have marks {save : Save} {record : SubscriptionPreConsumeRecord} {l₀ : Ledger}
      (marked : markRefunded save requestId record l₀ = (none, l'))
      : ∃ record, l'.records requestId = some record ∧ record.status = .refunded := by
    cases save with
    | failed text => simp [markRefunded] at marked
    | applied =>
      simp only [markRefunded, Prod.mk.injEq, true_and] at marked
      subst marked
      exact ⟨_, Function.update_self .., rfl⟩
  unfold refundSubscriptionPreConsume at succeeded
  split at succeeded
  · simp at succeeded
  split at succeeded
  · simp at succeeded
  rename_i record recorded
  split at succeeded
  next refunded =>
    simp only [Prod.mk.injEq, true_and] at succeeded
    exact ⟨record, succeeded ▸ recorded, refunded⟩
  · split at succeeded
    · exact marks succeeded
    · split at succeeded
      · simp at succeeded
      · exact marks succeeded

end

/-- The retry loop leaves what its attempts leave: after the first success the others would change
nothing. By induction on the attempts left.
-/
theorem refundAttempts_eq_refundEach (requestId w)
    (left i lastError) (l : Ledger)
    : (refundAttempts (fun i => refundSubscriptionPreConsume (w i) requestId) left i lastError l).2
      = l.refundEach requestId ((List.range' i left).map w) := by
  induction left generalizing i lastError l with
  | zero => rfl
  | succ left ih =>
    rw [List.range'_succ, List.map_cons, Ledger.refundEach_cons]
    unfold refundAttempts
    split
    next l' succeeded =>
      obtain ⟨record, recorded, refunded⟩ := refundPreConsume_marks succeeded
      rw [succeeded, Ledger.refundEach_refunded _ recorded refunded]
    next e l' failed =>
      rw [failed]
      exact ih (i + 1) (some e) l'

theorem refundWithRetry_eq_refundEach (requestId : String) (w : ℕ → RefundAttempt) (l : Ledger)
    : (refundWithRetry (fun i => refundSubscriptionPreConsume (w i) requestId) l).2
      = l.refundEach requestId [w 0, w 1, w 2] :=
  refundAttempts_eq_refundEach requestId w 3 0 none l

def Ledger.returned (l : Ledger) (requestId : String) (attempts : List RefundAttempt) (id : ℤ)
    : ℤ := l.subscriptionUsed id - (l.refundEach requestId attempts).subscriptionUsed id

/-- The attempts to refund a request take at most the pre-consumed amount off exactly when at most
one of their adjustments commits, or no more than that amount is used; a request that is not
refundable gets nothing.
-/
theorem refundEach_returned_le_iff {requestId record} {l : Ledger} (attempts : List RefundAttempt)
    (recorded : l.records requestId = some record) (nonneg : 0 ≤ record.preConsumed)
    : l.returned requestId attempts record.userSubscriptionId ≤ record.preConsumed
      ↔ ∀ sub, l.Refundable requestId record sub
        → (sub.amountUsed : ℤ) ≤ record.preConsumed ∨ adjustments attempts ≤ 1 := by
  by_cases some_ : ∃ sub, l.Refundable requestId record sub
  · obtain ⟨sub, refundable⟩ := some_
    obtain ⟨amount, recordedAmount⟩ := Int.eq_ofNat_of_zero_le nonneg
    have positive : 0 < amount := by
      have := refundable.positive
      omega
    have before : l.subscriptionUsed record.userSubscriptionId = sub.amountUsed := by
      simp [Ledger.subscriptionUsed, refundable.found]
    have few : adjustments attempts * amount ≤ amount ↔ adjustments attempts ≤ 1 := by
      constructor
      · intro fits
        by_contra more
        have : 2 * amount ≤ adjustments attempts * amount := Nat.mul_le_mul_right amount (by omega)
        omega
      · intro once
        simpa using Nat.mul_le_mul_right amount once
    have unique : (∀ sub, l.Refundable requestId record sub
          → (sub.amountUsed : ℤ) ≤ record.preConsumed ∨ adjustments attempts ≤ 1)
        ↔ (sub.amountUsed : ℤ) ≤ record.preConsumed ∨ adjustments attempts ≤ 1 := by
      refine ⟨fun all => all sub refundable, fun holds other otherRefundable => ?_⟩
      have same := Option.some.inj (refundable.found.symm.trans otherRefundable.found)
      exact same ▸ holds
    rw [unique, Ledger.returned, before,
      refundable.refundEach_used recordedAmount attempts, recordedAmount, ← few]
    omega
  · rw [not_exists] at some_
    have unchanged : (l.refundEach requestId attempts).subscriptionUsed
        record.userSubscriptionId = l.subscriptionUsed record.userSubscriptionId := by
      simp [Ledger.subscriptionUsed, Ledger.refundEach_unrefundable attempts recorded some_]
    rw [Ledger.returned, unchanged, Int.sub_self]
    exact iff_of_true nonneg fun sub refundable => absurd refundable (some_ sub)

def preConsumedFive : Ledger where
  userQuota := 0
  tokenRemain := 0
  tokenUsed := 0
  subs := fun id => if id = 1 then some ⟨0, 20⟩ else none
  records := fun requestId => if requestId = "req" then some ⟨1, 5, .consumed⟩ else none

/-- A first attempt that adjusts nothing and a second one that goes through return the
amount once.
-/
theorem preConsumedFive_returned_once
    : preConsumedFive.records "req" = some ⟨1, 5, .consumed⟩
      ∧ preConsumedFive.returned "req"
          [⟨.failed "deadlock", .applied⟩, ⟨.applied, .applied⟩] 1 ≤ 5 :=
  ⟨rfl, (@refundEach_returned_le_iff "req" ⟨1, 5, .consumed⟩ preConsumedFive _ rfl
    (by decide)).mpr fun _ _ => .inr (by decide)⟩

/-- A first attempt that adjusts the subscription but does not mark the record, and the retry,
return the amount twice.
-/
theorem preConsumedFive_returned_twice
    : preConsumedFive.records "req" = some ⟨1, 5, .consumed⟩
      ∧ ((refundWithRetry (fun i => refundSubscriptionPreConsume
          (if i = 0 then ⟨.applied, .failed "commit"⟩ else ⟨.applied, .applied⟩) "req")
            preConsumedFive).2.subscriptionUsed 1 = 10)
      ∧ preConsumedFive.returned "req"
          [⟨.applied, .failed "commit"⟩, ⟨.applied, .applied⟩] 1 = 10 := by
  decide

end HelsterApi.Billing
