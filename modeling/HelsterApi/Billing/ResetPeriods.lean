import HelsterApi.Billing.Refunding
import HelsterApi.Transition.Machine

/-! Refunds and settlements across a reset. A reset starts the use of a subscription from zero, but
neither the records nor the adjustments know the period a request was charged in, so a request of an
earlier period can take off what those of the current one used.
-/

namespace HelsterApi.Billing

open Function Ledger Option Transition UserSubscription

def ResetDecision.restarts : ResetDecision → Bool
  | .restart .applied => true
  | _ => false

variable {row sub : UserSubscription} {decision : ResetDecision}

theorem maybeReset_ok
    (reset : maybeResetUserSubscriptionWithPlanTx row decision = .ok sub)
    : sub.amountUsed = (if decision.restarts then 0 else row.amountUsed)
      ∧ sub.amountTotal = row.amountTotal := by
  unfold maybeResetUserSubscriptionWithPlanTx at reset
  split at reset <;> cases reset <;> exact ⟨rfl, rfl⟩

theorem Ledger.subscriptionUsed_saveSub (l : Ledger) (id other) (sub : UserSubscription)
    : (l.saveSub id sub).subscriptionUsed other
      = if other = id then sub.amountUsed else l.subscriptionUsed other := by
  dsimp only [subscriptionUsed, saveSub]
  split_ifs with same
  · rw [same, update_self]
  · rw [update_of_ne same]

variable {l : Ledger} {id : ℤ}

theorem Ledger.subscriptionUsed_of_found (found : l.subs id = some sub)
    : l.subscriptionUsed id = sub.amountUsed := by
  simp only [subscriptionUsed, found]

variable {save : Save} {delta : ℤ} {l' : Ledger}

/-- The subscriptions whose period a pre-consume starts anew: those it tries, up to the one it
charges, whose reset is due.
-/
def restartedBy (amount : ℤ) : List Candidate → Ledger → List ℤ
  | [], _ => []
  | candidate :: rest, l =>
    match l.subs candidate.id, candidate.planError with
    | none, _ => restartedBy amount rest l
    | some _, some _ => []
    | some row, none =>
      match maybeResetUserSubscriptionWithPlanTx row candidate.reset with
      | .error _ => []
      | .ok sub =>
        let here := if candidate.reset.restarts then [candidate.id] else []
        if 0 < sub.amountTotal ∧ sub.amountTotal - sub.amountUsed < amount then
          here ++ restartedBy amount rest (l.saveSub candidate.id sub)
        else here

/-- What a pre-consume that finds no record does: some periods start anew, and if its record is
created, one subscription is charged.
-/
structure Spends (w : PreConsumeWrites) (requestId : String) (amount : ℤ)
    (restarted : List ℤ) (l : Ledger) (result : SubscriptionPreConsumeResult) (l' : Ledger)
    : Prop where
  positive : 0 < result.userSubscriptionId
  records : l'.records = if w.create = .applied then
      update l.records requestId
        (some ⟨result.userSubscriptionId, amount, .consumed⟩)
    else l.records
  used : ∀ id, (l'.subscriptionUsed id : ℤ)
    = (if id ∈ restarted then 0 else (l.subscriptionUsed id : ℤ))
      + (if w.create = .applied ∧ id = result.userSubscriptionId then amount else 0)

def Ledger.Within (l : Ledger) : Prop :=
  ∀ id sub, l.subs id = some sub → 0 < sub.amountTotal → (sub.amountUsed : ℤ) ≤ sub.amountTotal

theorem Ledger.Within.saveSub (within : l.Within)
    (fits : 0 < sub.amountTotal → (sub.amountUsed : ℤ) ≤ sub.amountTotal)
    : (l.saveSub id sub).Within := by
  intro other row found
  change update l.subs id (some sub) other = some row at found
  by_cases same : other = id
  · rw [same, update_self, some.injEq] at found
    rwa [← found]
  · rw [update_of_ne same] at found
    exact within other row found

theorem maybeReset_within (reset : maybeResetUserSubscriptionWithPlanTx row decision = .ok sub)
    (fits : 0 < row.amountTotal → (row.amountUsed : ℤ) ≤ row.amountTotal)
    : 0 < sub.amountTotal → (sub.amountUsed : ℤ) ≤ sub.amountTotal := by
  obtain ⟨used, total⟩ := maybeReset_ok reset
  intro limited
  rw [total] at limited ⊢
  have before := fits limited
  rw [used]
  split <;> omega

theorem restarted_saveSub {candidate : Candidate} (found : l.subs candidate.id = some row)
    (reset : maybeResetUserSubscriptionWithPlanTx row candidate.reset = .ok sub) (later)
    (id)
    : (if id ∈ later then 0 else ((l.saveSub candidate.id sub).subscriptionUsed id : ℤ))
      = if id ∈ (if candidate.reset.restarts then [candidate.id] else []) ++ later then 0
        else (l.subscriptionUsed id : ℤ) := by
  obtain ⟨used, _⟩ := maybeReset_ok reset
  rw [subscriptionUsed_saveSub, used]
  by_cases same : id = candidate.id
  · rw [same, subscriptionUsed_of_found found]
    cases candidate.reset.restarts <;> simp
  · cases candidate.reset.restarts <;> simp [same]

section

variable {w : PreConsumeWrites} {requestId : String} {amount : ℤ}
  {result : SubscriptionPreConsumeResult} {l l' : Ledger}

theorem chargeCandidate_spends {id sub} (positive : 0 < id)
    (amountPositive : 0 < amount) (found : l.subs id = some sub)
    (charged : chargeCandidate w requestId amount id sub l = .ok (result, l'))
    : Spends w requestId amount [] l result l' := by
  unfold chargeCandidate at charged
  split at charged
  next failed =>
    have none_ : w.create ≠ .applied := by simp [failed]
    split at charged
    · cases charged
    split at charged
    · cases charged
    cases charged
    exact ⟨positive, by rw [if_neg none_], fun id => by simp [none_]⟩
  next created =>
    split at charged
    · cases charged
    cases charged
    refine ⟨positive, by rw [if_pos created]; rfl, fun other => ?_⟩
    rw [subscriptionUsed_saveSub]
    simp only [created, true_and, List.not_mem_nil, if_false]
    split_ifs with same
    · rw [same, subscriptionUsed_of_found found]
      exact Int.toNat_of_nonneg (by omega)
    · rw [add_zero]
      rfl

variable {candidates : List Candidate}

/-- The candidate loop spends the amount on one candidate and starts the periods of those it tries,
by induction on them.
-/
theorem chargeCandidates_spends (amountPositive : 0 < amount)
    (charged : chargeCandidates w requestId amount candidates l = .ok (result, l'))
    : Spends w requestId amount (restartedBy amount candidates l) l result l' := by
  induction candidates generalizing l with
  | nil => cases charged
  | cons candidate rest ih =>
    simp only [chargeCandidates] at charged
    split at charged
    next missing =>
      simp only [restartedBy, missing]
      exact ih charged
    · cases charged
    next row found planned =>
      split at charged
      · cases charged
      rename_i sub reset
      simp only [restartedBy, found, planned, reset]
      split_ifs at charged with full
      · rw [if_pos full]
        obtain ⟨positive, records, later⟩ := ih charged
        refine ⟨positive, records, fun id => ?_⟩
        rw [later id, restarted_saveSub found reset]
      · rw [if_neg full]
        obtain ⟨positive, records, later⟩ := chargeCandidate_spends candidate.positive
          amountPositive (by simp [saveSub]) charged
        refine ⟨positive, records, fun id => ?_⟩
        rw [later id, restarted_saveSub found reset, List.append_nil]

/-- The candidate loop keeps every row within its total, by induction on the candidates. -/
theorem chargeCandidates_within (amountPositive : 0 < amount) (within : l.Within)
    (charged : chargeCandidates w requestId amount candidates l = .ok (result, l'))
    : l'.Within := by
  induction candidates generalizing l with
  | nil => cases charged
  | cons candidate rest ih =>
    simp only [chargeCandidates] at charged
    split at charged
    · exact ih within charged
    · cases charged
    next row found _ =>
      split at charged
      · cases charged
      rename_i sub reset
      have saved : (l.saveSub candidate.id sub).Within :=
        within.saveSub (maybeReset_within reset (within _ _ found))
      split at charged
      · exact ih saved charged
      next room =>
        unfold chargeCandidate at charged
        split at charged
        · split at charged
          · cases charged
          split at charged
          · cases charged
          cases charged
          exact saved
        · split at charged
          · cases charged
          cases charged
          have recorded := saved
          refine recorded.saveSub fun limited => ?_
          dsimp only at limited ⊢
          omega

theorem preConsumeSubscription_cases {userId}
    (charged : preConsumeUserSubscription w requestId userId amount l = .ok (result, l'))
    : (∃ record, l.records requestId = some record ∧ l' = l)
      ∨ l.records requestId = none ∧ isBlank requestId = false ∧ 0 < amount
        ∧ Spends w requestId amount (restartedBy amount (w.candidates.getD []) l) l result l'
        ∧ (l.Within → l'.Within) := by
  obtain ⟨named, positive, replayed | ⟨fresh, candidates, listed, chosen⟩⟩ :=
    preConsumeSubscription_ok charged
  · exact .inl replayed
  · refine .inr ⟨fresh, named, positive, ?_, fun within =>
      chargeCandidates_within positive within chosen⟩
    rw [listed, getD_some]
    exact chargeCandidates_spends positive chosen

end

/-- The rows, with what they do not say: the number of each subscription's period, the period each
request was charged in, and what the requests of the current period have used.
-/
structure PeriodState where
  ledger : Ledger
  period : ℤ → ℕ
  origin : String → Option ℕ
  own : ℤ → ℤ

open PeriodState

/-- A pre-consume, an adjustment by a request that settles or reserves, a refund, and a reset. -/
inductive PeriodAction where
  | preConsume (w : PreConsumeWrites) (requestId : String) (userId amount : ℤ)
  | settle (save : Save) (requestId : String) (delta : ℤ)
  | refund (w : RefundAttempt) (requestId : String)
  | reset (id : ℤ) (decision : ResetDecision)

def PeriodState.restart (ids : List ℤ) (s : PeriodState) : PeriodState :=
  { s with
    period := fun id => if id ∈ ids then s.period id + 1 else s.period id
    own := fun id => if id ∈ ids then 0 else s.own id }

def PeriodState.current (s : PeriodState) (requestId : String) (id : ℤ) : Bool :=
  s.origin requestId = some (s.period id)

def PeriodState.charge (requestId : String) (id amount : ℤ) (s : PeriodState) : PeriodState :=
  { s with
    origin := update s.origin requestId (some (s.period id))
    own := update s.own id (s.own id + amount) }

/-- An adjustment counts for the period the request was charged in. -/
def PeriodState.adjust (requestId : String) (id delta : ℤ) (s : PeriodState) : PeriodState :=
  if s.current requestId id then { s with own := update s.own id (s.own id + delta) }
  else s

def refundAdjusts (w : RefundAttempt) (requestId : String)
    (record : SubscriptionPreConsumeRecord) (l : Ledger)
    : Bool :=
  !isBlank requestId && decide (record.status = .consumed ∧ 0 < record.preConsumed)
    && (postConsumeUserSubscriptionDelta w.delta record.userSubscriptionId
      (-record.preConsumed) l).isOk

/-- Only a request with a record settles or is refunded. -/
def PeriodState.next (s : PeriodState) : PeriodAction → Option PeriodState
  | .preConsume w requestId userId amount =>
    match preConsumeUserSubscription w requestId userId amount s.ledger with
    | .error _ => some s
    | .ok (result, ledger) =>
      if (s.ledger.records requestId).isSome then some { s with ledger := ledger }
      else
        let restarted := { s with ledger := ledger }.restart
          (restartedBy amount (w.candidates.getD []) s.ledger)
        some (if w.create = .applied then
          restarted.charge requestId result.userSubscriptionId amount
        else restarted)
  | .settle save requestId delta =>
    (s.ledger.records requestId).map fun record =>
      match postConsumeUserSubscriptionDelta save record.userSubscriptionId delta s.ledger with
      | .error _ => s
      | .ok ledger => { s with ledger := ledger }.adjust requestId record.userSubscriptionId delta
  | .refund w requestId =>
    (s.ledger.records requestId).map fun record =>
      let refunded :=
        { s with ledger := (refundSubscriptionPreConsume w requestId s.ledger).2 }
      if refundAdjusts w requestId record s.ledger then
        refunded.adjust requestId record.userSubscriptionId (-record.preConsumed)
      else refunded
  | .reset id decision =>
    some (match s.ledger.subs id with
      | none => s
      | some row =>
        match maybeResetUserSubscriptionWithPlanTx row decision with
        | .error _ => s
        | .ok sub =>
          { s with ledger := s.ledger.saveSub id sub }.restart
            (if decision.restarts then [id] else []))

def periodMachine : Machine PeriodState PeriodAction where
  initial s := (∀ id, s.ledger.subscriptionUsed id = 0) ∧ s.ledger.records = (fun _ => none)
    ∧ s.own = fun _ => 0
  next := PeriodState.next

/-- No subscription has less use recorded than the requests of its current period have used. -/
def PeriodState.Covered (s : PeriodState) : Prop := ∀ id, s.own id ≤ s.ledger.subscriptionUsed id

/-- Taking an amount off a subscription takes nothing from the current period: the request was
charged in it, its requests have used nothing, or the use recorded exceeds theirs by the amount.
-/
def PeriodState.Spares (s : PeriodState) (requestId : String) (id amount : ℤ) : Prop :=
  s.current requestId id = true ∨ s.own id ≤ 0
  ∨ amount ≤ s.ledger.subscriptionUsed id - s.own id

def PeriodState.SparesPeriod (s : PeriodState) : PeriodAction → Prop
  | .settle save requestId delta => save = .applied
      → ∀ record ∈ s.ledger.records requestId, s.Spares requestId record.userSubscriptionId (-delta)
  | .refund w requestId => w.delta = .applied
      → ∀ record ∈ s.ledger.records requestId, record.status = .consumed
        → s.Spares requestId record.userSubscriptionId record.preConsumed
  | _ => True

/-- Records have a request id and name a subscription, and limited subscriptions stay within
their total.
-/
structure Ledger.Sound (l : Ledger) : Prop where
  records : ∀ requestId record, l.records requestId = some record
    → isBlank requestId = false ∧ 0 < record.userSubscriptionId
  within : l.Within

variable {requestId : String} {record : SubscriptionPreConsumeRecord}

section

variable (sound : l.Sound)

include sound

theorem Ledger.Sound.saveRecord (named : isBlank requestId = false)
    (positive : 0 < record.userSubscriptionId)
    : (l.saveRecord requestId record).Sound := by
  refine ⟨fun other saved found => ?_, sound.within⟩
  change update l.records requestId (some record) other = some saved at found
  by_cases same : other = requestId
  · rw [same, update_self, some.injEq] at found
    rw [same, ← found]
    exact ⟨named, positive⟩
  · rw [update_of_ne same] at found
    exact sound.records other saved found

theorem Ledger.Sound.postConsume
    (adjusted : postConsumeUserSubscriptionDelta save id delta l = .ok l')
    : l'.Sound := by
  obtain ⟨_, ⟨_, rfl⟩ | ⟨sub, found, fits, rfl⟩⟩ := postConsumeDelta_ok adjusted
  · exact sound
  · refine ⟨sound.records, sound.within.saveSub fun limited => ?_⟩
    have bound := fits limited
    have nonneg : 0 ≤ sub.usedAfter delta := by
      unfold usedAfter
      split <;> omega
    dsimp only at limited ⊢
    omega

theorem Ledger.Sound.markRefunded (named : isBlank requestId = false)
    (positive : 0 < record.userSubscriptionId) (save)
    : (markRefunded save requestId record l).2.Sound := by
  cases save with
  | applied => exact sound.saveRecord named positive
  | failed text => exact sound

theorem Ledger.Sound.refund (w requestId)
    : (refundSubscriptionPreConsume w requestId l).2.Sound := by
  unfold refundSubscriptionPreConsume
  split
  · exact sound
  next named =>
    rw [Bool.not_eq_true] at named
    split
    · exact sound
    next record recorded =>
      have positive := (sound.records requestId record recorded).2
      split
      · exact sound
      · split
        · exact sound.markRefunded named positive w.record
        · split
          · exact sound
          next adjusted done => exact (sound.postConsume done).markRefunded named positive w.record

variable {w : PreConsumeWrites} {userId amount : ℤ}

theorem Ledger.Sound.preConsume {result}
    (charged : preConsumeUserSubscription w requestId userId amount l = .ok (result, l'))
    : l'.Sound := by
  rcases preConsumeSubscription_cases charged with
    ⟨_, _, rfl⟩ | ⟨_, named, _, spends, within⟩
  · exact sound
  · refine ⟨?_, within sound.within⟩
    rw [spends.records]
    split
    · exact (sound.saveRecord named spends.positive).records
    · exact sound.records

end

theorem Ledger.subscriptionUsed_congr (subs : l'.subs = l.subs) (id)
    : l'.subscriptionUsed id = l.subscriptionUsed id := by
  unfold subscriptionUsed
  rw [subs]

theorem markRefunded_subs (save requestId)
    (record) (l : Ledger)
    : (markRefunded save requestId record l).2.subs = l.subs := by
  cases save <;> rfl

theorem refundPreConsume_subs {w} (recorded : l.records requestId = some record)
    : (∃ adjusted, refundAdjusts w requestId record l = true
        ∧ postConsumeUserSubscriptionDelta w.delta record.userSubscriptionId
          (-record.preConsumed) l = .ok adjusted
        ∧ 0 < record.preConsumed
        ∧ (refundSubscriptionPreConsume w requestId l).2.subs = adjusted.subs)
      ∨ (refundAdjusts w requestId record l = false
        ∧ (refundSubscriptionPreConsume w requestId l).2.subs = l.subs
        ∧ (isBlank requestId = true ∨ record.status = .refunded ∨ record.preConsumed ≤ 0
          ∨ ∃ e, postConsumeUserSubscriptionDelta w.delta record.userSubscriptionId
            (-record.preConsumed) l = .error e)) := by
  simp only [refundAdjusts, refundSubscriptionPreConsume, recorded]
  cases blank : isBlank requestId with
  | true => exact .inr ⟨rfl, rfl, .inl rfl⟩
  | false =>
    rw [if_neg Bool.false_ne_true]
    cases status : record.status with
    | refunded => exact .inr ⟨by simp, rfl, .inr (.inl rfl)⟩
    | consumed =>
      rw [if_neg (by decide)]
      by_cases positive : 0 < record.preConsumed
      · rw [if_neg (not_le.mpr positive)]
        cases done : postConsumeUserSubscriptionDelta w.delta record.userSubscriptionId
            (-record.preConsumed) l with
        | error e => exact .inr ⟨by simp [Except.isOk, Except.toBool], rfl,
            .inr (.inr (.inr ⟨e, rfl⟩))⟩
        | ok adjusted =>
          refine .inl ⟨adjusted, ?_, rfl, positive, markRefunded_subs ..⟩
          simp [positive, Except.isOk, Except.toBool]
      · rw [if_pos (not_lt.mp positive)]
        refine .inr ⟨by simp [positive], markRefunded_subs .., .inr (.inr (.inl ?_))⟩
        exact not_lt.mp positive

namespace PeriodState

theorem adjust_ledger (requestId id delta) (s : PeriodState)
    : (s.adjust requestId id delta).ledger = s.ledger := by
  unfold adjust
  split <;> rfl

variable {s : PeriodState} (covered : s.Covered)

include covered

/-- An adjustment that is written keeps the use of the period covered exactly if it spares
the period.
-/
theorem Covered.adjust_iff {adjusted after}
    (done : postConsumeUserSubscriptionDelta save id delta s.ledger = .ok adjusted)
    (subs : after.subs = adjusted.subs) (requestId : String)
    : ({ s with ledger := after }.adjust requestId id delta).Covered
      ↔ s.Spares requestId id (-delta) := by
  have used : ∀ other, (after.subscriptionUsed other : ℤ)
      = if other = id then max 0 (s.ledger.subscriptionUsed id + delta)
        else s.ledger.subscriptionUsed other := by
    intro other
    rw [subscriptionUsed_congr subs]
    obtain ⟨_, ⟨rfl, rfl⟩ | ⟨sub, found, _, rfl⟩⟩ := postConsumeDelta_ok done
    · split_ifs with same
      · rw [same]
        omega
      · rfl
    · rw [subscriptionUsed_saveSub, subscriptionUsed_of_found found]
      split_ifs with same
      · dsimp only [usedAfter]
        split <;> omega
      · rfl
  have here := covered id
  cases current : s.current requestId id with
  | true =>
    refine iff_of_true ?_ (.inl current)
    intro other
    rw [adjust_ledger]
    have counted : ({ s with ledger := after }.adjust requestId id delta).own
        = update s.own id (s.own id + delta) := by
      exact congrArg own (if_pos current)
    rw [counted, used other]
    split_ifs with same
    · rw [same, update_self]
      omega
    · rw [update_of_ne same]
      exact covered other
  | false =>
    have kept : { s with ledger := after }.adjust requestId id delta
        = { s with ledger := after } := by
      exact if_neg (by rw [Bool.not_eq_true]; exact current)
    rw [kept]
    unfold Spares
    rw [current, Bool.false_eq_true, false_or]
    constructor
    · intro still
      have bound := still id
      dsimp only at bound
      rw [used id, if_pos rfl] at bound
      omega
    · intro spares other
      dsimp only
      rw [used other]
      split_ifs with same
      · rw [same]
        omega
      · exact covered other

theorem Covered.spares_of_refused (within : s.ledger.Within) {e} (positive : 0 < id)
    (refused : postConsumeUserSubscriptionDelta .applied id delta s.ledger = .error e)
    (requestId)
    : s.Spares requestId id (-delta) := by
  have here := covered id
  cases found : s.ledger.subs id with
  | none =>
    refine .inr (.inl ?_)
    simpa only [subscriptionUsed, found, Nat.cast_zero] using here
  | some sub =>
    by_cases lowers : delta < 0
    · have fits : 0 < sub.amountTotal → sub.usedAfter delta ≤ sub.amountTotal := by
        intro limited
        have bound := within id sub found limited
        unfold usedAfter
        split <;> omega
      simp [postConsumeDelta_applied positive found fits lowers.ne] at refused
    · exact .inr (.inr (by omega))

variable {s' : PeriodState}

theorem Covered.settle_iff (sound : s.ledger.Sound)
    (moved : s.next (.settle save requestId delta) = some s')
    : s'.Covered ↔ s.SparesPeriod (.settle save requestId delta) := by
  obtain ⟨record, recorded, rfl⟩ := map_eq_some_iff.mp moved
  simp only [SparesPeriod, recorded, mem_some_iff, forall_eq']
  cases done : postConsumeUserSubscriptionDelta save record.userSubscriptionId delta s.ledger with
  | error e =>
    refine iff_of_true covered ?_
    rintro rfl
    exact covered.spares_of_refused sound.within (sound.records _ _ recorded).2 done requestId
  | ok adjusted =>
    rw [covered.adjust_iff done rfl requestId]
    refine ⟨fun spares _ => spares, fun written => ?_⟩
    by_cases applied : save = .applied
    · exact written applied
    · have unchanged : delta = 0 := by
        by_contra changes
        exact applied (applied_of_postConsume_ok changes done)
      refine .inr (.inr ?_)
      have here := covered record.userSubscriptionId
      omega

theorem Covered.refund_iff (sound : s.ledger.Sound) {w}
    (moved : s.next (.refund w requestId) = some s')
    : s'.Covered ↔ s.SparesPeriod (.refund w requestId) := by
  obtain ⟨record, recorded, rfl⟩ := map_eq_some_iff.mp moved
  obtain ⟨named, identified⟩ := sound.records _ _ recorded
  simp only [SparesPeriod, recorded, mem_some_iff, forall_eq']
  have here := covered record.userSubscriptionId
  rcases refundPreConsume_subs (w := w) recorded with
    ⟨adjusted, adjusts, done, positive, subs⟩ | ⟨stays, subs, why⟩
  · rw [if_pos adjusts, covered.adjust_iff done subs requestId, neg_neg]
    refine ⟨fun spares _ _ => spares, fun written => ?_⟩
    have consumed : record.status = .consumed := by
      simp only [refundAdjusts, Bool.and_eq_true, decide_eq_true_eq] at adjusts
      exact adjusts.1.2.1
    exact written (applied_of_postConsume_ok (by omega) done) consumed
  · rw [if_neg (by rw [stays]; exact Bool.false_ne_true)]
    refine iff_of_true ?_ ?_
    · intro id
      rw [Ledger.subscriptionUsed_congr subs]
      exact covered id
    · intro applied consumed
      rcases why with blank | refunded | nothing | ⟨e, refused⟩
      · cases named.symm.trans blank
      · cases consumed.symm.trans refunded
      · exact .inr (.inr (by omega))
      · rw [applied] at refused
        have spares := covered.spares_of_refused sound.within identified refused requestId
        rwa [neg_neg] at spares

theorem Covered.restart (ids id)
    : (s.restart ids).own id ≤ if id ∈ ids then 0 else (s.ledger.subscriptionUsed id : ℤ) := by
  simp only [PeriodState.restart]
  split
  · exact le_rfl
  · exact covered id

theorem Covered.preConsume
    (moved : s.next (.preConsume w requestId userId amount) = some s')
    : s'.Covered := by
  dsimp only [next] at moved
  split at moved
  · cases moved
    exact covered
  next result ledger charged =>
    rcases preConsumeSubscription_cases charged with
      ⟨record, recorded, rfl⟩ | ⟨fresh, _, _, spends, _⟩
    · rw [recorded, isSome_some, if_pos rfl] at moved
      cases moved
      exact covered
    · rw [fresh, if_neg (by simp)] at moved
      cases moved
      intro id
      have kept := covered.restart (restartedBy amount (w.candidates.getD []) s.ledger) id
      have used := spends.used id
      by_cases created : w.create = .applied
      · rw [if_pos created]
        simp only [created, true_and] at used
        refine le_of_eq_of_le ?_ ((add_le_add_left kept _).trans_eq used.symm)
        by_cases same : id = result.userSubscriptionId
        · subst same
          simp [charge]
          rfl
        · simp [charge, same]
          rfl
      · rw [if_neg created]
        simp only [created, false_and, if_false, add_zero] at used
        exact kept.trans_eq used.symm

theorem Covered.reset (moved : s.next (.reset id decision) = some s') : s'.Covered := by
  simp only [next, some.injEq] at moved
  subst moved
  split
  · exact covered
  next row found =>
    split
    · exact covered
    next sub reset =>
      obtain ⟨used, _⟩ := maybeReset_ok reset
      intro other
      have before := covered other
      simp only [PeriodState.restart]
      rw [subscriptionUsed_saveSub, used]
      by_cases same : other = id
      · rw [same] at before ⊢
        rw [subscriptionUsed_of_found found] at before
        cases decision.restarts <;> simp [before]
      · cases decision.restarts <;> simp [same, before]

end PeriodState

theorem periods_sound {s} (reached : periodMachine.Reaches anyStep s) : s.ledger.Sound := by
  refine reached.invariant (fun s => s.ledger.Sound) ?_ ?_
  · intro s start
    refine ⟨fun requestId record found => ?_, fun id sub found _ => ?_⟩
    · simp [start.2.1] at found
    · have unused := start.1 id
      rw [Ledger.subscriptionUsed_of_found found] at unused
      omega
  · intro s action s' _ sound _ moved
    cases action with
    | preConsume w requestId userId amount =>
      simp only [periodMachine, next] at moved
      split at moved
      · cases moved
        exact sound
      next result ledger charged =>
        have after := sound.preConsume charged
        split at moved <;> cases moved
        · exact after
        · split <;> exact after
    | settle save requestId delta =>
      obtain ⟨record, _, rfl⟩ := map_eq_some_iff.mp moved
      split
      · exact sound
      next adjusted =>
        rw [adjust_ledger]
        exact sound.postConsume adjusted
    | refund w requestId =>
      obtain ⟨record, _, rfl⟩ := map_eq_some_iff.mp moved
      have after := sound.refund w requestId
      split
      · rwa [adjust_ledger]
      · exact after
    | reset id decision =>
      simp only [periodMachine, next, some.injEq] at moved
      subst moved
      split
      · exact sound
      next row found =>
        split
        · exact sound
        next sub reset =>
          exact ⟨sound.records,
            sound.within.saveSub (maybeReset_within reset (sound.within _ _ found))⟩

theorem periodMachine_keepsExactly
    : periodMachine.KeepsExactly PeriodState.SparesPeriod PeriodState.Covered := by
  refine Machine.keepsExactly_of_step ?_ ?_
  · intro s start id
    rw [start.2.2, start.1 id]
    exact le_rfl
  · intro s action s' reached covered moved
    have sound := periods_sound reached
    cases action with
    | preConsume w requestId userId amount => exact iff_of_true (covered.preConsume moved) trivial
    | settle save requestId delta => exact covered.settle_iff sound moved
    | refund w requestId => exact covered.refund_iff sound moved
    | reset id decision => exact iff_of_true (covered.reset moved) trivial

/-- Over every run across resets, no refund and no negative settlement of a request of an
earlier period lowers the use recorded below what the requests of the current period have
used, if each of them spares the period; and from a state of any run in which the use is
recorded, the next call keeps it so exactly if it spares the period.
-/
theorem later_period_spared_exactly (s : PeriodState)
    : (periodMachine.Reaches PeriodState.SparesPeriod s → s.Covered)
      ∧ (periodMachine.Reaches anyStep s → s.Covered
        → ∀ action s', s.next action = some s' → (s'.Covered ↔ s.SparesPeriod action)) := by
  constructor
  · exact periodMachine_keepsExactly.safe s
  · intro reached covered action s' moved
    exact periodMachine_keepsExactly.tight s action s' reached covered moved

def unusedSubscription : PeriodState where
  ledger := ⟨0, 0, 0, fun id => if id = 1 then some ⟨1000, 0⟩ else none, fun _ => none⟩
  period := fun _ => 0
  origin := fun _ => none
  own := fun _ => 0

def consumes (requestId : String) (amount : ℤ) : PeriodAction :=
  .preConsume ⟨none, some [⟨1, by decide, none, .keep⟩], .applied, none, .applied⟩ requestId 7
    amount

def acrossReset : List PeriodAction :=
  [consumes "before" 100, .reset 1 (.restart .applied), consumes "after" 50]

theorem unusedSubscription_initial : periodMachine.initial unusedSubscription := by
  refine ⟨fun id => ?_, rfl, rfl⟩
  by_cases first : id = 1 <;> simp [subscriptionUsed, unusedSubscription, first]

/-- Refunding the second request after the reset takes off what it has used, and no more. -/
theorem own_period_refund_spared
    : (periodMachine.play unusedSubscription
          (acrossReset ++ [.refund ⟨.applied, .applied⟩ "after"])).Covered := by
  refine (later_period_spared_exactly _).1 (Machine.reaches_play unusedSubscription_initial ?_)
  refine ⟨trivial, rfl, trivial, rfl, trivial, rfl, ?_, rfl, trivial⟩
  intro _ record recorded _
  cases recorded
  exact .inl (by decide +kernel)

/-- Refunding the first request, or settling it at nothing, after the second has used 50
leaves no use recorded.
-/
theorem later_use_taken_off
    : (periodMachine.Reaches anyStep (periodMachine.play unusedSubscription
          (acrossReset ++ [.refund ⟨.applied, .applied⟩ "before"]))
        ∧ (periodMachine.play unusedSubscription
          (acrossReset ++ [.refund ⟨.applied, .applied⟩ "before"])).own 1 = 50
        ∧ (periodMachine.play unusedSubscription
          (acrossReset ++ [.refund ⟨.applied, .applied⟩ "before"])).ledger.subscriptionUsed 1
            = 0)
      ∧ periodMachine.Reaches anyStep (periodMachine.play unusedSubscription
          (acrossReset ++ [.settle .applied "before" (-100)]))
      ∧ (periodMachine.play unusedSubscription
          (acrossReset ++ [.settle .applied "before" (-100)])).own 1 = 50
      ∧ (periodMachine.play unusedSubscription
          (acrossReset ++ [.settle .applied "before" (-100)])).ledger.subscriptionUsed 1
            = 0 := by
  have start := unusedSubscription_initial
  exact ⟨⟨Machine.reaches_play start (by decide +kernel), by decide +kernel, by decide +kernel⟩,
    Machine.reaches_play start (by decide +kernel), by decide +kernel, by decide +kernel⟩

end HelsterApi.Billing
