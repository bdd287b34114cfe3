import HelsterApi.Billing.Refunding
import HelsterApi.Transition.Machine

/-! Runs of a billing session: calls of `Settle`, `Reserve` and `Refund` in any order, the
asynchronous refund job, and other requests writing the same rows.
-/

namespace HelsterApi.Billing

open Relation Transition BillingSession

/-- A session with its rows, and what its run has done: the amounts taken from the funding source
and the token, the refund job still to run, whether one has run, the quota it was settled at, the
quotas whose `Settle` returned success, and whether a token write of a settlement failed.
-/
structure SessionRun where
  session : BillingSession
  ledger : Ledger
  taken : ℤ × ℤ
  job : Option RefundJob := none
  refundApplied : Bool := false
  settledAt : Option ℤ := none
  succeeded : List ℤ := []
  tokenFaulted : Bool := false

/-- A run starts with a session that a pre-consume has just opened; a subscription finds no record
of its request id.
-/
inductive Opened : SessionRun → Prop where
  | wallet {cfg : TrustSettings} {read : Except String ℤ} {w : PreConsumeOutcome}
      {info : RelayInfo} {quota : ℤ} {before after : Ledger} {session : BillingSession}
      (nonneg : 0 ≤ quota)
      (opened : tryWallet cfg read w info quota before = (.ok session, after))
    : Opened {
        session := session
        ledger := after
        taken := after.drawn session.funding - before.drawn session.funding }
  | subscription {cfg : TrustSettings} {w : PreConsumeOutcome} {info : RelayInfo}
      {quota : ℤ} {before middle after : Ledger} {session : BillingSession}
      {result : SubscriptionPreConsumeResult}
      (fresh : before.records info.requestId = none)
      (alone : w.subscription.duplicate = none)
      (tokenConsumed : preConsumeTokenQuota info w.tokenRead w.token (subConsume quota)
        before = .ok middle)
      (charged : preConsumeUserSubscription w.subscription info.requestId info.userId
        (subConsume quota) middle = .ok (result, after))
      (opened : trySubscription cfg w info quota before = (.ok session, after))
    : Opened {
        session := session
        ledger := after
        taken := (result.amountUsedAfter - result.amountUsedBefore,
          before.tokenRemain - after.tokenRemain) }

inductive SessionAction where
  | settle (w : SettleWrites) (actualQuota : ℤ)
  | reserve (w : ReserveWrites) (targetQuota : ℤ)
  | refund
  | runRefund (w : RefundWrites)
  | others (ledger : Ledger)

def SessionRun.after (s : SessionRun) (session : BillingSession) (ledger : Ledger) : SessionRun :=
  { s with
    session := session
    ledger := ledger
    taken := s.taken + (ledger.drawn s.session.funding - s.ledger.drawn s.session.funding) }

def SessionRun.next (s : SessionRun) : SessionAction → Option SessionRun
  | .settle w q =>
    let (e, session, ledger) := s.session.settle w q s.ledger
    some { s.after session ledger with
      settledAt := if session.settled && !s.session.settled then some q else s.settledAt
      succeeded := if e.isNone then q :: s.succeeded else s.succeeded
      tokenFaulted := s.tokenFaulted || (session.settled && e.isSome) }
  | .reserve w target =>
    let (_, session, ledger) := s.session.reserve w target s.ledger
    some (s.after session ledger)
  | .refund =>
    let (session, job) := s.session.refund
    some { s with session := session, job := job.or s.job }
  | .runRefund w =>
    s.job.map fun job =>
      { s.after s.session (job.run w s.session.funding s.ledger) with
        job := none
        refundApplied := true }
  | .others ledger =>
    some { s with ledger := { ledger with
      records := Function.update ledger.records s.session.relayInfo.requestId
        (s.ledger.records s.session.relayInfo.requestId) } }

def sessionMachine : Machine SessionRun SessionAction where
  initial := Opened
  next := SessionRun.next

/-- The session is settled only while not refunded and always at one quota, the writes that undo
something go through, and a subscription still has what it takes back.
-/
def Orderly (s : SessionRun) : SessionAction → Prop
  | .settle _ q =>
    s.session.refunded = false
    ∧ (s.settledAt = none ∨ s.settledAt = some q)
    ∧ (s.session.settled = false
      → s.ledger.Covers s.session.funding (q - s.session.preConsumedQuota))
  | .reserve w _ => w.rollback = ⟨.applied, .applied⟩
  | .refund => True
  | .runRefund w => w.Succeeds ∧ s.ledger.CanReturn s.session.funding s.session.preConsumedQuota
  | .others _ => True

variable {cfg : TrustSettings} {w : PreConsumeOutcome} {quota : ℤ} {s : BillingSession}
  {l l' : Ledger}

namespace BillingSession

theorem preConsume_ok {s'} (opened : s.preConsume cfg w quota l = (.ok s', l'))
    : ∃ effective middle funding,
      effective = (if s.shouldTrust cfg then 0 else quota)
      ∧ (if 0 < effective then preConsumeTokenQuota s.relayInfo w.tokenRead w.token effective l
        else .ok l) = .ok middle
      ∧ s.funding.preConsume w effective middle = .ok (funding, l')
      ∧ s' = syncRelayInfo { s with
          trusted := s.shouldTrust cfg
          tokenConsumed := if 0 < effective then effective else s.tokenConsumed
          funding := funding
          preConsumedQuota := effective } := by
  dsimp only [preConsume] at opened
  split at opened
  · cases opened
  rename_i middle tokenConsumed
  split at opened
  · cases opened
  rename_i funding after charged
  cases opened
  exact ⟨_, middle, funding, rfl, tokenConsumed, charged, rfl⟩

variable {e : NewAPIError}

theorem preConsume_refused (refused : s.preConsume cfg w quota l = (.error e, l'))
    : l' = l
      ∨ ∃ effective middle,
        effective = (if s.shouldTrust cfg then 0 else quota)
        ∧ (if 0 < effective then preConsumeTokenQuota s.relayInfo w.tokenRead w.token effective l
          else .ok l) = .ok middle
        ∧ l' = rollbackToken w.rollback { s with
            trusted := s.shouldTrust cfg
            tokenConsumed := if 0 < effective then effective else s.tokenConsumed }
          middle := by
  dsimp only [preConsume] at refused
  split at refused
  · cases refused
    exact .inl rfl
  next middle tokenConsumed =>
    split at refused
    · cases refused
      exact .inr ⟨_, middle, rfl, tokenConsumed, rfl⟩
    · cases refused

end BillingSession

variable {read : Except String ℤ} {info : RelayInfo} {before : Ledger} {after : Ledger}

theorem tryWallet_refused (refused : tryWallet cfg read w info quota before = (.error e, after))
    : after = before
      ∨ ∃ session : BillingSession, session.tokenConsumed = 0
        ∧ session.preConsume cfg w quota before = (.error e, after) := by
  unfold tryWallet at refused
  split at refused
  · cases refused
    exact .inl rfl
  · split at refused
    · cases refused
      exact .inl rfl
    · split at refused
      · cases refused
        exact .inl rfl
      · exact .inr ⟨_, rfl, refused⟩

variable {effective : ℤ} {middle : Ledger}

theorem preConsume_token_moves (nonneg : 0 ≤ effective) (funding)
    (consumed : (if 0 < effective then preConsumeTokenQuota info w.tokenRead w.token effective l
      else .ok l) = .ok middle)
    : Moves funding l middle (0, info.tokenShare effective) := by
  split at consumed
  · exact preConsumeTokenQuota_moves funding consumed
  next notPositive =>
    cases consumed
    have zero : effective = 0 := by omega
    rw [zero, RelayInfo.tokenShare, ite_self]
    exact Moves.refl _ _

theorem Funding.preConsume_wallet_moves {funding} (nonneg : 0 ≤ effective)
    (charged : (wallet 0).preConsume w effective middle = .ok (funding, after))
    : funding = .wallet effective ∧ Moves (.wallet effective) middle after (effective, 0) := by
  dsimp only [preConsume] at charged
  split at charged
  · cases charged
    have zero : effective = 0 := by omega
    exact ⟨by rw [zero], by rw [zero]; exact Moves.refl _ _⟩
  · cases decreased : decreaseUserQuota w.wallet effective middle with rw [decreased] at charged
    | error e => cases charged
    | ok after' =>
      cases charged
      exact ⟨rfl, decreaseUserQuota_moves decreased⟩

structure BillingSession.Unused (s : BillingSession) : Prop where
  settled : s.settled = false
  fundingSettled : s.fundingSettled = false
  refunded : s.refunded = false

theorem BillingSession.refund_of_held (held : Held s l) (unused : s.Unused)
    (some_ : s.preConsumedQuota ≠ 0)
    : s.refund = ({ s with refunded := true }, some s.refundJob) := by
  have positive : 0 < s.tokenConsumed := by
    have := held.nonneg
    have := held.token
    omega
  have needed : s.needsRefund = true := by
    simp [needsRefund, unused.settled, unused.refunded, unused.fundingSettled, positive]
  simp [refund, unused.settled, unused.refunded, needed]

/-- A session opened between the two ledgers holds what it took from the token. -/
structure Holds (session : BillingSession) (before after : Ledger) : Prop where
  unused : session.Unused
  held : Held session after
  token : before.tokenRemain - after.tokenRemain
    = session.relayInfo.tokenShare session.preConsumedQuota
  source : session.relayInfo.billingSource = some session.funding.source

variable {session : BillingSession}

theorem tryWallet_holds (nonneg : 0 ≤ quota)
    (opened : tryWallet cfg read w info quota before = (.ok session, after))
    : Holds session before after
      ∧ session.funding.source = .wallet
      ∧ after.fundingDrawn session.funding - before.fundingDrawn session.funding
        = session.preConsumedQuota := by
  unfold tryWallet at opened
  split at opened
  · cases opened
  split at opened
  · cases opened
  split at opened
  · cases opened
  obtain ⟨effective, middle, funding, chosen, tokenConsumed, charged, rfl⟩ :=
    preConsume_ok opened
  have effectiveNonneg : 0 ≤ effective := by
    rw [chosen]
    split
    · exact le_rfl
    · exact nonneg
  obtain ⟨rfl, fundingMoved⟩ := Funding.preConsume_wallet_moves effectiveNonneg charged
  have moved := (preConsume_token_moves effectiveNonneg _ tokenConsumed).trans fundingMoved
  have drawn := moved.drawn
  simp only [Ledger.drawn, Prod.mk_add_mk, zero_add, add_zero, Prod.mk.injEq] at drawn
  obtain ⟨info', synced, playground, source⟩ := syncRelayInfo_eq _
  rw [synced]
  refine ⟨⟨⟨rfl, rfl, rfl⟩, ⟨effectiveNonneg, ?_, rfl⟩, ?_, source⟩, rfl, ?_⟩
  · dsimp only
    split <;> omega
  · rw [RelayInfo.tokenShare_congr playground]
    have := drawn.2
    dsimp only at this ⊢
    omega
  · have := drawn.1
    dsimp only
    omega

theorem trySubscription_ok (opened : trySubscription cfg w info quota before = (.ok session, after))
    : ∃ middle result,
      preConsumeTokenQuota info w.tokenRead w.token (subConsume quota) before = .ok middle
      ∧ preConsumeUserSubscription w.subscription info.requestId info.userId
        (subConsume quota) middle = .ok (result, after)
      ∧ session = syncRelayInfo {
          relayInfo := info
          funding := .subscription {
            requestId := info.requestId
            userId := info.userId
            amount := subConsume quota
            subscriptionId := result.userSubscriptionId
            preConsumed := result.preConsumed
            amountTotal := result.amountTotal
            amountUsedAfter := result.amountUsedAfter }
          preConsumedQuota := subConsume quota
          tokenConsumed := subConsume quota } := by
  obtain ⟨effective, middle, funding, chosen, tokenConsumed, charged, rfl⟩ :=
    preConsume_ok opened
  simp only [shouldTrust, ite_self] at chosen ⊢
  obtain rfl : effective = subConsume quota := chosen
  rw [if_pos (by unfold subConsume; split <;> omega)] at tokenConsumed ⊢
  cases consumed : preConsumeUserSubscription w.subscription info.requestId info.userId
      (subConsume quota) middle with
  | error e =>
    simp only [Funding.preConsume, consumed] at charged
    cases charged
  | ok outcome =>
    simp only [Funding.preConsume, consumed] at charged
    cases charged
    exact ⟨middle, outcome.1, tokenConsumed, consumed, rfl⟩

theorem trySubscription_holds (fresh : before.records info.requestId = none)
    (alone : w.subscription.duplicate = none)
    (opened : trySubscription cfg w info quota before = (.ok session, after))
    : Holds session before after ∧ session.preConsumedQuota = subConsume quota
      ∧ after.Covers session.funding (-session.preConsumedQuota) := by
  obtain ⟨middle, result, tokenConsumed, consumed, rfl⟩ := trySubscription_ok opened
  have moved := preConsumeTokenQuota_moves (.wallet 0) tokenConsumed
  have freshStill : middle.records info.requestId = none := by rw [moved.records, fresh]
  obtain ⟨positive, named, charged⟩ := preConsumeSubscription_charged freshStill alone consumed
  have token := congrArg Prod.snd moved.drawn
  simp only [Ledger.drawn, Prod.snd_add] at token
  refine ⟨⟨⟨rfl, rfl, rfl⟩, ⟨positive.le, rfl, ?_⟩, ?_, rfl⟩, rfl, fun _ => ?_⟩
  · exact {
      total := by
        change result.preConsumed + 0 = subConsume quota
        rw [charged.preConsumed, add_zero]
      preConsumed := by
        rwa [charged.preConsumed]
      extra := le_rfl
      identified := charged.positive
      sameId := rfl
      sameRequest := rfl
      named := named
      recorded := by
        rw [charged.preConsumed]
        exact charged.recorded
    }
  · have kept := charged.tokenRemain
    change before.tokenRemain - after.tokenRemain = info.tokenShare (subConsume quota)
    omega
  · obtain ⟨sub, found, covered⟩ := charged.row
    change 0 ≤ after.fundingDrawn (.subscription _) + -subConsume quota
    rw [Ledger.fundingDrawn_of_found found]
    omega

/-- An unused session that holds exactly what has been taken. -/
structure SessionRun.Started (s : SessionRun) : Prop where
  held : Held s.session s.ledger
  unused : s.session.Unused
  taken : s.taken = (s.session.preConsumedQuota,
    s.session.relayInfo.tokenShare s.session.preConsumedQuota)
  noJob : s.job = none
  notApplied : s.refundApplied = false
  unsettled : s.settledAt = none
  succeeded : s.succeeded = []
  covers : s.ledger.Covers s.session.funding (-s.session.preConsumedQuota)
  source : s.session.relayInfo.billingSource = some s.session.funding.source

theorem Opened.started {s} (opened : Opened s) : s.Started := by
  cases opened with
  | wallet nonneg opened =>
    obtain ⟨holds, fromWallet, drawn⟩ := tryWallet_holds nonneg opened
    have token := holds.token
    refine ⟨holds.held, holds.unused, Prod.ext drawn ?_, rfl, rfl, rfl, rfl,
      fun subscribed => ?_, holds.source⟩
    · simp only [Ledger.drawn, Prod.snd_sub]
      omega
    · cases fromWallet.symm.trans subscribed
  | subscription fresh alone tokenConsumed charged opened =>
    obtain ⟨holds, amount, covers⟩ := trySubscription_holds fresh alone opened
    have kept := (preConsumeTokenQuota_moves (.wallet 0) tokenConsumed).records
    have drawn := (preConsumeSubscription_charged (by rw [kept, fresh]) alone charged).2.2.drawn
    exact ⟨holds.held, holds.unused, Prod.ext (drawn.trans amount.symm) holds.token,
      rfl, rfl, rfl, rfl, covers, holds.source⟩

theorem BillingSession.rollbackToken_records (w) (s : BillingSession) (l : Ledger)
    : (s.rollbackToken w l).records = l.records := by
  unfold rollbackToken
  split
  · split
    · rfl
    next increased => exact (increaseTokenQuota_moves (.wallet 0) increased).records
  · rfl

theorem BillingSession.preConsume_refused_records
    (refused : s.preConsume cfg w quota l = (.error e, l'))
    : l'.records = l.records := by
  rcases preConsume_refused refused with rfl | ⟨_, middle, _, consumed, rfl⟩
  · rfl
  · rw [rollbackToken_records]
    split at consumed
    · exact (preConsumeTokenQuota_moves (.wallet 0) consumed).records
    · cases consumed
      rfl

def Refuses (cfg : TrustSettings) (o : OpenOutcome) (info : RelayInfo) (quota : ℤ) (l l' : Ledger)
    : Prop :=
  ∃ e, tryWallet cfg o.userQuota o.wallet info quota l = (.error e, l')
    ∨ trySubscription cfg o.subscription info quota l = (.error e, l')

/-- Some funding sources refuse, one after the other, and then the call fails or one of them
succeeds.
-/
def Attempts (cfg : TrustSettings) (o : OpenOutcome) (info : RelayInfo) (quota : ℤ)
    (l : Ledger) (outcome : Except NewAPIError BillingSession × Ledger) : Prop :=
  ∃ middle, ReflTransGen (Refuses cfg o info quota) l middle
    ∧ match outcome with
      | (.error _, l') => l' = middle
      | (.ok session, l') =>
        tryWallet cfg o.userQuota o.wallet info quota middle = (.ok session, l')
        ∨ trySubscription cfg o.subscription info quota middle = (.ok session, l')

variable {quotaClamp : Option String}

section

variable {cfg : TrustSettings} {o : OpenOutcome} {info : RelayInfo} {quota : ℤ}
  {l middle : Ledger}

variable (refusals : ReflTransGen (Refuses cfg o info quota) l middle)

include refusals

theorem Attempts.wallet
    : Attempts cfg o info quota l
      (tryWallet cfg o.userQuota o.wallet info quota middle) := by
  rcases tried : tryWallet cfg o.userQuota o.wallet info quota middle with ⟨e | session, l'⟩
  · exact ⟨l', refusals.tail ⟨e, .inl tried⟩, rfl⟩
  · exact ⟨middle, refusals, .inl tried⟩

theorem Attempts.subscription
    : Attempts cfg o info quota l
      (trySubscription cfg o.subscription info quota middle) := by
  rcases tried : trySubscription cfg o.subscription info quota middle with ⟨e | session, l'⟩
  · exact ⟨l', refusals.tail ⟨e, .inr tried⟩, rfl⟩
  · exact ⟨middle, refusals, .inr tried⟩

omit refusals in
theorem newBillingSession_attempts (cfg o info)
    (quota l)
    : Attempts cfg o info quota l (newBillingSession cfg o info quota l) := by
  dsimp only [newBillingSession]
  split
  · exact .subscription .refl
  · exact .wallet .refl
  · split
    next e l' refused =>
      have refusals : ReflTransGen (Refuses cfg o info quota) l l' := .single ⟨e, .inl refused⟩
      split
      · exact .subscription refusals
      · exact ⟨l', refusals, rfl⟩
    · exact .wallet .refl
  · split
    · exact ⟨l, .refl, rfl⟩
    · exact .wallet .refl
    · split
      next e l' refused =>
        have refusals : ReflTransGen (Refuses cfg o info quota) l l' := .single ⟨e, .inr refused⟩
        split
        · split
          · exact ⟨l', refusals, rfl⟩
          · exact .wallet refusals
          · exact ⟨l', refusals, rfl⟩
        · exact ⟨l', refusals, rfl⟩
      · exact .subscription .refl

omit refusals in
theorem preConsumeBilling_refused {e l'}
    (refused : preConsumeBilling cfg o quotaClamp info quota l = (.error e, l'))
    : ReflTransGen (Refuses cfg o info quota) l l' := by
  unfold preConsumeBilling at refused
  split at refused
  · cases refused
    exact .refl
  · split at refused
    · cases refused
      exact .refl
    · obtain ⟨middle, refusals, outcome⟩ := newBillingSession_attempts cfg o info quota l
      rw [refused] at outcome
      obtain rfl := outcome
      exact refusals

omit refusals in
theorem preConsumeBilling_ok {session l'}
    (opened : preConsumeBilling cfg o quotaClamp info quota l = (.ok session, l'))
    : 0 ≤ quota ∧ ∃ middle, ReflTransGen (Refuses cfg o info quota) l middle
      ∧ (tryWallet cfg o.userQuota o.wallet info quota middle = (.ok session, l')
        ∨ trySubscription cfg o.subscription info quota middle = (.ok session, l')) := by
  unfold preConsumeBilling at opened
  split at opened
  · cases opened
  split at opened
  · cases opened
  rename_i nonneg
  obtain ⟨middle, refusals, outcome⟩ := newBillingSession_attempts cfg o info quota l
  rw [opened] at outcome
  exact ⟨not_lt.mp nonneg, middle, refusals, outcome⟩

/-- Refusals leave every record alone, by induction on them. -/
theorem refusals_records : middle.records = l.records := by
  induction refusals with
  | refl => rfl
  | tail _ refused ih =>
    rw [← ih]
    obtain ⟨e, wallet | subscription⟩ := refused
    · rcases tryWallet_refused wallet with rfl | ⟨session, _, failed⟩
      · rfl
      · exact preConsume_refused_records failed
    · exact preConsume_refused_records subscription

end

end HelsterApi.Billing
