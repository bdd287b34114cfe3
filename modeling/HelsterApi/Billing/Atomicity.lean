import HelsterApi.Billing.ExactCharge
import HelsterApi.Billing.ResetPeriods

/-! Opening a session and reserving more are all or nothing: a call that fails changes nothing, and
one that succeeds takes the same amount from the token and the funding source and records it.
-/

namespace HelsterApi.Billing

open Option Transition BillingSession SessionRun

/-- What a session has taken from its funding source: a wallet counts it in `consumed`, a
subscription in its record and the amount reserved later.
-/
def BillingSession.fundingConsumed (s : BillingSession) : ℤ :=
  match s.funding with
  | .wallet consumed => consumed
  | .subscription f => f.preConsumed + s.extraReserved

structure BillingSession.Balanced (s : BillingSession) : Prop where
  token : s.tokenConsumed = s.preConsumedQuota
  funding : s.fundingConsumed = s.preConsumedQuota

/-- A balanced session and rows that gave up exactly its amount. A subscription whose period has
ended is reset in the same transaction, so its use may start from zero.
-/
structure Takes (l : Ledger) (session : BillingSession) (l' : Ledger) : Prop where
  balanced : session.Balanced
  token : l.tokenRemain - l'.tokenRemain
    = session.relayInfo.tokenShare session.preConsumedQuota
  funding : ∃ start, l'.fundingDrawn session.funding = start + session.preConsumedQuota
    ∧ (start = l.fundingDrawn session.funding
      ∨ session.funding.source = .subscription ∧ start = 0)

/-- What a successful `Reserve` leaves: a balanced session, and rows that gave up what its amount
grew by.
-/
structure Adds (s : BillingSession) (l : Ledger) (s' : BillingSession) (l' : Ledger) : Prop where
  balanced : s'.Balanced
  moves : Moves s.funding l l' (s'.preConsumedQuota - s.preConsumedQuota,
    s.relayInfo.tokenShare (s'.preConsumedQuota - s.preConsumedQuota))

structure OpenOutcome.RollsBack (o : OpenOutcome) : Prop where
  wallet : o.wallet.rollback = .applied
  subscription : o.subscription.rollback = .applied

def RollsBack (_ : SessionRun) : SessionAction → Prop
  | .reserve w _ => w.rollback = ⟨.applied, .applied⟩
  | _ => True

variable {info : RelayInfo} {read : Except String ℤ} {quota : ℤ} {l l' : Ledger}

theorem preConsumeTokenQuota_undo {w} (keyed : info.isPlayground = false)
    (consumed : preConsumeTokenQuota info read w quota l = .ok l')
    : increaseTokenQuota .applied quota l' = .ok l := by
  unfold preConsumeTokenQuota at consumed
  rw [keyed] at consumed
  split at consumed
  · cases consumed
  rw [if_neg Bool.false_ne_true] at consumed
  split at consumed
  · cases consumed
  split at consumed
  · cases consumed
  cases decreased : decreaseTokenQuota w quota l with rw [decreased] at consumed
  | error e => cases consumed
  | ok final =>
    cases consumed
    obtain ⟨nonneg, _, rfl⟩ := quotaWrite_eq_ok.mp decreased
    exact quotaWrite_eq_ok.mpr ⟨nonneg, rfl, by simp only [sub_add_cancel, add_sub_cancel_right]⟩

variable {s : BillingSession}

theorem BillingSession.rollbackToken_restores {w effective middle}
    (amount : s.tokenConsumed = if 0 < effective then effective else 0)
    (consumed : (if 0 < effective then preConsumeTokenQuota s.relayInfo read w effective l
      else .ok l) = .ok middle)
    : s.rollbackToken .applied middle = l := by
  unfold rollbackToken
  by_cases positive : 0 < effective
  · rw [if_pos positive] at amount consumed
    cases playground : s.relayInfo.isPlayground with
    | true =>
      unfold preConsumeTokenQuota at consumed
      rw [if_pos playground] at consumed
      split at consumed
      · cases consumed
      · rw [if_neg (by simp), Except.ok.inj consumed]
    | false =>
      rw [if_pos ⟨by rwa [amount], rfl⟩, amount, preConsumeTokenQuota_undo playground consumed]
  · rw [if_neg positive] at amount consumed
    rw [if_neg (fun some_ => absurd some_.1 (by omega))]
    exact (Except.ok.inj consumed).symm

variable {cfg : TrustSettings} {w : PreConsumeOutcome} {e : NewAPIError}

theorem BillingSession.preConsume_error (new : s.tokenConsumed = 0)
    (undoable : w.rollback = .applied) (refused : s.preConsume cfg w quota l = (.error e, l'))
    : l' = l := by
  rcases preConsume_refused refused with rfl | ⟨_, middle, _, consumed, rfl⟩
  · rfl
  · rw [undoable]
    refine rollbackToken_restores ?_ consumed
    rw [new]

/-- Refusals leave the rows as they were, by induction on them. -/
theorem refusals_undone {o} (undoable : o.RollsBack)
    (refusals : Relation.ReflTransGen (Refuses cfg o info quota) l l')
    : l' = l := by
  induction refusals with
  | refl => rfl
  | tail _ refused ih =>
    rw [← ih]
    obtain ⟨e, wallet | subscription⟩ := refused
    · rcases tryWallet_refused wallet with rfl | ⟨session, new, failed⟩
      · rfl
      · exact preConsume_error new undoable.wallet failed
    · exact preConsume_error rfl undoable.subscription subscription

theorem Ledger.fundingDrawn_subscription (l : Ledger) (f : SubscriptionFunding)
    : l.fundingDrawn (.subscription f) = l.subscriptionUsed f.subscriptionId := by
  cases found : l.subs f.subscriptionId with
  | none | some => simp [fundingDrawn, subscriptionUsed, found]

theorem preConsumeSubscription_raises {w requestId userId amount result}
    (fresh : l.records requestId = none)
    (alone : w.duplicate = none)
    (charged : preConsumeUserSubscription w requestId userId amount l = .ok (result, l'))
    : ∃ start, (l'.subscriptionUsed result.userSubscriptionId : ℤ) = start + amount
      ∧ (start = l.subscriptionUsed result.userSubscriptionId ∨ start = 0) := by
  have recorded := (preConsumeSubscription_charged fresh alone charged).2.2.recorded
  rcases preConsumeSubscription_cases charged with
    ⟨record, found, _⟩ | ⟨_, _, _, spends, _⟩
  · cases fresh.symm.trans found
  · have created : w.create = .applied := by
      by_contra failed
      rw [spends.records, if_neg failed, fresh] at recorded
      cases recorded
    have used := spends.used result.userSubscriptionId
    simp only [created, and_self, if_true] at used
    refine ⟨_, used, ?_⟩
    split
    · exact .inr rfl
    · exact .inl rfl

theorem Held.balanced (held : Held s l) : s.Balanced := by
  refine ⟨held.token, ?_⟩
  have source := held.source
  unfold fundingConsumed
  cases funding : s.funding with
  | wallet consumed => rwa [funding] at source
  | subscription f =>
    rw [funding] at source
    exact source.total

theorem trySubscription_takes {session} (fresh : l.records info.requestId = none)
    (alone : w.subscription.duplicate = none)
    (opened : trySubscription cfg w info quota l = (.ok session, l'))
    : Takes l session l' := by
  have holds := (trySubscription_holds fresh alone opened).1
  refine ⟨holds.held.balanced, holds.token, ?_⟩
  obtain ⟨middle, result, tokenConsumed, consumed, rfl⟩ := trySubscription_ok opened
  set f : SubscriptionFunding := {
    requestId := info.requestId
    userId := info.userId
    amount := subConsume quota
    subscriptionId := result.userSubscriptionId
    preConsumed := result.preConsumed
    amountTotal := result.amountTotal
    amountUsedAfter := result.amountUsedAfter }
  have moved := preConsumeTokenQuota_moves (.subscription f) tokenConsumed
  have freshStill : middle.records info.requestId = none := by rw [moved.records, fresh]
  have unmoved := moved.fundingDrawn
  rw [add_zero, Ledger.fundingDrawn_subscription] at unmoved
  obtain ⟨start, raised, starts⟩ := preConsumeSubscription_raises freshStill alone consumed
  refine ⟨start, (l'.fundingDrawn_subscription f).trans raised, ?_⟩
  rcases starts with kept | zero
  · exact .inl (kept.trans unmoved)
  · exact .inr ⟨rfl, zero⟩

namespace BillingSession

theorem Balanced.extend (balanced : s.Balanced) (delta : ℤ) : (s.extend delta).Balanced := by
  obtain ⟨info, extended, _, _⟩ := syncRelayInfo_eq { s with
    funding := s.funding.extend delta
    preConsumedQuota := s.preConsumedQuota + delta
    tokenConsumed := s.tokenConsumed + delta
    extraReserved := s.extraReserved + delta }
  change s.extend delta = _ at extended
  rw [extended]
  refine ⟨congrArg (· + delta) balanced.token, ?_⟩
  have funding := balanced.funding
  unfold fundingConsumed at funding ⊢
  cases source : s.funding with rw [source] at funding
  | wallet consumed => exact congrArg (· + delta) funding
  | subscription f =>
    change f.preConsumed + (s.extraReserved + delta) = s.preConsumedQuota + delta
    dsimp only at funding
    omega

variable {s' : BillingSession}

theorem Balanced.reserve {w target e} (balanced : s.Balanced)
    (undoable : w.rollback = ⟨.applied, .applied⟩) (called : s.reserve w target l = (e, s', l'))
    : Adds s l s' l' := by
  rcases reserve_cases undoable called with
    ⟨rfl, rfl⟩ | ⟨delta, _, _, _, _, rfl, moves⟩
  · refine ⟨balanced, ?_⟩
    rw [sub_self, RelayInfo.tokenShare, ite_self]
    exact Moves.refl _ _
  · refine ⟨balanced.extend delta, ?_⟩
    have more : (s.extend delta).preConsumedQuota = s.preConsumedQuota + delta := by
      dsimp only [BillingSession.extend, BillingSession.syncRelayInfo]
      split <;> rfl
    rwa [more, add_sub_cancel_left]

theorem Balanced.settle {w q e} (balanced : s.Balanced) (called : s.settle w q l = (e, s', l'))
    : s'.Balanced := by
  have of_hold : ∀ session, s.SameHold session → session.Balanced := by
    intro session hold
    refine ⟨by rw [hold.tokenConsumed, hold.preConsumedQuota, balanced.token], ?_⟩
    rw [hold.preConsumedQuota, ← balanced.funding]
    simp only [BillingSession.fundingConsumed, hold.funding, hold.extraReserved]
  unfold BillingSession.settle at called
  split at called
  · cases called
    exact balanced
  · dsimp only at called
    split at called
    · cases called
      exact ⟨balanced.token, balanced.funding⟩
    · split at called <;> cases called
      · exact balanced
      · exact of_hold _ (s.sameHold_settled _)

theorem Balanced.refund (balanced : s.Balanced) : s.refund.1.Balanced := by
  unfold BillingSession.refund
  split
  · exact balanced
  · exact ⟨balanced.token, balanced.funding⟩

end BillingSession

variable {s' : BillingSession}

theorem reaches_balanced {run} (reached : sessionMachine.Reaches RollsBack run)
    : run.session.Balanced := by
  refine reached.invariant (fun run => run.session.Balanced) ?_ ?_
  · intro start opened
    exact opened.started.held.balanced
  · intro s action s' _ balanced allowed moved
    cases action with
    | settle w q =>
      rcases called : s.session.settle w q s.ledger with ⟨e, session, ledger⟩
      simp only [sessionMachine, next, called, some.injEq] at moved
      subst moved
      exact balanced.settle called
    | reserve w target =>
      rcases called : s.session.reserve w target s.ledger with ⟨e, session, ledger⟩
      simp only [sessionMachine, next, called, some.injEq] at moved
      subst moved
      exact (balanced.reserve allowed called).balanced
    | refund =>
      simp only [sessionMachine, next, some.injEq] at moved
      subst moved
      exact balanced.refund
    | runRefund w =>
      obtain ⟨job, _, rfl⟩ := map_eq_some_iff.mp moved
      exact balanced
    | others ledger =>
      simp only [sessionMachine, next, some.injEq] at moved
      subst moved
      exact balanced

/-- A pre-consume of a fresh request, and a `Reserve` in any state of any run, either fails and
changes nothing, or takes one amount from the token and the funding source and records it. A
pre-consume that fails returns no session.
-/
theorem billing_calls_all_or_nothing
    : (∀ (cfg : TrustSettings) (o : OpenOutcome) (quotaClamp : Option String)
        (info : RelayInfo) (quota : ℤ) (l : Ledger),
        o.RollsBack → l.records info.requestId = none
        → o.subscription.subscription.duplicate = none
        → match preConsumeBilling cfg o quotaClamp info quota l with
          | (.error _, l') => l' = l
          | (.ok session, l') => Takes l session l')
      ∧ ∀ (run : SessionRun) (w : ReserveWrites) (target : ℤ),
        sessionMachine.Reaches RollsBack run → w.rollback = ⟨.applied, .applied⟩
        → match run.session.reserve w target run.ledger with
          | (some _, session, l') => session = run.session ∧ l' = run.ledger
          | (none, session, l') => Adds run.session run.ledger session l' := by
  constructor
  · intro cfg o quotaClamp info quota l undoable fresh alone
    rcases called : preConsumeBilling cfg o quotaClamp info quota l with ⟨e | session, l'⟩
    · exact refusals_undone undoable (preConsumeBilling_refused called)
    · obtain ⟨nonneg, middle, refusals, succeeded⟩ := preConsumeBilling_ok called
      obtain rfl := refusals_undone undoable refusals
      rcases succeeded with wallet | subscription
      · obtain ⟨holds, _, drawn⟩ := tryWallet_holds nonneg wallet
        exact ⟨holds.held.balanced, holds.token, _, by omega, .inl rfl⟩
      · exact trySubscription_takes fresh alone subscription
  · intro run w target reached undoable
    rcases called : run.session.reserve w target run.ledger with ⟨_ | e, session, l'⟩
    · exact (reaches_balanced reached).reserve undoable called
    · rcases reserve_cases undoable called with same | ⟨_, _, _, _, succeeded, _⟩
      · exact same
      · cases succeeded

def walletMissing : OpenOutcome where
  userQuota := .ok 1000
  wallet := ⟨.ok 1000, .applied, .noRows, ⟨none, none, .applied, none, .applied⟩, .applied⟩
  subscription := ⟨.ok 1000, .applied, .applied, ⟨none, none, .applied, none, .applied⟩, .applied⟩
  hasActiveSubscription := .ok false
  allowWalletOverflow := .ok false

/-- A wallet that refuses leaves the token as it was, and so does a token that refuses the wallet of
an open session.
-/
theorem refused_calls_undone
    : (preConsumeBilling ⟨0, 0⟩ walletMissing none walletStart.session.relayInfo 100
        walletStart.ledger).2 = walletStart.ledger
      ∧ (walletStart.session.reserve ⟨.done, .ok 0, .applied, .done⟩ 300
        walletStart.ledger).2 = (walletStart.session, walletStart.ledger) := by
  have opening := billing_calls_all_or_nothing.1 ⟨0, 0⟩ walletMissing none
    walletStart.session.relayInfo 100 walletStart.ledger ⟨rfl, rfl⟩ rfl rfl
  have reserving := billing_calls_all_or_nothing.2 walletStart
    ⟨.done, .ok 0, .applied, .done⟩ 300 (.initial walletStart_opened) rfl
  exact ⟨opening, Prod.ext reserving.1 reserving.2⟩

end HelsterApi.Billing
