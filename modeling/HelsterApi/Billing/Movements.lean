import HelsterApi.Billing.Session
import Mathlib.Algebra.Group.Prod

/-! How far each billing call moves the quota drawn from the funding source and from the token, as a
pair.
-/

namespace HelsterApi.Billing

open Ledger RelayInfo UserSubscription

/-- Quota drawn from a funding source, up to a constant: a wallet's balance counts down, a
subscription's used amount up.
-/
def Ledger.fundingDrawn (l : Ledger) : Funding → ℤ
  | .wallet _ => -l.userQuota
  | .subscription f => ((l.subs f.subscriptionId).map (·.amountUsed)).getD 0

def Ledger.drawn (l : Ledger) (funding : Funding) : ℤ × ℤ :=
  (l.fundingDrawn funding, -l.tokenRemain)

def RelayInfo.tokenShare (info : RelayInfo) (amount : ℤ) : ℤ :=
  if info.isPlayground then 0 else amount

variable {info : RelayInfo}

theorem RelayInfo.tokenShare_congr {info' : RelayInfo}
    (same : info'.isPlayground = info.isPlayground) (amount)
    : info'.tokenShare amount = info.tokenShare amount := by
  rw [tokenShare, tokenShare, same]

theorem RelayInfo.tokenShare_add (info : RelayInfo) (first second)
    : info.tokenShare (first + second) = info.tokenShare first + info.tokenShare second := by
  unfold tokenShare
  split <;> rfl

/-- The rows went from `l` to `l'` by drawing `amount`, with the pre-consume records untouched. -/
structure Moves (funding : Funding) (l l' : Ledger) (amount : ℤ × ℤ) : Prop where
  drawn : l'.drawn funding = l.drawn funding + amount
  records : l'.records = l.records

theorem Moves.refl (funding l) : Moves funding l l 0 :=
  ⟨(add_zero _).symm, rfl⟩

variable {funding : Funding} {l l' : Ledger}

theorem Moves.trans {l'' first second} (before : Moves funding l l' first)
    (after : Moves funding l' l'' second)
    : Moves funding l l'' (first + second) :=
  ⟨by rw [after.drawn, before.drawn, add_assoc], after.records.trans before.records⟩

theorem Moves.fundingDrawn {amount} (moves : Moves funding l l' amount)
    : l'.fundingDrawn funding = l.fundingDrawn funding + amount.1 := congrArg Prod.fst moves.drawn

variable {f : SubscriptionFunding} {sub : UserSubscription}

theorem Ledger.fundingDrawn_of_found (found : l.subs f.subscriptionId = some sub)
    : l.fundingDrawn (.subscription f) = sub.amountUsed := by
  simp [fundingDrawn, found]

theorem Ledger.fundingDrawn_nonneg (l : Ledger) (f) : 0 ≤ l.fundingDrawn (.subscription f) := by
  cases found : l.subs f.subscriptionId <;> simp [found, fundingDrawn]

/-- Adjusting a subscription by `delta` is not cut off at zero. -/
def Ledger.Covers (l : Ledger) (funding : Funding) (delta : ℤ) : Prop :=
  funding.source = .subscription → 0 ≤ l.fundingDrawn funding + delta
  deriving Decidable

variable {delta : ℤ}

theorem UserSubscription.usedAfter_of_nonneg (covered : 0 ≤ sub.amountUsed + delta)
    : sub.usedAfter delta = sub.amountUsed + delta := if_neg (Int.not_lt.mpr covered)

variable {save : Save}

theorem postConsumeDelta_moves (covered : l.Covers (.subscription f) delta)
    (adjusted : postConsumeUserSubscriptionDelta save f.subscriptionId delta l = .ok l')
    : Moves (.subscription f) l l' (delta, 0) := by
  obtain ⟨_, ⟨rfl, rfl⟩ | ⟨sub, found, _, rfl⟩⟩ := postConsumeDelta_ok adjusted
  · exact Moves.refl _ _
  · have nonneg := covered rfl
    rw [fundingDrawn_of_found found] at nonneg
    refine ⟨Prod.ext ?_ ?_, rfl⟩
    · simp [drawn, fundingDrawn, saveSub, found, usedAfter_of_nonneg nonneg,
        Int.toNat_of_nonneg nonneg]
    · simp [drawn, saveSub]

variable {w : Write} {quota : ℤ} {consumed : ℤ}

theorem decreaseUserQuota_moves (decreased : decreaseUserQuota w quota l = .ok l')
    : Moves (.wallet consumed) l l' (quota, 0) := by
  obtain ⟨_, _, rfl⟩ := quotaWrite_eq_ok.mp decreased
  refine ⟨Prod.ext ?_ ?_, rfl⟩
  · simp only [drawn, fundingDrawn, Prod.fst_add]
    omega
  · simp [drawn]

theorem increaseUserQuota_moves (increased : increaseUserQuota w quota l = .ok l')
    : Moves (.wallet consumed) l l' (-quota, 0) := by
  obtain ⟨_, _, rfl⟩ := quotaWrite_eq_ok.mp increased
  refine ⟨Prod.ext ?_ ?_, rfl⟩
  · simp only [drawn, fundingDrawn, Prod.fst_add]
    omega
  · simp [drawn]

theorem decreaseTokenQuota_moves (funding)
    (decreased : decreaseTokenQuota w quota l = .ok l')
    : Moves funding l l' (0, quota) := by
  obtain ⟨_, _, rfl⟩ := quotaWrite_eq_ok.mp decreased
  refine ⟨Prod.ext ?_ ?_, rfl⟩
  · cases funding <;> simp [drawn, fundingDrawn]
  · simp only [drawn, Prod.snd_add]
    omega

theorem increaseTokenQuota_moves (funding)
    (increased : increaseTokenQuota w quota l = .ok l')
    : Moves funding l l' (0, -quota) := by
  obtain ⟨_, _, rfl⟩ := quotaWrite_eq_ok.mp increased
  refine ⟨Prod.ext ?_ ?_, rfl⟩
  · cases funding <;> simp [drawn, fundingDrawn]
  · simp only [drawn, Prod.snd_add]
    omega

theorem Funding.settle_moves {w} (covered : l.Covers funding delta)
    (adjusted : funding.settle w delta l = .ok l')
    : Moves funding l l' (delta, 0) := by
  unfold settle at adjusted
  split at adjusted
  next zero =>
    cases adjusted
    subst zero
    exact Moves.refl _ _
  · cases funding with
    | wallet consumed =>
      dsimp only at adjusted
      split at adjusted
      · exact decreaseUserQuota_moves adjusted
      · simpa only [neg_neg] using increaseUserQuota_moves adjusted
    | subscription f => exact postConsumeDelta_moves covered adjusted

variable {e : Option LedgerError}

theorem RelayInfo.adjustToken_moves (funding)
    (called : info.adjustToken w delta l = (e, l'))
    : (e = none ∧ Moves funding l l' (0, info.tokenShare delta))
      ∨ (e ≠ none ∧ l' = l) := by
  unfold adjustToken at called
  split at called
  next playground =>
    cases called
    refine .inl ⟨rfl, ?_⟩
    rw [tokenShare, if_pos playground]
    exact Moves.refl _ _
  next keyed =>
    rw [tokenShare, if_neg keyed]
    split at called
    · cases called
      exact .inr ⟨Option.some_ne_none _, rfl⟩
    next adjusted =>
      cases called
      refine .inl ⟨rfl, ?_⟩
      split at adjusted
      · exact decreaseTokenQuota_moves funding adjusted
      · simpa only [neg_neg] using increaseTokenQuota_moves funding adjusted

/-- Two sessions hold the same quota from the same source, so a refund of either gives back the
same.
-/
structure BillingSession.SameHold (s s' : BillingSession) : Prop where
  funding : s'.funding = s.funding
  preConsumedQuota : s'.preConsumedQuota = s.preConsumedQuota
  tokenConsumed : s'.tokenConsumed = s.tokenConsumed
  extraReserved : s'.extraReserved = s.extraReserved
  requestId : s'.relayInfo.requestId = s.relayInfo.requestId
  isPlayground : s'.relayInfo.isPlayground = s.relayInfo.isPlayground
  subscriptionId : s'.relayInfo.subscriptionId = s.relayInfo.subscriptionId

theorem BillingSession.sameHold_settled (s : BillingSession) (delta)
    : s.SameHold { s.addPostDelta delta with fundingSettled := true, settled := true } := by
  unfold addPostDelta
  split <;> exact ⟨rfl, rfl, rfl, rfl, rfl, rfl, rfl⟩

/-- The funding source moves from the pre-consumed quota to `q`, and so does the token unless
its write fails.
-/
structure Settles (s : BillingSession) (q : ℤ) (l : Ledger) (e : Option LedgerError)
    (s' : BillingSession) (l' : Ledger) : Prop where
  settled : s'.settled = true
  refunded : s'.refunded = s.refunded
  hold : s.SameHold s'
  moves : ∃ token, Moves s.funding l l' (q - s.preConsumedQuota, token)
    ∧ (e = none → token = s.relayInfo.tokenShare (q - s.preConsumedQuota))

variable {q : ℤ} {s s' : BillingSession}

theorem BillingSession.settle_cases {w} (uncommitted : s.fundingSettled = false)
    (unsettled : s.settled = false) (covered : l.Covers s.funding (q - s.preConsumedQuota))
    (called : s.settle w q l = (e, s', l'))
    : (e ≠ none ∧ s' = s ∧ l' = l) ∨ Settles s q l e s' l' := by
  simp only [settle, unsettled, uncommitted, Bool.false_eq_true, if_false] at called
  split at called
  next exact_ =>
    cases called
    refine .inr ⟨rfl, rfl, ⟨rfl, rfl, rfl, rfl, rfl, rfl, rfl⟩, 0, ?_, fun _ => ?_⟩
    · rw [exact_]
      exact Moves.refl _ _
    · rw [exact_, tokenShare, ite_self]
  · split at called
    · cases called
      exact .inl ⟨Option.some_ne_none _, rfl, rfl⟩
    next charged funded =>
      have drawn := Funding.settle_moves covered funded
      cases tokenCall : s.relayInfo.adjustToken w.token (q - s.preConsumedQuota) charged with
      | mk tokenError final =>
        rw [tokenCall] at called
        cases called
        refine .inr ⟨rfl, by unfold addPostDelta; split <;> rfl,
          s.sameHold_settled _, ?_⟩
        rcases adjustToken_moves s.funding tokenCall with ⟨_, moved⟩ | ⟨failed, rfl⟩
        · refine ⟨_, ?_, fun _ => rfl⟩
          simpa only [Prod.mk_add_mk, add_zero, zero_add] using drawn.trans moved
        · exact ⟨0, drawn, fun none_ => absurd none_ failed⟩

/-- The funding source takes an adjustment: its write goes through, and a subscription has its row
and stays within its total.
-/
def Funding.Accepts (w : FundingWrite) (delta : ℤ) (funding : Funding) (l : Ledger) : Prop :=
  match funding with
  | .wallet _ => w.wallet = .applied
  | .subscription f =>
    w.subscription = .applied ∧ 0 < f.subscriptionId
    ∧ ∃ sub, l.subs f.subscriptionId = some sub
      ∧ (0 < sub.amountTotal → sub.usedAfter delta ≤ sub.amountTotal)

theorem quotaWrite_succeeds_iff {missing change} (nonneg : 0 ≤ quota)
    : (∃ l', quotaWrite missing change w quota l = .ok l') ↔ w = .applied := by
  constructor
  · rintro ⟨l', written⟩
    exact (quotaWrite_eq_ok.mp written).2.1
  · rintro rfl
    exact quotaWrite_applied missing change nonneg l

variable {id : ℤ}

/-- A subscription adjustment succeeds exactly if it is applied to a row it keeps within
its total.
-/
theorem postConsumeDelta_succeeds_iff (changes : delta ≠ 0)
    : (∃ l', postConsumeUserSubscriptionDelta save id delta l = .ok l')
      ↔ save = .applied ∧ 0 < id
        ∧ ∃ sub, l.subs id = some sub
          ∧ (0 < sub.amountTotal → sub.usedAfter delta ≤ sub.amountTotal) := by
  constructor
  · rintro ⟨l', adjusted⟩
    obtain ⟨identified, ⟨zero, _⟩ | ⟨sub, found, within, _⟩⟩ :=
      postConsumeDelta_ok adjusted
    · exact absurd zero changes
    · exact ⟨applied_of_postConsume_ok changes adjusted, identified, sub, found, within⟩
  · rintro ⟨rfl, identified, sub, found, within⟩
    exact ⟨_, postConsumeDelta_applied identified found within changes⟩

theorem Funding.settle_succeeds_iff {w} (changes : delta ≠ 0)
    : (∃ l', funding.settle w delta l = .ok l') ↔ funding.Accepts w delta l := by
  unfold settle
  rw [if_neg changes]
  cases funding with
  | wallet consumed =>
    dsimp only
    split
    next positive => exact quotaWrite_succeeds_iff positive.le
    next notPositive => exact quotaWrite_succeeds_iff (by omega)
  | subscription f => exact postConsumeDelta_succeeds_iff changes

namespace BillingSession

/-- An open session ends up settled exactly if there is nothing to adjust or the funding source
accepts it.
-/
theorem settle_settled_iff {w}
    (uncommitted : s.fundingSettled = false) (unsettled : s.settled = false)
    : (s.settle w q l).2.1.settled = true
      ↔ q = s.preConsumedQuota ∨ s.funding.Accepts w.funding (q - s.preConsumedQuota) l := by
  simp only [settle, unsettled, uncommitted, Bool.false_eq_true, if_false]
  split
  next exact_ => exact ⟨fun _ => .inl (by omega), fun _ => rfl⟩
  next changes =>
    have differs : q ≠ s.preConsumedQuota := fun same => changes (by omega)
    rw [← Funding.settle_succeeds_iff changes, or_iff_right differs]
    cases outcome : s.funding.settle w.funding (q - s.preConsumedQuota) l with
    | error e => simp [unsettled]
    | ok l' => simp

theorem settle_unsettled {w} (failed : (s.settle w q l).2.1.settled = false)
    : (s.settle w q l).2.1 = s := by
  unfold settle at failed ⊢
  split
  · rfl
  next unsettled =>
    rw [if_neg unsettled] at failed
    dsimp only at failed ⊢
    split
    next exact_ =>
      rw [if_pos exact_] at failed
      cases failed
    next changes =>
      rw [if_neg changes] at failed
      split at failed
      · rfl
      · cases failed

end BillingSession

def Funding.extend (delta : ℤ) : Funding → Funding
  | .wallet consumed => .wallet (consumed + delta)
  | .subscription f => .subscription f

def BillingSession.extend (delta : ℤ) (s : BillingSession) : BillingSession :=
  BillingSession.syncRelayInfo { s with
    funding := s.funding.extend delta
    preConsumedQuota := s.preConsumedQuota + delta
    tokenConsumed := s.tokenConsumed + delta
    extraReserved := s.extraReserved + delta }

/-- Synchronizing changes the relay information only: it names the funding source there. -/
theorem BillingSession.syncRelayInfo_eq (s : BillingSession)
    : ∃ info, s.syncRelayInfo = { s with relayInfo := info }
      ∧ info.isPlayground = s.relayInfo.isPlayground
      ∧ info.billingSource = some s.funding.source := by
  unfold syncRelayInfo
  split <;> exact ⟨_, rfl, rfl, rfl⟩

theorem postConsumeDelta_undo (positive : 0 < delta)
    (adjusted : postConsumeUserSubscriptionDelta save id delta l = .ok l')
    : postConsumeUserSubscriptionDelta .applied id (-delta) l' = .ok l := by
  obtain ⟨identified, ⟨zero, _⟩ | ⟨sub, found, within, rfl⟩⟩ :=
    postConsumeDelta_ok adjusted
  · exact absurd zero positive.ne'
  · have used : sub.usedAfter delta = sub.amountUsed + delta :=
      usedAfter_of_nonneg (by omega)
    rw [used] at within ⊢
    set raised : UserSubscription :=
      { sub with amountUsed := (sub.amountUsed + delta).toNat } with raisedDef
    have raisedUsed : (raised.amountUsed : ℤ) = sub.amountUsed + delta :=
      Int.toNat_of_nonneg (by omega)
    have foundRaised : (l.saveSub id raised).subs id = some raised := by simp [saveSub]
    have lowered : raised.usedAfter (-delta) = sub.amountUsed := by
      rw [usedAfter_of_nonneg (by omega)]
      omega
    have fits : 0 < raised.amountTotal → raised.usedAfter (-delta) ≤ raised.amountTotal := by
      intro limited
      have := within limited
      rw [lowered]
      change _ ≤ sub.amountTotal
      omega
    have same : { raised with amountUsed := (raised.usedAfter (-delta)).toNat } = sub := by
      rw [lowered, Int.toNat_natCast]
    rw [postConsumeDelta_applied identified foundRaised fits (by omega), same]
    simp [saveSub, ← found]

theorem BillingSession.reserveFunding_moves {w} (positive : 0 < delta)
    (reserved : s.reserveFunding w delta l = .ok (s', l'))
    : s' = { s with funding := s.funding.extend delta }
      ∧ Moves s.funding l l' (delta, 0)
      ∧ s'.rollbackFundingReserve ⟨.applied, .applied⟩ delta l' = (s, l) := by
  unfold reserveFunding at reserved
  split at reserved
  next consumed source =>
    split at reserved
    · cases reserved
    rename_i decreased
    cases reserved
    obtain ⟨_, _, rfl⟩ := quotaWrite_eq_ok.mp decreased
    have increased : increaseUserQuota .applied delta
        { l with userQuota := l.userQuota - delta } = .ok l :=
      quotaWrite_eq_ok.mpr ⟨positive.le, rfl, by simp only [sub_add_cancel]⟩
    refine ⟨by simp only [source, Funding.extend], ?_, ?_⟩
    · rw [source]
      exact decreaseUserQuota_moves decreased
    · simp [rollbackFundingReserve, increased, ← source]
  next f source =>
    split at reserved
    · cases reserved
    rename_i adjusted
    cases reserved
    have undone := postConsumeDelta_undo positive adjusted
    have covered : l.Covers (.subscription f) delta := fun _ =>
      add_nonneg (l.fundingDrawn_nonneg f) positive.le
    refine ⟨?_, ?_, ?_⟩
    · have kept : s.funding.extend delta = s.funding := by
        rw [source]
        rfl
      rw [kept]
    · rw [source]
      exact postConsumeDelta_moves covered adjusted
    · simp only [rollbackFundingReserve, source, undone]

variable {read : Except String ℤ}

theorem preConsumeTokenQuota_moves (funding)
    (consumed : preConsumeTokenQuota info read w quota l = .ok l')
    : Moves funding l l' (0, info.tokenShare quota) := by
  unfold preConsumeTokenQuota at consumed
  split at consumed
  · cases consumed
  split at consumed
  next playground =>
    cases consumed
    rw [tokenShare, if_pos playground]
    exact Moves.refl _ _
  next keyed =>
    split at consumed
    · cases consumed
    split at consumed
    · cases consumed
    rw [tokenShare, if_neg keyed]
    cases decreased : decreaseTokenQuota w quota l with rw [decreased] at consumed
    | error e => cases consumed
    | ok final =>
      cases consumed
      exact decreaseTokenQuota_moves funding decreased

namespace BillingSession

theorem reserveToken_moves (positive : 0 < delta) (funding)
    (reserved : s.reserveToken read w delta l = .ok l')
    : Moves funding l l' (0, s.relayInfo.tokenShare delta) := by
  unfold reserveToken at reserved
  split at reserved
  next skipped =>
    cases reserved
    rw [tokenShare, if_pos (skipped.resolve_left (not_le.mpr positive))]
    exact Moves.refl _ _
  · cases consumed : preConsumeTokenQuota s.relayInfo read w delta l with rw [consumed] at reserved
    | error e => cases reserved
    | ok final =>
      cases reserved
      exact preConsumeTokenQuota_moves funding consumed

theorem reserve_cases {w target e}
    (undoable : w.rollback = ⟨.applied, .applied⟩) (called : s.reserve w target l = (e, s', l'))
    : (s' = s ∧ l' = l)
      ∨ ∃ delta, 0 < delta ∧ s.settled = false ∧ s.refunded = false ∧ e = none
        ∧ s' = s.extend delta
        ∧ Moves s.funding l l' (delta, s.relayInfo.tokenShare delta) := by
  unfold reserve at called
  split at called
  · cases called
    exact .inl ⟨rfl, rfl⟩
  next open_ =>
    simp only [Bool.or_eq_true, decide_eq_true_eq, not_or, Bool.not_eq_true, not_le] at open_
    obtain ⟨⟨⟨unsettled, unrefunded⟩, _⟩, above⟩ := open_
    have positive : 0 < target - s.preConsumedQuota := by omega
    rw [if_neg (not_le.mpr positive)] at called
    split at called
    · cases called
      exact .inl ⟨rfl, rfl⟩
    next extended charged reserved =>
      obtain ⟨rfl, drawn, undone⟩ := reserveFunding_moves positive reserved
      split at called
      · rw [undoable, undone] at called
        cases called
        exact .inl ⟨rfl, rfl⟩
      next tokenReserved =>
        cases called
        refine .inr ⟨_, positive, unsettled, unrefunded, rfl, rfl, ?_⟩
        have tokenMoved := reserveToken_moves positive s.funding tokenReserved
        simpa only [Prod.mk_add_mk, add_zero, zero_add] using drawn.trans tokenMoved

end BillingSession

end HelsterApi.Billing
