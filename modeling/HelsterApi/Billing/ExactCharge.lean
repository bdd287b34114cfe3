import HelsterApi.Billing.SessionRuns
import HelsterApi.Transition.Accounts

/-! A session that is not settled after a refund behaves as an authorization hold, so it costs the
settled quota or nothing.
-/

namespace HelsterApi.Billing

open BillingSession List Option RelayInfo Transition Hold

/-- The hold a run stands for: open at the pre-consumed quota, captured at the settled quota, or
released.
-/
def SessionRun.phase (s : SessionRun) : Hold.Phase (ℤ × ℤ) :=
  if s.refundApplied then .released
  else
    match s.settledAt with
    | some q => .captured (q, s.taken.2)
    | none =>
      .held (s.session.preConsumedQuota, s.session.relayInfo.tokenShare s.session.preConsumedQuota)

structure Tracks (s : SessionRun) (h : Hold (ℤ × ℤ)) : Prop where
  taken : h.taken = s.taken
  phase : h.phase = s.phase
  held : s.refundApplied = false → Held s.session s.ledger
  committed : s.session.settled = false → s.session.fundingSettled = false
  settledAt : s.settledAt.isSome = s.session.settled
  exclusive : s.session.refunded = true → s.session.settled = false
  applied : s.refundApplied = true → s.session.refunded = true
  pending : ∀ job, s.job = some job
    → s.session.refunded = true ∧ s.refundApplied = false ∧ job = s.session.refundJob
  succeeded : ∀ q ∈ s.succeeded, s.settledAt = some q
  token : ∀ q, s.settledAt = some q → s.tokenFaulted = false
    → s.taken.2 = s.session.relayInfo.tokenShare q

section

variable {s s' : SessionRun} {h : Hold (ℤ × ℤ)}

namespace Tracks

section

variable (tracks : Tracks s h)

include tracks

variable {ledger : Ledger}

theorem unmoved (moves : Moves s.session.funding s.ledger ledger 0)
    : Tracks (s.after s.session ledger) h := by
  have same : (s.after s.session ledger).taken = s.taken := by
    simp [SessionRun.after, moves.drawn]
  exact { tracks with
    taken := tracks.taken.trans same.symm
    phase := by
      rw [tracks.phase]
      simp only [SessionRun.phase, same]
      rfl
    held := fun notApplied => (tracks.held notApplied).congr
      ⟨rfl, rfl, rfl, rfl, rfl, rfl, rfl⟩ (by rw [SessionRun.after, moves.records])
    token := fun q settled unfaulted => by rw [same]; exact tracks.token q settled unfaulted
  }

theorem settledAt_none (unsettled : s.session.settled = false) : s.settledAt = none := by
  rw [← isNone_iff_eq_none, ← not_isSome, tracks.settledAt, unsettled]
  rfl

theorem phase_held (unsettled : s.session.settled = false) (notApplied : s.refundApplied = false)
    : h.phase = .held (s.session.preConsumedQuota,
        s.session.relayInfo.tokenShare s.session.preConsumedQuota) := by
  rw [tracks.phase]
  simp [SessionRun.phase, notApplied, tracks.settledAt_none unsettled]

theorem not_applied (unrefunded : s.session.refunded = false) : s.refundApplied = false := by
  by_contra applied
  rw [Bool.not_eq_false] at applied
  simp [tracks.applied applied] at unrefunded

theorem reserve {w target}
    (allowed : Orderly s (.reserve w target)) (moved : s.next (.reserve w target) = some s')
    : ∃ h', (machine (ℤ × ℤ)).Leads anyStep h h' ∧ Tracks s' h' := by
  rcases called : s.session.reserve w target s.ledger with ⟨e, session, ledger⟩
  simp only [SessionRun.next, called, some.injEq] at moved
  subst moved
  rcases reserve_cases allowed called with
    ⟨rfl, rfl⟩ | ⟨delta, positive, unsettled, unrefunded, _, rfl, moves⟩
  · exact ⟨h, .refl, tracks.unmoved (Moves.refl _ _)⟩
  · have notApplied := tracks.not_applied unrefunded
    have none_ := tracks.settledAt_none unsettled
    have heldMore := (tracks.held notApplied).extend positive moves.records
    obtain ⟨info, extended, playground, _⟩ := syncRelayInfo_eq { s.session with
      funding := s.session.funding.extend delta
      preConsumedQuota := s.session.preConsumedQuota + delta
      tokenConsumed := s.session.tokenConsumed + delta
      extraReserved := s.session.extraReserved + delta }
    change s.session.extend delta = _ at extended
    rw [extended] at heldMore ⊢
    refine ⟨_, leads_reserve (tracks.phase_held unsettled notApplied)
      (delta, s.session.relayInfo.tokenShare delta), ?_⟩
    exact { tracks with
      taken := by simp only [SessionRun.after, moves.drawn, add_sub_cancel_left, tracks.taken]
      phase := by
        simp only [SessionRun.phase, SessionRun.after, notApplied, none_, Bool.false_eq_true,
          if_false, Prod.mk_add_mk, tokenShare_congr playground, tokenShare_add]
      held := fun _ => heldMore
      pending := fun job waiting =>
        absurd (tracks.pending job waiting).1 (by rw [unrefunded]; decide)
      token := fun q settled => by
        have : s.settledAt = some q := settled
        cases none_.symm.trans this
    }

theorem capture (balanced : h.taken = h.phase.charge) {q e session}
    (unsettled : s.session.settled = false) (unrefunded : s.session.refunded = false)
    (settles : Settles s.session q s.ledger e session ledger)
    : ∃ h', (machine (ℤ × ℤ)).Leads anyStep h h'
      ∧ Tracks { s.after session ledger with
          settledAt := some q
          succeeded := if e.isNone then q :: s.succeeded else s.succeeded
          tokenFaulted := s.tokenFaulted || e.isSome } h' := by
  obtain ⟨token, moves, share⟩ := settles.moves
  have notApplied := tracks.not_applied unrefunded
  have none_ := tracks.settledAt_none unsettled
  have open_ := tracks.phase_held unsettled notApplied
  have takenBefore : s.taken = (s.session.preConsumedQuota,
      s.session.relayInfo.tokenShare s.session.preConsumedQuota) := by
    rw [← tracks.taken, balanced, open_]
    rfl
  have takenAfter : (s.after session ledger).taken
      = (q, s.session.relayInfo.tokenShare s.session.preConsumedQuota + token) := by
    simp [SessionRun.after, moves.drawn, add_sub_cancel_left, takenBefore, add_sub_cancel]
  have noneBefore : s.succeeded = [] := eq_nil_iff_forall_not_mem.mpr fun q' member => by
    have := tracks.succeeded q' member
    cases none_.symm.trans this
  refine ⟨_, leads_capture open_ (s.after session ledger).taken, ?_⟩
  exact {
    taken := by rw [tracks.taken, takenBefore, add_sub_cancel]
    phase := by
      simp only [SessionRun.phase, SessionRun.after, notApplied, Bool.false_eq_true, if_false]
      have captured : (s.after session ledger).taken.1 = q := by rw [takenAfter]
      exact congrArg Hold.Phase.captured (Prod.ext captured rfl)
    held := fun _ => (tracks.held notApplied).congr settles.hold (by
      rw [SessionRun.after, moves.records])
    committed := fun open' => absurd (settles.settled.symm.trans open') (by decide)
    settledAt := settles.settled.symm
    exclusive := fun refunded =>
      absurd (settles.refunded.symm.trans refunded) (by rw [unrefunded]; decide)
    applied := fun applied => absurd (notApplied.symm.trans applied) (by decide)
    pending := fun job waiting =>
      absurd (tracks.pending job waiting).1 (by rw [unrefunded]; decide)
    succeeded := fun q' member => by
      rw [noneBefore] at member
      split at member
      · exact congrArg some (mem_singleton.mp member).symm
      · cases member
    token := fun q' settled unfaulted => by
      cases settled
      have noError : e = none := by
        rw [Bool.or_eq_false_iff] at unfaulted
        simpa only [isSome_eq_false_iff, isNone_iff_eq_none] using unfaulted.2
      rw [takenAfter, share noError, ← tokenShare_add, add_sub_cancel]
      exact (tokenShare_congr settles.hold.isPlayground q).symm
  }

theorem settle (balanced : h.taken = h.phase.charge) {w q}
    (allowed : Orderly s (.settle w q)) (moved : s.next (.settle w q) = some s')
    : ∃ h', (machine (ℤ × ℤ)).Leads anyStep h h' ∧ Tracks s' h' := by
  obtain ⟨unrefunded, oneQuota, covered⟩ := allowed
  rcases called : s.session.settle w q s.ledger with ⟨e, session, ledger⟩
  simp only [SessionRun.next, called, some.injEq] at moved
  subst moved
  have kept := tracks.unmoved (Moves.refl s.session.funding s.ledger)
  cases settledBefore : s.session.settled with
  | true =>
    simp only [settle, settledBefore, if_true] at called
    cases called
    have sameQuota : s.settledAt = some q := oneQuota.resolve_left fun none_ => by
      have some_ := tracks.settledAt
      simp [none_, settledBefore] at some_
    refine ⟨h, .refl, ?_⟩
    simp only [Bool.not_true, Bool.and_false, Bool.false_eq_true, if_false,
      isNone_none, if_true, isSome_none, Bool.or_false]
    exact { kept with
      succeeded := fun q' member => by
        rcases mem_cons.mp member with rfl | member
        · exact sameQuota
        · exact tracks.succeeded q' member }
  | false =>
    rcases settle_cases (tracks.committed settledBefore) settledBefore
      (covered settledBefore) called with ⟨failed, rfl, rfl⟩ | settles
    · obtain ⟨error, rfl⟩ := ne_none_iff_exists'.mp failed
      refine ⟨h, .refl, ?_⟩
      simp only [settledBefore, Bool.false_and, Bool.false_eq_true, if_false,
        isNone_some, Bool.or_false]
      exact kept
    · simp only [settles.settled, Bool.not_false, Bool.and_self, if_true, Bool.true_and]
      exact tracks.capture balanced settledBefore unrefunded settles

theorem refund (moved : s.next .refund = some s') : Tracks s' h := by
  rcases called : s.session.refund with ⟨session, job⟩
  simp only [SessionRun.next, called, some.injEq] at moved
  subst moved
  unfold refund at called
  split at called
  · cases called
    exact tracks
  next needed =>
    simp only [Bool.or_eq_true, Bool.not_eq_true', not_or, Bool.not_eq_true,
      Bool.not_eq_false] at needed
    obtain ⟨⟨unsettled, unrefunded⟩, _⟩ := needed
    have notApplied := tracks.not_applied unrefunded
    cases called
    exact { tracks with
      held := fun _ => (tracks.held notApplied).congr ⟨rfl, rfl, rfl, rfl, rfl, rfl, rfl⟩ rfl
      exclusive := fun _ => unsettled
      applied := fun _ => rfl
      pending := fun job waiting => by
        cases waiting
        exact ⟨rfl, notApplied, rfl⟩
    }

theorem runRefund {w} (allowed : Orderly s (.runRefund w)) (moved : s.next (.runRefund w) = some s')
    : ∃ h', (machine (ℤ × ℤ)).Leads anyStep h h' ∧ Tracks s' h' := by
  obtain ⟨goesThrough, returnable⟩ := allowed
  obtain ⟨job, waiting, rfl⟩ := map_eq_some_iff.mp moved
  obtain ⟨refunded, notApplied, rfl⟩ := tracks.pending job waiting
  have unsettled := tracks.exclusive refunded
  have none_ := tracks.settledAt_none unsettled
  have returned := (tracks.held notApplied).refund_drawn goesThrough returnable
  refine ⟨_, leads_release (tracks.phase_held unsettled notApplied), ?_⟩
  exact { tracks with
    taken := by
      simp only [SessionRun.after, returned, tracks.taken]
      rw [sub_sub_cancel_left, ← sub_eq_add_neg]
    phase := rfl
    held := nofun
    applied := fun _ => refunded
    pending := nofun
    token := fun q settled => by
      have : s.settledAt = some q := settled
      cases none_.symm.trans this
  }

theorem others (moved : s.next (.others ledger) = some s') : Tracks s' h := by
  cases moved
  exact { tracks with
    held := fun notApplied => (tracks.held notApplied).congr
      ⟨rfl, rfl, rfl, rfl, rfl, rfl, rfl⟩ (Function.update_self ..) }

end

theorem opened (opened : Opened s) : ∃ h, (machine (ℤ × ℤ)).initial h ∧ Tracks s h := by
  have start := opened.started
  refine ⟨⟨.held s.taken, s.taken⟩, ⟨s.taken, rfl⟩, ?_⟩
  exact {
    taken := rfl
    phase := by
      simp [SessionRun.phase, start.notApplied, start.unsettled, start.taken]
    held := fun _ => start.held
    committed := fun _ => start.unused.fundingSettled
    settledAt := by rw [start.unsettled, start.unused.settled]; rfl
    exclusive := fun refunded =>
      absurd (start.unused.refunded.symm.trans refunded) (by decide)
    applied := fun applied => absurd (start.notApplied.symm.trans applied) (by decide)
    pending := fun job waiting => by rw [start.noJob] at waiting; cases waiting
    succeeded := fun q member => by rw [start.succeeded] at member; cases member
    token := fun q settled => by rw [start.unsettled] at settled; cases settled
  }

end Tracks

end

theorem sessionMachine_simulates
    : sessionMachine.Simulates Orderly (machine (ℤ × ℤ)) Tracks where
  initial := Tracks.opened
  step := by
    intro s action s' h reached tracks allowed moved
    cases action with
    | settle w q => exact tracks.settle (taken_eq_charge reached) allowed moved
    | reserve w target => exact tracks.reserve allowed moved
    | refund => exact ⟨h, .refl, tracks.refund moved⟩
    | runRefund w => exact tracks.runRefund allowed moved
    | others ledger => exact ⟨h, .refl, tracks.others moved⟩

/-- A session has cost the quota of any `Settle` that returned success and nothing once its refund
is applied, never both, and the token was charged the same unless it is not charged at all or its
write failed.
-/
structure SessionRun.ExactlyCharged (s : SessionRun) : Prop where
  settled : ∀ q ∈ s.succeeded, s.taken.1 = q
  settledToken : ∀ q ∈ s.succeeded, s.session.relayInfo.isPlayground = false
    → s.tokenFaulted = false → s.taken.2 = q
  refunded : s.refundApplied = true → s.taken = (0, 0)
  exclusive : s.refundApplied = true → s.succeeded = []

theorem Tracks.exactlyCharged {s h} (tracks : Tracks s h) (balanced : h.taken = h.phase.charge)
    : s.ExactlyCharged := by
  rw [tracks.taken, tracks.phase] at balanced
  have settledOpen : ∀ q ∈ s.succeeded, s.refundApplied = false := by
    intro q member
    by_contra applied
    rw [Bool.not_eq_false] at applied
    have unsettled := tracks.exclusive (tracks.applied applied)
    have settled := tracks.succeeded q member
    simp [tracks.settledAt_none unsettled] at settled
  exact {
    settled := fun q member => by
      rw [balanced]
      simp [SessionRun.phase, settledOpen q member, tracks.succeeded q member, Hold.Phase.charge]
    settledToken := fun q member keyed unfaulted => by
      simp [tracks.token q (tracks.succeeded q member) unfaulted, tokenShare, keyed]
    refunded := fun applied => by
      simp [balanced, SessionRun.phase, applied, Hold.Phase.charge, Prod.mk_zero_zero]
    exclusive := fun applied => eq_nil_iff_forall_not_mem.mpr fun q member => by
      simp [settledOpen q member] at applied
  }

def FundingWrite.done : FundingWrite := ⟨.applied, .applied⟩

def RefundWrites.done : RefundWrites :=
  ⟨⟨.applied, fun _ => ⟨.applied, .applied⟩⟩, .applied, .applied⟩

def walletStart : SessionRun where
  session := {
    relayInfo := {
      userId := 1, requestId := "r", isPlayground := false, tokenUnlimited := false
      forcePreConsume := true, billingPreference := "wallet_only", userQuota := 1000
      finalPreConsumedQuota := 100, billingSource := some .wallet }
    funding := .wallet 100
    preConsumedQuota := 100
    tokenConsumed := 100 }
  ledger := ⟨900, 900, 100, fun _ => none, fun _ => none⟩
  taken := (100, 100)

theorem walletStart_tryWallet
    : tryWallet ⟨0, 0⟩ (.ok 1000)
        ⟨.ok 1000, .applied, .applied, ⟨none, none, .applied, none, .applied⟩, .applied⟩
        { userId := 1, requestId := "r", isPlayground := false, tokenUnlimited := false,
          forcePreConsume := true, billingPreference := "wallet_only" }
        100 ⟨1000, 1000, 0, fun _ => none, fun _ => none⟩
      = (.ok walletStart.session, walletStart.ledger) := rfl

theorem walletStart_opened : sessionMachine.initial walletStart :=
  Opened.wallet (by decide) walletStart_tryWallet

/-- In every orderly run the session is charged exactly. -/
theorem orderly_session_exactlyCharged {s} (reached : sessionMachine.Reaches Orderly s)
    : s.ExactlyCharged := by
  obtain ⟨h, holdReached, tracks⟩ := sessionMachine_simulates.reaches reached
  exact tracks.exactlyCharged (taken_eq_charge holdReached)

/-- Witness: settling the opened run at 30 gives 70 back to wallet and token. -/
theorem walletStart_settled_exactlyCharged
    : (sessionMachine.play walletStart [.settle ⟨.done, .applied⟩ 30]).succeeded = [30]
      ∧ (sessionMachine.play walletStart [.settle ⟨.done, .applied⟩ 30]).taken = (30, 30)
      ∧ (sessionMachine.play walletStart [.settle ⟨.done, .applied⟩ 30]).ExactlyCharged := by
  have orderly : Orderly walletStart (.settle ⟨.done, .applied⟩ 30) := ⟨rfl, .inl rfl, nofun⟩
  exact ⟨rfl, by decide, orderly_session_exactlyCharged
    (Machine.reaches_play walletStart_opened ⟨orderly, rfl, trivial⟩)⟩

def settleAfterRefund : List SessionAction :=
  [.refund, .runRefund .done, .settle ⟨.done, .applied⟩ 30]

/-- A `Settle` after the refund succeeds and takes the difference to the pre-consumed quota, which
was already given back.
-/
theorem settle_after_refund_not_exactlyCharged
    : sessionMachine.Reaches anyStep (sessionMachine.play walletStart settleAfterRefund)
      ∧ (sessionMachine.play walletStart settleAfterRefund).refundApplied = true
      ∧ (sessionMachine.play walletStart settleAfterRefund).succeeded = [30]
      ∧ (sessionMachine.play walletStart settleAfterRefund).taken = (-70, -70)
      ∧ ¬(sessionMachine.play walletStart settleAfterRefund).ExactlyCharged := by
  refine ⟨Machine.reaches_play walletStart_opened (by decide +kernel), rfl, rfl, by decide,
    fun charged => ?_⟩
  have settled := charged.settled 30 (mem_singleton_self 30)
  exact absurd settled (by decide)

end HelsterApi.Billing
