import HelsterApi.Tasks.Submission

/-! What a submitted task costs its funding source, from the pre-consume to the refund of a failed
task. The row keeps the quota of the submission whether or not the settlement reached it, and
without a row there is nothing to refund.
-/

namespace HelsterApi.Tasks

open Billing BillingSession Option Prod TaskLoop Funding TaskOutcome
open Control
open Realtime

structure SameFunding (l l' : Ledger) : Prop where
  userQuota : l'.userQuota = l.userQuota
  subs : l'.subs = l.subs
  records : l'.records = l.records

theorem SameFunding.refl (l) : SameFunding l l := ⟨rfl, rfl, rfl⟩

variable {l l' : Ledger}

theorem SameFunding.trans {l''} (first : SameFunding l l') (second : SameFunding l' l'')
    : SameFunding l l'' :=
  ⟨second.userQuota.trans first.userQuota, second.subs.trans first.subs,
    second.records.trans first.records⟩

variable {w : Write} {quota : ℤ}

variable {info : RelayInfo}

theorem preConsumeTokenQuota_sameFunding {read}
    (consumed : preConsumeTokenQuota info read w quota l = .ok l')
    : SameFunding l l' := by
  obtain ⟨_, consumed⟩ := ite_error_eq_ok.mp consumed
  split at consumed
  · cases consumed
    exact .refl l
  · split at consumed
    · cases consumed
    · obtain ⟨_, consumed⟩ := ite_error_eq_ok.mp consumed
      obtain ⟨_, _, rfl⟩ := quotaWrite_eq_ok.mp (mapError_eq_ok.mp consumed)
      exact ⟨rfl, rfl, rfl⟩

theorem rollbackToken_sameFunding (w) (s : BillingSession) (l)
    : SameFunding l (s.rollbackToken w l) := by
  unfold rollbackToken
  split
  · split
    · exact .refl l
    next increased =>
      obtain ⟨_, _, rfl⟩ := quotaWrite_eq_ok.mp increased
      exact ⟨rfl, rfl, rfl⟩
  · exact .refl l

variable {cfg : TrustSettings} {e : NewAPIError} {s : BillingSession}

theorem preConsume_error_sameFunding {w} (refused : s.preConsume cfg w quota l = (.error e, l'))
    : SameFunding l l' := by
  rcases preConsume_refused refused with
    rfl | ⟨effective, middle, _, consumed, rfl⟩
  · exact .refl l'
  · have kept : SameFunding l middle := by
      split at consumed
      · exact preConsumeTokenQuota_sameFunding consumed
      · cases consumed
        exact .refl l
    exact kept.trans (rollbackToken_sameFunding _ _ _)

theorem preConsumeBilling_error_sameFunding {o quotaClamp}
    (refused : preConsumeBilling cfg o quotaClamp info quota l = (.error e, l'))
    : SameFunding l l' := by
  have refusals := preConsumeBilling_refused refused
  clear refused
  induction refusals with
  | refl => exact .refl l
  | tail _ refused ih =>
    obtain ⟨e, wallet | subscription⟩ := refused
    · rcases tryWallet_refused wallet with rfl | ⟨session, _, failed⟩
      · exact ih
      · exact ih.trans (preConsume_error_sameFunding failed)
    · exact ih.trans (preConsume_error_sameFunding subscription)

/-- A loop that started with the rows `l` has taken `taken` from the funding source: nothing without
a billing session, and what opening it took otherwise.
-/
inductive Drew (l : Ledger) (st : TaskLoop) : ℤ → Prop where
  | nothing (unopened : st.billing = none) (same : SameFunding l st.ledger)
    : Drew l st 0
  | opened {start : SessionRun} (opened : Opened start)
      (billing : st.billing = some start.session) (ledger : st.ledger = start.ledger)
    : Drew l st start.taken.1

theorem relayTaskSubmit_cases (cfg : TaskSettings) (sub : Submission) (info)
    (billing l)
    : (relayTaskSubmit cfg sub info billing l).2 = (billing, l)
      ∨ ∃ opening l', preConsumeBilling cfg.trust sub.opening sub.quotaClamp
          { info with forcePreConsume := true } sub.quota l = (opening, l')
        ∧ billing = none
        ∧ (relayTaskSubmit cfg sub info billing l).2 = (opening.toOption, l') := by
  unfold relayTaskSubmit Submission.preConsume
  cases sub.rejected with
  | some e => exact .inl rfl
  | none =>
    cases billing with
    | some s =>
      left
      cases sub.response <;> rfl
    | none =>
      by_cases free : sub.freeModel = true
      · left
        simp only [free, if_true]
        cases sub.response <;> rfl
      · right
        simp only [free]
        generalize preConsumeBilling cfg.trust sub.opening sub.quotaClamp
          { info with forcePreConsume := true } sub.quota l = called
        obtain ⟨opening, l'⟩ := called
        refine ⟨opening, l', rfl, trivial, ?_⟩
        cases opening with
        | error e => rfl
        | ok s => cases sub.response <;> rfl

section

variable {cfg : TaskSettings} {info : RelayInfo} {l : Ledger} {st st' : TaskLoop}

theorem Drew.carry {taken} (drew : Drew l st taken) (billing : st'.billing = st.billing)
    (ledger : st'.ledger = st.ledger)
    : Drew l st' taken := by
  cases drew with
  | nothing unopened same => exact .nothing (billing.trans unopened) (ledger ▸ same)
  | opened opened session rows => exact .opened opened (billing.trans session) (ledger.trans rows)

theorem Drew.submit {taken} (drew : Drew l st taken) (fresh : l.records info.requestId = none) {sub}
    (alone : sub.opening.subscription.subscription.duplicate = none) (selected)
    : ∃ taken, Drew l (st.submit cfg info selected sub) taken := by
  have billing : ((st.submit cfg info selected sub).billing,
      (st.submit cfg info selected sub).ledger)
      = (relayTaskSubmit cfg sub info st.billing st.ledger).2 := rfl
  rcases relayTaskSubmit_cases cfg sub info st.billing st.ledger with
    kept | ⟨opening, l', called, unopened, left⟩
  · rw [kept] at billing
    obtain ⟨sameBilling, sameLedger⟩ := mk.inj billing
    exact ⟨taken, drew.carry sameBilling sameLedger⟩
  · rw [left] at billing
    obtain ⟨newBilling, newLedger⟩ := mk.inj billing
    cases drew with
    | opened _ session _ => simp [session] at unopened
    | nothing _ same =>
      cases opening with
      | error e =>
        refine ⟨0, .nothing newBilling ?_⟩
        rw [newLedger]
        exact same.trans (preConsumeBilling_error_sameFunding called)
      | ok s =>
        have unrecorded : st.ledger.records
            ({ info with forcePreConsume := true } : RelayInfo).requestId = none := by
          rwa [same.records]
        obtain ⟨nonneg, middle, refusals, wallet | subscription⟩ := preConsumeBilling_ok called
        · exact ⟨_, .opened (.wallet nonneg wallet) newBilling newLedger⟩
        · obtain ⟨middle, result, tokenConsumed, charged, _⟩ := trySubscription_ok subscription
          rw [← refusals_records refusals] at unrecorded
          exact ⟨_, .opened (.subscription unrecorded alone tokenConsumed charged subscription)
            newBilling newLedger⟩

theorem Drew.iterate {taken} (drew : Drew l st taken)
    (fresh : l.records info.requestId = none) {outcome}
    (alone : ∀ selected sub aftermath, outcome = .attempted selected sub aftermath
      → sub.opening.subscription.subscription.duplicate = none)
    {again} (iterated : st.iterate cfg info outcome = (st', again))
    : ∃ taken, Drew l st' taken := by
  -- only an attempt touches the session and the rows
  cases outcome with
  | attempted selected sub aftermath =>
    have submitted : st' = st.submit cfg info selected sub := by
      simp only [TaskLoop.iterate] at iterated
      split at iterated <;> exact (mk.inj iterated).1.symm
    rw [submitted]
    exact drew.submit fresh (alone selected sub aftermath rfl) selected
  | disconnected | lockedSetupFailed | noChannel | unreadableBody | limiterDown
  | rateLimited =>
    obtain ⟨rfl, _⟩ := mk.inj iterated
    exact ⟨taken, drew.carry rfl rfl⟩

theorem relayTaskLoop_drew {outcomes} (fresh : l.records info.requestId = none)
    (alone : ∀ selected sub aftermath, attempted selected sub aftermath ∈ outcomes
      → sub.opening.subscription.subscription.duplicate = none)
    (ended : relayTaskLoop cfg info outcomes l = some st)
    : ∃ taken, Drew l st taken := by
  refine loop_post (fun st => ∃ taken, Drew l st taken) (fun st => ∃ taken, Drew l st taken)
    ended ⟨0, .nothing rfl (.refl l)⟩ ?_ ?_ ?_
  · rintro st middle outcome member ⟨taken, drew⟩ _ continued
    obtain ⟨taken', drew'⟩ := drew.iterate fresh (fun selected sub aftermath same =>
      alone selected sub aftermath (same ▸ member)) continued
    exact ⟨taken', drew'.carry rfl rfl⟩
  · rintro st last outcome member ⟨taken, drew⟩ _ stopped
    exact drew.iterate fresh (fun selected sub aftermath same =>
      alone selected sub aftermath (same ▸ member)) stopped
  · exact fun drew _ => drew

end

structure Unbilled (info : RelayInfo) : Prop where
  source : info.billingSource = none
  preConsumed : info.finalPreConsumedQuota = 0

def TaskLoop.funding (st : TaskLoop) : Funding :=
  match st.billing with
  | some s => s.funding
  | none => .wallet 0

/-- A settlement at `quota` has nothing to adjust or is accepted by the funding source. -/
def TaskLoop.SettlesAt (st : TaskLoop) (w : FundingWrite) (quota taken : ℤ) : Prop :=
  quota = taken ∨ st.funding.Accepts w (quota - taken) st.ledger

section

variable {info : RelayInfo} {l l' : Ledger} {st : TaskLoop} {taken quota : ℤ}

variable {w : SettleWrites} {e : Option TurnError}

theorem settleBilling_session (unused : s.Unused)
    (covered : l.Covers s.funding (quota - s.preConsumedQuota))
    (settled : settleBilling (some s) w quota info l = (e, l'))
    : (quota = s.preConsumedQuota
          ∨ s.funding.Accepts w.funding (quota - s.preConsumedQuota) l
        → l'.fundingDrawn s.funding
          = l.fundingDrawn s.funding + (quota - s.preConsumedQuota))
      ∧ (¬(quota = s.preConsumedQuota
          ∨ s.funding.Accepts w.funding (quota - s.preConsumedQuota) l)
        → l'.fundingDrawn s.funding = l.fundingDrawn s.funding) := by
  have accepted : (s.settle w quota l).2.1.settled = true ↔ _ :=
    settle_settled_iff unused.fundingSettled unused.settled
  cases called : s.settle w quota l with
  | mk error after =>
    obtain ⟨s', after⟩ := after
    have rows : after = l' := by
      simp only [settleBilling, called] at settled
      exact (mk.inj settled).2
    subst rows
    rw [← accepted, called]
    rcases settle_cases unused.fundingSettled unused.settled covered called
      with ⟨_, rfl, rfl⟩ | settles
    · exact ⟨fun done => absurd done (by simp [unused.settled]), fun _ => rfl⟩
    · obtain ⟨token, moved, _⟩ := settles.moves
      exact ⟨fun _ => moved.fundingDrawn, fun undone => absurd settles.settled undone⟩

theorem consumeFunding_unbilled (w) (unbilled : Unbilled info)
    (changes : quota ≠ 0) (l)
    : consumeFunding w info quota l
      = (((Funding.wallet 0).settle w quota l).mapError .model).map (Prod.mk info) := by
  have fromWallet : info.billingSource ≠ some .subscription := by
    rw [unbilled.source]
    exact (some_ne_none _).symm
  unfold consumeFunding Funding.settle
  rw [if_neg fromWallet, if_neg changes]
  generalize (if 0 < quota then decreaseUserQuota w.wallet quota l
    else increaseUserQuota w.wallet (-quota) l) = called
  cases called <;> rfl

theorem settleBilling_wallet (unbilled : Unbilled info)
    (settled : settleBilling none w quota info l = (e, l'))
    : (quota = 0 ∨ w.funding.wallet = .applied
        → l'.fundingDrawn (.wallet 0) = l.fundingDrawn (.wallet 0) + quota)
      ∧ (¬(quota = 0 ∨ w.funding.wallet = .applied)
        → l'.fundingDrawn (.wallet 0) = l.fundingDrawn (.wallet 0)) := by
  simp only [settleBilling, unbilled.preConsumed, sub_zero] at settled
  split at settled
  next changes =>
    rw [or_iff_right changes]
    have accepted : (∃ l', (wallet 0).settle w.funding quota l = .ok l')
        ↔ w.funding.wallet = .applied := settle_succeeds_iff changes
    have consumed := consumeFunding_unbilled w.funding unbilled changes l
    unfold postConsumeQuota at settled
    cases called : (wallet 0).settle w.funding quota l with
    | error error =>
      rw [consumed, called] at settled
      cases settled
      refine ⟨fun applied => ?_, fun _ => rfl⟩
      obtain ⟨_, reached⟩ := accepted.mpr applied
      simp [called] at reached
    | ok middle =>
      have drawn := settle_moves (fun subscribed => by cases subscribed) called
      have charged : consumeFunding w.funding info quota l = .ok (info, middle) := by
        rw [consumed, called]
        rfl
      rw [charged] at settled
      refine ⟨fun _ => ?_, fun refused => absurd (accepted.mp ⟨middle, called⟩) refused⟩
      cases tokenCall : info.adjustToken w.token quota middle with
      | mk tokenError final =>
        simp only [tokenCall, Prod.mk.injEq] at settled
        obtain ⟨_, rfl⟩ := settled
        rcases RelayInfo.adjustToken_moves (.wallet 0) tokenCall with
          ⟨_, moved⟩ | ⟨_, rfl⟩
        · have total := (drawn.trans moved).fundingDrawn
          simpa only [mk_add_mk, add_zero] using total
        · exact drawn.fundingDrawn
  next unchanged =>
    cases settled
    have zero := not_not.mp unchanged
    exact ⟨fun _ => by rw [zero, add_zero], fun _ => rfl⟩

theorem Drew.covers (drew : Drew l st taken) : st.ledger.Covers st.funding (-taken) := by
  unfold TaskLoop.funding
  cases drew with
  | nothing unopened _ =>
    rw [unopened]
    intro subscribed
    cases subscribed
  | opened opened billing ledger =>
    have started := opened.started
    rw [billing, ledger, started.taken]
    exact started.covers

theorem Drew.settle (drew : Drew l st taken) (unbilled : Unbilled info) (priced : 0 ≤ quota)
    (settled : settleBilling st.billing w quota (st.relayInfo info) st.ledger = (e, l'))
    : (st.SettlesAt w.funding quota taken
        → l'.fundingDrawn st.funding = st.ledger.fundingDrawn st.funding + (quota - taken))
      ∧ (¬st.SettlesAt w.funding quota taken
        → l'.fundingDrawn st.funding = st.ledger.fundingDrawn st.funding) := by
  have covered : st.ledger.Covers st.funding (quota - taken) := by
    intro subscribed
    have drawn := drew.covers subscribed
    omega
  unfold SettlesAt
  unfold TaskLoop.funding at covered ⊢
  unfold TaskLoop.relayInfo at settled
  cases drew with
  | nothing unopened _ =>
    rw [unopened] at settled ⊢
    rw [sub_zero]
    exact settleBilling_wallet unbilled settled
  | opened opened billing ledger =>
    have started := opened.started
    rw [billing] at settled covered ⊢
    rw [started.taken] at covered ⊢
    exact settleBilling_session started.unused covered settled

theorem Task.funding_wallet {task : Task} (other : task.billingSource ≠ some .subscription)
    : task.funding = .wallet 0 := if_neg fun subscribed => other (of_decide_eq_true subscribed).1

theorem Drew.initTask_funding (drew : Drew l st taken) (unbilled : Unbilled info)
    (w result)
    : (initTask w (st.relayInfo info) result).funding.source = st.funding.source
      ∧ ∀ rows : Ledger, rows.fundingDrawn (initTask w (st.relayInfo info) result).funding
        = rows.fundingDrawn st.funding := by
  unfold TaskLoop.funding TaskLoop.relayInfo
  cases drew with
  | nothing unopened _ =>
    rw [unopened, Task.funding_wallet]
    · exact ⟨rfl, fun _ => rfl⟩
    · change info.billingSource ≠ _
      rw [unbilled.source]
      exact (some_ne_none _).symm
  | @opened start opened billing ledger =>
    have started := opened.started
    have source := started.source
    have held := started.held.source
    rw [billing]
    cases funded : start.session.funding with
    | wallet consumed =>
      rw [funded] at source
      rw [Task.funding_wallet]
      · exact ⟨by dsimp only; rw [funded]; rfl, fun _ => by dsimp only; rw [funded]; rfl⟩
      · change start.session.relayInfo.billingSource ≠ _
        rw [source]
        exact fun same => by cases same
    | subscription f =>
      rw [funded] at source held
      have identified : 0 < start.session.relayInfo.subscriptionId := by
        rw [held.sameId]
        exact held.identified
      rw [Task.funding, if_pos (show taskIsSubscription _ from
        decide_eq_true ⟨source, identified⟩)]
      refine ⟨by dsimp only; rw [funded]; rfl, fun rows => ?_⟩
      dsimp only
      rw [funded]
      change ((rows.subs start.session.relayInfo.subscriptionId).map _).getD 0 = _
      rw [held.sameId]
      rfl

def recalculateAll : List (BillWrites × ℤ) → Task → Ledger → Task × Ledger
  | [], row, l => (row, l)
  | (w, actualQuota) :: rest, row, l =>
    let (_, row, l) := recalculateTaskQuota w actualQuota row row l
    recalculateAll rest row l

/-- The funding source of a task has given the quota of its row, on top of a base that a
subscription cannot go below.
-/
structure Accounts (base : ℤ) (row : Task) (l : Ledger) : Prop where
  drawn : l.fundingDrawn row.funding = base + row.quota
  base : row.funding.source = .subscription → 0 ≤ base

variable {base : ℤ} {row : Task}

theorem Accounts.recalculate (accounts : Accounts base row l) {w}
    (saved : w.quota = .applied) (actualQuota)
    : Accounts base (recalculateTaskQuota w actualQuota row row l).2.1
        (recalculateTaskQuota w actualQuota row row l).2.2
      ∧ (recalculateTaskQuota w actualQuota row row l).2.1.funding = row.funding := by
  have drawn := accounts.drawn
  unfold recalculateTaskQuota
  split
  · exact ⟨accounts, rfl⟩
  next changes =>
    rw [not_or, not_le] at changes
    split
    · exact ⟨accounts, rfl⟩
    next funded adjusted =>
      rw [saved]
      have covered : l.Covers row.funding (actualQuota - row.quota) := by
        intro subscribed
        have := accounts.base subscribed
        omega
      obtain ⟨token, moved⟩ :=
        taskAdjustTokenQuota_moves w row (actualQuota - row.quota) funded row.funding
      have total := ((taskAdjustFunding_moves covered adjusted).trans moved).fundingDrawn
      refine ⟨⟨?_, accounts.base⟩, rfl⟩
      change Ledger.fundingDrawn _ row.funding = base + actualQuota
      rw [total, drawn]
      simp only [mk_add_mk, add_zero]
      omega

/-- So do several, by induction on their list. -/
theorem Accounts.recalculateAll {row'} (accounts : Accounts base row l)
    {bills} (saved : ∀ bill ∈ bills, bill.1.quota = .applied)
    (recalculated : recalculateAll bills row l = (row', l'))
    : Accounts base row' l' ∧ row'.funding = row.funding := by
  induction bills generalizing row l with
  | nil =>
    cases recalculated
    exact ⟨accounts, rfl⟩
  | cons bill rest ih =>
    obtain ⟨kept, sameFunding⟩ := accounts.recalculate (saved bill (List.mem_cons_self ..)) bill.2
    have laterSaved : ∀ later ∈ rest, later.1.quota = .applied := fun later member =>
      saved later (List.mem_cons_of_mem _ member)
    obtain ⟨final, laterFunding⟩ := ih kept laterSaved recalculated
    exact ⟨final, laterFunding.trans sameFunding⟩

def Refunded (w : BillWrites) (row : Task) (l l' : Ledger) : Prop :=
  refundTaskQuota w row l = (if row.quota = 0 then none else some row.quota, l')

theorem Accounts.refund (accounts : Accounts base row l) {w} (refunded : Refunded w row l l')
    : l'.fundingDrawn row.funding = base := by
  have drawn := accounts.drawn
  unfold Refunded at refunded
  split at refunded
  next zero =>
    rw [refundTaskQuota, if_pos zero] at refunded
    cases refunded
    omega
  · have covered : l.Covers row.funding (-row.quota) := by
      intro subscribed
      have := accounts.base subscribed
      omega
    unfold refundTaskQuota at refunded
    split at refunded
    · cases refunded
    split at refunded
    · cases refunded
    next funded adjusted =>
      cases refunded
      obtain ⟨_, token⟩ := taskAdjustTokenQuota_moves w row (-row.quota) funded row.funding
      have moved := ((taskAdjustFunding_moves covered adjusted).trans token).fundingDrawn
      simp at moved
      omega

theorem refund_starts (held : Held s l) (unused : s.Unused)
    : s.refund.2 = some s.refundJob ∨ (s.refund.2 = none ∧ s.preConsumedQuota = 0) := by
  by_cases zero : s.preConsumedQuota = 0
  · unfold BillingSession.refund
    split
    · exact .inr ⟨rfl, zero⟩
    · exact .inl rfl
  · rw [refund_of_held held unused zero]
    exact .inl rfl

def TaskLoop.afterRefund (w : RefundWrites) (job : Option RefundJob) (st : TaskLoop) : Ledger :=
  match job with
  | none => st.ledger
  | some job => job.run w st.funding st.ledger

def TaskLoop.net (st : TaskLoop) (taken : ℤ) (l' : Ledger) : ℤ :=
  taken + (l'.fundingDrawn st.funding - st.ledger.fundingDrawn st.funding)

theorem Drew.refund (drew : Drew l st taken) {w} (goesThrough : w.Succeeds)
    (returnable : st.ledger.CanReturn st.funding taken)
    : st.net taken (st.afterRefund w (st.billing.bind fun s => s.refund.2)) = 0 := by
  unfold net
  cases drew with
  | nothing unopened _ =>
    rw [unopened]
    simp [afterRefund]
  | @opened start opened billing ledger =>
    have started := opened.started
    have source : st.funding = start.session.funding := by simp only [TaskLoop.funding, billing]
    rw [started.taken] at returnable ⊢
    rw [source] at returnable ⊢
    rw [ledger] at returnable
    rw [billing, bind_some, ledger]
    rcases refund_starts started.held started.unused with job | ⟨noJob, zero⟩
    · rw [job]
      simp only [afterRefund, source, ledger]
      have returned := congrArg fst
        (started.held.refund_drawn goesThrough returnable)
      simp only [Ledger.drawn, fst_sub] at returned
      omega
    · rw [noJob]
      simp [afterRefund, ledger, zero]

end

/-- What became of the quota taken for a request. A stored task that is refunded once, after
recalculations whose quota is written back, leaves the funding source as it was if the
settlement reached it, and only then for a wallet. A task without a row leaves its quota taken,
or what was pre-consumed if the settlement failed.
-/
structure Restored (w : SuccessWrites) (st : TaskLoop) (taken : ℤ) (ending : TaskEnd) : Prop where
  stored : ∀ result task l₁ bills row l₂ bill l₃,
    ending = .submitted result (some task) l₁ → 0 ≤ result.quota
    → (∀ each ∈ bills, each.1.quota = .applied) → recalculateAll bills task l₁ = (row, l₂)
    → Refunded bill row l₂ l₃
    → (st.SettlesAt w.settle.funding result.quota taken → st.net taken l₃ = 0)
      ∧ (st.funding.source = .wallet
        → (st.net taken l₃ = 0 ↔ st.SettlesAt w.settle.funding result.quota taken))
  unstored : ∀ result l₁, ending = .submitted result none l₁ → 0 ≤ result.quota
    → (st.SettlesAt w.settle.funding result.quota taken → st.net taken l₁ = result.quota)
      ∧ (¬st.SettlesAt w.settle.funding result.quota taken → st.net taken l₁ = taken)
  failed : ∀ e job writes, ending = .failed e job → writes.Succeeds
    → st.ledger.CanReturn st.funding taken → st.net taken (st.afterRefund writes job) = 0
  crashed : ending = .crashed → taken = 0

section

variable {w : SuccessWrites} {info : RelayInfo} {l l₁ l₂ l₃ : Ledger} {st : TaskLoop}
  {taken : ℤ} {result : TaskSubmitResult}

theorem TaskLoop.conclude_submitted {row}
    (concluded : st.conclude w info = .submitted result row l₁)
    : (∃ e, settleBilling st.billing w.settle result.quota (st.relayInfo info) st.ledger
        = (e, l₁))
      ∧ ∀ task, row = some task → task = initTask w (st.relayInfo info) result := by
  unfold conclude at concluded
  split at concluded
  · cases concluded
  split at concluded
  · cases concluded
  cases concluded
  refine ⟨⟨_, rfl⟩, fun task stored => ?_⟩
  split at stored
  · exact (some.inj stored).symm
  · cases stored

theorem Drew.refund_stored (drew : Drew l st taken) (unbilled : Unbilled info) (base)
    (drawn : l₁.fundingDrawn st.funding = base + result.quota)
    (above : st.funding.source = .subscription → 0 ≤ base) {bills}
    (saved : ∀ each ∈ bills, each.1.quota = .applied) {row}
    (recalculated : recalculateAll bills (initTask w (st.relayInfo info) result) l₁ = (row, l₂))
    {bill} (refunded : Refunded bill row l₂ l₃)
    : l₃.fundingDrawn st.funding = base := by
  obtain ⟨sameSource, sameDrawn⟩ := drew.initTask_funding unbilled w result
  have accounts : Accounts base (initTask w (st.relayInfo info) result) l₁ :=
    ⟨(sameDrawn l₁).trans drawn, fun subscribed => above (sameSource ▸ subscribed)⟩
  obtain ⟨final, sameFunding⟩ := accounts.recalculateAll saved recalculated
  have returned := final.refund refunded
  rwa [sameFunding, sameDrawn] at returned

end

/-- Every request has an account of what it took, and what became of it. -/
theorem relayTask_restored {cfg w info outcomes l st ending}
    (unbilled : Unbilled info) (fresh : l.records info.requestId = none)
    (alone : ∀ selected sub aftermath, attempted selected sub aftermath ∈ outcomes
      → sub.opening.subscription.subscription.duplicate = none)
    (ended : relayTask cfg w info outcomes l = some (st, ending))
    : ∃ taken, Drew l st taken ∧ Restored w st taken ending := by
  obtain ⟨st, looped, same⟩ := map_eq_some_iff.mp ended
  obtain ⟨rfl, rfl⟩ := mk.inj same
  obtain ⟨taken, drew⟩ := relayTaskLoop_drew fresh alone looped
  refine ⟨taken, drew, ?_, ?_, ?_, ?_⟩
  · intro result task l₁ bills row l₂ bill l₃ concluded priced saved recalculated refunded
    obtain ⟨⟨_, settled⟩, rowOf⟩ := conclude_submitted concluded
    obtain ⟨reached, missed⟩ := drew.settle unbilled priced settled
    rw [rowOf task rfl] at recalculated
    have restores : st.SettlesAt w.settle.funding result.quota taken → st.net taken l₃ = 0 := by
      intro settles
      have drawn := reached settles
      have final := drew.refund_stored unbilled (st.ledger.fundingDrawn st.funding - taken)
        (by omega) (fun subscribed => by have := drew.covers subscribed; omega) saved
        recalculated refunded
      unfold net
      omega
    refine ⟨restores, fun fromWallet => ⟨fun zero => ?_, restores⟩⟩
    by_contra unsettled
    have drawn := missed unsettled
    have final := drew.refund_stored unbilled
      (st.ledger.fundingDrawn st.funding - result.quota) (by omega)
      (fun subscribed => by rw [fromWallet] at subscribed; cases subscribed) saved
      recalculated refunded
    unfold net at zero
    exact unsettled (.inl (by omega))
  · intro result l₁ concluded priced
    obtain ⟨⟨_, settled⟩, _⟩ := conclude_submitted concluded
    obtain ⟨reached, missed⟩ := drew.settle unbilled priced settled
    unfold net
    exact ⟨fun settles => by rw [reached settles]; omega,
      fun unsettled => by rw [missed unsettled]; omega⟩
  · intro e job writes concluded goesThrough returnable
    unfold conclude at concluded
    split at concluded <;> [skip; split at concluded] <;> cases concluded
    exact drew.refund goesThrough returnable
  · intro concluded
    unfold conclude at concluded
    split at concluded
    · cases concluded
    rename_i clean
    split at concluded <;> [rename_i missing; cases concluded]
    -- a loop that was entered leaves an error or a result
    rcases relayTaskLoop_ends looped with ⟨_, _, guarded⟩ | ⟨_, rfl⟩
    · obtain ⟨result, _, kept⟩ := guarded clean
      simp [missing] at kept
    · cases drew with
      | nothing _ _ => rfl
      | opened _ billing _ => cases billing

def sampleWrites (wallet : Write) (insert : Save) : SuccessWrites :=
  ⟨⟨⟨wallet, .applied⟩, .applied⟩, insert, 0, 7, false⟩

def sampleBill : BillWrites :=
  ⟨⟨.applied, .applied⟩, true, .applied, .applied⟩

/-- Witness: a task pre-consumed at 100, settled at 150 and refunded leaves its wallet as it
was.
-/
theorem relayTask_settled_restored
    : ∃ st result task l₁ l₃ taken,
      relayTask sampleSettings (sampleWrites .applied .applied) sampleInfo
        [sampleAttempt (some 150)] sampleLedger = some (st, .submitted result (some task) l₁)
      ∧ l₁.userQuota = 850 ∧ Refunded sampleBill task l₁ l₃ ∧ st.net taken l₃ = 0 := by
  have ended : relayTask sampleSettings (sampleWrites .applied .applied) sampleInfo
      [sampleAttempt (some 150)] sampleLedger = some (_, .submitted _ (some _) _) := rfl
  have alone : ∀ selected sub aftermath,
      attempted selected sub aftermath ∈ [sampleAttempt (some 150)]
      → sub.opening.subscription.subscription.duplicate = none := by
    intro selected sub aftermath member
    cases List.mem_singleton.mp member
    rfl
  obtain ⟨taken, _, restored⟩ := relayTask_restored ⟨rfl, rfl⟩ rfl alone ended
  refine ⟨_, _, _, _, _, taken, ended, rfl, rfl, ?_⟩
  have recalculated : ∀ each ∈ ([] : List (BillWrites × ℤ)), each.1.quota = .applied :=
    fun _ member => by cases member
  have stored := restored.stored _ _ _ [] _ _ sampleBill _ rfl (by decide) recalculated rfl rfl
  exact stored.1 (.inr rfl)

/-- If the settlement at 150 fails the refund pays out 50 more than was taken, and if the insert
fails the user stays charged.
-/
theorem relayTask_failures_not_restored
    : (∃ st result task l₁ l₃,
        relayTask sampleSettings (sampleWrites (.failed "database is locked") .applied)
          sampleInfo [sampleAttempt (some 150)] sampleLedger
          = some (st, .submitted result (some task) l₁)
        ∧ Refunded sampleBill task l₁ l₃
        ∧ sampleLedger.userQuota = 1000 ∧ l₁.userQuota = 900 ∧ l₃.userQuota = 1050)
      ∧ ∃ st result l₁,
        relayTask sampleSettings (sampleWrites .applied (.failed "database is locked"))
          sampleInfo [sampleAttempt (some 150)] sampleLedger
          = some (st, .submitted result none l₁)
        ∧ l₁.userQuota = 850 :=
  ⟨⟨_, _, _, _, _, rfl, rfl, rfl, rfl, rfl⟩, _, _, _, rfl, rfl⟩

end HelsterApi.Tasks
