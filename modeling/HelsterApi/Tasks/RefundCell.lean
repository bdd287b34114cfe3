import HelsterApi.Tasks.Passes

/-! Passes over one task as a cell that decides whether its quota is refunded. Bulk failures
never refund, and a Suno update refunds before it saves, without looking at the row again,
so the steps that keep to the cell are restricted.
-/

namespace HelsterApi.Tasks

open Billing List Transition Cell Option

def PollingSystem.NoUpdate (s : PollingSystem) : Prop :=
  ∀ pass p, s.passes pass = some p → .save ∉ p.due

/-- A bulk failure meets a task that was charged nothing or has failed; a poll works on a copy that
has not ended; a sweep meets no charged legacy task, and a Suno update or a sweep of a Suno task
starts only while the row is unfinished and no update is under way; a refund reaches the funding
source, and a Suno update is saved.
-/
def RefundSafe (charged : ℤ) (s : PollingSystem) : PollingAction → Prop
  | .poll pass _ _ _ _ => ∀ p ∈ s.passes pass, ¬p.task.status.Ended
  | .pollSuno _ _ => s.row.Unfinished ∧ s.NoUpdate
  | .sweep pass _ _ _ =>
    (∀ p ∈ s.passes pass, p.task.isLegacy = false ∨ charged = 0)
    ∧ (s.row.platform = .suno → s.row.Unfinished ∧ s.NoUpdate)
  | .bill pass w _ =>
    ∀ p ∈ s.passes pass, p.due.head? = some (.bill .refund)
      → (taskAdjustFunding w.funding p.task (-p.task.quota) s.ledger).isOk
  | .save _ ok => ok = true
  | .failUnreachable _ _ ok => ok = true → charged = 0 ∨ s.row.status = .failure
  | _ => True

def Pass.dueRefunds (p : Pass) : List ℤ :=
  p.due.filterMap fun
    | .bill .refund => if p.task.quota ≠ 0 then some p.task.quota else none
    | _ => none

/-- A task is refunded what it was charged, once, or not at all. -/
def RefundPolicy (charged : ℤ) (refunded : Bool) (refunds : List (ℕ × ℤ)) : Prop :=
  refunds.map Prod.snd = if refunded = true ∧ charged ≠ 0 then [charged] else []
  deriving Decidable

/-- A row can still be ended with a bill: a video task while its status is not terminal, a Suno task
while it is polled.
-/
def Task.Open (task : Task) : Prop :=
  ¬task.status.Ended ∧ (task.platform = .suno → task.progress ≠ "100%")

def Pass.updates (p : Pass) : List Task :=
  if .save ∈ p.due then [p.task] else []

def Pass.settlements (p : Pass) : List Due := p.due.filter (· = .bill .settle)

/-- What a pass knows about the charge: its copy has the quota charged unless it was settled, and
only a settlement is due.
-/
structure Pass.Accounted (platform : TaskPlatform) (charged : ℤ) (p : Pass) : Prop where
  on : p.task.platform = platform
  quota : p.task.quota = charged
    ∨ (platform = .video ∧ p.task.status = .success ∧ .bill .refund ∉ p.due)
  sweeping : p.kind = .sweeping → ¬p.task.status.Ended
  settling : .bill .settle ∈ p.due → platform = .video ∧ p.task.status = .success
    ∧ p.due = [.bill .settle]
  saving : .save ∈ p.due → platform = .suno

/-- Relates the system to a cell that decides whether the task is refunded. -/
structure PollingSystem.Accounts (platform : TaskPlatform) (charged : ℤ) (s : PollingSystem)
    (c : Cell Bool (ℕ × ℤ)) : Prop where
  on : s.row.platform = platform
  passes : ∀ pass p, s.passes pass = some p → p.Accounted platform charged
  quota : ¬s.row.status.Ended → s.row.quota = charged
  settling : ∀ pass, s.dues Pass.settlements pass ≠ [] → s.row.status.Ended
  undecided : s.row.Open → s.NoUpdate → c.verdict = none
  updating : ∀ pass, ∀ task ∈ s.dues Pass.updates pass,
    (task.Open → c.verdict = none)
      ∧ (charged ≠ 0 → task.status = .failure → c.verdict = some true)
  alone : ∀ pass pass', s.dues Pass.updates pass ≠ [] → s.dues Pass.updates pass' ≠ []
    → pass = pass'
  failed : charged ≠ 0 → s.row.status = .failure → c.verdict = some true
  owed : Owes c.owed (s.dues Pass.dueRefunds)
  performed : c.performed = s.refunds

/-- At most one refund is owed. -/
theorem RefundPolicy.short {charged refunded refunds}
    (policy : RefundPolicy charged refunded refunds) : refunds.length ≤ 1 := by
  rw [← length_map Prod.snd, policy]
  split <;> simp

variable {p : Pass}

/-- A pass has one list of what it has still to do. -/
theorem PollingSystem.due_of_found {s : PollingSystem} {pass} (found : s.passes pass = some p)
    (q : Pass) (held : s.passes pass = some q)
    : q.due = p.due := by
  rw [some.inj (held.symm.trans found)]

/-- No update is due exactly if no pass has one to make. -/
theorem PollingSystem.noUpdate_iff {s : PollingSystem}
    : s.NoUpdate ↔ ∀ pass, s.dues Pass.updates pass = [] := by
  rw [dues_eq_nil_iff]
  simp [NoUpdate, Pass.updates]

/-- A refund that is due counts unless the task cost nothing. -/
theorem Pass.dueRefunds_refund (task : Task) (kind rest)
    : dueRefunds ⟨task, kind, .bill .refund :: rest⟩
      = (if task.quota ≠ 0 then [task.quota] else [])
        ++ dueRefunds ⟨task, kind, rest⟩ := by
  simp only [dueRefunds, filterMap_cons]
  by_cases free : task.quota = 0 <;> simp [free]

/-- A pass without a refund to make owes none. -/
theorem Pass.dueRefunds_of_not_mem (none_ : .bill .refund ∉ p.due) : p.dueRefunds = [] := by
  refine filterMap_eq_nil_iff.mpr fun due member => ?_
  split
  · exact absurd member none_
  · rfl

variable {platform : TaskPlatform} {task : Task}

/-- A pass that does not settle holds the quota it knows of. -/
theorem Pass.Accounted.unsettled {kind due} (on : task.platform = platform)
    (done : kind ≠ .sweeping) (noSettle : .bill .settle ∉ due)
    (saving : .save ∈ due → platform = .suno)
    : Pass.Accounted platform task.quota ⟨task, kind, due⟩ :=
  ⟨on, .inl rfl, fun sweeping => absurd sweeping done, fun settle => absurd settle noSettle, saving⟩

/-- A pass with nothing to do holds a task it read. -/
theorem Pass.Accounted.idle {charged kind} (on : task.platform = platform)
    (quota : task.quota = charged ∨ (platform = .video ∧ task.status = .success))
    (sweeping : kind = .sweeping → ¬task.status.Ended)
    : Pass.Accounted platform charged ⟨task, kind, []⟩ where
  on := on
  quota := quota.imp_right fun settled => ⟨settled.1, settled.2, not_mem_nil⟩
  sweeping := sweeping
  settling := fun due => absurd due not_mem_nil
  saving := fun due => absurd due not_mem_nil

/-- What a pass would refund is what the task was charged. -/
theorem Pass.Accounted.charged {charged} (known : p.Accounted platform charged)
    (unsettled : p.task.status ≠ .success ∨ platform = .suno ∨ .bill .refund ∈ p.due)
    : p.task.quota = charged := by
  rcases known.quota with same | ⟨rfl, success, noRefund⟩
  · exact same
  · rcases unsettled with notSuccess | suno | refund
    · exact absurd success notSuccess
    · cases suno
    · exact absurd refund noRefund

/-- A reply of the upstream ends the task with a refund, or leaves it unfailed. -/
theorem Task.applySuno_cases (item) (task : Task)
    : task.Keeps (task.applySuno item).1
      ∧ (((task.applySuno item).2 = [.refund] ∧ (task.applySuno item).1.progress = "100%")
        ∨ ((task.applySuno item).2 = [] ∧ (task.applySuno item).1.status ≠ .failure)) := by
  refine ⟨⟨rfl, rfl⟩, ?_⟩
  by_cases fails : item.failReason ≠ "" ∨ (task.applySuno item).1.status = .failure
  · exact .inl ⟨if_pos fails, if_pos (.inl fails)⟩
  · exact .inr ⟨if_neg fails, fun failure => fails (.inr failure)⟩

/-- Music tasks are not settled again. -/
theorem Pass.Accounted.settlements_suno {charged} (known : p.Accounted .suno charged)
    : p.settlements = [] := by
  refine filter_eq_nil_iff.mpr fun due member settles => ?_
  rw [of_decide_eq_true settles] at member
  cases (known.settling member).1

namespace PollingSystem.Accounts

variable {platform : TaskPlatform} {charged : ℤ} {s : PollingSystem}
  {c c' : Cell Bool (ℕ × ℤ)} {pass : ℕ}

/-- Video tasks are never updated outside of the conditional write. -/
theorem noUpdate (accounts : s.Accounts .video charged c) : s.NoUpdate := by
  intro pass p found save
  cases (accounts.passes pass p found).saving save

variable {p : Option Pass}

section

variable (accounts : s.Accounts platform charged c)

include accounts

/-- A pass whose refunds stay the same owes what it owed. -/
theorem owed_setPass (same : (p.map Pass.dueRefunds).getD [] = s.dues Pass.dueRefunds pass)
    : Owes c.owed ((s.setPass pass p).dues Pass.dueRefunds) := by
  rw [dues_setPass_same same]
  exact accounts.owed

/-- A pass goes on with its list: the row stays, the account moves as the cell does. -/
theorem advance (l : Ledger) (bills : List (ℕ × Bill))
    {refunds} (known : ∀ q, p = some q → q.Accounted platform charged)
    (updates : (p.map Pass.updates).getD [] = s.dues Pass.updates pass)
    (settling : (p.map Pass.settlements).getD [] = s.dues Pass.settlements pass
      ∨ s.row.status.Ended) (verdict : c'.verdict = c.verdict)
    (owed : Owes c'.owed ((s.setPass pass p).dues Pass.dueRefunds))
    (performed : c'.performed = refunds)
    : Accounts platform charged
        { s.setPass pass p with ledger := l, bills := bills, refunds := refunds } c' := by
  have sameUpdates := dues_setPass_same updates
  have noUpdate : (s.setPass pass p).NoUpdate → s.NoUpdate := by
    rw [noUpdate_iff, noUpdate_iff, sameUpdates]
    exact id
  refine ⟨accounts.on, forall_setPass accounts.passes pass known, accounts.quota, ?_, ?_, ?_, ?_,
    ?_, owed, performed⟩
  · rcases settling with same | ended
    · intro pass' due
      refine accounts.settling pass' ?_
      rwa [← dues_setPass_same same]
    · exact fun _ _ => ended
  · intro isOpen quiet
    exact verdict.trans (accounts.undecided isOpen (noUpdate quiet))
  · intro pass' task member
    rw [verdict]
    exact accounts.updating pass' task (sameUpdates ▸ member)
  · intro pass' pass'' due due'
    exact accounts.alone pass' pass'' (sameUpdates ▸ due) (sameUpdates ▸ due')
  · intro charged_ failure
    exact verdict.trans (accounts.failed charged_ failure)

/-- A pass that keeps what it has to do may hold another task. -/
theorem setPass (known : ∀ q, p = some q → q.Accounted platform charged)
    (updates : (p.map Pass.updates).getD [] = s.dues Pass.updates pass)
    (settlements : (p.map Pass.settlements).getD [] = s.dues Pass.settlements pass)
    (refunds : (p.map Pass.dueRefunds).getD [] = s.dues Pass.dueRefunds pass)
    : (s.setPass pass p).Accounts platform charged c := by
  exact accounts.advance s.ledger s.bills known updates (.inl settlements) rfl
    (accounts.owed_setPass refunds) accounts.performed

variable {won : Bool}

/-- A write of the row that ends no open task by a failure unseen keeps the account. -/
theorem writeRow {row}
    (on : row.platform = platform) (quota : ¬row.status.Ended → row.quota = charged)
    (ended : s.row.status.Ended → row.status.Ended) (open_ : row.Open → s.row.Open)
    (failed : charged ≠ 0 → row.status = .failure → c.verdict = some true)
    : (s.writeRow pass won row).Accounts platform charged c :=
  ⟨on, accounts.passes, quota, fun pass due => ended (accounts.settling pass due),
    fun isOpen => accounts.undecided (open_ isOpen), accounts.updating, accounts.alone, failed,
    accounts.owed, accounts.performed⟩

/-- The write that ends an open task gives the cell its verdict and its owed refunds. -/
theorem win (sound : c.Sound (RefundPolicy charged)) {row} {p : Pass} (refunded)
    (open_ : s.row.Open) (noUpdate : s.NoUpdate) (on : row.platform = platform)
    (ended : row.status.Ended) (failed : row.status = .failure → refunded = true)
    (known : p.Accounted platform charged) (noSave : .save ∉ p.due)
    (policy : RefundPolicy charged refunded (p.dueRefunds.map (Prod.mk pass)))
    : ∃ c', (machine (RefundPolicy charged)).Leads anyStep c c'
      ∧ ((s.writeRow pass won row).setPass pass (some p)).Accounts platform charged c' := by
  have undecided := accounts.undecided open_ noUpdate
  have nothing := accounts.owed
  rw [(sound.undecided undecided).1] at nothing
  have quiet : ((s.writeRow pass won row).setPass pass (some p)).NoUpdate :=
    forall_setPass (s := s.writeRow pass won row) noUpdate pass
      (fun _ same => some.inj same ▸ noSave)
  rw [noUpdate_iff] at quiet
  refine ⟨_, leads_decide undecided policy, on,
    forall_setPass (s := s.writeRow pass won row) accounts.passes pass
      (fun _ same => some.inj same ▸ known),
    fun isOpen => absurd ended isOpen, fun _ _ => ended, fun isOpen _ => absurd ended isOpen.1,
    ?_, ?_, ?_, ?_, accounts.performed⟩
  · intro pass' task member
    simp [quiet] at member
  · intro pass' _ due
    exact absurd (quiet pass') due
  · intro _ failure
    exact congrArg some (failed failure)
  · rw [dues_setPass]
    exact nothing.assign pass _

variable {task : Task} {kind : PassKind}

/-- A task that fails is owed its refund. -/
theorem fail (sound : c.Sound (RefundPolicy charged))
    (open_ : s.row.Open) (noUpdate : s.NoUpdate) (on : task.platform = platform)
    (failure : task.status = .failure) (quota : task.quota = charged) (done : kind ≠ .sweeping)
    : ∃ c', (machine (RefundPolicy charged)).Leads anyStep c c'
      ∧ ((s.writeRow pass won task).setPass pass
        (some ⟨task, kind, task.endBills.map .bill⟩)).Accounts platform charged c' := by
  subst quota
  have noSettle : .bill .settle ∉ task.endBills.map Due.bill := by
    by_cases free : task.quota = 0 <;> simp [Task.endBills, failure, free]
  have noSave : .save ∉ task.endBills.map Due.bill := by simp
  refine accounts.win sound true open_ noUpdate on (.inr failure) (fun _ => rfl)
    (.unsettled on done noSettle fun save => absurd save noSave) noSave ?_
  by_cases free : task.quota = 0 <;>
    simp [RefundPolicy, Pass.dueRefunds, Task.endBills, failure, free]

end

/-- A music task is judged when its update is due, before it is saved. -/
theorem update (accounts : s.Accounts .suno charged c) {p : Pass} (unfinished : s.row.Unfinished)
    (noUpdate : s.NoUpdate) (known : p.Accounted .suno charged) (save : .save ∈ p.due)
    (updating : (p.task.Open → c'.verdict = none)
      ∧ (charged ≠ 0 → p.task.status = .failure → c'.verdict = some true))
    (owed : Owes c'.owed ((s.setPass pass (some p)).dues Pass.dueRefunds))
    (performed : c'.performed = s.refunds)
    : (s.setPass pass (some p)).Accounts .suno charged c' := by
  have updates : (s.setPass pass (some p)).dues Pass.updates pass = [p.task] := by
    rw [dues_setPass, Function.update_self, map_some, getD_some, Pass.updates,
      if_pos save]
  have others : ∀ pass', (s.setPass pass (some p)).dues Pass.updates pass' ≠ []
      → pass' = pass := by
    intro pass' due
    by_contra other
    rw [dues_setPass, Function.update_of_ne other] at due
    exact due (noUpdate_iff.mp noUpdate pass')
  have passes := forall_setPass accounts.passes pass (fun _ same => some.inj same ▸ known)
  refine ⟨accounts.on, passes, accounts.quota, ?_, ?_, ?_, ?_, ?_, owed, performed⟩
  · intro pass' due
    exact absurd (dues_eq_nil_iff.mpr (fun _ _ found => (passes _ _ found).settlements_suno) pass')
      due
  · intro _ quiet
    simp [noUpdate_iff.mp quiet pass] at updates
  · intro pass' task member
    have same := others pass' (ne_nil_of_mem member)
    rw [same, updates, mem_singleton] at member
    rwa [member]
  · intro pass' pass'' due due'
    rw [others pass' due, others pass'' due']
  · intro _ failure
    exact absurd (.inr failure) unfinished.2

/-- A task that succeeds is owed a settlement and no refund. -/
theorem succeed (accounts : s.Accounts .video charged c) (sound : c.Sound (RefundPolicy charged))
    (open_ : s.row.Open) (on : task.platform = .video) (success : task.status = .success)
    : ∃ c', (machine (RefundPolicy charged)).Leads anyStep c c'
      ∧ ((s.writeRow pass won task).setPass pass
        (some ⟨task, .polling, [.bill .settle]⟩)).Accounts .video charged c' := by
  have known : Pass.Accounted .video charged ⟨task, .polling, [.bill .settle]⟩ :=
    ⟨on, .inr ⟨rfl, success, by simp⟩, by simp, fun _ => ⟨rfl, success, rfl⟩, by simp⟩
  refine accounts.win sound false open_ accounts.noUpdate on (.inl success) ?_ known
    (by simp) (by simp [RefundPolicy, Pass.dueRefunds])
  intro failure
  simp [success] at failure

section

variable (accounts : s.Accounts platform charged c)

include accounts

/-- A pass with nothing to do may be dropped or begin. -/
theorem setIdle (before : ∀ q, s.passes pass = some q → q.due = [])
    (after : ∀ q, p = some q → q.Accounted platform charged ∧ q.due = [])
    : (s.setPass pass p).Accounts platform charged c := by
  have same : ∀ {β : Type} (of : Pass → List β), (∀ q, q.due = [] → of q = [])
      → (p.map of).getD [] = s.dues of pass := by
    intro β of nothing
    have now : (p.map of).getD [] = [] := by
      cases p with
      | none => rfl
      | some q => exact nothing q (after q rfl).2
    rw [now]
    cases held : s.passes pass with
    | none => exact (dues_of_none held).symm
    | some q => exact ((dues_of_found held).trans (nothing q (before q held))).symm
  refine accounts.setPass (fun q found => (after q found).1) (same _ ?_) (same _ ?_) (same _ ?_)
  · intro q nothing
    simp [Pass.updates, nothing]
  · intro q nothing
    simp only [Pass.settlements, nothing, filter_nil]
  · intro q nothing
    simp [Pass.dueRefunds, nothing]

/-- A pass ends when it has nothing left to do. -/
theorem drop (found : s.passes pass = some ⟨task, kind, []⟩)
    : (s.setPass pass none).Accounts platform charged c := by
  refine accounts.setIdle (due_of_found found) ?_
  intro q gone
  cases gone

/-- A pass begins with the row as it reads it. -/
theorem load (idle : s.passes pass = none) (unfinished : s.row.Unfinished)
    : (s.setPass pass (some ⟨s.row, kind, []⟩)).Accounts platform charged c := by
  refine accounts.setIdle ?_ ?_
  · intro q held
    simp [idle] at held
  · rintro _ ⟨⟩
    exact ⟨.idle accounts.on (.inl (accounts.quota unfinished.2)) fun _ => unfinished.2, rfl⟩

/-- The sweep of tasks that timed out keeps the account. -/
theorem sweep (sound : c.Sound (RefundPolicy charged))
    (minutes now ok) (found : s.passes pass = some ⟨task, .sweeping, []⟩)
    (current : task.isLegacy = false ∨ charged = 0)
    (suno : s.row.platform = .suno → s.row.Unfinished ∧ s.NoUpdate)
    : ∃ c', (machine (RefundPolicy charged)).Leads anyStep c c'
      ∧ (s.sweep pass minutes now ok task).Accounts platform charged c' := by
  have known := accounts.passes pass _ found
  have notEnded := known.sweeping rfl
  have quota := known.charged (.inl fun success => notEnded (.inl success))
  rcases updated : (task.timeOut minutes now).updateWithStatus ok task.status s.row with
    ⟨won, row⟩
  simp only [PollingSystem.sweep, updated]
  rcases Task.updateWithStatus_eq updated with ⟨rfl, same, rfl⟩ | ⟨rfl, rfl⟩
  · have open_ : s.row.Open ∧ s.NoUpdate := by
      cases on : s.row.platform with
      | suno => exact ⟨⟨(suno on).1.2, fun _ => (suno on).1.1⟩, (suno on).2⟩
      | video =>
        have video := accounts.on.symm.trans on
        subst video
        exact ⟨⟨same ▸ notEnded, fun isSuno => by cases on.symm.trans isSuno⟩,
          accounts.noUpdate⟩
    have due : (if true = true ∧ task.refundsSwept = true then [Due.bill .refund] else [])
        = (task.timeOut minutes now).endBills.map .bill := by
      by_cases free : task.quota = 0
      · simp [Task.refundsSwept, Task.endBills, Task.timeOut, free]
      · simp [Task.refundsSwept, Task.endBills, Task.timeOut, free,
          current.resolve_right (quota ▸ free)]
    rw [due]
    exact accounts.fail sound open_.1 open_.2 known.on rfl quota (by decide)
  · refine ⟨c, .refl, accounts.setIdle (due_of_found found) ?_⟩
    rintro _ ⟨⟩
    exact ⟨.idle known.on (.inl quota) (by simp), rfl⟩

end

/-- The poll of a video task keeps the account, whether it wins the row or not. -/
theorem poll (accounts : s.Accounts .video charged c) (sound : c.Sound (RefundPolicy charged))
    (found : s.passes pass = some ⟨task, .polling, []⟩) {v : VideoPoll} (open_ : ¬task.status.Ended)
    (keeps : task.Keeps v.task) (outcome : v.Wins task s.row ∨ v.Passes task s.row)
    : ∃ c', (machine (RefundPolicy charged)).Leads anyStep c c'
      ∧ (s.poll pass v).Accounts .video charged c' := by
  have known := accounts.passes pass _ found
  have on := keeps.platform.trans known.on
  have quota := keeps.quota.trans (known.charged (.inl fun success => open_ (.inl success)))
  have isOpen : s.row.status = task.status → s.row.Open := by
    intro same
    refine ⟨same ▸ open_, fun suno => ?_⟩
    cases accounts.on.symm.trans suno
  unfold PollingSystem.poll
  rcases outcome with wins | passes
  · rw [wins.written, wins.bills]
    rcases wins.ended with success | failure
    · have bills : v.task.endBills = [.settle] := by rw [Task.endBills, success]
      rw [bills]
      exact accounts.succeed sound (isOpen wins.found) on success
    · exact accounts.fail sound (isOpen wins.found) accounts.noUpdate on failure quota
        (by decide)
  · have written : (s.writeRow pass v.won v.row).Accounts .video charged c := by
      rcases passes.row with same | ⟨same, written, notEnded⟩
      · rw [same]
        exact accounts.writeRow accounts.on accounts.quota id id accounts.failed
      · rw [written]
        refine accounts.writeRow on (fun _ => quota) ?_ (fun _ => isOpen same) ?_
        · intro ended
          exact absurd (same ▸ ended) open_
        · intro _ failure
          exact absurd (.inr failure) notEnded
    rw [passes.bills]
    refine ⟨c, .refl, written.setIdle (due_of_found found) ?_⟩
    rintro _ ⟨⟩
    exact ⟨.idle on (.inl quota) (by simp), rfl⟩

/-- The poll of a music task keeps the account. -/
theorem pollSuno (accounts : s.Accounts .suno charged c) (sound : c.Sound (RefundPolicy charged))
    (item) (found : s.passes pass = some ⟨task, .polling, []⟩)
    (unfinished : s.row.Unfinished) (noUpdate : s.NoUpdate)
    : ∃ c', (machine (RefundPolicy charged)).Leads anyStep c c'
      ∧ (s.pollSuno pass item task).Accounts .suno charged c' := by
  have known := accounts.passes pass _ found
  have undecided := accounts.undecided ⟨unfinished.2, fun _ => unfinished.1⟩ noUpdate
  unfold PollingSystem.pollSuno
  split
  · obtain ⟨keeps, outcome⟩ := task.applySuno_cases item
    rcases applied : task.applySuno item with ⟨polled, bills⟩
    rw [applied] at keeps outcome
    have on := keeps.platform.trans known.on
    have quota := keeps.quota.trans (known.charged (.inr (.inl rfl)))
    subst quota
    rcases outcome with ⟨refund, complete⟩ | ⟨noRefund, notFailure⟩
    · subst refund
      have policy : RefundPolicy polled.quota true
          ((Pass.dueRefunds ⟨polled, .polling, [.bill .refund, .save]⟩).map (Prod.mk pass)) := by
        by_cases free : polled.quota = 0 <;> simp [RefundPolicy, Pass.dueRefunds, free]
      have nothing := accounts.owed
      rw [(sound.undecided undecided).1] at nothing
      refine ⟨_, leads_decide undecided policy, accounts.update unfinished noUpdate
        (.unsettled on (by decide) (by simp) fun _ => rfl) (by simp) ?_ ?_ accounts.performed⟩
      · exact ⟨fun isOpen => absurd complete (isOpen.2 on), fun _ _ => rfl⟩
      · rw [dues_setPass]
        exact nothing.assign pass _
    · subst noRefund
      refine ⟨c, .refl, accounts.update unfinished noUpdate
        (.unsettled on (by decide) (by simp) fun _ => rfl) (by simp) ?_ ?_ accounts.performed⟩
      · exact ⟨fun _ => undecided, fun _ failure => absurd failure notFailure⟩
      · have noRefunds : s.dues Pass.dueRefunds pass = [] := dues_of_found found
        exact accounts.owed_setPass noRefunds.symm
  · exact ⟨c, .refl, accounts⟩

variable (accounts : s.Accounts platform charged c)

include accounts

/-- The save that is due writes what the cell has been judged by. -/
theorem save (found : s.passes pass = some ⟨task, kind, [.save]⟩)
    : ((s.writeRow pass false task).setPass pass (some ⟨task, kind, []⟩)).Accounts platform
        charged c := by
  have known := accounts.passes pass _ found
  have suno := known.saving (mem_singleton_self _)
  subst suno
  have updates : s.dues Pass.updates pass = [task] := dues_of_found found
  have updating := accounts.updating pass task (by simp [updates])
  have quiet : ∀ pass', ((s.writeRow pass false task).setPass pass
      (some ⟨task, kind, []⟩)).dues Pass.updates pass' = [] := by
    intro pass'
    rw [dues_setPass]
    by_cases same : pass' = pass
    · rw [same, Function.update_self]
      rfl
    · rw [Function.update_of_ne same]
      by_contra due
      exact same (accounts.alone pass' pass due (by simp [updates]))
  have passes : ∀ pass' q, ((s.writeRow pass false task).setPass pass
      (some ⟨task, kind, []⟩)).passes pass' = some q → q.Accounted .suno charged := by
    refine forall_setPass accounts.passes pass ?_
    rintro _ ⟨⟩
    exact .idle known.on (.inl (known.charged (.inr (.inl rfl)))) known.sweeping
  refine ⟨known.on, passes, fun _ => known.charged (.inr (.inl rfl)), ?_, fun isOpen _ =>
    updating.1 isOpen, ?_, ?_, updating.2, ?_, accounts.performed⟩
  · intro pass' due
    exact absurd (dues_eq_nil_iff.mpr (fun _ _ held => (passes _ _ held).settlements_suno) pass')
      due
  · intro pass' saved member
    simp [quiet] at member
  · intro pass' _ due
    exact absurd (quiet pass') due
  · have noRefunds : s.dues Pass.dueRefunds pass = [] := dues_of_found found
    exact accounts.owed_setPass noRefunds.symm

/-- Failing the tasks of an unreachable channel keeps the account of a task that was free or failed.
-/
theorem failUnreachable (failReason)
    {ok} (found : s.passes pass = some ⟨task, .polling, []⟩)
    (allowed : ok = true → charged = 0 ∨ s.row.status = .failure)
    : ((s.writeRow pass ok (if ok then taskBulkUpdateByID failReason s.row else s.row)).setPass
        pass none).Accounts platform charged c := by
  cases ok with
  | true =>
    have ended : (taskBulkUpdateByID failReason s.row).status.Ended := .inr rfl
    refine drop (accounts.writeRow accounts.on (absurd ended) (fun _ => ended)
      (fun isOpen => absurd ended isOpen.1) ?_) found
    intro charged_ _
    exact accounts.failed charged_ ((allowed rfl).resolve_left charged_)
  | false => exact accounts.drop found

/-- A refund that reaches the funding source is performed in the cell. -/
theorem refund (sound : c.Sound (RefundPolicy charged)) (w : BillWrites) (q)
    {rest} (found : s.passes pass = some ⟨task, kind, .bill .refund :: rest⟩)
    (funded : (taskAdjustFunding w.funding task (-task.quota) s.ledger).isOk)
    : ∃ c', (machine (RefundPolicy charged)).Leads anyStep c c'
      ∧ (s.bill pass w q ⟨task, kind, .bill .refund :: rest⟩ .refund rest).Accounts platform
        charged c' := by
  have known := accounts.passes pass _ found
  have quota := known.charged (.inr (.inr mem_cons_self))
  have known' : ∀ p, some (Pass.mk task kind rest) = some p → p.Accounted platform charged := by
    rintro _ ⟨⟩
    refine ⟨known.on, .inl quota, known.sweeping, fun settle => ?_,
      fun save => known.saving (mem_cons_of_mem _ save)⟩
    cases (known.settling (mem_cons_of_mem _ settle)).2.2
  have updates : Pass.updates ⟨task, kind, rest⟩ = s.dues Pass.updates pass := by
    rw [dues_of_found found]
    simp [Pass.updates]
  have settlements : Pass.settlements ⟨task, kind, rest⟩ = s.dues Pass.settlements pass := by
    rw [dues_of_found found]
    simp [Pass.settlements]
  have due := (dues_of_found found).trans (Pass.dueRefunds_refund task kind rest)
  obtain ⟨l', refunded⟩ : ∃ l', refundTaskQuota w task s.ledger
      = (if task.quota = 0 then none else some task.quota, l') := by
    unfold refundTaskQuota
    split
    · exact ⟨_, rfl⟩
    · cases adjusted : taskAdjustFunding w.funding task (-task.quota) s.ledger with
      | error e =>
        rw [adjusted] at funded
        cases funded
      | ok l' => exact ⟨_, rfl⟩
  simp only [PollingSystem.bill, refunded]
  by_cases free : task.quota = 0
  · rw [if_neg (not_not_intro free), nil_append] at due
    refine ⟨c, .refl, accounts.advance _ _ known' updates (.inl settlements) rfl ?_ ?_⟩
    · exact accounts.owed_setPass due.symm
    · simpa [free] using accounts.performed
  · rw [if_pos free, singleton_append] at due
    have short := Nat.le_trans (Nat.le_add_left ..) (sound.short fun _ _ => RefundPolicy.short)
    obtain ⟨owed, _⟩ := accounts.owed.single short due
    refine ⟨_, leads_perform c,
      accounts.advance _ _ known' updates (.inl settlements) rfl ?_ ?_⟩
    · rw [dues_setPass]
      exact accounts.owed.clear short due
    · simp [free, owed, accounts.performed]

/-- A settlement moves no refund. -/
theorem settle (w q)
    {rest} (found : s.passes pass = some ⟨task, kind, .bill .settle :: rest⟩)
    : (s.bill pass w q ⟨task, kind, .bill .settle :: rest⟩ .settle rest).Accounts platform
        charged c := by
  have known := accounts.passes pass _ found
  obtain ⟨video, success, only⟩ := known.settling mem_cons_self
  obtain ⟨_, rfl⟩ := cons.inj only
  have ended : s.row.status.Ended := by
    refine accounts.settling pass ?_
    rw [dues_of_found found]
    simp [Pass.settlements]
  obtain ⟨quota, rowQuota, l', settled⟩ := settleOnComplete_eq w q task s.row s.ledger
  simp only [PollingSystem.bill, settled]
  have written : (s.writeRow pass false { s.row with quota := rowQuota }).Accounts platform
      charged c := accounts.writeRow accounts.on (absurd ended) id id accounts.failed
  refine written.advance l' _ ?_ ?_ (.inr ended) rfl ?_ accounts.performed
  · rintro _ ⟨⟩
    exact .idle known.on (.inr ⟨video, success⟩) known.sweeping
  · have noUpdates : s.dues Pass.updates pass = [] := dues_of_found found
    exact noUpdates.symm
  · have noRefunds : s.dues Pass.dueRefunds pass = [] := dues_of_found found
    exact accounts.owed_setPass noRefunds.symm

end PollingSystem.Accounts

end HelsterApi.Tasks
