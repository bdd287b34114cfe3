import HelsterApi.Tasks.Passes

/-! Which pass ends a video task and bills it. The conditional update lets one pass win, as long as
no pass polls a copy that has ended and no bulk update meets a row that has.
-/

namespace HelsterApi.Tasks

open Billing List Option Pass Transition PollingSystem Cell

/-- A poll works on a copy that has not ended, and a bulk failure meets a row that has not ended. -/
def MeetsOpen (s : PollingSystem) : PollingAction → Prop
  | .poll pass _ _ _ _ => ∀ p ∈ s.passes pass, ¬p.task.status.Ended
  | .failUnreachable _ _ ok => ok = true → ¬s.row.status.Ended
  | _ => True

instance (s : PollingSystem) : DecidablePred (MeetsOpen s) := fun action => by
  cases action <;> dsimp only [MeetsOpen] <;> infer_instance

def Task.ending (task : Task) : Option TaskStatus :=
  if task.status.Ended then some task.status else none

def Pass.dueBills (p : Pass) : List Bill :=
  p.due.filterMap fun
    | .bill bill => some bill
    | .save => none

def BillPolicy (win : ℕ × TaskStatus) (bills : List (ℕ × Bill)) : Prop :=
  bills = [] ∨ (win.2 = .success ∧ bills = [(win.1, .settle)])
    ∨ (win.2 = .failure ∧ bills = [(win.1, .refund)])
  deriving Decidable

structure VideoPass (p : Pass) : Prop where
  platform : p.task.platform = .video
  noSave : .save ∉ p.due
  sweeping : p.kind = .sweeping → ¬p.task.status.Ended

/-- Relates the system to a cell that holds the pass that ended the task and its bills. -/
structure PollingSystem.Decides (s : PollingSystem) (c : Cell (ℕ × TaskStatus) (ℕ × Bill))
    : Prop where
  video : s.row.platform = .video
  passes : ∀ pass p, s.passes pass = some p → VideoPass p
  wins : s.wins = c.verdict.toList
  ending : c.verdict.map Prod.snd = s.row.ending
  owed : Owes c.owed (s.dues dueBills)
  performed : c.performed = s.bills

theorem BillPolicy.short {win bills}
    (policy : BillPolicy win bills) : bills.length ≤ 1 := by
  rcases policy with rfl | ⟨_, rfl⟩ | ⟨_, rfl⟩ <;> simp

theorem Task.endBills_policy (task : Task) (pass)
    : BillPolicy (pass, task.status) (task.endBills.map (Prod.mk pass)) := by
  unfold endBills
  split
  next success => exact .inr (.inl ⟨success, rfl⟩)
  next failure =>
    split
    · exact .inr (.inr ⟨failure, rfl⟩)
    · exact .inl rfl
  · exact .inl rfl

namespace PollingSystem.Decides

variable {s : PollingSystem} {c : Cell (ℕ × TaskStatus) (ℕ × Bill)} {pass : ℕ}

variable (decides : s.Decides c)

include decides

theorem undecided (open_ : ¬s.row.status.Ended) : c.verdict = none := by
  have ending := decides.ending
  rw [Task.ending, if_neg open_] at ending
  exact map_eq_none_iff.mp ending

theorem setPass {p} (before : s.dues dueBills pass = [])
    (after : (p.map dueBills).getD [] = []) (video : ∀ q, p = some q → VideoPass q)
    : (s.setPass pass p).Decides c where
  __ := decides
  passes := forall_setPass decides.passes pass video
  owed := by
    rw [dues_setPass_same (after.trans before.symm)]
    exact decides.owed

theorem writeRow {row} (video : row.platform = .video) (ending : row.ending = s.row.ending)
    : (s.writeRow pass false row).Decides c :=
  ⟨video, decides.passes, decides.wins, decides.ending.trans ending.symm, decides.owed,
    decides.performed⟩

theorem win (sound : c.Sound BillPolicy) (row : Task) (p : Option Pass)
    (open_ : ¬s.row.status.Ended) (ended : row.status.Ended) (platform : row.platform = .video)
    (policy : BillPolicy (pass, row.status)
      (((p.map dueBills).getD []).map (Prod.mk pass))) (video : ∀ q, p = some q → VideoPass q)
    : ∃ c', (machine BillPolicy).Leads anyStep c c'
      ∧ ((s.writeRow pass true row).setPass pass p).Decides c' := by
  have undecided := decides.undecided open_
  have nothing := decides.owed
  rw [(sound.undecided undecided).1] at nothing
  refine ⟨_, leads_decide undecided policy, platform,
    forall_setPass decides.passes pass video, ?_, ?_, ?_, decides.performed⟩
  · have wins := decides.wins
    rw [undecided] at wins
    exact congrArg _ wins
  · exact (if_pos ended).symm
  · rw [dues_setPass]
    exact nothing.assign pass _

theorem drop (before : s.dues dueBills pass = []) : (s.setPass pass none).Decides c := by
  refine decides.setPass before rfl ?_
  intro q found
  cases found

variable {kind : PassKind}

theorem load (idle : s.passes pass = none) (unfinished : s.row.Unfinished)
    : (s.setPass pass (some ⟨s.row, kind, []⟩)).Decides c := by
  refine decides.setPass (dues_of_none idle) rfl ?_
  rintro _ ⟨⟩
  exact ⟨decides.video, not_mem_nil, fun _ => unfinished.2⟩

variable {task : Task}

variable (sound : c.Sound BillPolicy)

include sound

theorem sweep (minutes now ok) (found : s.passes pass = some ⟨task, .sweeping, []⟩)
    : ∃ c', (machine BillPolicy).Leads anyStep c c'
      ∧ (s.sweep pass minutes now ok task).Decides c' := by
  have known := decides.passes pass _ found
  have video : ∀ due, .save ∉ due
      → ∀ q, some (Pass.mk (task.timeOut minutes now) .swept due) = some q → VideoPass q := by
    rintro due noSave _ ⟨⟩
    exact ⟨known.platform, noSave, nofun⟩
  rcases updated : (task.timeOut minutes now).updateWithStatus ok task.status s.row with
    ⟨won, row⟩
  simp only [PollingSystem.sweep, updated]
  rcases Task.updateWithStatus_eq updated with ⟨rfl, same, rfl⟩ | ⟨rfl, rfl⟩
  · have open_ := same ▸ known.sweeping rfl
    refine decides.win sound _ _ open_ (.inr rfl) known.platform ?_ (video _ (by split <;> simp))
    split
    · exact .inr (.inr ⟨rfl, rfl⟩)
    · exact .inl rfl
  · exact ⟨c, .refl, (decides.writeRow decides.video rfl).setPass (dues_of_found found) rfl
      (video _ (by simp))⟩

theorem poll (found : s.passes pass = some ⟨task, .polling, []⟩) {v} (open_ : ¬task.status.Ended)
    (keeps : task.Keeps v.task) (outcome : v.Wins task s.row ∨ v.Passes task s.row)
    : ∃ c', (machine BillPolicy).Leads anyStep c c' ∧ (s.poll pass v).Decides c' := by
  have known := decides.passes pass _ found
  have platform := keeps.platform.trans known.platform
  have video : ∀ bills : List Bill,
      ∀ q, some (Pass.mk v.task .polling (bills.map .bill)) = some q → VideoPass q := by
    rintro bills _ ⟨⟩
    exact ⟨platform, by simp, nofun⟩
  unfold PollingSystem.poll
  rcases outcome with wins | passes
  · rw [wins.won, wins.written, wins.bills]
    refine decides.win sound _ _ (wins.found ▸ open_) wins.ended platform ?_ (video _)
    have bills : dueBills ⟨v.task, .polling, v.task.endBills.map .bill⟩ = v.task.endBills := by
      simp [dueBills, filterMap_map]
    simp only [map_some, getD_some, bills]
    exact v.task.endBills_policy pass
  · rw [passes.lost, passes.bills]
    have sameEnding : v.row.platform = .video ∧ v.row.ending = s.row.ending := by
      rcases passes.row with same | ⟨same, written, notEnded⟩
      · rw [same]
        exact ⟨decides.video, rfl⟩
      · rw [written, Task.ending, Task.ending, if_neg notEnded, same, if_neg open_]
        exact ⟨platform, rfl⟩
    exact ⟨c, .refl, (decides.writeRow sameEnding.1 sameEnding.2).setPass (dues_of_found found)
      rfl (video _)⟩

theorem bill (w q) {bill rest}
    (found : s.passes pass = some ⟨task, kind, .bill bill :: rest⟩)
    : ∃ c', (machine BillPolicy).Leads anyStep c c'
      ∧ (s.bill pass w q ⟨task, kind, .bill bill :: rest⟩ bill rest).Decides c' := by
  have known := decides.passes pass _ found
  have due : s.dues dueBills pass = bill :: dueBills ⟨task, kind, rest⟩ := dues_of_found found
  have short := Nat.le_trans (Nat.le_add_left ..) (sound.short fun _ _ => BillPolicy.short)
  obtain ⟨owed, _⟩ := decides.owed.single short due
  have cleared := decides.owed.clear short due
  have noSave : .save ∉ rest := fun save => known.noSave (mem_cons_of_mem _ save)
  have performed : c.performed ++ c.owed = s.bills ++ [(pass, bill)] := by
    rw [owed, decides.performed]
  refine ⟨_, leads_perform c, ?_⟩
  cases bill
  case' settle =>
    obtain ⟨quota, rowQuota, l', settled⟩ := settleOnComplete_eq w q task s.row s.ledger
    simp only [PollingSystem.bill, settled]
  all_goals
    refine ⟨decides.video, ?_, decides.wins, decides.ending, ?_, performed⟩
    · refine forall_setPass decides.passes pass ?_
      rintro _ ⟨⟩
      exact ⟨known.platform, noSave, known.sweeping⟩
    · exact (dues_setPass ..).symm ▸ cleared

theorem failUnreachable (failReason) {ok}
    (found : s.passes pass = some ⟨task, .polling, []⟩) (allowed : ok = true → ¬s.row.status.Ended)
    : ∃ c', (machine BillPolicy).Leads anyStep c c'
      ∧ ((s.writeRow pass ok (if ok then taskBulkUpdateByID failReason s.row else s.row)).setPass
        pass none).Decides c' := by
  cases ok with
  | true =>
    refine decides.win sound _ none (allowed rfl) (.inr rfl) decides.video (.inl rfl) ?_
    intro q found
    cases found
  | false => exact ⟨c, .refl, (decides.writeRow decides.video rfl).drop (dues_of_found found)⟩

end PollingSystem.Decides

theorem pollingMachine_simulates (charged)
    : (pollingMachine .video charged).Simulates MeetsOpen (machine BillPolicy)
        PollingSystem.Decides where
  initial := by
    rintro s ⟨unfinished, video, _, idle, noWins, noBills, _⟩
    refine ⟨⟨none, [], []⟩, rfl, video, ?_, noWins, ?_, ?_, noBills.symm⟩
    · intro pass p found
      simp [idle] at found
    · simp [Task.ending, unfinished.2]
    · refine owes_nil_iff.mpr fun pass => dues_of_none ?_
      rw [idle]
  step := by
    intro s action s' c reached decides allowed moved
    have sound := sound_of_reaches reached
    cases next_turn moved with
    | load pass idle unfinished => exact ⟨c, .refl, decides.load idle unfinished⟩
    | loadTimedOut pass cutoff idle timedOut => exact ⟨c, .refl, decides.load idle timedOut.1⟩
    | sweep pass minutes now ok task found => exact decides.sweep sound minutes now ok found
    | poll pass proxyURL now ok response task found _ =>
      have open_ := allowed _ found
      obtain ⟨keeps, outcome⟩ := updateVideoTask_cases proxyURL now ok response s.row open_
      exact decides.poll sound found open_ keeps outcome
    | pollSuno pass item task found suno =>
      have video := (decides.passes pass _ found).platform
      simp [suno] at video
    | bill pass w q task kind bill rest found => exact decides.bill sound w q found
    | save pass ok task kind found =>
      exact absurd (mem_singleton_self _) (decides.passes pass _ found).noSave
    | failUnreachable pass failReason ok task found =>
      exact decides.failUnreachable sound failReason found allowed
    | finish pass task kind found =>
      exact ⟨c, .refl, decides.drop (dues_of_found found)⟩
    | others ledger =>
      exact ⟨c, .refl, decides.video, decides.passes, decides.wins, decides.ending,
        decides.owed, decides.performed⟩

/-- At most one pass moved the task to a terminal status, the row has that status, and only this
pass has sent bills, at most one and of the status's kind.
-/
structure PollingSystem.SingleWinner (s : PollingSystem) : Prop where
  winners : s.wins.length ≤ 1
  row : s.row.status.Ended → ∃ pass, s.wins = [(pass, s.row.status)]
  single : s.bills.length ≤ 1
  billed : ∀ pass bill, (pass, bill) ∈ s.bills
    → (bill = .settle ∧ s.wins = [(pass, .success)])
      ∨ (bill = .refund ∧ s.wins = [(pass, .failure)])

theorem PollingSystem.Decides.singleWinner {s : PollingSystem}
    {c : Cell (ℕ × TaskStatus) (ℕ × Bill)} (decides : s.Decides c) (sound : c.Sound BillPolicy)
    : s.SingleWinner := by
  have ending := decides.ending
  have wins := decides.wins
  have single := Nat.le_trans (Nat.le_add_right ..) (sound.short fun _ _ => BillPolicy.short)
  rw [decides.performed] at single
  cases decided : c.verdict with
  | none =>
    obtain ⟨_, nothing⟩ := sound.undecided decided
    rw [decided] at ending wins
    rw [decides.performed] at nothing
    refine ⟨by simp [wins], fun ended => ?_, single, fun pass bill sent => ?_⟩
    · simp [Task.ending, ended] at ending
    · simp [nothing] at sent
  | some win =>
    have policy := sound.decided win decided
    rw [decided] at ending wins
    rw [decides.performed] at policy
    refine ⟨by simp [wins], fun ended => ?_, single, fun pass bill sent => ?_⟩
    · rw [Task.ending, if_pos ended, map_some, some.injEq] at ending
      exact ⟨win.1, by rw [wins, ← ending]; rfl⟩
    · have member := mem_append_left c.owed sent
      rcases policy with nothing | ⟨success, settled⟩ | ⟨failure, refunded⟩
      · simp [nothing] at member
      · rw [settled, mem_singleton, Prod.mk.injEq] at member
        exact .inl ⟨member.2, by rw [wins, member.1, ← success]; rfl⟩
      · rw [refunded, mem_singleton, Prod.mk.injEq] at member
        exact .inr ⟨member.2, by rw [wins, member.1, ← failure]; rfl⟩

/-- In every run of passes and sweeps over a video task in which polls work on open copies
and bulk failures meet open rows, one pass at most ends the task and bills it, and its
terminal status stays.
-/
theorem video_singleWinner_and_final {charged : ℤ} {s : PollingSystem}
    (reached : (pollingMachine .video charged).Reaches MeetsOpen s)
    : s.SingleWinner
      ∧ ∀ {s'}, (pollingMachine .video charged).Leads MeetsOpen s s' → s.row.status.Ended
        → s'.row.status = s.row.status := by
  have simulation := pollingMachine_simulates charged
  obtain ⟨c, reachedCell, decides⟩ := simulation.reaches reached
  have winner := decides.singleWinner (sound_of_reaches reachedCell)
  refine ⟨winner, fun {s'} led ended => ?_⟩
  obtain ⟨c', ledCell, decides'⟩ := simulation.leads reachedCell decides led
  obtain ⟨pass, won⟩ := winner.row ended
  have verdict := toList_eq_singleton_iff.mp (decides.wins.symm.trans won)
  have ending := decides'.ending
  rw [verdict_stable ledCell verdict, map_some, Task.ending] at ending
  split at ending
  · exact (some.inj ending).symm
  · cases ending

def pollSuccess (pass : ℕ) : PollingAction :=
  .poll pass "" 0 true (.result { status := .success } .notJson)

def twoPolls : List PollingAction :=
  [.load 0, .load 1, pollSuccess 0, pollSuccess 1, .bill 0 .done ⟨0, 0, none⟩]

/-- Witness: of two passes that find a task successful only the first wins. -/
theorem twoPolls_singleWinner
    : ((pollingMachine .video 100).play videoSystem twoPolls).wins = [(0, .success)]
      ∧ ((pollingMachine .video 100).play videoSystem twoPolls).SingleWinner :=
  ⟨by decide +kernel, (video_singleWinner_and_final
    (Machine.reaches_play videoSystem_initial (by decide +kernel))).1⟩

def pollDuringLoad : List PollingAction := [.load 0, .load 1, pollSuccess 0]

/-- A pass that cannot get the channel fails a task that has already succeeded. -/
theorem successful_task_overwritten
    : (pollingMachine .video 100).Reaches anyStep
        ((pollingMachine .video 100).play videoSystem
          (pollDuringLoad ++ [.failUnreachable 1 (some "") true]))
      ∧ ((pollingMachine .video 100).play videoSystem pollDuringLoad).row.status = .success
      ∧ ((pollingMachine .video 100).play videoSystem
          (pollDuringLoad ++ [.failUnreachable 1 (some "") true])).row.status = .failure
      ∧ ((pollingMachine .video 100).play videoSystem
          (pollDuringLoad ++ [.failUnreachable 1 (some "") true])).wins
        = [(1, .failure), (0, .success)] :=
  ⟨Machine.reaches_play videoSystem_initial (by decide +kernel), by decide +kernel,
    by decide +kernel, by decide +kernel⟩

end HelsterApi.Tasks
