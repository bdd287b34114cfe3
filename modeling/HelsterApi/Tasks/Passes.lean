import HelsterApi.Tasks.Rows
import HelsterApi.Transition.Accounts

/-! Polling passes and timeout sweeps on several nodes that handle one task at the same time. Each
works on its own copy of the row and issues one statement per step.
-/

namespace HelsterApi.Tasks

open Billing Function Option Transition

inductive Due where
  | bill (bill : Bill)
  | save
  deriving DecidableEq

inductive PassKind where
  | polling | sweeping | swept
  deriving DecidableEq

structure Pass where
  task : Task
  kind : PassKind
  due : List Due := []

/-- The row of the task, the passes that hold a copy of it, the rows of its user, and what has
happened: which passes moved the task to a terminal status, latest first, and the passes' bills and
refunds, oldest first.
-/
structure PollingSystem where
  row : Task
  passes : ℕ → Option Pass
  ledger : Ledger
  wins : List (ℕ × TaskStatus) := []
  bills : List (ℕ × Bill) := []
  refunds : List (ℕ × ℤ) := []

/-- The steps of passes. The flag of a statement tells whether it is executed. A pass fails a task
without a channel or an upstream id.
-/
inductive PollingAction where
  | load (pass : ℕ)
  | loadTimedOut (pass : ℕ) (cutoff : ℤ)
  | sweep (pass : ℕ) (minutes now : ℤ) (ok : Bool)
  | poll (pass : ℕ) (proxyURL : String) (now : ℤ) (ok : Bool) (response : PollResponse)
  | pollSuno (pass : ℕ) (item : SunoDataResponse)
  | bill (pass : ℕ) (w : BillWrites) (q : CompletionQuota)
  | save (pass : ℕ) (ok : Bool)
  | failUnreachable (pass : ℕ) (failReason : Option String) (ok : Bool)
  | finish (pass : ℕ)
  | others (ledger : Ledger)

namespace PollingSystem

def setPass (s : PollingSystem) (pass : ℕ) (p : Option Pass) : PollingSystem :=
  { s with passes := update s.passes pass p }

def writeRow (s : PollingSystem) (pass : ℕ) (won : Bool) (row : Task) : PollingSystem :=
  { s with row := row, wins := if won then (pass, row.status) :: s.wins else s.wins }

def sweep (s : PollingSystem) (pass : ℕ) (minutes now : ℤ) (ok : Bool) (task : Task)
    : PollingSystem :=
  let swept := task.timeOut minutes now
  let (won, row) := swept.updateWithStatus ok task.status s.row
  let due := if won ∧ task.refundsSwept then [.bill .refund] else []
  (s.writeRow pass won row).setPass pass (some ⟨swept, .swept, due⟩)

def poll (s : PollingSystem) (pass : ℕ) (v : VideoPoll) : PollingSystem :=
  (s.writeRow pass v.won v.row).setPass pass (some ⟨v.task, .polling, v.bills.map .bill⟩)

def pollSuno (s : PollingSystem) (pass : ℕ) (item : SunoDataResponse) (task : Task)
    : PollingSystem :=
  if taskNeedsUpdate task item then
    let (task, bills) := task.applySuno item
    s.setPass pass (some ⟨task, .polling, bills.map .bill ++ [.save]⟩)
  else s

def bill (s : PollingSystem) (pass : ℕ) (w : BillWrites) (q : CompletionQuota)
    (p : Pass) (bill : Bill) (rest : List Due)
    : PollingSystem :=
  match bill with
  | .refund =>
    let (refunded, ledger) := refundTaskQuota w p.task s.ledger
    { s.setPass pass (some { p with due := rest }) with
      ledger := ledger
      bills := s.bills ++ [(pass, .refund)]
      refunds := s.refunds ++ refunded.toList.map (Prod.mk pass) }
  | .settle =>
    let (task, row, ledger) := settleTaskBillingOnComplete w q p.task s.row s.ledger
    { s.setPass pass (some { p with task := task, due := rest }) with
      row := row
      ledger := ledger
      bills := s.bills ++ [(pass, .settle)] }

def next (s : PollingSystem) : PollingAction → Option PollingSystem
  | .load pass =>
    if s.passes pass = none ∧ s.row.Unfinished then
      some (s.setPass pass (some ⟨s.row, .polling, []⟩))
    else none
  | .loadTimedOut pass cutoff =>
    if s.passes pass = none ∧ s.row.TimedOut cutoff then
      some (s.setPass pass (some ⟨s.row, .sweeping, []⟩))
    else none
  | .sweep pass minutes now ok =>
    match s.passes pass with
    | some ⟨task, .sweeping, []⟩ => some (s.sweep pass minutes now ok task)
    | _ => none
  | .poll pass proxyURL now ok response =>
    match s.passes pass with
    | some ⟨task, .polling, []⟩ =>
      if task.platform = .video then
        some (s.poll pass (updateVideoSingleTask proxyURL now ok response task s.row))
      else none
    | _ => none
  | .pollSuno pass item =>
    match s.passes pass with
    | some ⟨task, .polling, []⟩ =>
      if task.platform = .suno then some (s.pollSuno pass item task) else none
    | _ => none
  | .bill pass w q =>
    match s.passes pass with
    | some ⟨task, kind, .bill bill :: rest⟩ =>
      some (s.bill pass w q ⟨task, kind, .bill bill :: rest⟩ bill rest)
    | _ => none
  | .save pass ok =>
    match s.passes pass with
    | some ⟨task, kind, [.save]⟩ =>
      let row := if ok then task else s.row
      some ((s.writeRow pass false row).setPass pass (some ⟨task, kind, []⟩))
    | _ => none
  | .failUnreachable pass failReason ok =>
    match s.passes pass with
    | some ⟨_, .polling, []⟩ =>
      let row := if ok then taskBulkUpdateByID failReason s.row else s.row
      some ((s.writeRow pass ok row).setPass pass none)
    | _ => none
  | .finish pass =>
    match s.passes pass with
    | some ⟨_, _, []⟩ => some (s.setPass pass none)
    | _ => none
  | .others ledger => some { s with ledger := ledger }

end PollingSystem

def pollingMachine (platform : TaskPlatform) (charged : ℤ)
    : Machine PollingSystem PollingAction where
  initial s := s.row.Unfinished ∧ s.row.platform = platform ∧ s.row.quota = charged
    ∧ s.passes = (fun _ => none) ∧ s.wins = [] ∧ s.bills = [] ∧ s.refunds = []
  next := PollingSystem.next

namespace PollingSystem

/-- What each step found, and what it leaves. -/
inductive Turn (s : PollingSystem) : PollingAction → PollingSystem → Prop where
  | load (pass : ℕ) (idle : s.passes pass = none) (unfinished : s.row.Unfinished)
      : s.Turn (.load pass) (s.setPass pass (some ⟨s.row, .polling, []⟩))
  | loadTimedOut (pass : ℕ) (cutoff : ℤ) (idle : s.passes pass = none)
      (timedOut : s.row.TimedOut cutoff)
      : s.Turn (.loadTimedOut pass cutoff) (s.setPass pass (some ⟨s.row, .sweeping, []⟩))
  | sweep (pass : ℕ) (minutes now : ℤ) (ok : Bool) (task : Task)
      (found : s.passes pass = some ⟨task, .sweeping, []⟩)
      : s.Turn (.sweep pass minutes now ok) (s.sweep pass minutes now ok task)
  | poll (pass : ℕ) (proxyURL : String) (now : ℤ) (ok : Bool) (response : PollResponse)
      (task : Task) (found : s.passes pass = some ⟨task, .polling, []⟩)
      (video : task.platform = .video)
      : s.Turn (.poll pass proxyURL now ok response)
          (s.poll pass (updateVideoSingleTask proxyURL now ok response task s.row))
  | pollSuno (pass : ℕ) (item : SunoDataResponse) (task : Task)
      (found : s.passes pass = some ⟨task, .polling, []⟩) (suno : task.platform = .suno)
      : s.Turn (.pollSuno pass item) (s.pollSuno pass item task)
  | bill (pass : ℕ) (w : BillWrites) (q : CompletionQuota) (task : Task) (kind : PassKind)
      (bill : Bill) (rest : List Due)
      (found : s.passes pass = some ⟨task, kind, .bill bill :: rest⟩)
      : s.Turn (.bill pass w q) (s.bill pass w q ⟨task, kind, .bill bill :: rest⟩ bill rest)
  | save (pass : ℕ) (ok : Bool) (task : Task) (kind : PassKind)
      (found : s.passes pass = some ⟨task, kind, [.save]⟩)
      : s.Turn (.save pass ok) ((s.writeRow pass false (if ok then task else s.row)).setPass
          pass (some ⟨task, kind, []⟩))
  | failUnreachable (pass : ℕ) (failReason : Option String) (ok : Bool) (task : Task)
      (found : s.passes pass = some ⟨task, .polling, []⟩)
      : s.Turn (.failUnreachable pass failReason ok) ((s.writeRow pass ok
          (if ok then taskBulkUpdateByID failReason s.row else s.row)).setPass pass none)
  | finish (pass : ℕ) (task : Task) (kind : PassKind)
      (found : s.passes pass = some ⟨task, kind, []⟩)
      : s.Turn (.finish pass) (s.setPass pass none)
  | others (ledger : Ledger) : s.Turn (.others ledger) { s with ledger := ledger }

variable {s : PollingSystem}

/-- Every statement of a pass has one of the shapes, by cases on the action. -/
theorem next_turn {s' action} (moved : s.next action = some s') : s.Turn action s' := by
  cases action with dsimp only [next] at moved
  | load pass =>
    obtain ⟨⟨idle, unfinished⟩, ⟨⟩⟩ := ite_none_right_eq_some.mp moved
    exact .load pass idle unfinished
  | loadTimedOut pass cutoff =>
    obtain ⟨⟨idle, timedOut⟩, ⟨⟩⟩ := ite_none_right_eq_some.mp moved
    exact .loadTimedOut pass cutoff idle timedOut
  | sweep pass minutes now ok =>
    split at moved <;> cases moved
    rename_i found
    exact .sweep pass minutes now ok _ found
  | poll pass proxyURL now ok response =>
    split at moved
    next found =>
      obtain ⟨video, ⟨⟩⟩ := ite_none_right_eq_some.mp moved
      exact .poll pass proxyURL now ok response _ found video
    · cases moved
  | pollSuno pass item =>
    split at moved
    next found =>
      obtain ⟨suno, ⟨⟩⟩ := ite_none_right_eq_some.mp moved
      exact .pollSuno pass item _ found suno
    · cases moved
  | bill pass w q =>
    split at moved <;> cases moved
    rename_i found
    exact .bill pass w q _ _ _ _ found
  | save pass ok =>
    split at moved <;> cases moved
    rename_i found
    exact .save pass ok _ _ found
  | failUnreachable pass failReason ok =>
    split at moved <;> cases moved
    rename_i found
    exact .failUnreachable pass failReason ok _ found
  | finish pass =>
    split at moved <;> cases moved
    rename_i found
    exact .finish pass _ _ found
  | others ledger =>
    cases moved
    exact .others ledger

def dues {β : Type} (of : Pass → List β) (s : PollingSystem) : ℕ → List β :=
  (fun p => (p.map of).getD []) ∘ s.passes

variable {β : Type}

/-- A pass that changes changes what it has to do, and no other. -/
theorem dues_setPass (of : Pass → List β) (s : PollingSystem) (pass : ℕ) (p : Option Pass)
    : (s.setPass pass p).dues of
      = update (s.dues of) pass ((p.map of).getD []) := comp_update ..

variable {pass : ℕ}

/-- What a pass has to do is read off it. -/
theorem dues_of_found {of : Pass → List β} {p : Pass} (found : s.passes pass = some p)
    : s.dues of pass = of p := by
  simp [dues, found]

/-- A pass that changes only otherwise leaves what is due. -/
theorem dues_setPass_same {of : Pass → List β} {p : Option Pass}
    (same : (p.map of).getD [] = s.dues of pass)
    : (s.setPass pass p).dues of = s.dues of := by
  rw [dues_setPass, same, update_eq_self]

/-- A pass that is not there has nothing to do. -/
theorem dues_of_none {of : Pass → List β} (idle : s.passes pass = none) : s.dues of pass = [] := by
  simp [dues, idle]

/-- Nothing is due exactly if no pass has anything to do. -/
theorem dues_eq_nil_iff {of : Pass → List β}
    : (∀ pass, s.dues of pass = []) ↔ ∀ pass p, s.passes pass = some p → of p = [] := by
  refine forall_congr' fun pass => ?_
  cases held : s.passes pass with
  | none => simp [dues_of_none held]
  | some p => simp [dues_of_found held]

/-- What is known of all passes is known after one is replaced by another such. -/
theorem forall_setPass {P : Pass → Prop} (known : ∀ pass p, s.passes pass = some p → P p) (pass)
    {now} (replaced : ∀ p, now = some p → P p)
    : ∀ pass' p, (s.setPass pass now).passes pass' = some p → P p :=
  (forall_update_iff s.passes fun _ found => ∀ p, found = some p → P p).mpr
    ⟨replaced, fun pass' _ => known pass'⟩

end PollingSystem

def videoSystem : PollingSystem where
  row := { platform := .video, status := .inProgress, progress := "30%", quota := 100 }
  passes := fun _ => none
  ledger := ⟨0, 0, 0, fun _ => none, fun _ => none⟩

/-- The system of the examples is a start of the machine. -/
theorem videoSystem_initial : (pollingMachine .video 100).initial videoSystem :=
  ⟨by decide, rfl, rfl, rfl, rfl, rfl, rfl⟩

def BillWrites.done : BillWrites :=
  ⟨⟨.applied, .applied⟩, true, .applied, .applied⟩

end HelsterApi.Tasks
