import HelsterApi.Relational.Table
import HelsterApi.Transition.Machine

/-! The tables of system tasks and their locks, and runners on several nodes that claim, run and
expire tasks. Every step issues one statement, so a runner may stall or crash between any two. At
most one task of a type is active, and a task that has ended never changes.
-/

namespace HelsterApi.SystemTasks

open Relational

section

inductive SystemTaskStatus where
  | pending | running | succeeded | failed
  deriving DecidableEq

def SystemTaskStatus.Active (status : SystemTaskStatus) : Prop :=
  status = .pending ∨ status = .running
  deriving Decidable

inductive SystemTaskType where
  | logCleanup | channelTest | modelUpdate | midjourneyPoll | asyncTaskPoll | activeTaskHistory
  | epayReconcile
  deriving DecidableEq

structure SystemTask where
  id : ℤ
  taskId : String
  type : SystemTaskType
  status : SystemTaskStatus
  activeKey : Option SystemTaskType
  (payload state result error lockedBy : String := "")
  (createdAt updatedAt : ℤ := 0)
  deriving DecidableEq

structure SystemTaskLock where
  type : SystemTaskType
  (taskId lockedBy : String)
  lockedUntil : ℤ
  updatedAt : ℤ := 0
  deriving DecidableEq

def SystemTask.Clash (a b : SystemTask) : Prop :=
  a.id = b.id ∨ a.taskId = b.taskId ∨ (a.activeKey ≠ none ∧ a.activeKey = b.activeKey)
  deriving Decidable

def SystemTaskLock.Clash (a b : SystemTaskLock) : Prop :=
  a.type = b.type
  deriving Decidable

abbrev Tasks : Type := Table SystemTask SystemTask.Clash

abbrev Locks : Type := Table SystemTaskLock SystemTaskLock.Clash

/-- A write leaves the identity of a task alone, and its active key too unless it clears it. -/
structure SystemTask.Keeps (t t' : SystemTask) : Prop where
  id : t'.id = t.id
  taskId : t'.taskId = t.taskId
  type : t'.type = t.type
  activeKey : t'.activeKey = t.activeKey ∨ t'.activeKey = none

theorem separates_of_keeps {selects set} (keeps : ∀ t : SystemTask, t.Keeps (set t))
    : Separates SystemTask.Clash selects set := by
  have writtenKeeps : ∀ t : SystemTask, t.Keeps (written selects set t) := by
    intro t
    unfold written
    split
    · exact keeps t
    · exact ⟨rfl, rfl, rfl, .inl rfl⟩
  intro a b clashes
  have left := writtenKeeps a
  have right := writtenKeeps b
  rw [SystemTask.Clash, left.id, right.id, left.taskId, right.taskId] at clashes
  rcases clashes with sameId | sameTask | ⟨active, sameKey⟩
  · exact .inl sameId
  · exact .inr (.inl sameTask)
  · have keyA := left.activeKey.resolve_right active
    have keyB := right.activeKey.resolve_right (sameKey ▸ active)
    exact .inr (.inr ⟨keyA ▸ active, by rw [← keyA, sameKey, keyB]⟩)

/-- The second one is `ErrSystemTaskLockLost`. -/
inductive SystemTaskError where
  | database | lockLost
  deriving DecidableEq

variable (ok : Bool)

/-- A guarded update, which reports a lost lock if it affects no row; `ok` tells whether it
is executed.
-/
def guardedUpdate {ρ : Type} {clash : ρ → ρ → Prop} (ok : Bool) (t : Table ρ clash)
    (selects : ρ → Bool) (set : ρ → ρ) (separates : Separates clash selects set)
    : Except SystemTaskError (Table ρ clash) :=
  if ok = false then .error .database
  else if t.affects selects then .ok (t.update selects set separates)
  else .error .lockLost

def newSystemTask (id : ℤ) (taskId : String) (type : SystemTaskType) (payload state : String)
    (now : ℤ)
    : SystemTask where
  id := id
  taskId := taskId
  type := type
  status := .pending
  activeKey := some type
  payload := payload
  state := state
  createdAt := now
  updatedAt := now

def claimSelects (id : ℤ) (type : SystemTaskType) (t : SystemTask) : Bool :=
  decide (t.id = id ∧ t.type = type ∧ t.status = .pending)

def startTask (id : ℤ) (type : SystemTaskType) (runner : String) (now : ℤ) (tasks : Tasks)
    : Tasks :=
  tasks.update (claimSelects id type)
    (fun t => { t with status := .running, lockedBy := runner, updatedAt := now })
    (separates_of_keeps fun _ => ⟨rfl, rfl, rfl, .inl rfl⟩)

variable (taskId runner : String)

/-- The guard of a runner's own writes: the task is running, locked by the runner, and that lock has
not expired.
-/
def ownSelects (now : ℤ) (locks : Locks) (t : SystemTask) : Bool :=
  decide (t.taskId = taskId ∧ t.status = .running ∧ t.lockedBy = runner)
    && locks.affects fun l =>
      decide (l.taskId = t.taskId ∧ l.lockedBy = runner ∧ now ≤ l.lockedUntil)

def updateSystemTaskState (state : String) (now : ℤ) (locks : Locks) (tasks : Tasks)
    : Except SystemTaskError Tasks :=
  guardedUpdate ok tasks (ownSelects taskId runner now locks)
    (fun t => { t with state := state, updatedAt := now })
    (separates_of_keeps fun _ => ⟨rfl, rfl, rfl, .inl rfl⟩)

inductive Outcome where
  | succeeded | failed
  deriving DecidableEq

def Outcome.status : Outcome → SystemTaskStatus
  | .succeeded => .succeeded
  | .failed => .failed

def finishSystemTask (outcome : Outcome)
    (result error : String) (now : ℤ) (locks : Locks) (tasks : Tasks)
    : Except SystemTaskError Tasks :=
  guardedUpdate ok tasks (ownSelects taskId runner now locks)
    (fun t => { t with
      status := outcome.status, activeKey := none, result := result, error := error
      updatedAt := now })
    (separates_of_keeps fun _ => ⟨rfl, rfl, rfl, .inr rfl⟩)

def markSystemTaskLeaseExpired (now : ℤ) (tasks : Tasks) : Tasks :=
  tasks.update (fun t => decide (t.taskId = taskId ∧ t.status = .running))
    (fun t => { t with
      status := .failed, activeKey := none, error := "task lease expired", updatedAt := now })
    (separates_of_keeps fun _ => ⟨rfl, rfl, rfl, .inr rfl⟩)

theorem separates_of_type {selects set} (keeps : ∀ l, (set l).type = l.type)
    : Separates SystemTaskLock.Clash selects set := by
  have writtenKeeps : ∀ l, (written selects set l).type = l.type := by
    intro l
    unfold written
    split
    · exact keeps l
    · rfl
  intro a b clashes
  rwa [SystemTaskLock.Clash, writtenKeeps, writtenKeeps] at clashes

def takeOverSelects (type : SystemTaskType) (now : ℤ) (l : SystemTaskLock) : Bool :=
  decide (l.type = type ∧ l.lockedUntil < now)

def takeOverLock (type : SystemTaskType) (taskId runner : String) (now lockUntil : ℤ)
    (locks : Locks)
    : Locks :=
  locks.update (takeOverSelects type now)
    (fun l => { l with
      taskId := taskId, lockedBy := runner, lockedUntil := lockUntil, updatedAt := now })
    (separates_of_type fun _ => rfl)

def renewSystemTaskLock (lockUntil now : ℤ) (locks : Locks) : Except SystemTaskError Locks :=
  guardedUpdate ok locks
    (fun l => decide (l.taskId = taskId ∧ l.lockedBy = runner ∧ now ≤ l.lockedUntil))
    (fun l => { l with lockedUntil := lockUntil, updatedAt := now })
    (separates_of_type fun _ => rfl)

def releaseSystemTaskLock (locks : Locks) : Locks :=
  locks.delete fun l => decide (l.taskId = taskId ∧ l.lockedBy = runner)

def staleLocks (now : ℤ) (locks : Locks) : List SystemTaskLock :=
  locks.rows.filter fun l => decide (l.lockedUntil < now)

def deleteStaleLock (lock : SystemTaskLock) (now : ℤ) (locks : Locks) : Locks :=
  locks.delete fun l => decide (l.type = lock.type ∧ l.taskId = lock.taskId
    ∧ l.lockedBy = lock.lockedBy ∧ l.lockedUntil < now)

end

section

open Transition

def systemTaskLockTTL : ℤ := 60

def systemTaskLockUntil (now : ℤ) : ℤ := now + systemTaskLockTTL

/-- A call of `ClaimSystemTask`: the row it selected, its `now` and the time its lock ends. -/
structure Claim where
  task : SystemTask
  (now lockUntil : ℤ)
  deriving DecidableEq

def Claim.lock (c : Claim) (runner : String) : SystemTaskLock where
  type := c.task.type
  taskId := c.task.taskId
  lockedBy := runner
  lockedUntil := c.lockUntil
  updatedAt := c.now

/-- Where a runner is: between calls, before a statement of `ClaimSystemTask`, or before one of
`ExpireStaleSystemTaskLocks` on a lock it selected.
-/
inductive RunnerPhase where
  | idle
  | inserting (c : Claim)
  | reading (c : Claim)
  | takingOver (c : Claim) (expiredTaskId : String)
  | marking (c : Claim) (expiredTaskId : String)
  | starting (c : Claim)
  | reloading (c : Claim)
  | releasing (taskId : String)
  | expiring (now : ℤ) (lock : SystemTaskLock) (rest : List SystemTaskLock)
  | deleting (now : ℤ) (lock : SystemTaskLock) (rest : List SystemTaskLock)
  deriving DecidableEq

/-- How a claim goes on once it has taken over a lock: a different task it finds there is
marked first.
-/
def Claim.acquired (c : Claim) (expiredTaskId : String) : RunnerPhase :=
  if expiredTaskId ≠ "" ∧ expiredTaskId ≠ c.task.taskId then .marking c expiredTaskId
  else .starting c

def RunnerPhase.sweep (now : ℤ) : List SystemTaskLock → RunnerPhase
  | [] => .idle
  | lock :: rest => .expiring now lock rest

inductive Heartbeat where
  | waiting
  | due (lockUntil : ℤ)
  | stopped
  deriving DecidableEq

/-- Where a handler is: at work, about to release the lock of the task it finished, or
done.
-/
inductive Stage where
  | working | releasing | returned
  deriving DecidableEq

structure Handler where
  runner : String
  stage : Stage := .working
  heartbeat : Heartbeat := .waiting

/-- The database and the nodes. The clock is that of the node most ahead; handlers are listed by
their task.
-/
structure Cluster where
  clock : ℤ
  tasks : Tasks
  locks : Locks
  runners : String → RunnerPhase
  handlers : String → Option Handler

/-- Each step carries the time its node's clock shows, where it reads it, and whether its
statement is executed. The database chooses the id of a new task.
-/
inductive ClusterAction where
  | tick (seconds : ℕ)
  | create (id : ℤ) (taskId : String) (type : SystemTaskType) (payload state : String)
      (now : ℤ) (ok : Bool)
  | claim (runner : String) (id : ℤ) (type : SystemTaskType) (asked now : ℤ) (ok : Bool)
  | expire (runner : String) (now : ℤ) (ok : Bool)
  | advance (runner : String) (now : ℤ) (ok : Bool)
  | updateState (taskId state : String) (now : ℤ) (ok : Bool)
  | finish (taskId : String) (outcome : Outcome) (result error : String) (now : ℤ) (ok : Bool)
  | release (taskId : String) (ok : Bool)
  | beat (taskId : String) (now : ℤ)
  | renew (taskId : String) (now : ℤ) (ok : Bool)

variable (s : Cluster)

namespace Cluster

variable (runner : String)

def setRunner (phase : RunnerPhase) : Cluster :=
  { s with runners := Function.update s.runners runner phase }

variable (taskId : String) (h : Handler)

def setHandler : Cluster :=
  { s with handlers := Function.update s.handlers taskId (some h) }

def create (row : SystemTask) (ok : Bool) : Cluster :=
  match s.tasks.insert row with
  | some tasks => if ok then { s with tasks := tasks } else s
  | none => s

def claim (id : ℤ) (type : SystemTaskType) (asked now : ℤ) (ok : Bool) : Cluster :=
  match s.tasks.rows.find? (claimSelects id type) with
  | some task =>
    if ok then s.setRunner runner (.inserting ⟨task, now, systemTaskLockUntil asked⟩) else s
  | none => s

def insertLock (c : Claim) (ok : Bool) : Cluster :=
  match s.locks.insert (c.lock runner) with
  | some locks =>
    if ok then { s.setRunner runner (.starting c) with locks := locks }
    else s.setRunner runner (.reading c)
  | none => s.setRunner runner (.reading c)

def readLock (c : Claim) (ok : Bool) : Cluster :=
  match s.locks.rows.find? fun l => l.type = c.task.type with
  | some existing =>
    if ok ∧ existing.lockedUntil < c.now then s.setRunner runner (.takingOver c existing.taskId)
    else s.setRunner runner .idle
  | none => s.setRunner runner .idle

def takeOver (c : Claim) (expiredTaskId : String) (ok : Bool) : Cluster :=
  if ok ∧ s.locks.affects (takeOverSelects c.task.type c.now) then
    { s.setRunner runner (c.acquired expiredTaskId) with
      locks := takeOverLock c.task.type c.task.taskId runner c.now c.lockUntil s.locks }
  else s.setRunner runner .idle

def mark (now : ℤ) (ok : Bool) (marked unmarked : RunnerPhase) : Cluster :=
  if ok then
    { s.setRunner runner marked with tasks := markSystemTaskLeaseExpired taskId now s.tasks }
  else s.setRunner runner unmarked

def start (c : Claim) (ok : Bool) : Cluster :=
  if ok ∧ s.tasks.affects (claimSelects c.task.id c.task.type) then
    { s.setRunner runner (.reloading c) with
      tasks := startTask c.task.id c.task.type runner c.now s.tasks }
  else s.setRunner runner (.releasing c.task.taskId)

def reload (c : Claim) (ok : Bool) : Cluster :=
  if ok then (s.setRunner runner .idle).setHandler c.task.taskId { runner := runner }
  else s.setRunner runner .idle

def advance (now : ℤ) (ok : Bool) : Option Cluster :=
  match s.runners runner with
  | .idle => none
  | .inserting c => some (s.insertLock runner c ok)
  | .reading c => some (s.readLock runner c ok)
  | .takingOver c expiredTaskId => some (s.takeOver runner c expiredTaskId ok)
  | .marking c expiredTaskId =>
    some (s.mark runner expiredTaskId now ok (.starting c) (.releasing c.task.taskId))
  | .starting c => some (s.start runner c ok)
  | .reloading c => some (s.reload runner c ok)
  | .releasing taskId =>
    some { s.setRunner runner .idle with
      locks := if ok then releaseSystemTaskLock taskId runner s.locks else s.locks }
  | .expiring sweepNow lock rest =>
    some (s.mark runner lock.taskId now ok (.deleting sweepNow lock rest) .idle)
  | .deleting sweepNow lock rest =>
    if ok then
      some { s.setRunner runner (.sweep sweepNow rest) with
        locks := deleteStaleLock lock sweepNow s.locks }
    else some (s.setRunner runner .idle)

def updateState (state : String) (now : ℤ) (ok : Bool) : Option Cluster :=
  if h.stage = .working then
    match updateSystemTaskState ok taskId h.runner state now s.locks s.tasks with
    | .ok tasks => some { s with tasks := tasks }
    | .error _ => some s
  else none

/-- A handler that cannot finish gives up. -/
def finish (outcome : Outcome) (result error : String) (now : ℤ) (ok : Bool) : Option Cluster :=
  if h.stage = .working then
    match finishSystemTask ok taskId h.runner outcome result error now s.locks s.tasks with
    | .ok tasks => some { s.setHandler taskId { h with stage := .releasing } with tasks := tasks }
    | .error _ => some (s.setHandler taskId { h with stage := .returned })
  else none

def release (ok : Bool) : Option Cluster :=
  if h.stage = .releasing then
    some { s.setHandler taskId { h with stage := .returned } with
      locks := if ok then releaseSystemTaskLock taskId h.runner s.locks else s.locks }
  else none

/-- The heartbeat wakes up while the handler has not returned. -/
def beat (now : ℤ) : Option Cluster :=
  if h.stage ≠ .returned ∧ h.heartbeat = .waiting then
    some (s.setHandler taskId { h with heartbeat := .due (systemTaskLockUntil now) })
  else none

/-- An error stops the heartbeat. -/
def renew (now : ℤ) (ok : Bool) : Option Cluster :=
  match h.heartbeat with
  | .due lockUntil =>
    match renewSystemTaskLock ok taskId h.runner lockUntil now s.locks with
    | .ok locks => some { s.setHandler taskId { h with heartbeat := .waiting } with locks := locks }
    | .error _ => some (s.setHandler taskId { h with heartbeat := .stopped })
  | _ => none

end Cluster

def ClusterAction.readings : ClusterAction → List ℤ
  | .tick _ => []
  | .create _ _ _ _ _ now _ => [now]
  | .claim _ _ _ asked now _ => [asked, now]
  | .expire _ now _ => [now]
  | .advance _ now _ => [now]
  | .updateState _ _ now _ => [now]
  | .finish _ _ _ _ now _ => [now]
  | .release _ _ => []
  | .beat _ now => [now]
  | .renew _ now _ => [now]

def Cluster.perform : ClusterAction → Option Cluster
  | .tick seconds => some { s with clock := s.clock + seconds }
  | .create id taskId type payload state now ok =>
    some (s.create (newSystemTask id taskId type payload state now) ok)
  | .claim runner id type asked now ok =>
    if s.runners runner = .idle then some (s.claim runner id type asked now ok) else none
  | .expire runner now ok =>
    if s.runners runner = .idle then
      some (if ok then s.setRunner runner (.sweep now (staleLocks now s.locks)) else s)
    else none
  | .advance runner now ok => s.advance runner now ok
  | .updateState taskId state now ok =>
    (s.handlers taskId).bind fun h => s.updateState taskId h state now ok
  | .finish taskId outcome result error now ok =>
    (s.handlers taskId).bind fun h => s.finish taskId h outcome result error now ok
  | .release taskId ok => (s.handlers taskId).bind fun h => s.release taskId h ok
  | .beat taskId now => (s.handlers taskId).bind fun h => s.beat taskId h now
  | .renew taskId now ok => (s.handlers taskId).bind fun h => s.renew taskId h now ok

def clusterMachine : Machine Cluster ClusterAction where
  initial s := s.tasks.rows = [] ∧ s.locks.rows = [] ∧ s.runners = (fun _ => .idle)
    ∧ s.handlers = (fun _ => none)
  next s action := if ∀ t ∈ action.readings, t ≤ s.clock then s.perform action else none

end

open List Option Transition Cluster

/-- What one statement can make of a task. -/
inductive SystemTask.Advances (t : SystemTask) : SystemTask → Prop where
  | same
    : t.Advances t
  | started {runner : String} {now : ℤ} (pending : t.status = .pending)
    : t.Advances { t with status := .running, lockedBy := runner, updatedAt := now }
  | reported {state : String} {now : ℤ} (running : t.status = .running)
    : t.Advances { t with state := state, updatedAt := now }
  | ended {status : SystemTaskStatus} {result error : String} {now : ℤ}
      (running : t.status = .running) (terminal : ¬status.Active)
    : t.Advances { t with
        status := status, activeKey := none, result := result, error := error
        updatedAt := now }

/-- A statement advances tasks or adds a pending one. -/
inductive Evolves (tasks tasks' : Tasks) : Prop where
  | advanced (f : SystemTask → SystemTask) (advances : ∀ t : SystemTask, t.Advances (f t))
      (rows : tasks'.rows = tasks.rows.map f)
  | added (row : SystemTask) (pending : row.status = .pending)
      (keyed : row.activeKey = some row.type) (rows : tasks'.rows = tasks.rows ++ [row])

def SystemTask.Keyed (t : SystemTask) : Prop :=
  t.activeKey = if t.status.Active then some t.type else none

theorem Evolves.refl (tasks) : Evolves tasks tasks :=
  .advanced id (fun _ => .same) (map_id tasks.rows).symm

variable {tasks tasks' : Tasks}

theorem Evolves.of_written {selects set} (rows : tasks'.rows = tasks.rows.map (written selects set))
    (advances : ∀ t : SystemTask, selects t = true → t.Advances (set t))
    : Evolves tasks tasks' := by
  refine .advanced (written selects set) (fun t => ?_) rows
  unfold written
  split
  next selected => exact advances t selected
  · exact .same

variable {ok : Bool}

theorem guardedUpdate_eq_ok {ρ : Type} {clash t t'}
    {selects : ρ → Bool} {set : ρ → ρ} {separates : Separates clash selects set}
    (updated : guardedUpdate ok t selects set separates = .ok t')
    : t.affects selects = true ∧ t' = t.update selects set separates := by
  unfold guardedUpdate at updated
  split at updated
  · cases updated
  split at updated <;> cases updated
  rename_i affected
  exact ⟨affected, rfl⟩

variable {taskId : String} {now : ℤ} {t : SystemTask}

theorem ownSelects_eq_true {runner locks} (selected : ownSelects taskId runner now locks t = true)
    : t.taskId = taskId ∧ t.status = .running ∧ t.lockedBy = runner :=
  of_decide_eq_true (Bool.and_eq_true_iff.mp selected).1

theorem Outcome.not_active (outcome : Outcome) : ¬outcome.status.Active := by
  cases outcome <;> decide

theorem evolves_mark (s : Cluster) (runner taskId now ok)
    (marked unmarked)
    : Evolves s.tasks (s.mark runner taskId now ok marked unmarked).tasks := by
  unfold mark
  split
  · refine .of_written rfl fun t selected => ?_
    exact .ended (of_decide_eq_true selected).2 (by decide)
  · exact .refl _

variable {s s' : Cluster}

theorem evolves_advance {runner} (advanced : s.advance runner now ok = some s')
    : Evolves s.tasks s'.tasks := by
  unfold advance at advanced
  split at advanced
  · cases advanced
  · cases advanced
    unfold insertLock
    split
    · split <;> exact .refl _
    · exact .refl _
  · cases advanced
    unfold readLock
    split
    · split <;> exact .refl _
    · exact .refl _
  · cases advanced
    unfold takeOver
    split <;> exact .refl _
  · cases advanced
    exact evolves_mark ..
  · cases advanced
    unfold start
    split
    · refine .of_written rfl fun t selected => ?_
      exact .started (of_decide_eq_true selected).2.2
    · exact .refl _
  · cases advanced
    unfold reload
    split <;> exact .refl _
  · cases advanced
    exact .refl _
  · cases advanced
    exact evolves_mark ..
  · split at advanced <;> cases advanced <;> exact .refl _

variable {h : Handler}

theorem evolves_updateState {state : String}
    (updated : s.updateState taskId h state now ok = some s')
    : Evolves s.tasks s'.tasks := by
  obtain ⟨_, moved⟩ := ite_none_right_eq_some.mp updated
  split at moved <;> cases moved
  next written =>
    rw [(guardedUpdate_eq_ok written).2]
    refine .of_written rfl fun t selected => ?_
    exact .reported (ownSelects_eq_true selected).2.1
  · exact .refl _

theorem evolves_finish {outcome} {result error : String}
    (finished : s.finish taskId h outcome result error now ok = some s')
    : Evolves s.tasks s'.tasks := by
  obtain ⟨_, moved⟩ := ite_none_right_eq_some.mp finished
  split at moved <;> cases moved
  next written =>
    rw [(guardedUpdate_eq_ok written).2]
    refine .of_written rfl fun t selected => ?_
    exact .ended (ownSelects_eq_true selected).2.1 outcome.not_active
  · exact .refl _

theorem evolves_next {action} (moved : clusterMachine.next s action = some s')
    : Evolves s.tasks s'.tasks := by
  obtain ⟨_, performed⟩ := ite_none_right_eq_some.mp moved
  cases action with
  | tick seconds =>
    cases performed
    exact .refl _
  | create id taskId type payload state now ok =>
    cases performed
    unfold create
    split
    next inserted =>
      split
      · exact .added _ rfl rfl (Table.insert_eq_some inserted)
      · exact .refl _
    · exact .refl _
  | claim runner id type asked now ok =>
    obtain ⟨_, ⟨⟩⟩ := ite_none_right_eq_some.mp performed
    unfold claim
    split
    · split <;> exact .refl _
    · exact .refl _
  | expire runner now ok =>
    obtain ⟨_, ⟨⟩⟩ := ite_none_right_eq_some.mp performed
    split <;> exact .refl _
  | advance runner now ok => exact evolves_advance performed
  | updateState taskId state now ok =>
    obtain ⟨h, _, updated⟩ := bind_eq_some_iff.mp performed
    exact evolves_updateState updated
  | finish taskId outcome result error now ok =>
    obtain ⟨h, _, finished⟩ := bind_eq_some_iff.mp performed
    exact evolves_finish finished
  | release taskId ok =>
    obtain ⟨h, _, released⟩ := bind_eq_some_iff.mp performed
    obtain ⟨_, ⟨⟩⟩ := ite_none_right_eq_some.mp released
    exact .refl _
  | beat taskId now =>
    obtain ⟨h, _, beaten⟩ := bind_eq_some_iff.mp performed
    obtain ⟨_, ⟨⟩⟩ := ite_none_right_eq_some.mp beaten
    exact .refl _
  | renew taskId now ok =>
    obtain ⟨h, _, renewed⟩ := bind_eq_some_iff.mp performed
    unfold renew at renewed
    split at renewed
    · split at renewed <;> cases renewed <;> exact .refl _
    · cases renewed

theorem SystemTask.Advances.keyed {t'} (advances : t.Advances t') (keyed : t.Keyed) : t'.Keyed := by
  unfold Keyed at *
  cases advances with
  | same => exact keyed
  | started pending =>
    rw [if_pos (.inl pending)] at keyed
    rwa [if_pos (.inr rfl)]
  | reported running => exact keyed
  | ended running terminal => rw [if_neg terminal]

theorem SystemTask.Advances.eq_of_ended {t'} (advances : t.Advances t') (ended : ¬t.status.Active)
    : t' = t := by
  cases advances with
  | same => rfl
  | started pending => exact absurd (.inl pending) ended
  | reported running => exact absurd (.inr running) ended
  | ended running _ => exact absurd (.inr running) ended

theorem Evolves.keyed (evolves : Evolves tasks tasks') (keyed : ∀ t ∈ tasks.rows, t.Keyed)
    : ∀ t ∈ tasks'.rows, t.Keyed := by
  intro t member
  cases evolves with
  | advanced f advances rows =>
    rw [rows] at member
    obtain ⟨before, known, rfl⟩ := mem_map.mp member
    exact (advances before).keyed (keyed before known)
  | added row pending active rows =>
    rw [rows, mem_append, mem_singleton] at member
    rcases member with old | rfl
    · exact keyed t old
    · rw [SystemTask.Keyed, active, if_pos (.inl pending)]

theorem Evolves.final (evolves : Evolves tasks tasks') (known : t ∈ tasks.rows)
    (ended : ¬t.status.Active)
    : t ∈ tasks'.rows := by
  cases evolves with
  | advanced f advances rows =>
    rw [rows]
    exact mem_map.mpr ⟨t, known, (advances t).eq_of_ended ended⟩
  | added row pending active rows =>
    rw [rows]
    exact mem_append_left _ known

/-- The keys of all tasks are in step in every state, by induction on the run. -/
theorem keyed_of_reaches {ok} (reached : clusterMachine.Reaches ok s)
    : ∀ t ∈ s.tasks.rows, t.Keyed := by
  refine reached.invariant (fun s => ∀ t ∈ s.tasks.rows, t.Keyed) ?_ ?_
  · intro s start t member
    simp [start.1] at member
  · intro s action s' _ keyed _ moved
    exact (evolves_next moved).keyed keyed

def Cluster.activeTasks (s : Cluster) (type : SystemTaskType) : List SystemTask :=
  s.tasks.rows.filter fun t => t.type = type ∧ t.status.Active

/-- At most one task of each type is active, and just the active tasks have an active key. -/
structure Cluster.Exclusive (s : Cluster) : Prop where
  single : ∀ type, (s.activeTasks type).length ≤ 1
  keyed : ∀ t ∈ s.tasks.rows, t.activeKey ≠ none ↔ t.status.Active

theorem SystemTask.Keyed.activeKey (keyed : t.Keyed) (active : t.status.Active)
    : t.activeKey = some t.type := by
  rw [keyed, if_pos active]

theorem SystemTask.Keyed.clash {a b : SystemTask} (keyedA : a.Keyed) (keyedB : b.Keyed)
    (activeA : a.status.Active) (activeB : b.status.Active) (sameType : a.type = b.type)
    : a.Clash b := by
  have keyA := keyedA.activeKey activeA
  have keyB := keyedB.activeKey activeB
  exact .inr (.inr ⟨by simp [keyA], by rw [keyA, keyB, sameType]⟩)

theorem Cluster.exclusive_of_keyed (keyed : ∀ t ∈ s.tasks.rows, t.Keyed) : s.Exclusive := by
  refine ⟨fun type => ?_, fun t known => ⟨fun present => ?_, fun active => ?_⟩⟩
  · apply Table.length_filter_le_one
    intro a knownA b knownB selectedA selectedB
    obtain ⟨typeA, activeA⟩ := of_decide_eq_true selectedA
    obtain ⟨typeB, activeB⟩ := of_decide_eq_true selectedB
    exact (keyed a knownA).clash (keyed b knownB) activeA activeB (typeA.trans typeB.symm)
  · by_contra inactive
    rw [keyed t known, if_neg inactive] at present
    exact present rfl
  · simp [(keyed t known).activeKey active]

/-- In every run at most one task of each type is pending or running, just these have an active key,
and a task that has ended never changes again.
-/
theorem system_tasks_exclusive_and_final {s} (reached : clusterMachine.Reaches anyStep s)
    : s.Exclusive
      ∧ ∀ {s'}, clusterMachine.Leads anyStep s s' → ∀ t ∈ s.tasks.rows, ¬t.status.Active
        → t ∈ s'.tasks.rows :=
  ⟨exclusive_of_keyed (keyed_of_reaches reached),
    fun led _ known ended => by
      induction led with
      | refl => exact known
      | step _ _ moved ih => exact (evolves_next moved).final ih ended⟩

def emptyCluster : Cluster := ⟨0, .empty, .empty, fun _ => .idle, fun _ => none⟩

def played (actions : List ClusterAction) : Cluster := clusterMachine.play emptyCluster actions

def claimed : List ClusterAction :=
  [.create 1 "t" .logCleanup "" "" 0 true, .claim "a" 1 .logCleanup 0 0 true,
    .advance "a" 0 true, .advance "a" 0 true, .advance "a" 0 true]

def expired : List ClusterAction := [.tick 100, .expire "b" 100 true, .advance "b" 100 true]

def expiredTask : SystemTask where
  id := 1
  taskId := "t"
  type := .logCleanup
  status := .failed
  activeKey := none
  error := "task lease expired"
  lockedBy := "a"
  updatedAt := 100

/-- Witness: the first runner cannot finish the task after it was expired. -/
theorem expiredTask_not_finished
    : (played (claimed ++ expired)).Exclusive
      ∧ expiredTask ∈ (clusterMachine.play (played (claimed ++ expired))
        [.finish "t" .succeeded "" "" 50 true]).tasks.rows := by
  have reached : clusterMachine.Reaches anyStep (played (claimed ++ expired)) :=
    Machine.reaches_play ⟨rfl, rfl, rfl, rfl⟩ (by decide +kernel)
  have led : clusterMachine.Leads anyStep (played (claimed ++ expired))
      (clusterMachine.play (played (claimed ++ expired)) [.finish "t" .succeeded "" "" 50 true]) :=
    Machine.leads_play (by decide +kernel)
  exact ⟨(system_tasks_exclusive_and_final reached).1,
    (system_tasks_exclusive_and_final reached).2 led expiredTask (by decide +kernel) (by decide)⟩

end HelsterApi.SystemTasks
