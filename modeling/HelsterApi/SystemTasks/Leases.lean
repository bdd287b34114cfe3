import HelsterApi.SystemTasks.Protocol

/-! When every running task has a lock. The status update of a claim does not check the lock the
claim has acquired, so the steps that keep the locks are restricted.
-/

namespace HelsterApi.SystemTasks

open Function Relational Transition

/-- A claim takes over a lock only while its task is pending, and starts its task only while it has
the lock and no clock shows that it has expired.
-/
def Cluster.KeepsLease (s : Cluster) (runner : String) : RunnerPhase → Prop
  | .takingOver c _ => s.tasks.affects (claimSelects c.task.id c.task.type) = true
  | .starting c => s.tasks.affects (claimSelects c.task.id c.task.type) = true
      → s.locks.affects (fun l => decide (l.type = c.task.type ∧ l.taskId = c.task.taskId
        ∧ l.lockedBy = runner ∧ s.clock ≤ l.lockedUntil)) = true
  | _ => True

instance (s : Cluster) (runner : String) : DecidablePred (s.KeepsLease runner) := fun phase => by
  cases phase <;> dsimp only [Cluster.KeepsLease] <;> infer_instance

/-- Claims keep to their lease, and a heartbeat asks for a time that has not passed on any node. -/
def LeaseSafe (s : Cluster) : ClusterAction → Prop
  | .advance runner _ ok => ok = true → s.KeepsLease runner (s.runners runner)
  | .beat _ now => s.clock ≤ systemTaskLockUntil now
  | _ => True

instance (s : Cluster) : DecidablePred (LeaseSafe s) := fun action => by
  cases action <;> dsimp only [LeaseSafe] <;> infer_instance

def Has (tasks : Tasks) (P : SystemTask → Prop) : Prop := ∃ t ∈ tasks.rows, P t

def SystemTask.NotRunBy (t : SystemTask) (runner : String) : Prop :=
  t.status = .running → t.lockedBy ≠ runner

/-- A claim knows a task that is not running for this runner, and a sweep is not ahead of the
clock.
-/
def RunnerPhase.Sound (tasks : Tasks) (clock : ℤ) (runner : String) : RunnerPhase → Prop
  | .idle => True
  | .inserting c | .reading c | .takingOver c _ | .marking c _ | .starting c =>
    Has tasks fun t => t.id = c.task.id ∧ t.taskId = c.task.taskId ∧ t.NotRunBy runner
  | .reloading c => Has tasks fun t => t.taskId = c.task.taskId ∧ t.status ≠ .pending
  | .releasing taskId => Has tasks fun t => t.taskId = taskId ∧ t.NotRunBy runner
  | .expiring now _ _ | .deleting now _ _ => now ≤ clock

def RunnerPhase.Quiet : RunnerPhase → Prop
  | .deleting _ _ _ => False
  | _ => True

/-- A handler runs a task that was started, and it releases the lock of a task that has ended. -/
structure Handler.Sound (tasks : Tasks) (taskId : String) (h : Handler) : Prop where
  started : Has tasks fun t => t.taskId = taskId ∧ t.status ≠ .pending
  finished : h.stage = .releasing → Has tasks fun t => t.taskId = taskId ∧ ¬t.status.Active

def Cluster.Deleting (s : Cluster) (taskId : String) (now : ℤ) : Prop :=
  ∃ runner lock rest, s.runners runner = .deleting now lock rest ∧ lock.taskId = taskId

structure SystemTaskLock.Covers (l : SystemTaskLock) (t : SystemTask) : Prop where
  type : l.type = t.type
  taskId : l.taskId = t.taskId
  lockedBy : l.lockedBy = t.lockedBy

/-- Every running task has a lock that no sweep is about to delete, now or after the heartbeat that
is due.
-/
structure Cluster.Leased (s : Cluster) : Prop where
  phases : ∀ runner, (s.runners runner).Sound s.tasks s.clock runner
  handlers : ∀ taskId h, s.handlers taskId = some h → h.Sound s.tasks taskId
  beats : ∀ taskId h lockUntil, s.handlers taskId = some h → h.heartbeat = .due lockUntil
    → ∀ now, s.Deleting taskId now → now ≤ lockUntil
      ∨ Has s.tasks fun t => t.taskId = taskId ∧ ¬t.status.Active
  leases : ∀ t ∈ s.tasks.rows, t.status = .running → ∃ l ∈ s.locks.rows, l.Covers t
    ∧ ∀ now, s.Deleting t.taskId now → now ≤ l.lockedUntil

instance : Std.Symm SystemTask.Clash :=
  ⟨fun _ _ clashes => clashes.imp Eq.symm (Or.imp Eq.symm fun ⟨active, same⟩ =>
    ⟨same ▸ active, same.symm⟩)⟩

variable {tasks : Tasks}

/-- Task ids are unique. -/
theorem eq_of_taskId {a b} (left : a ∈ tasks.rows) (right : b ∈ tasks.rows)
    (same : a.taskId = b.taskId)
    : a = b := Table.eq_of_clash left right (.inr (.inl same))

variable {t t' : SystemTask}

/-- A task that advances keeps its ids and its type. -/
theorem SystemTask.Advances.identity (advances : t.Advances t')
    : t'.id = t.id ∧ t'.taskId = t.taskId ∧ t'.type = t.type := by
  cases advances <;> exact ⟨rfl, rfl, rfl⟩

/-- A task that has started is not pending again. -/
theorem SystemTask.Advances.started_stays (advances : t.Advances t') (started : t.status ≠ .pending)
    : t'.status ≠ .pending := by
  cases advances with
  | same => exact started
  | started pending => exact absurd pending started
  | reported _ => exact started
  | ended _ terminal => exact fun pending => terminal (.inl pending)

def Follows (runner : String) (tasks tasks' : Tasks) : Prop :=
  ∀ t ∈ tasks.rows, ∃ t' ∈ tasks'.rows, t.Advances t' ∧ (t.NotRunBy runner → t'.NotRunBy runner)

variable {runner : String} {tasks' : Tasks}

/-- What some task is known to be stays true of it as long as every step of it keeps it. -/
theorem Has.follows {P} (has : Has tasks P)
    (follows : Follows runner tasks tasks')
    (stays : ∀ t t' : SystemTask, t.Advances t' → (t.NotRunBy runner → t'.NotRunBy runner)
      → P t → P t')
    : Has tasks' P := by
  obtain ⟨t, known, property⟩ := has
  obtain ⟨t', known', advances, notRun⟩ := follows t known
  exact ⟨t', known', stays t t' advances notRun property⟩

def Advanced (tasks tasks' : Tasks) : Prop := ∀ t ∈ tasks.rows, ∃ t' ∈ tasks'.rows, t.Advances t'

variable {taskId : String}

/-- A task that has started has started in all later tables. -/
theorem Has.started (has : Has tasks fun t => t.taskId = taskId ∧ t.status ≠ .pending)
    (advanced : Advanced tasks tasks')
    : Has tasks' fun t => t.taskId = taskId ∧ t.status ≠ .pending := by
  obtain ⟨t, known, same, started⟩ := has
  obtain ⟨t', known', advances⟩ := advanced t known
  exact ⟨t', known', advances.identity.2.1.trans same, advances.started_stays started⟩

/-- A task that has ended has ended in all later tables. -/
theorem Has.ended (has : Has tasks fun t => t.taskId = taskId ∧ ¬t.status.Active)
    (advanced : Advanced tasks tasks')
    : Has tasks' fun t => t.taskId = taskId ∧ ¬t.status.Active := by
  obtain ⟨t, known, same, ended⟩ := has
  obtain ⟨t', known', advances⟩ := advanced t known
  rw [advances.eq_of_ended ended] at known'
  exact ⟨t, known', same, ended⟩

variable {phase : RunnerPhase}

/-- What a runner knows of its task stays true when others act. -/
theorem RunnerPhase.Sound.follows {clock clock'} (sound : phase.Sound tasks clock runner)
    (follows : Follows runner tasks tasks') (later : clock ≤ clock')
    : phase.Sound tasks' clock' runner := by
  have claim : ∀ c : Claim,
      (Has tasks fun t => t.id = c.task.id ∧ t.taskId = c.task.taskId ∧ t.NotRunBy runner)
      → Has tasks' fun t => t.id = c.task.id ∧ t.taskId = c.task.taskId ∧ t.NotRunBy runner := by
    intro c known
    refine known.follows follows fun t t' advances notRun ⟨id, same, before⟩ => ?_
    exact ⟨advances.identity.1.trans id, advances.identity.2.1.trans same, notRun before⟩
  cases phase with
  | idle => trivial
  | inserting c | reading c | takingOver c | marking c | starting c => exact claim c sound
  | reloading c =>
    refine Has.started sound fun t known => ?_
    obtain ⟨t', known', advances, _⟩ := follows t known
    exact ⟨t', known', advances⟩
  | releasing taskId =>
    refine Has.follows sound follows fun t t' advances notRun ⟨same, before⟩ => ?_
    exact ⟨advances.identity.2.1.trans same, notRun before⟩
  | expiring | deleting => exact Int.le_trans sound later

/-- A lock is being deleted by a runner that was at it, or by the one that moved. -/
theorem Cluster.Deleting.of_setRunner {s : Cluster} {now : ℤ}
    (deleting : (s.setRunner runner phase).Deleting taskId now)
    : s.Deleting taskId now
      ∨ ∃ lock rest, phase = .deleting now lock rest ∧ lock.taskId = taskId := by
  obtain ⟨other, lock, rest, found, same⟩ := deleting
  by_cases own : other = runner
  · subst own
    exact .inr ⟨lock, rest, (update_self ..).symm.trans found, same⟩
  · refine .inl ⟨other, lock, rest, ?_, same⟩
    exact (update_of_ne own ..).symm.trans found

namespace Cluster.Leased

variable {s : Cluster} {runner taskId : String}

variable (leased : s.Leased)

include leased

/-- A runner deletes locks by a time it has read. -/
theorem deleting_le {now} (deleting : s.Deleting taskId now) : now ≤ s.clock := by
  obtain ⟨other, lock, rest, found, _⟩ := deleting
  have sound := leased.phases other
  rwa [found] at sound

variable {phase : RunnerPhase}

/-- A runner may go on if it knows where it stands and deletes no lock of a running task. -/
theorem setRunner (sound : phase.Sound s.tasks s.clock runner)
    (cleared : ∀ now lock rest, phase = .deleting now lock rest
      → ∀ t ∈ s.tasks.rows, t.taskId = lock.taskId → t.status ≠ .running)
    : (s.setRunner runner phase).Leased where
  phases :=
    (forall_update_iff s.runners fun other phase =>
      phase.Sound s.tasks s.clock other).mpr ⟨sound, fun other _ => leased.phases other⟩
  handlers := leased.handlers
  beats := by
    intro taskId h lockUntil found due now deleting
    rcases deleting.of_setRunner with before | ⟨lock, rest, deletes, same⟩
    · exact leased.beats taskId h lockUntil found due now before
    · obtain ⟨t, known, sameTask, started⟩ := (leased.handlers taskId h found).started
      refine .inr ⟨t, known, sameTask, fun active => ?_⟩
      exact cleared now lock rest deletes t known (sameTask.trans same.symm)
        (active.resolve_left started)
  leases := by
    intro t known running
    obtain ⟨l, lock, covers, kept⟩ := leased.leases t known running
    refine ⟨l, lock, covers, fun now deleting => ?_⟩
    rcases deleting.of_setRunner with before | ⟨swept, rest, deletes, same⟩
    · exact kept now before
    · exact absurd running (cleared now swept rest deletes t known same.symm)

/-- A runner that deletes nothing may go on. -/
theorem proceed (sound : phase.Sound s.tasks s.clock runner) (quiet : phase.Quiet)
    : (s.setRunner runner phase).Leased := by
  refine leased.setRunner sound fun now lock rest deletes => ?_
  rw [deletes] at quiet
  exact quiet.elim

/-- A runner may stop. -/
theorem rest : (s.setRunner runner .idle).Leased := leased.proceed trivial trivial

variable {tasks : Tasks}

/-- The tasks may change if each that runs ran before or is covered by a lock. -/
theorem setTasks (follows : ∀ runner, Follows runner s.tasks tasks ∨ s.runners runner = .idle)
    (running : ∀ t' ∈ tasks.rows, t'.status = .running
      → (∃ t ∈ s.tasks.rows, t.status = .running ∧ t.type = t'.type ∧ t.taskId = t'.taskId
          ∧ t.lockedBy = t'.lockedBy)
        ∨ ∃ l ∈ s.locks.rows, l.Covers t' ∧ s.clock ≤ l.lockedUntil)
    (advanced : Advanced s.tasks tasks)
    : Cluster.Leased { s with tasks := tasks } where
  phases := by
    intro other
    rcases follows other with followed | idle
    · exact (leased.phases other).follows followed (Int.le_refl _)
    · simp only [idle]
      trivial
  handlers := by
    intro taskId h found
    have sound := leased.handlers taskId h found
    exact ⟨sound.started.started advanced,
      fun releasing => (sound.finished releasing).ended advanced⟩
  beats := by
    intro taskId h lockUntil found due now deleting
    rcases leased.beats taskId h lockUntil found due now deleting with later | ended
    · exact .inl later
    · exact .inr (ended.ended advanced)
  leases := by
    intro t' known' runs
    rcases running t' known' runs with
      ⟨t, known, before, type, same, lockedBy⟩ | ⟨l, lock, covers, fresh⟩
    · obtain ⟨l, lock, covers, kept⟩ := leased.leases t known before
      exact ⟨l, lock, ⟨covers.type.trans type, covers.taskId.trans same,
        covers.lockedBy.trans lockedBy⟩, fun now deleting => kept now (same ▸ deleting)⟩
    · exact ⟨l, lock, covers, fun now deleting =>
        Int.le_trans (leased.deleting_le deleting) fresh⟩

/-- The locks may change if those that cover running tasks stay. -/
theorem setLocks {locks}
    (kept : ∀ t ∈ s.tasks.rows, t.status = .running → ∀ l ∈ s.locks.rows, l.Covers t
      → (∀ now, s.Deleting t.taskId now → now ≤ l.lockedUntil)
      → ∃ l' ∈ locks.rows, l'.Covers t
        ∧ ∀ now, s.Deleting t.taskId now → now ≤ l'.lockedUntil)
    : Cluster.Leased { s with locks := locks } :=
  { leased with
    leases := by
      intro t known running
      obtain ⟨l, lock, covers, safe⟩ := leased.leases t known running
      exact kept t known running l lock covers safe }

/-- A handler may go on if its heartbeat comes before any deletion or after the end. -/
theorem setHandler {h} (sound : h.Sound s.tasks taskId)
    (beats : ∀ lockUntil, h.heartbeat = .due lockUntil → ∀ now, s.Deleting taskId now
      → now ≤ lockUntil ∨ Has s.tasks fun t => t.taskId = taskId ∧ ¬t.status.Active)
    : (s.setHandler taskId h).Leased where
  __ := leased
  handlers := by
    refine (forall_update_iff s.handlers fun other held =>
      ∀ h', held = some h' → h'.Sound s.tasks other).mpr ⟨?_, fun other _ => leased.handlers other⟩
    rintro _ ⟨⟩
    exact sound
  beats := by
    refine (forall_update_iff s.handlers fun other held =>
      ∀ h' lockUntil, held = some h' → h'.heartbeat = .due lockUntil
        → ∀ now, s.Deleting other now → now ≤ lockUntil
          ∨ Has s.tasks fun t => t.taskId = other ∧ ¬t.status.Active).mpr
      ⟨?_, fun other _ => leased.beats other⟩
    rintro _ lockUntil ⟨⟩
    exact beats lockUntil

/-- An update of tasks that starts none keeps the leases. -/
theorem update {selects set}
    (rows : tasks.rows = s.tasks.rows.map (written selects set))
    (settles : ∀ t : SystemTask, selects t = true → t.Advances (set t)
      ∧ ((set t).status = .running → t.status = .running ∧ (set t).lockedBy = t.lockedBy))
    : Cluster.Leased { s with tasks := tasks } := by
  have writes : ∀ t : SystemTask, t.Advances (written selects set t)
      ∧ ((written selects set t).status = .running
        → t.status = .running ∧ (written selects set t).lockedBy = t.lockedBy) := by
    intro t
    unfold written
    split
    next selected => exact settles t selected
    · exact ⟨.same, fun running => ⟨running, rfl⟩⟩
  have member : ∀ t ∈ s.tasks.rows, written selects set t ∈ tasks.rows :=
    fun t known => rows ▸ List.mem_map_of_mem known
  refine leased.setTasks (fun runner => .inl fun t known => ?_) ?_
    fun t known => ⟨_, member t known, (writes t).1⟩
  · refine ⟨_, member t known, (writes t).1, fun notRun running own => ?_⟩
    obtain ⟨before, same⟩ := (writes t).2 running
    exact notRun before (same.symm.trans own)
  intro t' known' running
  rw [rows] at known'
  obtain ⟨t, known, rfl⟩ := List.mem_map.mp known'
  obtain ⟨before, same⟩ := (writes t).2 running
  obtain ⟨_, sameTask, sameType⟩ := (writes t).1.identity
  exact .inl ⟨t, known, before, sameType.symm, sameTask.symm, same.symm⟩

end Cluster.Leased

end HelsterApi.SystemTasks
