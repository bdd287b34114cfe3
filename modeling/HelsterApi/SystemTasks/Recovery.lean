import HelsterApi.SystemTasks.Leases

/-! What each statement of runners and handlers does to the locks of running tasks. As long as a
task has a lock, any other runner can expire it.
-/

namespace HelsterApi.SystemTasks

open Cluster Relational Transition

section

open List Option Table

theorem not_running_of_marked {tasks taskId now t}
    (known : t ∈ (markSystemTaskLeaseExpired taskId now tasks).rows) (same : t.taskId = taskId)
    : t.status ≠ .running := by
  obtain ⟨before, _, rfl⟩ := mem_update.mp known
  unfold written at same ⊢
  split
  · nofun
  next skipped =>
    rw [if_neg skipped] at same
    exact fun running => skipped (decide_eq_true ⟨same, running⟩)

theorem startTask_advances {tasks id type runner} (now) {t} (known : t ∈ tasks.rows)
    : ∃ t' ∈ (startTask id type runner now tasks).rows, t.Advances t'
      ∧ ∀ other ≠ runner, t.NotRunBy other → t'.NotRunBy other := by
  refine ⟨_, mem_map_of_mem known, ?_⟩
  unfold written
  split
  next selected =>
    exact ⟨.started (of_decide_eq_true selected).2.2, fun _ foreign _ _ => foreign.symm⟩
  · exact ⟨.same, fun _ _ notRun => notRun⟩

namespace Cluster.Leased

variable {s : Cluster} {runner taskId : String} {c : Claim} {ok : Bool}

variable (leased : s.Leased)

include leased

theorem mark {now marked unmarked}
    (sound : ∀ tasks, (s.runners runner).Sound tasks s.clock runner
      → marked.Sound tasks s.clock runner)
    (clears : ∀ now lock rest, marked = .deleting now lock rest → lock.taskId = taskId)
    (resting : unmarked.Sound s.tasks s.clock runner) (quiet : unmarked.Quiet)
    : (s.mark runner taskId now ok marked unmarked).Leased := by
  unfold Cluster.mark
  split
  · have settled : Leased
        { s with tasks := markSystemTaskLeaseExpired taskId now s.tasks } := by
      refine leased.update rfl fun t selected => ⟨?_, nofun⟩
      exact .ended (of_decide_eq_true selected).2 (by decide)
    refine settled.setRunner (sound _ (settled.phases runner)) ?_
    intro now lock rest deletes t known same
    exact not_running_of_marked known (same.trans (clears now lock rest deletes))
  · exact leased.proceed resting quiet

section

variable (known : Has s.tasks fun t =>
  t.id = c.task.id ∧ t.taskId = c.task.taskId ∧ t.NotRunBy runner)

include known

theorem insertLock : (s.insertLock runner c ok).Leased := by
  unfold Cluster.insertLock
  split
  next locks inserted =>
    split
    · have starting : (s.setRunner runner (.starting c)).Leased := leased.proceed known trivial
      refine starting.setLocks ?_
      intro t _ _ l lock covers safe
      exact ⟨l, insert_eq_some inserted ▸ mem_append_left _ lock, covers, safe⟩
    · exact leased.proceed known trivial
  · exact leased.proceed known trivial

theorem readLock : (s.readLock runner c ok).Leased := by
  unfold Cluster.readLock
  split
  · split
    · exact leased.proceed known trivial
    · exact leased.rest
  · exact leased.rest

omit known in
theorem takeOver (keyed : ∀ t ∈ s.tasks.rows, t.Keyed) {expiredTaskId}
    (known : Has s.tasks fun t => t.id = c.task.id ∧ t.taskId = c.task.taskId
      ∧ t.NotRunBy runner)
    (pending : ok = true → s.tasks.affects (claimSelects c.task.id c.task.type) = true)
    : (s.takeOver runner c expiredTaskId ok).Leased := by
  unfold Cluster.takeOver
  split
  next executed =>
    have acquired : (s.setRunner runner (c.acquired expiredTaskId)).Leased := by
      unfold Claim.acquired
      split <;> exact leased.proceed known trivial
    obtain ⟨claimed, knownClaimed, selected⟩ := any_eq_true.mp (pending executed.1)
    obtain ⟨_, sameType, isPending⟩ := of_decide_eq_true selected
    refine acquired.setLocks ?_
    intro t knownTask running l lock covers safe
    refine ⟨l, mem_update_of_not_selected lock ?_, covers, safe⟩
    -- a second active task of the type would have the same active key
    refine decide_eq_false fun ⟨ofType, _⟩ => ?_
    have sameTask := eq_of_clash knownClaimed knownTask
        ((keyed claimed knownClaimed).clash (keyed t knownTask) (.inl isPending) (.inr running)
          (sameType.trans (ofType.symm.trans covers.type)))
    simp [sameTask, running] at isPending
  · exact leased.rest

omit known in
theorem startTask (idle : s.runners runner = .idle) {claimed}
    (knownClaimed : claimed ∈ s.tasks.rows) (sameId : claimed.id = c.task.id)
    (sameTask : claimed.taskId = c.task.taskId) {l} (lock : l ∈ s.locks.rows)
    (holds : l.type = c.task.type ∧ l.taskId = c.task.taskId ∧ l.lockedBy = runner
      ∧ s.clock ≤ l.lockedUntil)
    : Leased { s with
        tasks := SystemTasks.startTask c.task.id c.task.type runner c.now s.tasks } := by
  obtain ⟨ofType, ofTask, ofRunner, fresh⟩ := holds
  refine leased.setTasks (fun other => ?_) ?_ fun t knownTask => ?_
  · by_cases own : other = runner
    · exact .inr (own ▸ idle)
    · refine .inl fun t knownTask => ?_
      obtain ⟨t', known', advances, notRun⟩ := startTask_advances c.now knownTask
      exact ⟨t', known', advances, notRun other own⟩
  · intro t' known' running
    obtain ⟨t, knownTask, rfl⟩ := mem_map.mp known'
    unfold written at running ⊢
    split
    next selected =>
      obtain ⟨id, type, _⟩ := of_decide_eq_true selected
      have same := eq_of_clash knownTask knownClaimed (.inl (id.trans sameId.symm))
      exact .inr ⟨l, lock,
        ⟨ofType.trans type.symm, by rw [ofTask, same, sameTask], ofRunner⟩, fresh⟩
    next skipped =>
      rw [if_neg skipped] at running
      exact .inl ⟨t, knownTask, running, rfl, rfl, rfl⟩
  · obtain ⟨t', known', advances, _⟩ := startTask_advances c.now knownTask
    exact ⟨t', known', advances⟩

theorem start (locked : ok = true → s.KeepsLease runner (.starting c))
    : (s.start runner c ok).Leased := by
  obtain ⟨claimed, knownClaimed, sameId, sameTask, notRun⟩ := known
  unfold Cluster.start
  split
  next executed =>
    obtain ⟨l, lock, holds⟩ := any_eq_true.mp (locked executed.1 executed.2)
    have started :=
      leased.rest.startTask (Function.update_self ..) knownClaimed sameId sameTask lock
        (of_decide_eq_true holds)
    obtain ⟨t, knownTask, selected⟩ := any_eq_true.mp executed.2
    have same := Table.eq_of_clash knownTask knownClaimed
        (.inl ((of_decide_eq_true selected).1.trans sameId.symm))
    have moved : (Cluster.setRunner { s.setRunner runner .idle with
        tasks := SystemTasks.startTask c.task.id c.task.type runner c.now s.tasks } runner
          (.reloading c)).Leased := by
      refine started.proceed ⟨_, mem_map_of_mem knownTask, ?_⟩ trivial
      rw [written, if_pos selected, same]
      exact ⟨sameTask, by simp⟩
    simpa only [Cluster.setRunner, Function.update_idem] using moved
  · exact leased.proceed ⟨claimed, knownClaimed, sameTask, notRun⟩ trivial

end

theorem reload (started : Has s.tasks fun t => t.taskId = c.task.taskId ∧ t.status ≠ .pending)
    : (s.reload runner c ok).Leased := by
  unfold Cluster.reload
  split
  · exact leased.rest.setHandler ⟨started, nofun⟩ nofun
  · exact leased.rest

theorem releaseLock (known : Has s.tasks fun t => t.taskId = taskId ∧ t.NotRunBy runner)
    : Leased { s with locks := releaseSystemTaskLock taskId runner s.locks } := by
  obtain ⟨released, knownReleased, sameTask, notRun⟩ := known
  refine leased.setLocks ?_
  intro t knownTask running l lock covers safe
  refine ⟨l, mem_delete.mpr ⟨lock, decide_eq_false fun ⟨ofTask, ofRunner⟩ => ?_⟩,
    covers, safe⟩
  have same :=
    eq_of_taskId knownReleased knownTask (sameTask.trans (ofTask.symm.trans covers.taskId))
  subst same
  exact notRun running (covers.lockedBy.symm.trans ofRunner)

theorem deleteStale {now lock rest} (phase : s.runners runner = .deleting now lock rest)
    : Leased { s with locks := deleteStaleLock lock now s.locks } := by
  refine leased.setLocks ?_
  intro t knownTask running l found covers safe
  refine ⟨l, mem_delete.mpr ⟨found, decide_eq_false fun ⟨_, ofTask, _, stale⟩ => ?_⟩, covers,
    safe⟩
  have outlasts := safe now ⟨runner, lock, rest, phase, ofTask.symm.trans covers.taskId⟩
  omega

theorem advance {s' now} (keyed : ∀ t ∈ s.tasks.rows, t.Keyed)
    (allowed : ok = true → s.KeepsLease runner (s.runners runner))
    (advanced : s.advance runner now ok = some s')
    : s'.Leased := by
  have sound := leased.phases runner
  unfold Cluster.advance at advanced
  cases phase : s.runners runner with rw [phase] at sound allowed advanced
  | idle => cases advanced
  | inserting c =>
    cases advanced
    exact leased.insertLock sound
  | reading c =>
    cases advanced
    exact leased.readLock sound
  | takingOver c expiredTaskId =>
    cases advanced
    exact leased.takeOver keyed sound allowed
  | marking c expiredTaskId =>
    cases advanced
    refine leased.mark (fun tasks known => ?_) (fun _ _ _ deletes => ?_) ?_ trivial
    · rwa [phase] at known
    · cases deletes
    · obtain ⟨t, known, _, same, notRun⟩ := sound
      exact ⟨t, known, same, notRun⟩
  | starting c =>
    cases advanced
    exact leased.start sound allowed
  | reloading c =>
    cases advanced
    exact leased.reload sound
  | releasing taskId =>
    cases advanced
    split
    · exact leased.rest.releaseLock sound
    · exact leased.rest
  | expiring sweepNow lock rest =>
    cases advanced
    refine leased.mark (fun tasks known => ?_) ?_ trivial trivial
    · rwa [phase] at known
    · rintro _ _ _ ⟨⟩
      rfl
  | deleting sweepNow lock rest =>
    dsimp only at advanced
    split at advanced <;> cases advanced
    · refine (leased.deleteStale phase).proceed ?_ ?_
      · cases rest with
        | nil => trivial
        | cons next rest => exact sound
      · cases rest <;> trivial
    · exact leased.rest

variable {s' : Cluster} {h : Handler} {now : ℤ}

theorem updateState {state} (updated : s.updateState taskId h state now ok = some s')
    : s'.Leased := by
  obtain ⟨_, moved⟩ := ite_none_right_eq_some.mp updated
  split at moved <;> cases moved
  next written =>
    rw [(guardedUpdate_eq_ok written).2]
    refine leased.update rfl fun t selected => ⟨?_, fun running => ⟨running, rfl⟩⟩
    exact .reported (ownSelects_eq_true selected).2.1
  · exact leased

variable (found : s.handlers taskId = some h)

include found

theorem finish {outcome result error}
    (finished : s.finish taskId h outcome result error now ok = some s')
    : s'.Leased := by
  obtain ⟨_, moved⟩ := ite_none_right_eq_some.mp finished
  split at moved <;> cases moved
  next tasks written =>
    obtain ⟨affected, updated⟩ := guardedUpdate_eq_ok written
    have settled : Leased { s with tasks := tasks } := by
      refine leased.update (congrArg rows updated) fun t selected => ⟨?_, fun running => ?_⟩
      · exact .ended (ownSelects_eq_true selected).2.1 outcome.not_active
      · exact absurd (.inr running) outcome.not_active
    have ended : Has tasks fun t => t.taskId = taskId ∧ ¬t.status.Active := by
      obtain ⟨t, known, selected⟩ := any_eq_true.mp affected
      rw [updated]
      refine ⟨_, mem_map_of_mem known, ?_⟩
      rw [Relational.written, if_pos selected]
      exact ⟨(ownSelects_eq_true selected).1, outcome.not_active⟩
    exact settled.setHandler ⟨(settled.handlers taskId h found).started, fun _ => ended⟩
      fun lockUntil due => settled.beats taskId h lockUntil found due
  · exact leased.setHandler ⟨(leased.handlers taskId h found).started, by simp⟩
      fun lockUntil due => leased.beats taskId h lockUntil found due

theorem release (released : s.release taskId h ok = some s') : s'.Leased := by
  obtain ⟨releasing, ⟨⟩⟩ := ite_none_right_eq_some.mp released
  have sound := leased.handlers taskId h found
  have returned : (s.setHandler taskId { h with stage := .returned }).Leased :=
    leased.setHandler ⟨sound.started, nofun⟩ fun lockUntil due =>
      leased.beats taskId h lockUntil found due
  split
  · refine returned.releaseLock ?_
    obtain ⟨t, known, same, ended⟩ := sound.finished releasing
    exact ⟨t, known, same, fun running => absurd (.inr running) ended⟩
  · exact returned

theorem beat (fresh : s.clock ≤ systemTaskLockUntil now) (beaten : s.beat taskId h now = some s')
    : s'.Leased := by
  obtain ⟨_, ⟨⟩⟩ := ite_none_right_eq_some.mp beaten
  have sound := leased.handlers taskId h found
  refine leased.setHandler ⟨sound.started, sound.finished⟩ ?_
  rintro _ ⟨⟩ now' deleting
  exact .inl (Int.le_trans (leased.deleting_le deleting) fresh)

theorem renew (renewed : s.renew taskId h now ok = some s') : s'.Leased := by
  have sound := leased.handlers taskId h found
  unfold Cluster.renew at renewed
  split at renewed
  next lockUntil due =>
    split at renewed <;> cases renewed
    next locks written =>
      obtain ⟨_, rfl⟩ := guardedUpdate_eq_ok written
      have waiting : (s.setHandler taskId { h with heartbeat := .waiting }).Leased :=
        leased.setHandler ⟨sound.started, sound.finished⟩ nofun
      refine waiting.setLocks ?_
      intro t known running l lock covers safe
      refine ⟨_, mem_map_of_mem lock, ?_⟩
      unfold Relational.written
      split
      next selected =>
        obtain ⟨ofTask, _, _⟩ := of_decide_eq_true selected
        have same := covers.taskId.symm.trans ofTask
        refine ⟨⟨covers.type, covers.taskId, covers.lockedBy⟩, fun now' deleting => ?_⟩
        rcases leased.beats taskId h lockUntil found due now' (same ▸ deleting) with
          later | ⟨ended, knownEnded, sameTask, notActive⟩
        · exact later
        · have same := eq_of_taskId knownEnded known (sameTask.trans same.symm)
          exact absurd (.inr (same ▸ running)) notActive
      · exact ⟨covers, safe⟩
    · exact leased.setHandler ⟨sound.started, sound.finished⟩ nofun
  · cases renewed

end Cluster.Leased

theorem Cluster.Leased.create {s : Cluster} (leased : s.Leased) {row : SystemTask}
    (pending : row.status = .pending) (ok)
    : (s.create row ok).Leased := by
  unfold Cluster.create
  split
  next tasks inserted =>
    have rows := insert_eq_some inserted
    have member : ∀ t ∈ s.tasks.rows, t ∈ tasks.rows :=
      fun t known => rows ▸ mem_append_left _ known
    split
    · refine leased.setTasks (fun runner => .inl fun t known => ?_) ?_
        fun t known => ⟨t, member t known, .same⟩
      · exact ⟨t, member t known, .same, id⟩
      · intro t known running
        rw [rows, mem_append, mem_singleton] at known
        rcases known with old | rfl
        · exact .inl ⟨t, old, running, rfl, rfl, rfl⟩
        · simp [pending] at running
    · exact leased
  · exact leased

theorem Cluster.Leased.claim {s : Cluster} (leased : s.Leased) (runner id)
    (type : SystemTaskType) (asked now ok)
    : (s.claim runner id type asked now ok).Leased := by
  unfold Cluster.claim
  split
  next task found =>
    split
    · refine leased.proceed ⟨task, mem_of_find?_eq_some found, rfl, rfl, ?_⟩ trivial
      have selected := find?_some found
      obtain ⟨_, _, pending⟩ := of_decide_eq_true selected
      intro running
      simp [pending] at running
    · exact leased
  · exact leased

/-- The invariant holds in every state of a run of restricted steps, by induction on it. -/
theorem leased_of_reaches {s} (reached : clusterMachine.Reaches LeaseSafe s) : s.Leased := by
  refine reached.invariant Leased ?_ ?_
  · rintro s ⟨noTasks, _, idle, noHandlers⟩
    refine ⟨fun runner => ?_, by simp [noHandlers], by simp [noHandlers], by simp [noTasks]⟩
    rw [idle]
    trivial
  · intro s action s' reached leased allowed moved
    obtain ⟨past, performed⟩ := ite_none_right_eq_some.mp moved
    cases action with try cases performed
    | tick seconds =>
      have later : s.clock ≤ s.clock + seconds := by omega
      exact ⟨fun runner => (leased.phases runner).follows
        (fun t known => ⟨t, known, .same, id⟩) later, leased.handlers, leased.beats,
        leased.leases⟩
    | create id taskId type payload state now ok => exact leased.create rfl ok
    | claim runner id type asked now ok =>
      obtain ⟨_, ⟨⟩⟩ := ite_none_right_eq_some.mp performed
      exact leased.claim runner id type asked now ok
    | expire runner now ok =>
      obtain ⟨_, ⟨⟩⟩ := ite_none_right_eq_some.mp performed
      have onTime := past now (mem_singleton_self now)
      split
      · cases staleLocks now s.locks with
        | nil => exact leased.rest
        | cons lock rest => exact leased.proceed onTime trivial
      · exact leased
    | advance runner now ok => exact leased.advance (keyed_of_reaches reached) allowed performed
    | updateState taskId state now ok =>
      obtain ⟨h, _, updated⟩ := bind_eq_some_iff.mp performed
      exact leased.updateState updated
    | finish taskId outcome result error now ok =>
      obtain ⟨h, found, finished⟩ := bind_eq_some_iff.mp performed
      exact leased.finish found finished
    | release taskId ok =>
      obtain ⟨h, found, released⟩ := bind_eq_some_iff.mp performed
      exact leased.release found released
    | beat taskId now =>
      obtain ⟨h, found, beaten⟩ := bind_eq_some_iff.mp performed
      exact leased.beat found allowed beaten
    | renew taskId now ok =>
      obtain ⟨h, found, renewed⟩ := bind_eq_some_iff.mp performed
      exact leased.renew found renewed

end

open Function

def By (runner : String) (_ : Cluster) : ClusterAction → Prop
  | .tick _ => True
  | .expire other _ _ => other = runner
  | .advance other _ _ => other = runner
  | _ => False

variable {now : ℤ}

theorem mem_of_marked {tasks taskId t}
    (known : t ∈ (markSystemTaskLeaseExpired taskId now tasks).rows) (active : t.status.Active)
    : t ∈ tasks.rows := by
  obtain ⟨before, knownBefore, rfl⟩ := Table.mem_update.mp known
  unfold written at active ⊢
  split
  next selected =>
    rw [if_pos selected] at active
    exact absurd active (show ¬SystemTaskStatus.failed.Active by decide)
  · exact knownBefore

variable {s : Cluster} {runner : String} {lock : SystemTaskLock}

theorem next_expiring {rest} (phase : s.runners runner = .expiring now lock rest)
    : clusterMachine.next s (.advance runner s.clock true)
      = some { s.setRunner runner (.deleting now lock rest) with
        tasks := markSystemTaskLeaseExpired lock.taskId s.clock s.tasks } := by
  simp [clusterMachine, ClusterAction.readings, perform, advance, phase,
    mark]

theorem next_deleting {rest} (phase : s.runners runner = .deleting now lock rest)
    : clusterMachine.next s (.advance runner s.clock true)
      = some { s.setRunner runner (.sweep now rest) with
        locks := deleteStaleLock lock now s.locks } := by
  simp [clusterMachine, ClusterAction.readings, perform, advance, phase]

/-- A runner that sweeps marks the task of each lock it has to deal with, by induction on the locks
left.
-/
theorem leads_marked {locks} (member : lock ∈ locks) (phase : s.runners runner = .sweep now locks)
    : ∃ s', clusterMachine.Leads (By runner) s s'
      ∧ (∀ t ∈ s'.tasks.rows, t.taskId = lock.taskId → t.status ≠ .running)
      ∧ ∀ t ∈ s'.tasks.rows, t.status.Active → t ∈ s.tasks.rows := by
  induction locks generalizing s with
  | nil => cases member
  | cons first rest ih =>
    let marked : Cluster := { s.setRunner runner (.deleting now first rest) with
      tasks := markSystemTaskLeaseExpired first.taskId s.clock s.tasks }
    have mark : clusterMachine.Leads (By runner) s marked :=
      .single (a := .advance runner s.clock true) rfl (next_expiring phase)
    rcases List.mem_cons.mp member with rfl | later
    · exact ⟨marked, mark, fun t known => not_running_of_marked known,
        fun t known => mem_of_marked known⟩
    · let deleted : Cluster := { marked.setRunner runner (.sweep now rest) with
        locks := deleteStaleLock first now marked.locks }
      have deleting : marked.runners runner = .deleting now first rest := update_self ..
      have delete : clusterMachine.Leads (By runner) marked deleted :=
        .single (a := .advance runner s.clock true) rfl (next_deleting deleting)
      have onward : deleted.runners runner = .sweep now rest := update_self ..
      obtain ⟨s', led, cleared, kept⟩ := ih later onward
      exact ⟨s', (mark.trans delete).trans led, cleared, fun t known active =>
        mem_of_marked (kept t known active) active⟩

theorem leads_expired (idle : s.runners runner = .idle) (member : lock ∈ s.locks.rows)
    : ∃ s', clusterMachine.Leads (By runner) s s'
      ∧ (∀ t ∈ s'.tasks.rows, t.taskId = lock.taskId → t.status ≠ .running)
      ∧ ∀ t ∈ s'.tasks.rows, t.status.Active → t ∈ s.tasks.rows := by
  let seconds := (lock.lockedUntil + 1 - s.clock).toNat
  let clock := s.clock + seconds
  have stale : lock.lockedUntil < clock := by omega
  let waited : Cluster := { s with clock := clock }
  have wait : clusterMachine.Leads (By runner) s waited := .single (a := .tick seconds) trivial rfl
  let sweeping := waited.setRunner runner (.sweep clock (staleLocks clock s.locks))
  have swept : clusterMachine.next waited (.expire runner clock true) = some sweeping := by
    simp [clusterMachine, ClusterAction.readings, perform, waited, sweeping, idle]
  have sweep : clusterMachine.Leads (By runner) waited sweeping :=
    .single (a := .expire runner clock true) rfl swept
  have listed : lock ∈ staleLocks clock s.locks :=
    List.mem_filter.mpr ⟨member, decide_eq_true stale⟩
  have phase : sweeping.runners runner = .sweep clock (staleLocks clock s.locks) :=
    update_self ..
  obtain ⟨s', led, cleared, kept⟩ := leads_marked listed phase
  exact ⟨s', (wait.trans sweep).trans led, cleared, kept⟩

/-- Every running task has a lock with its task id, and any idle runner can expire it and so free
its type.
-/
structure Cluster.Recoverable (s : Cluster) : Prop where
  locked : ∀ t ∈ s.tasks.rows, t.status = .running → ∃ l ∈ s.locks.rows, l.taskId = t.taskId
  freed : ∀ t ∈ s.tasks.rows, t.status = .running → ∀ runner, s.runners runner = .idle
    → ∃ s', clusterMachine.Leads (By runner) s s' ∧ s'.activeTasks t.type = []

/-- In every run in which claims keep to their lease, each running task has its lock and can
be expired.
-/
theorem running_tasks_recoverable {s} (reached : clusterMachine.Reaches LeaseSafe s)
    : s.Recoverable := by
  have leased := leased_of_reaches reached
  have keyed := keyed_of_reaches reached
  refine ⟨fun t known running => ?_, fun t known running runner idle => ?_⟩
  · obtain ⟨l, lock, covers, _⟩ := leased.leases t known running
    exact ⟨l, lock, covers.taskId⟩
  · obtain ⟨l, lock, covers, _⟩ := leased.leases t known running
    obtain ⟨s', led, cleared, kept⟩ := leads_expired idle lock
    refine ⟨s', led, List.filter_eq_nil_iff.mpr fun t' known' selected => ?_⟩
    obtain ⟨sameType, active⟩ := of_decide_eq_true selected
    have before := kept t' known' active
    have same := Table.eq_of_clash before known
        ((keyed t' before).clash (keyed t known) active (.inr running) sameType)
    subst same
    exact cleared t' known' covers.taskId.symm running

/-- Witness: a task that was claimed in time can be expired by another runner. -/
theorem claimed_recoverable
    : (played claimed).tasks.rows.map (fun t => t.status) = [.running]
      ∧ (played claimed).Recoverable :=
  ⟨by decide +kernel, running_tasks_recoverable
    (Machine.reaches_play ⟨rfl, rfl, rfl, rfl⟩ (by decide +kernel))⟩

def stalledClaim : List ClusterAction :=
  [.create 1 "t" .logCleanup "" "" 0 true, .claim "a" 1 .logCleanup 0 0 true,
    .advance "a" 0 true, .tick 100, .expire "b" 100 true, .advance "b" 100 true,
    .advance "b" 100 true, .advance "a" 100 true]

/-- A task that runs without a lock. -/
theorem stalledClaim_not_locked
    : clusterMachine.Reaches anyStep (played stalledClaim)
      ∧ (played stalledClaim).tasks.rows.map (fun t => (t.taskId, t.status)) = [("t", .running)]
      ∧ (played stalledClaim).locks.rows = []
      ∧ ¬(played stalledClaim).Recoverable := by
  have noLocks : (played stalledClaim).locks.rows = [] := by decide +kernel
  have runs : ∃ t ∈ (played stalledClaim).tasks.rows, t.status = .running := by decide +kernel
  refine ⟨Machine.reaches_play ⟨rfl, rfl, rfl, rfl⟩ (by decide +kernel), by decide +kernel,
    noLocks, fun recoverable => ?_⟩
  obtain ⟨t, known, running⟩ := runs
  obtain ⟨l, lock, _⟩ := recoverable.locked t known running
  simp [noLocks] at lock

end HelsterApi.SystemTasks
