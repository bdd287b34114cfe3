import HelsterApi.Tasks.Rows
import Mathlib.Data.List.AList

/-! One polling pass over the unfinished tasks of a platform. The pass groups their upstream ids by
channel, but keeps the tasks in one map by upstream id, which the requests and answers of all
channels go through.
-/

namespace HelsterApi.Tasks

open List Option

structure PolledTask where
  (id channelId : ℤ)
  taskID : String
  upstreamTaskID : String := ""
  row : Task
  deriving DecidableEq

def PolledTask.getUpstreamTaskID (task : PolledTask) : String :=
  if task.upstreamTaskID ≠ "" then task.upstreamTaskID else task.taskID

structure TaskTable where
  rows : List PolledTask
  distinct : (rows.map (·.id)).Nodup

def TaskTable.unfinished (table : TaskTable) (platform : TaskPlatform) : List PolledTask :=
  table.rows.filter fun task => task.row.Unfinished ∧ task.row.platform = platform

/-- A query that fails finds nothing. -/
def TaskTable.getAllUnFinishSyncTasks (table : TaskTable) (fault : Bool) (limit : ℕ)
    : List PolledTask :=
  if fault then [] else (table.rows.filter fun task => task.row.Unfinished).take limit

/-- What a pass collects: the tasks by upstream id, the upstream ids by channel, and the tasks that
have none.
-/
structure PlatformBatch where
  taskM : AList (fun _ : String => PolledTask) := ∅
  taskChannelM : AList (fun _ : ℤ => List String) := ∅
  nullTasks : List PolledTask := []

def PlatformBatch.add (batch : PlatformBatch) (task : PolledTask) : PlatformBatch :=
  let upstreamID := task.getUpstreamTaskID
  if upstreamID = "" then { batch with nullTasks := batch.nullTasks ++ [task] }
  else
    { batch with
      taskM := batch.taskM.insert upstreamID task
      taskChannelM := batch.taskChannelM.insert task.channelId
        ((batch.taskChannelM.lookup task.channelId).getD [] ++ [upstreamID]) }

def collect (tasks : List PolledTask) : PlatformBatch := tasks.foldl PlatformBatch.add {}

/-- What a pass does for a task: it asks a channel for it, applies what a channel answered under an
id to it, or fails it unasked.
-/
inductive PollEvent where
  | query (channelId : ℤ) (task : PolledTask)
  | answer (channelId : ℤ) (taskID : String) (task : PolledTask)
  | fail (failReason : Option String) (task : PolledTask)
  deriving DecidableEq

/-- What the visit of a channel meets: whether the pass is still live, whether the channel can be
loaded, how many video tasks are polled before the pass is cancelled, which of their responses can
be used, and under which ids Suno answers.
-/
structure ChannelVisit where
  (started found : Bool := true)
  reached : ℕ
  usable : PolledTask → Bool := fun _ => true
  items : List String := []

open ChannelVisit

/-- What a pass meets: a failed query, the limit of the query, a cancellation before the platform's
turn, whether the platform has an adaptor, and its visits.
-/
structure PollReads where
  fault : Bool := false
  limit : ℕ := 1000
  cancelled : Bool := false
  adaptorFound : Bool := true
  visits : ℤ → ChannelVisit

def channelFailReason (platform : TaskPlatform) (channelId : ℤ) : String :=
  match platform with
  | .suno => "获取渠道信息失败，请联系管理员，渠道ID：" ++ toString channelId
  | .video => "Failed to get channel info, channel ID: " ++ toString channelId

variable (visit : ChannelVisit)

def fetchSunoTasks (channelId : ℤ) (taskIds : List String)
    (taskM : AList fun _ : String => PolledTask)
    : List PollEvent :=
  (taskIds.filterMap taskM.lookup).map (.query channelId)
    ++ visit.items.filterMap fun id => (taskM.lookup id).map (.answer channelId id)

def fetchVideoTask (channelId : ℤ) (taskM : AList fun _ : String => PolledTask) (taskId : String)
    : List PollEvent :=
  match taskM.lookup taskId with
  | none => []
  | some task =>
    .query channelId task ::
      if visit.usable task then [.answer channelId task.getUpstreamTaskID task] else []

def updateTasks (reads : PollReads) (platform : TaskPlatform)
    (taskM : AList fun _ : String => PolledTask) (channelId : ℤ) (taskIds : List String)
    : List PollEvent :=
  let visit := reads.visits channelId
  if !visit.started then []
  else if !visit.found then
    (taskIds.filterMap taskM.lookup).map
      (.fail (some (channelFailReason platform channelId)))
  else if !reads.adaptorFound then []
  else
    match platform with
    | .suno => fetchSunoTasks visit channelId taskIds taskM
    | .video => (taskIds.take visit.reached).flatMap (fetchVideoTask visit channelId taskM)

/-- The channels of a video platform are visited at the same time. -/
def pollPlatform (reads : PollReads) (platform : TaskPlatform) (tasks : List PolledTask)
    : List PollEvent :=
  (collect tasks).nullTasks.map (.fail none)
    ++ (collect tasks).taskChannelM.entries.flatMap fun entry =>
      updateTasks reads platform (collect tasks).taskM entry.1 entry.2

def PollReads.loaded (reads : PollReads) (table : TaskTable) (platform : TaskPlatform)
    : List PolledTask :=
  (table.getAllUnFinishSyncTasks reads.fault reads.limit).filter
    fun task => task.row.platform = platform

def runTaskPollingOnce (reads : PollReads) (table : TaskTable) (platform : TaskPlatform)
    : List PollEvent :=
  if reads.cancelled then [] else pollPlatform reads platform (reads.loaded table platform)

def channelTasks (tasks : List PolledTask) (channelId : ℤ) : List PolledTask :=
  tasks.filter fun task => task.getUpstreamTaskID ≠ "" ∧ task.channelId = channelId

section

variable {tasks : List PolledTask} {task : PolledTask}

theorem collect_concat (tasks task) : collect (tasks ++ [task]) = (collect tasks).add task := by
  simp [collect]

/-- Under an upstream id the pass keeps the last task that has it, by induction from the
last task.
-/
theorem collect_taskM (tasks : List PolledTask) (id)
    : (collect tasks).taskM.lookup id
      = tasks.reverse.find? fun task =>
          decide (task.getUpstreamTaskID ≠ "" ∧ task.getUpstreamTaskID = id) := by
  induction tasks using reverseRecOn with
  | nil => rfl
  | append_singleton tasks task ih =>
    rw [collect_concat, reverse_append, reverse_singleton, singleton_append]
    dsimp only [PlatformBatch.add]
    by_cases null : task.getUpstreamTaskID = ""
    · rw [if_pos null, find?_cons_of_neg (by simp [null]), ← ih]
    · rw [if_neg null]
      by_cases same : id = task.getUpstreamTaskID
      · subst same
        rw [AList.lookup_insert, find?_cons_of_pos (by simp [null])]
      · rw [AList.lookup_insert_ne same, ih, find?_cons_of_neg (by simpa [null] using Ne.symm same)]

theorem channelTasks_concat_other {channelId}
    (other : ¬(task.getUpstreamTaskID ≠ "" ∧ task.channelId = channelId))
    : channelTasks (tasks ++ [task]) channelId = channelTasks tasks channelId := by
  simp only [channelTasks, filter_append]
  rw [filter_cons_of_neg (by simpa using other), filter_nil, append_nil]

/-- Under a channel the pass keeps the upstream ids of its tasks, by induction from the last
task.
-/
theorem collect_taskChannelM (tasks channelId)
    : (collect tasks).taskChannelM.lookup channelId
      = if channelTasks tasks channelId = [] then none
        else some ((channelTasks tasks channelId).map (·.getUpstreamTaskID)) := by
  induction tasks using reverseRecOn with
  | nil => rfl
  | append_singleton tasks task ih =>
    rw [collect_concat]
    dsimp only [PlatformBatch.add]
    by_cases null : task.getUpstreamTaskID = ""
    · rwa [if_pos null, channelTasks_concat_other fun own => own.1 null]
    · rw [if_neg null]
      by_cases same : channelId = task.channelId
      · subst same
        rw [AList.lookup_insert, ih, show channelTasks (tasks ++ [task]) task.channelId
          = channelTasks tasks task.channelId ++ [task] by simp [channelTasks, null]]
        by_cases first : channelTasks tasks task.channelId = [] <;> simp [first]
      · rw [AList.lookup_insert_ne same, ih, channelTasks_concat_other fun own => same own.2.symm]

theorem mem_of_collect_taskM {id} (kept : (collect tasks).taskM.lookup id = some task)
    : task ∈ tasks ∧ task.getUpstreamTaskID = id ∧ task.getUpstreamTaskID ≠ "" := by
  rw [collect_taskM] at kept
  have has := find?_some kept
  have member := mem_of_find?_eq_some kept
  simp only [decide_eq_true_eq] at has
  exact ⟨mem_reverse.mp member, has.2, has.1⟩

theorem mem_collect_taskChannelM {channelId taskIds}
    : ⟨channelId, taskIds⟩ ∈ (collect tasks).taskChannelM.entries
      ↔ channelTasks tasks channelId ≠ []
        ∧ taskIds = (channelTasks tasks channelId).map (·.getUpstreamTaskID) := by
  rw [← AList.mem_lookup_iff, collect_taskChannelM, mem_def]
  split
  next empty => simp [empty]
  next some_ => simp [some_, eq_comm]

end

def queriesOf (task : PolledTask) (log : List PollEvent) : List ℤ :=
  log.filterMap fun
    | .query channelId asked => if asked = task then some channelId else none
    | _ => none

def ChannelVisit.asked {α : Type*} (visit : ChannelVisit) (platform : TaskPlatform)
    (elements : List α)
    : List α :=
  match platform with
  | .suno => elements
  | .video => elements.take visit.reached

structure PollReads.Visits (reads : PollReads) (channelId : ℤ) : Prop where
  started : (reads.visits channelId).started = true
  found : (reads.visits channelId).found = true
  adaptor : reads.adaptorFound = true

theorem ChannelVisit.asked_map {α β : Type*} (platform)
    (f : α → β) (elements : List α)
    : visit.asked platform (elements.map f) = (visit.asked platform elements).map f := by
  cases platform with
  | suno => rfl
  | video => exact map_take.symm

theorem ChannelVisit.asked_sublist {α : Type*} (platform) (elements : List α)
    : (visit.asked platform elements).Sublist elements := by
  cases platform with
  | suno => exact List.Sublist.refl elements
  | video => exact take_sublist _ _

section

variable {reads : PollReads} {platform : TaskPlatform}
  {taskM : AList fun _ : String => PolledTask} {channelId : ℤ} {taskIds : List String}
  {task : PolledTask}

theorem queriesOf_append (task log log')
    : queriesOf task (log ++ log') = queriesOf task log ++ queriesOf task log' := filterMap_append

theorem queriesOf_flatMap {α : Type*} (task) (elements : List α)
    (events : α → List PollEvent)
    : queriesOf task (elements.flatMap events)
      = elements.flatMap fun element => queriesOf task (events element) := filterMap_flatMap

theorem queriesOf_fetchVideoTask (taskId)
    : queriesOf task (fetchVideoTask visit channelId taskM taskId)
      = if taskM.lookup taskId = some task then [channelId] else [] := by
  unfold fetchVideoTask
  cases taskM.lookup taskId with
  | none => rfl
  | some found =>
    by_cases usable : visit.usable found <;> by_cases same : found = task
      <;> simp [queriesOf, same, usable]

/-- The request for some ids asks for the tasks found under them, by induction on the ids. -/
theorem queriesOf_fetchSunoTasks (taskIds : List String)
    : queriesOf task (fetchSunoTasks visit channelId taskIds taskM)
      = taskIds.flatMap fun taskId =>
          if taskM.lookup taskId = some task then [channelId] else [] := by
  have answers : queriesOf task
      (visit.items.filterMap fun id => (taskM.lookup id).map (PollEvent.answer channelId id))
      = [] := by
    rw [queriesOf, filterMap_filterMap, filterMap_eq_nil_iff]
    intro id _
    cases taskM.lookup id with
    | none | some => rfl
  rw [fetchSunoTasks, queriesOf_append, answers, append_nil]
  induction taskIds with
  | nil => rfl
  | cons taskId taskIds ih =>
    rw [flatMap_cons, ← ih, filterMap_cons]
    cases taskM.lookup taskId with
    | none => rfl
    | some found => by_cases same : found = task <;> simp [queriesOf, same]

theorem queriesOf_updateTasks (reads : PollReads) (platform)
    (taskM : AList fun _ : String => PolledTask) (channelId taskIds)
    (task)
    : (reads.Visits channelId
        → queriesOf task (updateTasks reads platform taskM channelId taskIds)
          = ((reads.visits channelId).asked platform taskIds).flatMap fun taskId =>
              if taskM.lookup taskId = some task then [channelId] else [])
      ∧ (¬reads.Visits channelId
        → queriesOf task (updateTasks reads platform taskM channelId taskIds) = []) := by
  constructor
  · rintro ⟨started, found, adaptor⟩
    simp only [updateTasks, started, found, adaptor, Bool.not_true, Bool.false_eq_true, if_false]
    cases platform with
    | suno => exact queriesOf_fetchSunoTasks _ taskIds
    | video =>
      rw [queriesOf_flatMap]
      simp only [queriesOf_fetchVideoTask]
      rfl
  · intro unvisited
    dsimp only [updateTasks]
    split
    · rfl
    next started =>
      split
      · simp [queriesOf]
      next found =>
        split
        · rfl
        next adaptor =>
          exact absurd ⟨by simpa using started, by simpa using found, by simpa using adaptor⟩
            unvisited

theorem mem_updateTasks_answer {answered id}
    (applied : .answer answered id task ∈ updateTasks reads platform taskM channelId taskIds)
    : answered = channelId
      ∧ ((platform = .suno ∧ id ∈ (reads.visits channelId).items
            ∧ taskM.lookup id = some task)
        ∨ (id = task.getUpstreamTaskID
            ∧ ∃ taskId ∈ taskIds, taskM.lookup taskId = some task)) := by
  dsimp only [updateTasks] at applied
  split at applied
  · cases applied
  split at applied
  · obtain ⟨_, _, failed⟩ := mem_map.mp applied
    cases failed
  · split at applied
    · cases applied
    · split at applied
      · rcases mem_append.mp applied with query | item
        · obtain ⟨_, _, asked⟩ := mem_map.mp query
          cases asked
        · obtain ⟨named, listed, found⟩ := mem_filterMap.mp item
          obtain ⟨_, kept, same⟩ := map_eq_some_iff.mp found
          cases same
          exact ⟨rfl, .inl ⟨rfl, listed, kept⟩⟩
      · obtain ⟨taskId, reached, called⟩ := mem_flatMap.mp applied
        unfold fetchVideoTask at called
        split at called
        · cases called
        rename_i found kept
        rcases mem_cons.mp called with query | answer
        · cases query
        · split at answer
          · cases mem_singleton.mp answer
            exact ⟨rfl, .inr ⟨rfl, taskId, mem_of_mem_take reached, kept⟩⟩
          · cases answer

end

/-- A pass asks for every unfinished task of a platform exactly once, on its own channel, and
applies an answer only to the task that its channel was asked for under its id.
-/
structure PolledRight (table : TaskTable) (platform : TaskPlatform) (log : List PollEvent)
    : Prop where
  once : ∀ task ∈ table.unfinished platform, queriesOf task log = [task.channelId]
  answered : ∀ channelId id task, .answer channelId id task ∈ log
    → channelId = task.channelId ∧ id = task.getUpstreamTaskID

/-- What a pass needs to poll a task right: the task is loaded before the limit and reached on its
channel, which can be loaded; it has an upstream id that no other unfinished task of the platform
has; and no other channel that is asked answers under that id.
-/
structure Pollable (reads : PollReads) (table : TaskTable) (platform : TaskPlatform)
    (task : PolledTask)
    : Prop where
  live : reads.cancelled = false
  named : task.getUpstreamTaskID ≠ ""
  unique : ∀ other ∈ table.unfinished platform,
    other.getUpstreamTaskID = task.getUpstreamTaskID → other = task
  visits : reads.Visits task.channelId
  reached : task ∈ (reads.visits task.channelId).asked platform
    (channelTasks (reads.loaded table platform) task.channelId)
  answered : platform = .suno → ∀ other ∈ table.unfinished platform,
    task.getUpstreamTaskID ∈ (reads.visits other.channelId).items
    → other.channelId = task.channelId

/-- A list that yields an element at one place and nothing elsewhere yields that element, by
induction on it.
-/
theorem flatMap_eq_singleton {α β : Type*} {elements : List α} {f : α → List β} {a : α} {b : β}
    (distinct : elements.Nodup) (member : a ∈ elements) (here : f a = [b])
    (elsewhere : ∀ c ∈ elements, c ≠ a → f c = [])
    : elements.flatMap f = [b] := by
  induction elements with
  | nil => cases member
  | cons first rest ih =>
    obtain ⟨fresh, distinctRest⟩ := nodup_cons.mp distinct
    rw [flatMap_cons]
    rcases mem_cons.mp member with rfl | later
    · have nothing : rest.flatMap f = [] := by
        rw [flatMap_eq_nil_iff]
        intro c listed
        exact elsewhere c (mem_cons_of_mem _ listed) fun same => fresh (same ▸ listed)
      simp [here, nothing]
    · rw [elsewhere first mem_cons_self fun same => fresh (same ▸ later), nil_append]
      exact ih distinctRest later fun c listed => elsewhere c (mem_cons_of_mem _ listed)

section

variable {reads : PollReads} {table : TaskTable} {platform : TaskPlatform} {task : PolledTask}

theorem loaded_sublist (reads : PollReads) (table : TaskTable) (platform)
    : (reads.loaded table platform).Sublist (table.unfinished platform) := by
  have split_ : table.unfinished platform
      = (table.rows.filter fun task => task.row.Unfinished).filter
          fun task => task.row.platform = platform := by
    rw [TaskTable.unfinished, List.filter_filter]
    congr 1
    funext task
    simp [and_comm]
  rw [split_, PollReads.loaded, TaskTable.getAllUnFinishSyncTasks]
  split
  · exact nil_sublist _
  · exact (take_sublist _ _).filter _

theorem mem_channelTasks {tasks channelId}
    : task ∈ channelTasks tasks channelId
      ↔ task ∈ tasks ∧ task.getUpstreamTaskID ≠ "" ∧ task.channelId = channelId := by
  simp [channelTasks]

theorem mem_of_asked {channelId}
    (asked : task ∈ (reads.visits channelId).asked platform
      (channelTasks (reads.loaded table platform) channelId))
    : task ∈ table.unfinished platform ∧ task.channelId = channelId := by
  obtain ⟨listed, _, own⟩ := mem_channelTasks.mp ((asked_sublist _ _ _).subset asked)
  exact ⟨(loaded_sublist reads table platform).subset listed, own⟩

theorem Pollable.kept (pollable : Pollable reads table platform task)
    : (collect (reads.loaded table platform)).taskM.lookup task.getUpstreamTaskID
      = some task := by
  have onChannel := (asked_sublist _ _ _).subset pollable.reached
  cases kept : (collect (reads.loaded table platform)).taskM.lookup task.getUpstreamTaskID with
  | none =>
    rw [collect_taskM, find?_eq_none] at kept
    have unnamed : task.getUpstreamTaskID = "" := by
      simpa using kept task (mem_reverse.mpr (mem_channelTasks.mp onChannel).1)
    exact absurd unnamed pollable.named
  | some other =>
    obtain ⟨listed, sameId, _⟩ := mem_of_collect_taskM kept
    rw [pollable.unique other ((loaded_sublist reads table platform).subset listed) sameId]

theorem queriesOf_runTaskPollingOnce (live : reads.cancelled = false) (task)
    : queriesOf task (runTaskPollingOnce reads table platform)
      = (collect (reads.loaded table platform)).taskChannelM.entries.flatMap fun entry =>
          queriesOf task (updateTasks reads platform
            (collect (reads.loaded table platform)).taskM entry.1 entry.2) := by
  have fails : queriesOf task
      ((collect (reads.loaded table platform)).nullTasks.map (.fail none)) = [] := by
    simp [queriesOf]
  rw [runTaskPollingOnce, live, pollPlatform, if_neg Bool.false_ne_true, queriesOf_append, fails,
    nil_append, queriesOf_flatMap]

theorem queriesOf_visit
    (pollable : ∀ task ∈ table.unfinished platform, Pollable reads table platform task)
    (member : task ∈ table.unfinished platform) (channelId : ℤ)
    : queriesOf task (updateTasks reads platform
          (collect (reads.loaded table platform)).taskM channelId
          ((channelTasks (reads.loaded table platform) channelId).map (·.getUpstreamTaskID)))
      = if channelId = task.channelId then [channelId] else [] := by
  obtain ⟨asks, silent⟩ := queriesOf_updateTasks reads platform
    (collect (reads.loaded table platform)).taskM channelId
    ((channelTasks (reads.loaded table platform) channelId).map (·.getUpstreamTaskID)) task
  -- each id that is asked stands for the task it was collected from
  have stands : ∀ other ∈ (reads.visits channelId).asked platform
      (channelTasks (reads.loaded table platform) channelId),
      (collect (reads.loaded table platform)).taskM.lookup other.getUpstreamTaskID
        = some other :=
    fun other asked => (pollable other (mem_of_asked asked).1).kept
  split
  next own =>
    subst own
    rw [asks (pollable task member).visits, asked_map, flatMap_map]
    refine flatMap_eq_singleton ?_ (pollable task member).reached ?_ ?_
    · exact ((asked_sublist _ _ _).trans filter_sublist).nodup
        ((loaded_sublist reads table platform).nodup (table.distinct.of_map _ |>.filter _))
    · rw [if_pos (pollable task member).kept]
    · intro other asked different
      rw [stands other asked, if_neg fun same => different (some.inj same)]
  next foreign =>
    by_cases visited : reads.Visits channelId
    · rw [asks visited, asked_map, flatMap_map, flatMap_eq_nil_iff]
      intro other asked
      rw [stands other asked, if_neg]
      intro same
      exact foreign ((mem_of_asked asked).2.symm.trans
        (congrArg PolledTask.channelId (some.inj same)))
    · exact silent visited

theorem polledRight_of_pollable
    (pollable : ∀ task ∈ table.unfinished platform, Pollable reads table platform task)
    : PolledRight table platform (runTaskPollingOnce reads table platform) := by
  constructor
  · intro task member
    rw [queriesOf_runTaskPollingOnce (pollable task member).live]
    have onChannel := (asked_sublist _ _ _).subset (pollable task member).reached
    refine flatMap_eq_singleton
      (collect (reads.loaded table platform)).taskChannelM.nodupKeys.nodup
      (mem_collect_taskChannelM.mpr ⟨ne_nil_of_mem onChannel, rfl⟩) ?_ ?_
    · rw [queriesOf_visit pollable member, if_pos rfl]
    · rintro ⟨channelId, taskIds⟩ listed different
      obtain ⟨_, rfl⟩ := mem_collect_taskChannelM.mp listed
      rw [queriesOf_visit pollable member, if_neg]
      rintro rfl
      exact different rfl
  · intro channelId id task applied
    unfold runTaskPollingOnce at applied
    split at applied
    · cases applied
    rcases mem_append.mp applied with failed | visited
    · obtain ⟨_, _, failure⟩ := mem_map.mp failed
      cases failure
    · obtain ⟨⟨visitedChannel, taskIds⟩, listed, answer⟩ := mem_flatMap.mp visited
      obtain ⟨occupied, rfl⟩ := mem_collect_taskChannelM.mp listed
      obtain ⟨rfl, cases_⟩ := mem_updateTasks_answer answer
      rcases cases_ with ⟨suno, named, kept⟩ | ⟨rfl, taskId, asked, kept⟩
      · -- the channel has a task of its own, so it must not answer for another channel
        obtain ⟨other, onChannel⟩ := exists_mem_of_ne_nil _ occupied
        obtain ⟨otherListed, _, own⟩ := mem_channelTasks.mp onChannel
        obtain ⟨taskListed, rfl, _⟩ := mem_of_collect_taskM kept
        have unfinished := (loaded_sublist reads table platform).subset taskListed
        have same := (pollable task unfinished).answered suno other
          ((loaded_sublist reads table platform).subset otherListed)
        rw [own] at same
        exact ⟨same named, rfl⟩
      · obtain ⟨other, onChannel, rfl⟩ := mem_map.mp asked
        obtain ⟨otherListed, _, own⟩ := mem_channelTasks.mp onChannel
        have unfinished := (loaded_sublist reads table platform).subset otherListed
        rw [(pollable other unfinished).kept] at kept
        cases kept
        exact ⟨own.symm, rfl⟩

structure AskedFor (reads : PollReads) (table : TaskTable) (platform : TaskPlatform)
    (task : PolledTask)
    : Prop where
  live : reads.cancelled = false
  kept : (collect (reads.loaded table platform)).taskM.lookup task.getUpstreamTaskID
    = some task
  visits : reads.Visits task.channelId
  reached : ∃ other ∈ (reads.visits task.channelId).asked platform
      (channelTasks (reads.loaded table platform) task.channelId),
    other.getUpstreamTaskID = task.getUpstreamTaskID

theorem askedFor_of_mem
    (asked : task.channelId ∈ queriesOf task (runTaskPollingOnce reads table platform))
    : AskedFor reads table platform task := by
  have live : reads.cancelled = false := by
    cases cancelled : reads.cancelled with
    | false => rfl
    | true =>
      rw [runTaskPollingOnce, cancelled] at asked
      cases asked
  rw [queriesOf_runTaskPollingOnce live] at asked
  obtain ⟨⟨channelId, taskIds⟩, listed, query⟩ := mem_flatMap.mp asked
  obtain ⟨_, rfl⟩ := mem_collect_taskChannelM.mp listed
  obtain ⟨asks, silent⟩ := queriesOf_updateTasks reads platform
    (collect (reads.loaded table platform)).taskM channelId
    ((channelTasks (reads.loaded table platform) channelId).map (·.getUpstreamTaskID)) task
  by_cases visited : reads.Visits channelId
  · rw [asks visited, asked_map] at query
    obtain ⟨taskId, reached, own⟩ := mem_flatMap.mp query
    split at own
    next kept =>
      cases mem_singleton.mp own
      obtain ⟨_, rfl, _⟩ := mem_of_collect_taskM kept
      obtain ⟨other, otherReached, same⟩ := mem_map.mp reached
      exact ⟨live, kept, visited, other, otherReached, same⟩
    · cases own
  · simp [silent visited] at query

theorem pollable_of_polledRight
    (right : PolledRight table platform (runTaskPollingOnce reads table platform))
    : ∀ task ∈ table.unfinished platform, Pollable reads table platform task := by
  have askedFor : ∀ task ∈ table.unfinished platform, AskedFor reads table platform task :=
    fun task member => askedFor_of_mem (by rw [right.once task member]; exact mem_cons_self)
  have unique : ∀ task ∈ table.unfinished platform, ∀ other ∈ table.unfinished platform,
      other.getUpstreamTaskID = task.getUpstreamTaskID → other = task := by
    intro task member other otherMember same
    have kept := (askedFor task member).kept
    rw [← same, (askedFor other otherMember).kept] at kept
    exact some.inj kept
  intro task member
  obtain ⟨live, kept, visits, other, reached, same⟩ := askedFor task member
  have same := unique task member other (mem_of_asked reached).1 same
  refine ⟨live, (mem_of_collect_taskM kept).2.2, unique task member, visits, ?_, ?_⟩
  · exact same ▸ reached
  · rintro rfl neighbour neighbourMember named
    obtain ⟨_, _, neighbourVisits, witness, neighbourReached, _⟩ :=
      askedFor neighbour neighbourMember
    have occupied := ne_nil_of_mem
      ((asked_sublist _ _ _).subset neighbourReached)
    refine (right.answered neighbour.channelId task.getUpstreamTaskID task ?_).1
    rw [runTaskPollingOnce, live, if_neg Bool.false_ne_true]
    refine mem_append_right _ (mem_flatMap.mpr
      ⟨_, mem_collect_taskChannelM.mpr ⟨occupied, rfl⟩, ?_⟩)
    obtain ⟨started, found, adaptor⟩ := neighbourVisits
    simp only [updateTasks, started, found, adaptor, Bool.not_true, Bool.false_eq_true, if_false]
    exact mem_append_right _ (mem_filterMap.mpr ⟨_, named, by rw [kept]; rfl⟩)

theorem PolledRight.perm {log log'} (reordered : log.Perm log')
    (right : PolledRight table platform log)
    : PolledRight table platform log' := by
  constructor
  · intro task member
    have same : (queriesOf task log').Perm [task.channelId] := by
      rw [← right.once task member]
      exact (reordered.filterMap _).symm
    exact perm_singleton.mp same
  · intro channelId id task applied
    exact right.answered channelId id task (reordered.mem_iff.mpr applied)

/-- In every interleaving of its visits, a pass asks for every unfinished task of a platform
exactly once on its own channel, and applies every answer to the task it was asked for,
exactly if it can poll every one of them right.
-/
theorem polled_right_iff (reads : PollReads) (table : TaskTable) (platform : TaskPlatform)
    (log : List PollEvent) (interleaved : log.Perm (runTaskPollingOnce reads table platform))
    : PolledRight table platform log
      ↔ ∀ task ∈ table.unfinished platform, Pollable reads table platform task :=
  ⟨fun right => pollable_of_polledRight (right.perm interleaved),
    fun pollable => (polledRight_of_pollable pollable).perm interleaved.symm⟩

end

def videoTask (id channelId userId : ℤ) (upstreamTaskID : String) : PolledTask where
  id := id
  channelId := channelId
  taskID := "task_" ++ toString id
  upstreamTaskID := upstreamTaskID
  row := { platform := .video, status := .inProgress, progress := "30%", quota := 100, userId }

def undisturbed : PollReads where
  visits := fun _ => { reached := 1000 }

def twoIds : TaskTable := ⟨[videoTask 1 10 1 "41", videoTask 2 20 2 "42"], by decide⟩

def oneId : TaskTable := ⟨[videoTask 1 10 1 "42", videoTask 2 20 2 "42"], by decide⟩

/-- Two tasks with different upstream ids are polled right. -/
theorem polled_right_iff_two_ids
    : PolledRight twoIds .video (runTaskPollingOnce undisturbed twoIds .video) := by
  refine (polled_right_iff undisturbed twoIds .video _ (List.Perm.refl _)).mpr ?_
  intro task member
  have listed := member
  rcases mem_pair.mp listed with rfl | rfl <;>
    exact ⟨rfl, by decide +kernel, by decide +kernel, ⟨rfl, rfl, rfl⟩, by decide +kernel, nofun⟩

/-- Of two tasks with the same upstream id, the first is never asked for. The second is asked for on
both channels, and takes over what the first's channel answers.
-/
theorem polled_under_one_id
    : runTaskPollingOnce undisturbed oneId .video
      = [.query 20 (videoTask 2 20 2 "42"), .answer 20 "42" (videoTask 2 20 2 "42"),
          .query 10 (videoTask 2 20 2 "42"), .answer 10 "42" (videoTask 2 20 2 "42")]
      ∧ queriesOf (videoTask 1 10 1 "42") (runTaskPollingOnce undisturbed oneId .video) = []
      ∧ queriesOf (videoTask 2 20 2 "42") (runTaskPollingOnce undisturbed oneId .video)
        = [20, 10] := by
  decide +kernel

end HelsterApi.Tasks
