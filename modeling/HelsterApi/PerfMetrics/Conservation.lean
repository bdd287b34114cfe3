import HelsterApi.PerfMetrics.Buckets
import Mathlib.Tactic.Abel
import Mathlib.Tactic.Linarith

/-! Conservation of recorded samples: what the database and the hot bucket of a key hold, what a
flush has taken out and what calls still have to add make up everything recorded. A step loses
samples where a flush drops what it drained without a request, or removes a bucket in use.
-/

namespace HelsterApi.PerfMetrics

open Function List Transition State Sample

def amount (due : List (Counter × ℤ)) (counter : Counter) : ℤ :=
  (due.map fun entry => if entry.1 = counter then entry.2 else 0).sum

@[simp]
theorem amount_nil (counter) : amount [] counter = 0 := rfl

@[simp]
theorem amount_cons (entry : Counter × ℤ) (due : List (Counter × ℤ)) (counter)
    : amount (entry :: due) counter
      = (if entry.1 = counter then entry.2 else 0) + amount due counter := by
  simp [amount]

@[simp]
theorem amount_append (first second : List (Counter × ℤ)) (counter)
    : amount (first ++ second) counter = amount first counter + amount second counter := by
  simp [amount]

theorem amount_ite (p : Prop) [Decidable p] (due : List (Counter × ℤ)) (counter)
    : amount (if p then due else []) counter = if p then amount due counter else 0 := by
  split <;> rfl

theorem amount_add (sample : Sample) (counter)
    : amount (add sample) counter = sample.value counter := by
  simp only [add, amount_append, amount_ite, amount_cons, amount_nil]
  cases counter with
  | totalLatencyMs =>
    have latency : (if sample.latencyMs > 0 then sample.latencyMs else 0)
        = max sample.latencyMs 0 := by
      split <;> omega
    simpa [value] using latency
  | ttftSumMs =>
    cases timed : sample.hasTtft with
    | false => simp [value, timed]
    | true =>
      have first : (if sample.ttftMs ≥ 0 then sample.ttftMs else 0)
          = max sample.ttftMs 0 := by
        split <;> omega
      simpa [value, timed] using first
  | _ => simp [value]

theorem amount_addCounters (drained counter)
    : amount (addCounters drained) counter = drained counter := by
  have nonzero (counters : List Counter)
      : amount ((counters.filter fun c => drained c ≠ 0).map fun c => (c, drained c)) counter
        = (counters.map fun c => if c = counter then drained c else 0).sum := by
    induction counters with
    | nil => rfl
    | cons head rest ih => by_cases zero : drained head = 0 <;> simpa [zero] using ih
  rw [addCounters, nonzero]
  cases counter <;> simp [Counter.all]

def State.inMemory (s : State) (key : BucketKey) (counter : Counter) : ℤ :=
  match s.hot key with
  | some bucket => s.memory key bucket counter
  | none => 0

variable (hot : BucketKey → Option ℕ)

def Adding.pending (key : BucketKey) (counter : Counter) (call : Adding) : ℤ :=
  if call.key = key ∧ hot key = some call.bucket then amount call.due counter else 0

def State.pending (s : State) (key : BucketKey) (counter : Counter) : ℤ :=
  (s.adding.map (Adding.pending s.hot key counter)).sum

def FlushPhase.held (counter : Counter) : FlushPhase → ℤ
  | .draining drained _ => drained counter
  | .addingBack due => amount due counter
  | .deleting => 0

def heldBy (key : BucketKey) (counter : Counter) : Option Flush → ℤ
  | some flush => if flush.key = key then flush.phase.held counter else 0
  | none => 0

def State.held (s : State) (key : BucketKey) (counter : Counter) : ℤ := heldBy key counter s.flush

def State.balance (s : State) (key : BucketKey) (counter : Counter) : ℤ :=
  s.database key counter + s.inMemory key counter + s.held key counter
    + s.pending key counter - s.recorded key counter

/-- For each counter of each bucket the database, the memory and what the calls under way hold make
up the recorded samples.
-/
def State.Accounted (s : State) : Prop :=
  ∀ key counter,
    s.database key counter + s.inMemory key counter + s.held key counter
      + s.pending key counter = s.recorded key counter

structure State.Quiet (s : State) : Prop where
  added : ∀ call ∈ s.adding, call.due = []
  flushed : s.flush = none

theorem State.accounted_iff (s : State)
    : s.Accounted ↔ ∀ key counter, s.balance key counter = 0 := by
  simp only [State.Accounted, balance, sub_eq_zero]

theorem State.Quiet.accounted_iff {s : State} (quiet : s.Quiet)
    : s.Accounted
      ↔ ∀ key counter, s.database key counter + s.inMemory key counter
          = s.recorded key counter := by
  have nothingHeld (key : BucketKey) (counter : Counter) : s.held key counter = 0 := by
    rw [held, quiet.flushed, heldBy]
  have nothingPending (key : BucketKey) (counter : Counter) : s.pending key counter = 0 := by
    refine sum_eq_zero ?_
    intro value listed
    obtain ⟨call, member, rfl⟩ := mem_map.mp listed
    simp [Adding.pending, quiet.added call member]
  simp only [State.Accounted, nothingHeld, nothingPending, add_zero]

section

variable {setting : ℤ → PerfMetricsSetting} {s s' : State} {a : Action}

theorem State.loadOrStore_hot (s : State) (key)
    : (s.loadOrStore key).hot = update s.hot key (some (s.bucketOf key)) := by
  unfold loadOrStore bucketOf
  cases found : s.hot key with
  | none => rfl
  | some bucket => exact (update_eq_self_iff.mpr found.symm).symm

theorem State.created_le_loadOrStore (s : State) (key other)
    : s.created other ≤ (s.loadOrStore key).created other := by
  unfold loadOrStore
  cases s.hot key with
  | some bucket => exact le_rfl
  | none =>
    by_cases same : other = key
    · subst same
      simp
    · simp [same]

def Flushes (flush : Option Flush) : Prop := ∀ visit ∈ flush, hot visit.key = some visit.bucket

/-- The buckets in use were made and the running flush works on a hot one. -/
structure State.Tracked (s : State) : Prop where
  hot_lt : ∀ key bucket, s.hot key = some bucket → bucket < s.created key
  adding_lt : ∀ call ∈ s.adding, call.bucket < s.created call.key
  flush : Flushes s.hot s.flush

theorem State.Tracked.bucketOf_lt (tracked : s.Tracked) (key)
    : s.bucketOf key < (s.loadOrStore key).created key := by
  unfold loadOrStore bucketOf
  cases found : s.hot key with
  | none => simp
  | some bucket => exact tracked.hot_lt key bucket found

theorem State.Tracked.isHot (tracked : s.Tracked) {key bucket phase}
    (running : s.flush = some ⟨key, bucket, phase⟩)
    : s.hot key = some bucket := tracked.flush ⟨key, bucket, phase⟩ running

theorem State.Tracked.visit (tracked : s.Tracked) {flush} (flushes : Flushes s.hot flush)
    : (s.visit flush).Tracked := ⟨tracked.hot_lt, tracked.adding_lt, flushes⟩

theorem flushes_some {hot key bucket} (isHot : hot key = some bucket) (phase)
    : Flushes hot (some ⟨key, bucket, phase⟩) := by
  intro visit isVisit
  cases isVisit
  exact isHot

theorem flushes_none : Flushes hot none := by
  intro visit isVisit
  cases isVisit

theorem State.Tracked.record (tracked : s.Tracked) (key sample)
    : (s.record key sample).Tracked := by
  refine ⟨?_, ?_, ?_⟩
  · intro other bucket found
    have hot : update s.hot key (some (s.bucketOf key)) other = some bucket := by
      rwa [← loadOrStore_hot]
    by_cases same : other = key
    · subst same
      rw [update_self, Option.some.injEq] at hot
      exact hot ▸ tracked.bucketOf_lt other
    · rw [update_of_ne same] at hot
      exact (tracked.hot_lt other bucket hot).trans_le (s.created_le_loadOrStore key other)
  · intro call member
    rcases mem_append.mp member with earlier | new
    · exact (tracked.adding_lt call earlier).trans_le (s.created_le_loadOrStore key call.key)
    · rw [mem_singleton.mp new]
      exact tracked.bucketOf_lt key
  · intro visit running
    have same : s.flush = (s.loadOrStore key).flush := by
      unfold loadOrStore
      split <;> rfl
    have isHot := tracked.flush visit (same ▸ running)
    change (s.loadOrStore key).hot visit.key = some visit.bucket
    rw [loadOrStore_hot]
    by_cases isKey : visit.key = key
    · subst isKey
      rw [update_self, bucketOf, isHot, Option.getD_some]
    · rw [update_of_ne isKey, isHot]

theorem State.Tracked.advance (tracked : s.Tracked) {call key bucket counter added due}
    (found : s.adding[call]? = some ⟨key, bucket, (counter, added) :: due⟩)
    : (s.advance call key bucket counter added due).Tracked := by
  refine ⟨tracked.hot_lt, ?_, tracked.flush⟩
  intro other member
  rcases mem_or_eq_of_mem_set member with earlier | rfl
  · exact tracked.adding_lt other earlier
  · exact tracked.adding_lt ⟨key, bucket, (counter, added) :: due⟩
      (mem_of_getElem? found)

theorem State.Tracked.delete (tracked : s.Tracked) (key) : (s.delete key).Tracked := by
  refine ⟨?_, tracked.adding_lt, flushes_none _⟩
  intro other bucket found
  by_cases same : other = key
  · subst same
    simp [State.delete] at found
  · exact tracked.hot_lt other bucket ((update_of_ne same _ _).symm.trans found)

variable {key : BucketKey} {bucket : ℕ} {counter : Counter} {added : ℤ}
  {due : List (Counter × ℤ)} (k : BucketKey) (c : Counter)

namespace State

theorem balance_visit (s : State) (flush)
    : (s.visit flush).balance k c = s.balance k c - s.held k c + heldBy k c flush := by
  have parts : (s.visit flush).balance k c
      = s.database k c + s.inMemory k c + heldBy k c flush + s.pending k c
        - s.recorded k c := rfl
  rw [parts, balance]
  abel

theorem balance_increment (s : State) (key bucket counter added)
    : (s.increment key bucket counter added).balance k c
      = s.balance k c
        + if key = k ∧ s.hot k = some bucket ∧ counter = c then added else 0 := by
  have memory : (s.increment key bucket counter added).inMemory k c
      = s.inMemory k c
        + if key = k ∧ s.hot k = some bucket ∧ counter = c then added else 0 := by
    unfold inMemory increment
    cases found : s.hot k with
    | none => simp
    | some hot => simp [eq_comm]
  have parts : (s.increment key bucket counter added).balance k c
      = s.database k c + (s.increment key bucket counter added).inMemory k c + s.held k c
        + s.pending k c - s.recorded k c := rfl
  rw [parts, memory, balance]
  abel

theorem balance_advance {call}
    (found : s.adding[call]? = some ⟨key, bucket, (counter, added) :: due⟩)
    : (s.advance call key bucket counter added due).balance k c = s.balance k c := by
  have shares := sum_set_share (Adding.pending s.hot k c) found ⟨key, bucket, due⟩
  have less : Adding.pending s.hot k c ⟨key, bucket, (counter, added) :: due⟩
      = (if key = k ∧ s.hot k = some bucket ∧ counter = c then added else 0)
        + Adding.pending s.hot k c ⟨key, bucket, due⟩ := by
    unfold Adding.pending
    by_cases live : key = k ∧ s.hot k = some bucket
    · simp [live]
    · rw [if_neg live, if_neg live, if_neg (fun both => live ⟨both.1, both.2.1⟩), add_zero]
  have parts : (s.advance call key bucket counter added due).balance k c
      = s.database k c + (s.increment key bucket counter added).inMemory k c + s.held k c
        + ((s.adding.set call ⟨key, bucket, due⟩).map (Adding.pending s.hot k c)).sum
        - s.recorded k c := rfl
  have incremented : s.database k c + (s.increment key bucket counter added).inMemory k c
        + s.held k c + (s.adding.map (Adding.pending s.hot k c)).sum - s.recorded k c
      = s.balance k c
        + if key = k ∧ s.hot k = some bucket ∧ counter = c then added else 0 :=
    s.balance_increment k c key bucket counter added
  rw [less] at shares
  rw [parts]
  linarith only [shares, incremented]

theorem Tracked.balance_swap (tracked : s.Tracked) {drained left}
    (running : s.flush = some ⟨key, bucket, .draining drained (counter :: left)⟩)
    : (s.swap key bucket drained counter left).balance k c = s.balance k c := by
  have isHot := tracked.isHot running
  have held : s.held k c = if key = k then drained c else 0 := by
    rw [held, running]
    rfl
  have parts : (s.swap key bucket drained counter left).balance k c
      = s.database k c + (s.swap key bucket drained counter left).inMemory k c
        + (if key = k then drained c + if c = counter then s.memory key bucket counter else 0
          else 0)
        + s.pending k c - s.recorded k c := rfl
  rw [parts, balance, held]
  unfold inMemory swap
  by_cases same : key = k
  · subst same
    by_cases swapped : c = counter
    · simp only [isHot, swapped, and_self, if_true]
      abel
    · simp [isHot, swapped]
  · cases found : s.hot k with
    | none => simp [same]
    | some hot => simp [same, Ne.symm same]

theorem Tracked.balance_addBack (tracked : s.Tracked)
    (running : s.flush = some ⟨key, bucket, .addingBack ((counter, added) :: due)⟩)
    : ((s.increment key bucket counter added).visit
        (some ⟨key, bucket, .addingBack due⟩)).balance k c = s.balance k c := by
  have given : s.held k c
      = heldBy k c (some ⟨key, bucket, .addingBack due⟩)
        + if key = k ∧ s.hot k = some bucket ∧ counter = c then added else 0 := by
    rw [held, running]
    by_cases same : key = k
    · subst same
      simp [heldBy, FlushPhase.held, tracked.isHot running, add_comm]
    · simp [heldBy, same]
  have held : (s.increment key bucket counter added).held k c = s.held k c := rfl
  rw [balance_visit, held, balance_increment, given]
  abel

theorem balance_upsert {drained} (running : s.flush = some ⟨key, bucket, .draining drained []⟩)
    (requests : drained .requestCount ≠ 0)
    : ((s.upsertPerfMetric key drained).visit (some ⟨key, bucket, .deleting⟩)).balance k c
      = s.balance k c := by
  have held : s.held k c = if k = key then drained c else 0 := by
    rw [held, running]
    simp [heldBy, FlushPhase.held, eq_comm]
  have parts : ({ s with
        database := fun k c => s.database k c + if k = key then drained c else 0 }
          : State).balance k c
      = (s.database k c + if k = key then drained c else 0) + s.inMemory k c + s.held k c
        + s.pending k c - s.recorded k c := rfl
  rw [balance_visit, upsertPerfMetric, if_neg requests, parts, balance]
  change _ - s.held k c + _ = _
  rw [held]
  simp only [heldBy, FlushPhase.held, ite_self]
  abel

theorem balance_delete (running : s.flush = some ⟨key, bucket, .deleting⟩)
    : (s.delete key).balance k c
      = s.balance k c - if key = k then s.inMemory k c + s.pending k c else 0 := by
  have held : s.held k c = 0 := by
    rw [held, running]
    simp [heldBy, FlushPhase.held]
  have parts : (s.delete key).balance k c
      = s.database k c + (s.delete key).inMemory k c + 0 + (s.delete key).pending k c
        - s.recorded k c := rfl
  have calls : Adding.pending (update s.hot key none) k c
      = fun call => if key = k then 0 else call.pending s.hot k c := by
    funext call
    unfold Adding.pending
    by_cases same : key = k
    · subst same
      simp
    · simp [same, Ne.symm same]
  rw [parts, balance, held]
  simp only [inMemory, pending, delete, calls]
  by_cases same : key = k
  · subst same
    simp
    abel
  · simp [same, Ne.symm same]

theorem Tracked.pending_loadOrStore (tracked : s.Tracked) (key)
    {call} (member : call ∈ s.adding)
    : call.pending (s.loadOrStore key).hot k c = call.pending s.hot k c := by
  rw [loadOrStore_hot]
  unfold Adding.pending
  by_cases same : k = key
  · subst same
    cases found : s.hot k with
    | some bucket => simp [bucketOf, found]
    | none =>
      have made := tracked.adding_lt call member
      have other : ¬(call.key = k ∧ s.created k = call.bucket) := by
        rintro ⟨rfl, isNew⟩
        omega
      simp [bucketOf, found, other]
  · simp [same]

theorem Tracked.balance_record (tracked : s.Tracked) (key sample)
    : (s.record key sample).balance k c = s.balance k c := by
  have memory : (s.loadOrStore key).inMemory k c = s.inMemory k c := by
    unfold loadOrStore
    cases found : s.hot key with
    | some bucket => rfl
    | none =>
      unfold inMemory
      by_cases same : k = key
      · subst same
        simp [found]
      · simp [same]
  have kept : (s.loadOrStore key).database = s.database
      ∧ (s.loadOrStore key).flush = s.flush := by
    unfold loadOrStore
    split <;> exact ⟨rfl, rfl⟩
  have earlier := map_congr_left fun _ member => tracked.pending_loadOrStore k c key member
  have new : Adding.pending (s.loadOrStore key).hot k c ⟨key, s.bucketOf key, add sample⟩
      = if k = key then sample.value c else 0 := by
    rw [loadOrStore_hot, Adding.pending, amount_add]
    by_cases same : k = key
    · subst same
      simp
    · simp [same, Ne.symm same]
  have parts : (s.record key sample).balance k c
      = (s.loadOrStore key).database k c + (s.loadOrStore key).inMemory k c
        + heldBy k c (s.loadOrStore key).flush
        + ((s.adding ++ [Adding.mk key (s.bucketOf key) (add sample)]).map
            (Adding.pending (s.loadOrStore key).hot k c)).sum
        - (s.recorded k c + if k = key then sample.value c else 0) := rfl
  rw [parts, memory, kept.1, kept.2, map_append, sum_append, earlier,
    map_singleton, sum_singleton, new, balance, held, pending]
  abel

end State

/-- What a step drops of a counter of a key: a flush that found no request what it drained, and one
that removes an old bucket what the bucket holds and is still added to it.
-/
def State.lost (setting : ℤ → PerfMetricsSetting) (s : State) (a : Action) (key : BucketKey)
    (counter : Counter)
    : ℤ :=
  match a with
  | .skipEmpty => s.held key counter
  | .deleteOldEmptyBucket now =>
    if s.flush.map Flush.key = some key ∧ old setting now key then
      s.inMemory key counter + s.pending key counter
    else 0
  | _ => 0

/-- A step leads to a tracked state and changes each balance by what it loses. -/
structure Loses (s s' : State) (lost : BucketKey → Counter → ℤ) : Prop where
  tracked : s'.Tracked
  balance : ∀ k c, s'.balance k c = s.balance k c - lost k c

theorem Loses.nothing (tracked : s'.Tracked) (same : ∀ k c, s'.balance k c = s.balance k c)
    : Loses s s' fun _ _ => 0 := ⟨tracked, fun k c => (same k c).trans (sub_zero _).symm⟩

theorem State.Tracked.nextFlush (tracked : s.Tracked) {flush}
    (running : s.flush = some flush) (moved : s.nextFlush setting flush a = some s')
    : Loses s s' (s.lost setting a) := by
  unfold State.nextFlush at moved
  split at moved
  case h_1 =>
    cases moved
    refine .nothing ?_ fun k c => tracked.balance_swap k c running
    exact ⟨tracked.hot_lt, tracked.adding_lt, flushes_some (tracked.isHot running) _⟩
  case h_2 =>
    split at moved
    · cases moved
      refine ⟨tracked.visit (flushes_some (tracked.isHot running) _), fun k c => ?_⟩
      rw [State.balance_visit]
      simp [heldBy, FlushPhase.held, State.lost]
    · cases moved
  case h_3 succeeds =>
    split at moved
    · cases moved
    rename_i requests
    cases succeeds with cases moved
    | true =>
      refine .nothing ?_ fun k c => State.balance_upsert k c running requests
      rw [State.upsertPerfMetric, if_neg requests]
      exact ⟨tracked.hot_lt, tracked.adding_lt, flushes_some (tracked.isHot running) _⟩
    | false =>
      refine .nothing (tracked.visit (flushes_some (tracked.isHot running) _)) ?_
      intro k c
      rw [State.balance_visit, State.held, running]
      simp [heldBy, FlushPhase.held, amount_addCounters]
  case h_4 =>
    cases moved
    refine .nothing ?_ fun k c => tracked.balance_addBack k c running
    exact ⟨tracked.hot_lt, tracked.adding_lt, flushes_some (tracked.isHot running) _⟩
  case h_5 =>
    cases moved
    refine .nothing (tracked.visit (flushes_none _)) fun k c => ?_
    rw [State.balance_visit, State.held, running]
    simp [heldBy, FlushPhase.held]
  case h_6 key bucket now =>
    split at moved
    next isOld =>
      cases moved
      refine ⟨tracked.delete key, fun k c => ?_⟩
      rw [State.balance_delete k c running, State.lost, running]
      by_cases same : key = k
      · subst same
        simp [isOld]
      · simp [same]
    next recent =>
      cases moved
      refine ⟨tracked.visit (flushes_none _), fun k c => ?_⟩
      rw [State.balance_visit, State.lost, State.held, running, if_neg]
      · simp [heldBy, FlushPhase.held]
      · rintro ⟨same, isOld⟩
        cases same
        exact recent isOld
  case h_7 => cases moved

theorem State.Tracked.next (tracked : s.Tracked) (moved : s.next setting a = some s')
    : Loses s s' (s.lost setting a) := by
  have ofFlush (running : (s.flush.bind fun flush => s.nextFlush setting flush a) = some s')
      : Loses s s' (s.lost setting a) := by
    obtain ⟨flush, found, flushed⟩ := Option.bind_eq_some_iff.mp running
    exact tracked.nextFlush found flushed
  cases a with simp only [next] at moved
  | record now sample =>
    split at moved
    · cases moved
    cases moved
    exact .nothing (tracked.record _ _) fun k c => tracked.balance_record k c _ _
  | increment call =>
    split at moved
    next found =>
      cases moved
      exact .nothing (tracked.advance found) fun k c => balance_advance k c found
    · cases moved
  | visit key =>
    split at moved
    next idle found =>
      split at moved
      · cases moved
      cases moved
      refine .nothing (tracked.visit (flushes_some found _)) fun k c => ?_
      rw [balance_visit, held, idle]
      simp [heldBy, FlushPhase.held]
    · cases moved
  | flushCompletedBuckets _ | endPass =>
    split at moved
    · cases moved
      exact .nothing ⟨tracked.hot_lt, tracked.adding_lt, tracked.flush⟩ fun _ _ => rfl
    · cases moved
  | _ => exact ofFlush moved

end

/-- A flush that found no request drained nothing else either, and a bucket is removed only if it is
empty and no call adds to it.
-/
def SparesSamples (setting : ℤ → PerfMetricsSetting) (s : State) : Action → Prop
  | .skipEmpty => ∀ key counter, s.held key counter = 0
  | .deleteOldEmptyBucket now =>
    ∀ key, s.flush.map Flush.key = some key → old setting now key
      → ∀ counter, s.inMemory key counter + s.pending key counter = 0
  | _ => True

theorem sparesSamples_iff (setting) (s : State) (a)
    : SparesSamples setting s a ↔ ∀ key counter, s.lost setting a key counter = 0 := by
  cases a with
  | deleteOldEmptyBucket now =>
    simp only [SparesSamples, lost, ite_eq_right_iff, and_imp]
    exact forall_congr' fun key =>
      ⟨fun spared counter visited isOld => spared visited isOld counter,
        fun spared visited isOld counter => spared counter visited isOld⟩
  | _ => simp [SparesSamples, lost]

theorem tracked_of_reaches {setting s} (reached : (perfMachine setting).Reaches anyStep s)
    : s.Tracked := by
  refine reached.invariant State.Tracked ?_ ?_
  · intro s start
    cases start
    refine ⟨?_, ?_, flushes_none _⟩
    · nofun
    · nofun
  · intro s a s' _ tracked _ moved
    exact (tracked.next moved).tracked

/-- In every interleaving of additions with flush passes whose upserts may fail, the database and
the memory make up the recorded samples in the end, as long as no flush drops counters it drained
without a request or removes a bucket in use.
-/
theorem recorded_samples_kept (setting : ℤ → PerfMetricsSetting)
    : (perfMachine setting).KeepsExactly (SparesSamples setting) State.Accounted
      ∧ ∀ s : State, s.Quiet
          → (s.Accounted
            ↔ ∀ key counter, s.database key counter + s.inMemory key counter
                = s.recorded key counter) := by
  refine ⟨Machine.keepsExactly_of_step ?_ ?_, fun s quiet => quiet.accounted_iff⟩
  · intro s start key counter
    cases start
    rfl
  · intro s a s' reached accounted moved
    have balanced := s.accounted_iff.mp accounted
    have changed := ((tracked_of_reaches reached).next moved).balance
    rw [s'.accounted_iff, sparesSamples_iff]
    simp only [changed, balanced, zero_sub, neg_eq_zero]

def plainSample : Sample := ⟨"m", "default", 0, 0, false, true, 0, 0⟩

def hourly : ℤ → PerfMetricsSetting :=
  fun _ => ⟨true, "hour"⟩

def splitFlush : List Action :=
  [.record 3599 plainSample, .flushCompletedBuckets 3600, .visit ⟨"m", "default", 0⟩, .swap,
    .increment 0, .increment 0, .swap, .swap, .swap, .swap, .swap, .swap, .skipEmpty,
    .deleteOldEmptyBucket 3600, .endPass]

/-- A success is recorded and counted nowhere. -/
theorem success_lost
    : (perfMachine hourly).Plays anyStep empty splitFlush
      ∧ ((perfMachine hourly).play empty splitFlush).Quiet
      ∧ ((perfMachine hourly).play empty splitFlush).recorded
          ⟨"m", "default", 0⟩ .successCount = 1
      ∧ ((perfMachine hourly).play empty splitFlush).database
            ⟨"m", "default", 0⟩ .successCount
          + ((perfMachine hourly).play empty splitFlush).inMemory
            ⟨"m", "default", 0⟩ .successCount = 0 := by
  refine ⟨by decide, ⟨?_, by decide⟩, by decide, by decide⟩
  decide

end HelsterApi.PerfMetrics
