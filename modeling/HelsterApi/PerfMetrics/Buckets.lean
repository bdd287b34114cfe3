import HelsterApi.Transition.Machine
import Mathlib.Algebra.Order.Ring.Int

/-! The hot buckets of the performance metrics: samples are added counter by counter, and flush
passes drain the completed buckets counter by counter into the database. Each access to a counter is
one step.
-/

namespace HelsterApi.PerfMetrics

open Transition

inductive Counter where
  | requestCount | successCount | totalLatencyMs | ttftSumMs | ttftCount | outputTokens
  | generationMs
  deriving DecidableEq

/-- The counters in the order in which `drain` swaps them. -/
def Counter.all : List Counter :=
  [.requestCount, .successCount, .totalLatencyMs, .ttftSumMs, .ttftCount, .outputTokens,
    .generationMs]

abbrev Counters := Counter → ℤ

structure Sample where
  (model group : String)
  (latencyMs ttftMs : ℤ)
  (hasTtft success : Bool)
  (outputTokens generationMs : ℤ)

variable (sample : Sample)

def add : List (Counter × ℤ) :=
  [(.requestCount, 1)]
    ++ (if sample.success then [(.successCount, 1)] else [])
    ++ (if sample.latencyMs > 0 then [(.totalLatencyMs, sample.latencyMs)] else [])
    ++ (if sample.hasTtft ∧ sample.ttftMs ≥ 0 then [(.ttftSumMs, sample.ttftMs), (.ttftCount, 1)]
        else [])
    ++ (if sample.outputTokens > 0 ∧ sample.generationMs > 0 then
          [(.outputTokens, sample.outputTokens), (.generationMs, sample.generationMs)]
        else [])

/-- The increments of `atomicBucket.addCounters`: each drained value but the zeros. -/
def addCounters (drained : Counters) : List (Counter × ℤ) :=
  (Counter.all.filter fun counter => drained counter ≠ 0).map fun counter =>
    (counter, drained counter)

def Sample.value : Counters
  | .requestCount => 1
  | .successCount => if sample.success then 1 else 0
  | .totalLatencyMs => max sample.latencyMs 0
  | .ttftSumMs => if sample.hasTtft then max sample.ttftMs 0 else 0
  | .ttftCount => if sample.hasTtft ∧ sample.ttftMs ≥ 0 then 1 else 0
  | .outputTokens =>
    if sample.outputTokens > 0 ∧ sample.generationMs > 0 then sample.outputTokens else 0
  | .generationMs =>
    if sample.outputTokens > 0 ∧ sample.generationMs > 0 then sample.generationMs else 0

structure PerfMetricsSetting where
  enabled : Bool
  bucketTime : String

def getBucketSeconds (setting : PerfMetricsSetting) : ℤ :=
  match setting.bucketTime with
  | "minute" => 60
  | "5min" => 300
  | "hour" => 3600
  | _ => 3600

def bucketStart (setting : PerfMetricsSetting) (ts : ℤ) : ℤ :=
  ts - ts.tmod (getBucketSeconds setting)

structure BucketKey where
  (model group : String)
  bucketTs : ℤ
  deriving DecidableEq

def Sample.normalised : Sample :=
  { sample with
    group := if sample.group = "" then "default" else sample.group
    latencyMs := if sample.latencyMs < 0 then 0 else sample.latencyMs }

def Sample.key (bucketTs : ℤ) : BucketKey := ⟨sample.model, sample.group, bucketTs⟩

/-- A call of `add` under way: its bucket and the increments it has not made yet. -/
structure Adding where
  key : BucketKey
  bucket : ℕ
  due : List (Counter × ℤ)

/-- Where a flush of one bucket is: swapping the counters left to drain, with the values of
the others, adding these back after an error, or about to remove the bucket if it is old.
-/
inductive FlushPhase where
  | draining (drained : Counters) (left : List Counter)
  | addingBack (due : List (Counter × ℤ))
  | deleting

structure Flush where
  key : BucketKey
  bucket : ℕ
  phase : FlushPhase

/-- The buckets in memory, the calls that work on them, the rows in the database, and the sums of
the recorded samples. A key's buckets are numbered in the order they are made; new samples are added
to the one in the map.
-/
structure State where
  hot : BucketKey → Option ℕ
  created : BucketKey → ℕ
  memory : BucketKey → ℕ → Counters
  adding : List Adding
  pass : Option ℤ
  flush : Option Flush
  (database recorded : BucketKey → Counters)

def State.empty : State :=
  ⟨fun _ => none, fun _ => 0, fun _ _ _ => 0, [], none, none, fun _ _ => 0, fun _ _ => 0⟩

def State.increment (s : State) (key : BucketKey) (bucket : ℕ) (counter : Counter) (amount : ℤ)
    : State :=
  { s with
    memory := fun k b c =>
      s.memory k b c + if k = key ∧ b = bucket ∧ c = counter then amount else 0 }

/-- `drain` swaps a counter of the flushed bucket for zero, and the flush holds its value. -/
def State.swap (s : State) (key : BucketKey) (bucket : ℕ) (held : Counters)
    (counter : Counter) (left : List Counter)
    : State :=
  { s with
    memory := fun k b c =>
      if k = key ∧ b = bucket ∧ c = counter then 0 else s.memory k b c
    flush := some ⟨key, bucket, .draining
      (fun c => held c + if c = counter then s.memory key bucket counter else 0) left⟩ }

/-- The number of the bucket that `LoadOrStore` yields. -/
def State.bucketOf (s : State) (key : BucketKey) : ℕ := (s.hot key).getD (s.created key)

/-- `LoadOrStore`: without a bucket for the key an empty one is stored. -/
def State.loadOrStore (s : State) (key : BucketKey) : State :=
  match s.hot key with
  | some _ => s
  | none =>
    { s with
      hot := Function.update s.hot key (some (s.created key))
      created := Function.update s.created key (s.created key + 1)
      memory := fun k b c =>
        if k = key ∧ b = s.created key then 0 else s.memory k b c }

def State.record (s : State) (key : BucketKey) (sample : Sample) : State :=
  { s.loadOrStore key with
    adding := s.adding ++ [⟨key, s.bucketOf key, add sample⟩]
    recorded := fun k c => s.recorded k c + if k = key then sample.value c else 0 }

/-- `UpsertPerfMetric`: the drained values are added to the row, a new one if there is none. Without
a request nothing is written.
-/
def State.upsertPerfMetric (s : State) (key : BucketKey) (drained : Counters) : State :=
  if drained .requestCount = 0 then s
  else { s with database := fun k c => s.database k c + if k = key then drained c else 0 }

def State.visit (s : State) (flush : Option Flush) : State :=
  { s with flush }

def State.advance (s : State) (call : ℕ) (key : BucketKey) (bucket : ℕ) (counter : Counter)
    (amount : ℤ) (due : List (Counter × ℤ))
    : State :=
  { s.increment key bucket counter amount with
    adding := s.adding.set call ⟨key, bucket, due⟩ }

def State.delete (s : State) (key : BucketKey) : State :=
  { s with hot := Function.update s.hot key none, flush := none }

/-- The steps of requests and of the flush loop, each with the time it reads. -/
inductive Action where
  | record (now : ℤ) (sample : Sample)
  | increment (call : ℕ)
  | flushCompletedBuckets (now : ℤ)
  | visit (key : BucketKey)
  | swap
  | skipEmpty
  | upsert (succeeds : Bool)
  | addBack
  | endVisit
  | deleteOldEmptyBucket (now : ℤ)
  | endPass

def daySeconds : ℤ := 24 * 3600

variable (setting : ℤ → PerfMetricsSetting)

def old (now : ℤ) (key : BucketKey) : Prop :=
  key.bucketTs < bucketStart (setting now) (now - daySeconds)
  deriving Decidable

def State.nextFlush (s : State)
    : Flush → Action → Option State
  | ⟨key, bucket, .draining drained (counter :: left)⟩, .swap =>
    some (s.swap key bucket drained counter left)
  | ⟨key, bucket, .draining drained []⟩, .skipEmpty =>
    if drained .requestCount = 0 then some (s.visit (some ⟨key, bucket, .deleting⟩))
    else none
  | ⟨key, bucket, .draining drained []⟩, .upsert succeeds =>
    if drained .requestCount = 0 then none
    else if succeeds then
      some ((s.upsertPerfMetric key drained).visit (some ⟨key, bucket, .deleting⟩))
    else some (s.visit (some ⟨key, bucket, .addingBack (addCounters drained)⟩))
  | ⟨key, bucket, .addingBack ((counter, amount) :: due)⟩, .addBack =>
    some ((s.increment key bucket counter amount).visit (some ⟨key, bucket, .addingBack due⟩))
  | ⟨_, _, .addingBack []⟩, .endVisit => some (s.visit none)
  | ⟨key, _, .deleting⟩, .deleteOldEmptyBucket now =>
    if old setting now key then some (s.delete key)
    else some (s.visit none)
  | _, _ => none

/-- What a step makes of the state, `none` where it is not enabled. `setting` is what is configured
at a time.
-/
def State.next (s : State) : Action → Option State
  | .record now sample =>
    if ¬(setting now).enabled ∨ sample.model = "" then none
    else
      some (s.record
        (sample.normalised.key (bucketStart (setting now) now)) sample.normalised)
  | .increment call =>
    match s.adding[call]? with
    | some ⟨key, bucket, (counter, amount) :: due⟩ =>
      some (s.advance call key bucket counter amount due)
    | _ => none
  | .flushCompletedBuckets now =>
    if s.pass.isNone ∧ (setting now).enabled then
      some { s with pass := some (bucketStart (setting now) now) }
    else none
  | .visit key =>
    match s.pass, s.flush, s.hot key with
    | some currentBucket, none, some bucket =>
      if key.bucketTs ≥ currentBucket then none
      else some (s.visit (some ⟨key, bucket, .draining (fun _ => 0) Counter.all⟩))
    | _, _, _ => none
  | .endPass => if s.flush.isNone then some { s with pass := none } else none
  | a => s.flush.bind fun flush => s.nextFlush setting flush a

def perfMachine : Machine State Action where
  initial s := s = State.empty
  next := State.next setting

end HelsterApi.PerfMetrics
