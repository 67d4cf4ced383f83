import Mathlib

/-! # Buckets of performance metrics

`pkg/perf_metrics`: every relayed request is counted in a bucket in memory, and a background loop
moves the counters of completed spans of time to the database. -/

namespace RenewApi.PerfMetrics

open Function

/-- The counters of a bucket, in the order in which they are drained. -/
inductive Counter
  | requestCount
  | successCount
  | totalLatencyMs
  | ttftSumMs
  | ttftCount
  | outputTokens
  | generationMs
  deriving DecidableEq

/-- A value for each counter. -/
abbrev Counters := Counter → Int

/-- All counters, in their order. -/
def Counter.all : List Counter :=
  [.requestCount, .successCount, .totalLatencyMs, .ttftSumMs, .ttftCount, .outputTokens, .generationMs]

structure Sample where
  model : String
  group : String
  latencyMs : Int
  ttftMs : Int
  hasTtft : Bool
  success : Bool
  outputTokens : Int
  generationMs : Int

structure BucketKey where
  model : String
  group : String
  bucketTs : Int
  deriving DecidableEq

abbrev Addition := Counter × Int

/-- The additions of `atomicBucket.add`, in their order. -/
def Sample.adds (sample : Sample) : List Addition :=
  [(.requestCount, 1)]
    ++ (if sample.success then [(.successCount, 1)] else [])
    ++ (if sample.latencyMs > 0 then [(.totalLatencyMs, sample.latencyMs)] else [])
    ++ (if sample.hasTtft ∧ sample.ttftMs ≥ 0 then [(.ttftSumMs, sample.ttftMs), (.ttftCount, 1)] else [])
    ++ (if sample.outputTokens > 0 ∧ sample.generationMs > 0 then
        [(.outputTokens, sample.outputTokens), (.generationMs, sample.generationMs)] else [])

/-- The additions of `atomicBucket.addCounters`, in their order. -/
def Counters.adds (c : Counters) : List Addition :=
  (Counter.all.filter fun i => c i ≠ 0).map fun i => (i, c i)

def Sample.counters (sample : Sample) : Counters
  | .requestCount => 1
  | .successCount => if sample.success then 1 else 0
  | .totalLatencyMs => max sample.latencyMs 0
  | .ttftSumMs => if sample.hasTtft ∧ sample.ttftMs ≥ 0 then sample.ttftMs else 0
  | .ttftCount => if sample.hasTtft ∧ sample.ttftMs ≥ 0 then 1 else 0
  | .outputTokens => if sample.outputTokens > 0 ∧ sample.generationMs > 0 then sample.outputTokens else 0
  | .generationMs => if sample.outputTokens > 0 ∧ sample.generationMs > 0 then sample.generationMs else 0

/-- The setting `BucketTime`. -/
inductive BucketTime
  | minute
  | fiveMin
  | hour

/-- `GetBucketSeconds`. -/
def BucketTime.seconds : BucketTime → Int
  | .minute => 60
  | .fiveMin => 300
  | .hour => 3600

/-- A reading of the clock, and of the setting. -/
structure Clock where
  now : Int
  bucketTime : BucketTime

def bucketStart (clock : Clock) (ts : Int) : Int := ts - ts.tmod clock.bucketTime.seconds

/-! ## The state -/

/-- What is left of a call of `Record`. -/
inductive Call
  | idle
  | lookup (key : BucketKey) (left : List Addition)
  | adding (key : BucketKey) (bucket : Nat) (left : List Addition)

def Call.toMake (key : BucketKey) (bucket : Nat) : List Addition → Call
  | [] => .idle
  | left => .adding key bucket left

/-- Where the flusher is. -/
inductive Flusher
  | idle
  | pass (currentBucket : Int)
  | drain (currentBucket : Int) (key : BucketKey) (bucket : Nat) (left : List Counter)
      (drained : Counters)
  /-- `UpsertPerfMetric` is next. -/
  | upsert (currentBucket : Int) (key : BucketKey) (bucket : Nat) (drained : Counters)
  | restore (currentBucket : Int) (key : BucketKey) (bucket : Nat) (left : List Addition)
  /-- `deleteOldEmptyBucket` is next. -/
  | sweep (currentBucket : Int) (key : BucketKey)

/-- **The metrics** of a process, with the calls of `Record` that are numbered by `ι`. -/
structure Metrics (ι : Type) where
  /-- `hotBuckets`. -/
  hotBuckets : BucketKey → Option Nat
  made : BucketKey → Nat
  buckets : BucketKey → Nat → Counters
  /-- The rows of `perf_metrics`. -/
  rows : BucketKey → Option Counters
  calls : ι → Call
  flusher : Flusher
  samples : List (BucketKey × Sample)

/-- A step. -/
inductive Event (ι : Type)
  /-- `Record` is called. -/
  | record (i : ι) (clock : Clock) (enabled : Bool) (sample : Sample)
  | call (i : ι)
  | pass (clock : Clock)
  | visit (key : BucketKey)
  /-- The next step of the pass; whether the statement succeeds, and the clock. -/
  | flush (stored : Bool) (clock : Clock)
  | finish

namespace Metrics

variable {ι : Type} [DecidableEq ι]

/-- A process that was just started, with an empty table. -/
def start : Metrics ι where
  hotBuckets _ := none
  made _ := 0
  buckets _ _ _ := 0
  rows _ := none
  calls _ := .idle
  flusher := .idle
  samples := []

section

variable (s : Metrics ι) (key : BucketKey)

def addTo (bucket : Nat) (a : Addition) : Metrics ι :=
  { s with
    buckets := update s.buckets key
      (update (s.buckets key) bucket
        (update (s.buckets key bucket) a.1 (s.buckets key bucket a.1 + a.2))) }

/-- An atomic swap for zero. -/
def swapOut (bucket : Nat) (i : Counter) : Metrics ι :=
  { s with
    buckets := update s.buckets key
      (update (s.buckets key) bucket (update (s.buckets key bucket) i 0)) }

/-- `hotBuckets.LoadOrStore(key, &atomicBucket{})`: the index, and the bucket that is in it. -/
def loadOrStore : Metrics ι × Nat :=
  match s.hotBuckets key with
  | some bucket => (s, bucket)
  | none =>
    ({ s with
      hotBuckets := update s.hotBuckets key (some (s.made key))
      made := update s.made key (s.made key + 1)
      buckets := update s.buckets key (update (s.buckets key) (s.made key) 0) },
      s.made key)

/-- `hotBuckets.Delete(key)`. -/
def remove : Metrics ι :=
  { s with hotBuckets := update s.hotBuckets key none }

def upsertPerfMetric (metric : Counters) : Metrics ι :=
  { s with rows := update s.rows key (some (((s.rows key).getD 0) + metric)) }

end

/-- A call goes on. -/
def setCall (s : Metrics ι) (i : ι) (c : Call) : Metrics ι :=
  { s with calls := update s.calls i c }

/-- The flusher goes on. -/
def setFlusher (s : Metrics ι) (f : Flusher) : Metrics ι := { s with flusher := f }

/-- The sample that `Record` adds, and its key. -/
def normalize (clock : Clock) (sample : Sample) : BucketKey × Sample :=
  let sample := if sample.group = "" then { sample with group := "default" } else sample
  let sample := if sample.latencyMs < 0 then { sample with latencyMs := 0 } else sample
  (⟨sample.model, sample.group, bucketStart clock clock.now⟩, sample)

/-- `Record`, up to the lookup of the bucket. -/
def startRecord (s : Metrics ι) (i : ι) (clock : Clock) (enabled : Bool) (sample : Sample) : Metrics ι :=
  match s.calls i with
  | .idle =>
    if !enabled ∨ sample.model = "" then s
    else
      let recorded := normalize clock sample
      { s with samples := s.samples ++ [recorded] }.setCall i (.lookup recorded.1 recorded.2.adds)
  | _ => s

/-- The next step of a call of `Record`. -/
def stepCall (s : Metrics ι) (i : ι) : Metrics ι :=
  match s.calls i with
  | .idle => s
  | .lookup key left => (s.loadOrStore key).1.setCall i (.toMake key (s.loadOrStore key).2 left)
  | .adding _ _ [] => s.setCall i .idle
  | .adding key bucket (a :: left) => (s.addTo key bucket a).setCall i (.toMake key bucket left)

def old (clock : Clock) (key : BucketKey) : Prop := key.bucketTs < bucketStart clock (clock.now - 86400)
  deriving Decidable

section

variable (s : Metrics ι)

/-- The next step of a pass of `flushCompletedBuckets`. -/
def stepFlusher (stored : Bool) (clock : Clock) : Metrics ι :=
  match s.flusher with
  | .idle | .pass _ => s
  | .drain current key bucket (i :: left) drained =>
    (s.swapOut key bucket i).setFlusher
      (.drain current key bucket left (update drained i (s.buckets key bucket i)))
  | .drain current key bucket [] drained =>
    if drained .requestCount = 0 then s.setFlusher (.sweep current key)
    else s.setFlusher (.upsert current key bucket drained)
  | .upsert current key bucket drained =>
    if stored then (s.upsertPerfMetric key drained).setFlusher (.sweep current key)
    else s.setFlusher (.restore current key bucket drained.adds)
  | .restore current _ _ [] => s.setFlusher (.pass current)
  | .restore current key bucket (a :: left) =>
    (s.addTo key bucket a).setFlusher (.restore current key bucket left)
  | .sweep current key =>
    if old clock key then (s.remove key).setFlusher (.pass current)
    else s.setFlusher (.pass current)

/-- One atomic step of a call or of a pass of `flushCompletedBuckets`. -/
def step : Event ι → Metrics ι
  | .record i clock enabled sample => s.startRecord i clock enabled sample
  | .call i => s.stepCall i
  | .pass clock =>
    match s.flusher with
    | .idle => s.setFlusher (.pass (bucketStart clock clock.now))
    | _ => s
  | .visit key =>
    match s.flusher, s.hotBuckets key with
    | .pass current, some bucket =>
      if key.bucketTs ≥ current then s
      else s.setFlusher (.drain current key bucket Counter.all 0)
    | _, _ => s
  | .flush stored clock => s.stepFlusher stored clock
  | .finish =>
    match s.flusher with
    | .pass _ => s.setFlusher .idle
    | _ => s

def stored (key : BucketKey) : Counters := (s.rows key).getD 0

def inMemory (key : BucketKey) : Counters :=
  match s.hotBuckets key with
  | some bucket => s.buckets key bucket
  | none => 0

def recorded (key : BucketKey) : Counters :=
  ((s.samples.filter fun r => r.1 = key).map fun r => r.2.counters).sum

/-- No call is in flight. -/
structure Quiet : Prop where
  calls : ∀ i, s.calls i = .idle
  flusher : s.flusher = .idle

end

instance (c : Call) : Decidable (c = .idle) :=
  match c with
  | .idle => isTrue rfl
  | .lookup .. | .adding .. => isFalse nofun

instance (f : Flusher) : Decidable (f = .idle) :=
  match f with
  | .idle => isTrue rfl
  | .pass _ | .drain .. | .upsert .. | .restore .. | .sweep .. => isFalse nofun

instance [Fintype ι] (s : Metrics ι) : Decidable s.Quiet :=
  decidable_of_iff ((∀ i, s.calls i = .idle) ∧ s.flusher = .idle)
    ⟨fun h => ⟨h.1, h.2⟩, fun h => ⟨h.calls, h.flusher⟩⟩

end Metrics

end RenewApi.PerfMetrics
