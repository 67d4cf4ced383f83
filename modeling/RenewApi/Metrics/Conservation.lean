import RenewApi.Concurrent.Flow
import RenewApi.Metrics.Invariant

/-! # Performance metrics are conserved, or lost

All that is counted somewhere grows by the samples and shrinks by what a step loses (`loss`). -/

namespace RenewApi.PerfMetrics

open Relational Concurrent List Function Flusher

/-- What additions come to. -/
def total (left : List Addition) : Counters := (left.map fun a => Pi.single a.1 a.2).sum

@[simp] theorem total_nil : total [] = 0 := rfl

@[simp] theorem total_cons (a : Addition) (left : List Addition) :
    total (a :: left) = Pi.single a.1 a.2 + total left := by simp [total]

theorem total_append (left right : List Addition) : total (left ++ right) = total left + total right := by
  simp [total]

theorem total_adds (sample : Sample) : total sample.adds = sample.counters := by
  funext i
  simp only [Sample.adds, total_append]
  cases i <;> split_ifs <;> simp_all [Sample.counters] <;> omega

theorem total_nonzero (c : Counters) {l : List Counter} (hl : l.Nodup) (i : Counter) :
    total ((l.filter fun j => c j ≠ 0).map fun j => (j, c j)) i = if i ∈ l then c i else 0 := by
  induction l with
  | nil => simp
  | cons j l ih =>
    obtain ⟨hj, hl⟩ := nodup_cons.mp hl
    have ih := ih hl
    by_cases hzero : c j = 0
    · rw [filter_cons_of_neg (by simpa using hzero), ih]
      by_cases hij : i = j
      · subst hij
        simp [hzero]
      · simp [hij]
    · rw [filter_cons_of_pos (by simpa using hzero), map_cons, total_cons, Pi.add_apply, ih]
      by_cases hij : i = j
      · subst hij
        simp [hj]
      · simp [hij]

theorem total_counters_adds (c : Counters) : total c.adds = c := by
  funext i
  have hmem : i ∈ Counter.all := by cases i <;> decide
  rw [Counters.adds, total_nonzero c (by decide), if_pos hmem]

/-! ## What is counted where -/

/-- What a call has still to add, for each key. -/
def Call.pending : Call → BucketKey → Counters
  | .idle => 0
  | .lookup key left => Pi.single key (total left)
  | .adding key _ left => Pi.single key (total left)

@[simp] theorem pending_toMake (key : BucketKey) (bucket : Nat) (left : List Addition) :
    (Call.toMake key bucket left).pending = Pi.single key (total left) := by
  cases left with
  | nil => simp [Call.toMake, Call.pending]
  | cons a left => rfl

def Flusher.pending : Flusher → BucketKey → Counters
  | .idle => 0
  | .pass _ => 0
  | .drain _ key _ _ drained => Pi.single key drained
  | .upsert _ key _ drained => Pi.single key drained
  | .restore _ key _ left => Pi.single key (total left)
  | .sweep _ _ => 0

namespace Metrics

variable {ι : Type} {s : Metrics ι} {bucket : Nat}

theorem inMemory_addTo (s : Metrics ι) (key : BucketKey) (bucket : Nat) (a : Addition) :
    (s.addTo key bucket a).inMemory =
      s.inMemory + if s.hotBuckets key = some bucket then Pi.single key (Pi.single a.1 a.2) else 0 := by
  funext k i
  by_cases hk : k = key
  · subst hk
    cases hindex : s.hotBuckets k with
    | none => simp [inMemory, addTo, hindex]
    | some b =>
      by_cases hb : b = bucket
      · subst hb
        by_cases hi : i = a.1
        · subst hi
          simp [inMemory, addTo, hindex]
        · simp [inMemory, addTo, hindex, hi]
      · simp [inMemory, addTo, hindex, hb]
  · have hsame : (s.addTo key bucket a).inMemory k = s.inMemory k := by simp [inMemory, addTo, hk]
    rw [hsame]
    split <;> simp [hk]

theorem inMemory_swapOut (s : Metrics ι) {key : BucketKey} (i : Counter)
    (h : s.hotBuckets key = some bucket) :
    (s.swapOut key bucket i).inMemory + Pi.single key (Pi.single i (s.buckets key bucket i))
      = s.inMemory := by
  funext k j
  by_cases hk : k = key
  · subst hk
    by_cases hj : j = i
    · subst hj
      simp [inMemory, swapOut, h]
    · simp [inMemory, swapOut, h, hj]
  · simp [inMemory, swapOut, hk]

section

variable (s : Metrics ι) (key : BucketKey)

theorem inMemory_loadOrStore : (s.loadOrStore key).1.inMemory = s.inMemory := by
  funext k
  cases hindex : s.hotBuckets key with
  | some => simp [loadOrStore, hindex]
  | none =>
    by_cases hk : k = key
    · subst hk
      simp [loadOrStore, inMemory, hindex]
    · simp [loadOrStore, inMemory, hindex, hk]

end

/-! ## Losses -/

/-- **What a step loses.** -/
def loss (s : Metrics ι) : Event ι → BucketKey → Counters
  | .call i =>
    match s.calls i with
    | .adding key bucket (a :: _) =>
      -- an addition to a bucket that the index has no more
      if s.hotBuckets key = some bucket then 0 else Pi.single key (Pi.single a.1 a.2)
    | _ => 0
  | .flush _ clock =>
    match s.flusher with
    | .drain _ key _ [] drained =>
      -- what was drained of a bucket without requests
      if drained .requestCount = 0 then Pi.single key drained else 0
    | .sweep _ key =>
      -- what is in a bucket that is removed
      if old clock key then Pi.single key (s.inMemory key) else 0
    | _ => 0
  | _ => 0

theorem loss_nonneg (h : s.Sound) (e : Event ι) : 0 ≤ s.loss e := by
  cases e with
  | call i =>
    have hleft := h.calls i
    simp only [loss]
    split
    · next key bucket a left hcall =>
      rw [hcall] at hleft
      split
      · exact le_rfl
      · exact Pi.single_nonneg.mpr (Pi.single_nonneg.mpr (hleft a (mem_cons_self ..)))
    · exact le_rfl
  | flush =>
    have hholds := h.flusher
    simp only [loss]
    split
    · next key bucket drained hf =>
      rw [hf] at hholds
      split
      · exact Pi.single_nonneg.mpr hholds.2.2.2
      · exact le_rfl
    · next key hf =>
      split
      · refine Pi.single_nonneg.mpr ?_
        rw [inMemory]
        split
        · exact h.buckets _ _
        · exact le_rfl
      · exact le_rfl
    · exact le_rfl
  | _ => exact le_rfl

/-- **A step that loses nothing**: a drain that finds no request has found nothing else, an old
bucket is removed only when it is empty, and an addition reaches a bucket of the index. -/
def Safe (s : Metrics ι) : Event ι → Prop
  | .call i =>
    match s.calls i with
    | .adding key bucket (a :: _) => s.hotBuckets key = some bucket ∨ a.2 = 0
    | _ => True
  | .flush _ clock =>
    match s.flusher with
    | .drain _ _ _ [] drained => drained .requestCount = 0 → drained = 0
    | .sweep _ key => old clock key → s.inMemory key = 0
    | _ => True
  | _ => True

theorem loss_eq_zero_iff (s : Metrics ι) (e : Event ι) : s.loss e = 0 ↔ s.Safe e := by
  cases e with
  | call i =>
    simp only [loss, Safe]
    cases s.calls i with
    | idle => simp
    | lookup => simp
    | adding key bucket left =>
      cases left with
      | nil => simp
      | cons a left =>
        by_cases hindex : s.hotBuckets key = some bucket
        · simp [hindex]
        · simp [hindex]
  | flush stored clock =>
    simp only [loss, Safe]
    cases s.flusher with
    | drain _ _ _ left drained =>
      cases left with
      | nil =>
        by_cases hzero : drained .requestCount = 0
        · simp only [hzero]
          simp
        · simp [hzero]
      | cons i left => simp
    | sweep _ key =>
      by_cases hold : old clock key
      · simp [hold]
      · simp [hold]
    | _ => simp
  | _ => simp [loss, Safe]

/-! ## The deficit -/

variable [Fintype ι]

/-- All that is counted somewhere. -/
def balance (s : Metrics ι) : BucketKey → Counters :=
  s.stored + s.inMemory + (∑ i, (s.calls i).pending) + s.flusher.pending

def deficit (s : Metrics ι) : BucketKey → Counters := s.recorded - s.balance

theorem deficit_of_quiet (h : s.Quiet) : s.deficit = s.recorded - (s.stored + s.inMemory) := by
  have hcalls : ∑ i, (s.calls i).pending = 0 :=
    Finset.sum_eq_zero fun i _ => by rw [h.calls i, Call.pending]
  rw [deficit, balance, hcalls, h.flusher, pending, add_zero, add_zero]

section

variable (s : Metrics ι)

theorem deficit_setFlusher (f : Flusher) :
    (s.setFlusher f).deficit = s.deficit + s.flusher.pending - f.pending := by
  show s.recorded - (s.stored + s.inMemory + (∑ i, (s.calls i).pending) + f.pending) = _
  rw [deficit, balance]
  abel

/-- What changes only in memory. -/
theorem deficit_of_inMemory (s' : Metrics ι) (hrest : s'.recorded = s.recorded ∧
    s'.stored = s.stored ∧ s'.calls = s.calls ∧ s'.flusher = s.flusher) :
    s'.deficit = s.deficit + (s.inMemory - s'.inMemory) := by
  rw [deficit, deficit, balance, balance, hrest.1, hrest.2.1, hrest.2.2.1, hrest.2.2.2]
  abel

variable (key : BucketKey)

theorem deficit_addTo (bucket : Nat) (a : Addition) : (s.addTo key bucket a).deficit =
      s.deficit - if s.hotBuckets key = some bucket then Pi.single key (Pi.single a.1 a.2) else 0 := by
  rw [deficit_of_inMemory s (s.addTo key bucket a) ⟨rfl, rfl, rfl, rfl⟩, inMemory_addTo]
  abel

theorem deficit_swapOut {key : BucketKey} (i : Counter) (h : s.hotBuckets key = some bucket) :
    (s.swapOut key bucket i).deficit =
      s.deficit + Pi.single key (Pi.single i (s.buckets key bucket i)) := by
  rw [deficit_of_inMemory s (s.swapOut key bucket i) ⟨rfl, rfl, rfl, rfl⟩,
    eq_sub_of_add_eq (inMemory_swapOut s i h), sub_sub_cancel]

theorem deficit_loadOrStore : (s.loadOrStore key).1.deficit = s.deficit := by
  rw [deficit_of_inMemory s _, inMemory_loadOrStore, sub_self, add_zero]
  rw [loadOrStore]
  split <;> exact ⟨rfl, rfl, rfl, rfl⟩

theorem deficit_upsertPerfMetric (metric : Counters) :
    (s.upsertPerfMetric key metric).deficit = s.deficit - Pi.single key metric := by
  have hstored : (s.upsertPerfMetric key metric).stored = s.stored + Pi.single key metric := by
    funext k
    by_cases hk : k = key
    · subst hk
      simp [stored, upsertPerfMetric]
    · simp [stored, upsertPerfMetric, hk]
  rw [deficit, balance, hstored]
  show s.recorded - (_ + s.inMemory + (∑ i, (s.calls i).pending) + s.flusher.pending) = _
  rw [deficit, balance]
  abel

theorem deficit_remove : (s.remove key).deficit =
      s.deficit + Pi.single key (s.inMemory key) := by
  have hmemory : (s.remove key).inMemory + Pi.single key (s.inMemory key) = s.inMemory := by
    funext k
    by_cases hk : k = key
    · subst hk
      simp [inMemory, remove]
    · simp [inMemory, remove, hk]
  rw [deficit_of_inMemory s (s.remove key) ⟨rfl, rfl, rfl, rfl⟩, eq_sub_of_add_eq hmemory, sub_sub_cancel]

theorem deficit_recorded (sample : Sample) :
    ({ s with samples := s.samples ++ [(key, sample)] } : Metrics ι).deficit =
      s.deficit + Pi.single key sample.counters := by
  have hrecorded : ({ s with samples := s.samples ++ [(key, sample)] } : Metrics ι).recorded =
      s.recorded + Pi.single key sample.counters := by
    funext k
    by_cases hk : k = key
    · subst hk
      simp [recorded]
    · simp [recorded, Ne.symm hk]
  rw [deficit, hrecorded, deficit]
  show _ - s.balance = _
  abel

variable [DecidableEq ι]

theorem sum_pending_update (calls : ι → Call) (i : ι) (c : Call) :
    (∑ j, (update calls i c j).pending) =
      (∑ j, (calls j).pending) + c.pending - (calls i).pending := by
  have hold := Finset.add_sum_erase Finset.univ (fun j => (calls j).pending) (Finset.mem_univ i)
  have hnew := Finset.add_sum_erase Finset.univ (fun j => (update calls i c j).pending)
    (Finset.mem_univ i)
  have hothers : ∑ j ∈ Finset.univ.erase i, (update calls i c j).pending =
      ∑ j ∈ Finset.univ.erase i, (calls j).pending :=
    Finset.sum_congr rfl fun j hj => by rw [update_of_ne (Finset.ne_of_mem_erase hj)]
  rw [← hold, ← hnew, hothers, update_self]
  abel

theorem deficit_setCall (i : ι) (c : Call) :
    (s.setCall i c).deficit = s.deficit + (s.calls i).pending - c.pending := by
  have hcalls : (∑ j, ((s.setCall i c).calls j).pending) =
      (∑ j, (s.calls j).pending) + c.pending - (s.calls i).pending := sum_pending_update s.calls i c
  rw [deficit, balance, hcalls]
  show s.recorded - (s.stored + s.inMemory + _ + s.flusher.pending) = _
  rw [deficit, balance]
  abel

end

/-! ## Steps -/

/-- The step of a pass moves the deficit by what it loses. -/
theorem deficit_stepFlusher (h : Holds s.hotBuckets s.flusher) (stored : Bool) (clock : Clock) :
    (s.stepFlusher stored clock).deficit = s.deficit + s.loss (.flush stored clock) := by
  cases hf : s.flusher with
  | idle | pass => simp [stepFlusher, loss, hf]
  | drain current key bucket left drained =>
    rw [hf] at h
    obtain ⟨hindex, hnodup, hzero, -⟩ := h
    cases left with
    | nil =>
      simp only [stepFlusher, loss, hf]
      split
      · rw [deficit_setFlusher, hf]
        abel
      · rw [deficit_setFlusher, hf, pending, pending]
        abel
    | cons i left =>
      have hf' : (s.swapOut key bucket i).flusher = .drain current key bucket (i :: left) drained := hf
      -- the counter was not drained before
      have hdrained : update drained i (s.buckets key bucket i) =
          drained + Pi.single i (s.buckets key bucket i) := by
        funext j
        by_cases hj : j = i
        · subst hj
          simp [hzero j (mem_cons_self ..)]
        · simp [hj]
      simp only [stepFlusher, loss, hf]
      rw [deficit_setFlusher, deficit_swapOut s i hindex, hf', pending, pending, hdrained,
        Pi.single_add]
      abel
  | upsert current key bucket drained =>
    simp only [stepFlusher, loss, hf]
    split
    · have hf' : (s.upsertPerfMetric key drained).flusher = .upsert current key bucket drained := hf
      rw [deficit_setFlusher, deficit_upsertPerfMetric, hf', pending]
      abel
    · rw [deficit_setFlusher, hf, pending, pending, total_counters_adds]
      abel
  | restore current key bucket left =>
    rw [hf] at h
    cases left with
    | nil =>
      simp only [stepFlusher, loss, hf]
      rw [deficit_setFlusher, hf, pending, pending, total_nil, Pi.single_zero]
      abel
    | cons a left =>
      have hf' : (s.addTo key bucket a).flusher = .restore current key bucket (a :: left) := hf
      simp only [stepFlusher, loss, hf]
      rw [deficit_setFlusher, deficit_addTo, if_pos h.1, hf', pending, pending,
        total_cons, Pi.single_add]
      abel
  | sweep current key =>
    simp only [stepFlusher, loss, hf]
    split
    · have hf' : (s.remove key).flusher = .sweep current key := hf
      rw [deficit_setFlusher, deficit_remove, hf']
      abel
    · rw [deficit_setFlusher, hf]
      abel

variable [DecidableEq ι]

theorem deficit_stepCall (s : Metrics ι) (i : ι) :
    (s.stepCall i).deficit = s.deficit + s.loss (.call i) := by
  cases hcall : s.calls i with
  | idle => simp [stepCall, loss, hcall]
  | lookup key left =>
    have hcalls : (s.loadOrStore key).1.calls i = .lookup key left := by
      rw [← hcall, loadOrStore]
      split <;> rfl
    simp only [stepCall, loss, hcall]
    rw [deficit_setCall, deficit_loadOrStore, hcalls, pending_toMake, Call.pending]
    abel
  | adding key bucket left =>
    cases left with
    | nil =>
      simp only [stepCall, loss, hcall]
      rw [deficit_setCall, hcall, Call.pending, Call.pending, total_nil, Pi.single_zero]
      abel
    | cons a left =>
      have hcalls : (s.addTo key bucket a).calls i = .adding key bucket (a :: left) := hcall
      simp only [stepCall, loss, hcall]
      rw [deficit_setCall, deficit_addTo, hcalls, pending_toMake, Call.pending, total_cons,
        Pi.single_add]
      split <;> abel

/-- **Every step** moves the deficit by what it loses. -/
theorem deficit_step (h : s.Sound) (e : Event ι) : (s.step e).deficit = s.deficit + s.loss e := by
  cases e with
  | record i clock _ sample =>
    simp only [step, startRecord, loss, add_zero]
    split
    · next hcall =>
      split
      · rfl
      · have hcalls : ({ s with samples := s.samples ++ [normalize clock sample] } : Metrics ι).calls
            i = .idle := hcall
        rw [deficit_setCall, hcalls, Call.pending, Call.pending, total_adds]
        have hrecorded := deficit_recorded s (normalize clock sample).1 (normalize clock sample).2
        rw [hrecorded]
        abel
    · rfl
  | call i => exact deficit_stepCall s i
  | pass | finish =>
    simp only [step, loss, add_zero]
    split
    · next hf => rw [deficit_setFlusher, hf]; abel
    · rfl
  | visit key =>
    simp only [step, loss, add_zero]
    split
    · next hf _ =>
      split
      · rfl
      · rw [deficit_setFlusher, hf, pending, pending, Pi.single_zero]; abel
    · rfl
  | flush stored clock => exact deficit_stepFlusher h.flusher stored clock

/-! ## Conservation -/

/-- **Conservation**: when no call is in flight, the stored rows and the buckets in memory add up to
the samples just if every step was safe. -/
theorem metrics_conserved_iff_safe (es : List (Event ι))
    (hquiet : (run step (start : Metrics ι) es).Quiet) :
    (∀ key i, (run step start es).stored key i + (run step start es).inMemory key i =
      (run step start es).recorded key i) ↔ Along step Safe (start : Metrics ι) es := by
  have hsound : ∀ (s : Metrics ι) e, s.Sound → (s.step e).Sound := fun s e h => h.step e
  have hflow := run_eq_add_accrued hsound (fun s e h => deficit_step h e) sound_start es
  have hquiet0 : (start : Metrics ι).Quiet := ⟨fun _ => rfl, rfl⟩
  have hstart : (start : Metrics ι).deficit = 0 := by
    rw [deficit_of_quiet hquiet0]
    rfl
  have hnone := accrued_eq_zero_iff hsound (fun s e h => loss_nonneg h e) sound_start es
  rw [hstart, zero_add, deficit_of_quiet hquiet] at hflow
  simp only [loss_eq_zero_iff] at hnone
  rw [← hnone, ← hflow, sub_eq_zero]
  constructor
  · intro h
    funext key i
    exact (h key i).symm
  · intro h key i
    rw [h]
    rfl

/-- A successful request of ten milliseconds. -/
def quickSample : Sample := ⟨"m", "g", 10, 0, false, true, 0, 0⟩

def firstHour : BucketKey := ⟨"m", "g", 0⟩

/-- A pass over the first bucket, after the end of its hour: seven swaps, the decision, the
statement and the check of its age. -/
def flushFirstHour (seconds : Int) : List (Event Unit) :=
  [.pass ⟨3600 + seconds, .hour⟩, .visit firstHour]
    ++ List.replicate 10 (.flush true ⟨3600 + seconds, .hour⟩) ++ [.finish]

/-- A sample that is recorded before the pass. -/
def earlySample : List (Event Unit) :=
  .record () ⟨3000, .hour⟩ true quickSample :: List.replicate 4 (.call ()) ++ flushFirstHour 1

/-- It is stored. -/
theorem metrics_conserved_iff_safe_earlySample :
    (run step start earlySample).Quiet ∧
    ((∀ key i, (run step start earlySample).stored key i + (run step start earlySample).inMemory key i =
      (run step start earlySample).recorded key i) ↔ Along step Safe start earlySample) ∧
    (run step start earlySample).stored firstHour .totalLatencyMs = 10 :=
  ⟨by decide +kernel, metrics_conserved_iff_safe earlySample (by decide +kernel), by decide +kernel⟩

/-- A sample of the last second of the hour: its call has added the request when the first pass
drains the bucket, and adds the rest before the second. -/
def lateSample : List (Event Unit) :=
  [.record () ⟨3599, .hour⟩ true quickSample, .call (), .call ()] ++ flushFirstHour 1
    ++ [.call (), .call ()] ++ flushFirstHour 301

/-- **The rest is lost**: the second pass drains it and drops it, as it finds no request. -/
theorem late_sample_lost :
    (run step start lateSample).Quiet ∧
    (run step start lateSample).stored firstHour .successCount +
        (run step start lateSample).inMemory firstHour .successCount = 0 ∧
      (run step start lateSample).recorded firstHour .successCount = 1 := by
  decide +kernel

end Metrics

end RenewApi.PerfMetrics
