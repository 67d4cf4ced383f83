import RenewApi.Metrics.Buckets

/-! # What holds of the metrics in every state

Nothing is negative, and the flusher works on a bucket of the index (`Metrics.Sound`). -/

namespace RenewApi.PerfMetrics

open List

def Call.left : Call → List Addition
  | .idle => []
  | .lookup _ left => left
  | .adding _ _ left => left

/-- What the flusher may hold: counters of a bucket of the index, none of them drained twice. -/
def Holds (index : BucketKey → Option Nat) : Flusher → Prop
  | .drain _ key bucket left drained =>
    index key = some bucket ∧ left.Nodup ∧ (∀ i ∈ left, drained i = 0) ∧ 0 ≤ drained
  | .upsert _ key bucket drained => index key = some bucket ∧ 0 ≤ drained
  | .restore _ key bucket left => index key = some bucket ∧ ∀ a ∈ left, 0 ≤ a.2
  | .idle | .pass _ | .sweep .. => True

theorem Holds.mono {index index' : BucketKey → Option Nat} {f : Flusher} (h : Holds index f)
    (hindex : ∀ key bucket, index key = some bucket → index' key = some bucket) : Holds index' f := by
  cases f with
  | idle | pass | sweep => trivial
  | _ => exact ⟨hindex _ _ h.1, h.2⟩

@[simp] theorem left_toMake (key : BucketKey) (bucket : Nat) (left : List Addition) :
    (Call.toMake key bucket left).left = left := by
  cases left <;> rfl

theorem nonneg_of_mem_sample_adds (sample : Sample) : ∀ a ∈ sample.adds, 0 ≤ a.2 := by
  intro a ha
  -- what is added under a condition
  have hpart {P : Prop} [Decidable P] {l : List Addition} (hl : P → ∀ b ∈ l, 0 ≤ b.2)
      (h : a ∈ if P then l else []) : 0 ≤ a.2 := by
    split at h
    · next hP => exact hl hP a h
    · cases h
  simp only [Sample.adds, mem_append] at ha
  rcases ha with (((ha | ha) | ha) | ha) | ha
  · rw [mem_singleton] at ha
    rw [ha]
    decide
  · exact hpart (by simp) ha
  · exact hpart (by simpa using fun h => h.le) ha
  · exact hpart (by simp) ha
  · exact hpart (by simpa using fun h h' => ⟨h.le, h'.le⟩) ha

theorem nonneg_of_mem_adds {c : Counters} (hc : 0 ≤ c) : ∀ a ∈ c.adds, 0 ≤ a.2 := by
  intro a ha
  obtain ⟨i, -, rfl⟩ := mem_map.mp ha
  exact hc i

namespace Metrics

variable {ι : Type}

/-- **The invariant** of all runs: nothing is negative, and the flusher holds a bucket of the
index. -/
structure Sound (s : Metrics ι) : Prop where
  buckets : ∀ key bucket, 0 ≤ s.buckets key bucket
  calls : ∀ i, ∀ a ∈ (s.calls i).left, 0 ≤ a.2
  flusher : Holds s.hotBuckets s.flusher

theorem sound_start : (start : Metrics ι).Sound :=
  ⟨fun _ _ => le_rfl, fun _ _ ha => by simp [start, Call.left] at ha, trivial⟩

section

variable (s : Metrics ι) (key k : BucketKey) (bucket b : Nat)

theorem buckets_addTo (a : Addition) (i : Counter) :
    (s.addTo key bucket a).buckets k b i =
      s.buckets k b i + if k = key ∧ b = bucket ∧ i = a.1 then a.2 else 0 := by
  by_cases hk : k = key
  · subst hk
    by_cases hb : b = bucket
    · subst hb
      by_cases hi : i = a.1
      · subst hi
        simp [addTo]
      · simp [addTo, hi]
    · simp [addTo, hb]
  · simp [addTo, hk]

theorem buckets_swapOut (c i : Counter) :
    (s.swapOut key bucket c).buckets k b i =
      if k = key ∧ b = bucket ∧ i = c then 0 else s.buckets k b i := by
  by_cases hk : k = key
  · subst hk
    by_cases hb : b = bucket
    · subst hb
      by_cases hi : i = c
      · subst hi
        simp [swapOut]
      · simp [swapOut, hi]
    · simp [swapOut, hb]
  · simp [swapOut, hk]

end

section

variable {s : Metrics ι}

section

variable (h : s.Sound)
include h

theorem Sound.setFlusher {f : Flusher} (hf : Holds s.hotBuckets f) : (s.setFlusher f).Sound :=
  ⟨h.buckets, h.calls, hf⟩

theorem Sound.addTo (key : BucketKey) (bucket : Nat) {a : Addition} (ha : 0 ≤ a.2) :
    (s.addTo key bucket a).Sound := by
  refine ⟨fun k b i => ?_, h.calls, h.flusher⟩
  have hold : 0 ≤ s.buckets k b i := h.buckets k b i
  rw [buckets_addTo]
  split <;> exact add_nonneg hold (by first | exact ha | exact le_rfl)

theorem Sound.swapOut (key : BucketKey) (bucket : Nat) (c : Counter) :
    (s.swapOut key bucket c).Sound := by
  refine ⟨fun k b i => ?_, h.calls, h.flusher⟩
  rw [buckets_swapOut]
  split
  · exact le_rfl
  · exact h.buckets k b i

theorem Sound.loadOrStore (key : BucketKey) : (s.loadOrStore key).1.Sound := by
  cases hindex : s.hotBuckets key with
  | some => simpa [Metrics.loadOrStore, hindex] using h
  | none =>
    simp only [Metrics.loadOrStore, hindex]
    refine ⟨fun k b => ?_, h.calls, h.flusher.mono fun k b hk => ?_⟩
    · by_cases hk : k = key
      · subst hk
        by_cases hb : b = s.made k
        · simp [hb]
        · simpa [hb] using h.buckets k b
      · simpa [hk] using h.buckets k b
    · have hne : k ≠ key := by
        rintro rfl
        rw [hindex] at hk
        cases hk
      simpa [hne] using hk

/-- **A step of a pass.** -/
theorem Sound.stepFlusher (stored : Bool) (clock : Clock) : (s.stepFlusher stored clock).Sound := by
  have hholds := h.flusher
  cases hf : s.flusher with
  | idle | pass => simpa [Metrics.stepFlusher, hf] using h
  | drain _ key bucket left =>
    rw [hf] at hholds
    obtain ⟨hindex, hnodup, hzero, hnonneg⟩ := hholds
    cases left with
    | nil =>
      simp only [Metrics.stepFlusher, hf]
      split
      · exact h.setFlusher trivial
      · exact h.setFlusher ⟨hindex, hnonneg⟩
    | cons c left =>
      obtain ⟨hc, hnodup⟩ := nodup_cons.mp hnodup
      simp only [Metrics.stepFlusher, hf]
      refine (h.swapOut key bucket c).setFlusher ⟨hindex, hnodup, fun i hi => ?_, fun i => ?_⟩
      · have hne : i ≠ c := fun heq => hc (heq ▸ hi)
        simpa [hne] using hzero i (mem_cons_of_mem c hi)
      · by_cases hi : i = c
        · subst hi
          simpa using h.buckets key bucket i
        · simpa [hi] using hnonneg i
  | upsert =>
    rw [hf] at hholds
    simp only [Metrics.stepFlusher, hf]
    split
    · exact ⟨h.buckets, h.calls, trivial⟩
    · exact h.setFlusher ⟨hholds.1, nonneg_of_mem_adds hholds.2⟩
  | restore _ key bucket left =>
    rw [hf] at hholds
    cases left with
    | nil =>
      simp only [Metrics.stepFlusher, hf]
      exact h.setFlusher trivial
    | cons a left =>
      simp only [Metrics.stepFlusher, hf]
      refine (h.addTo key bucket (hholds.2 a (mem_cons_self ..))).setFlusher ⟨hholds.1, ?_⟩
      exact fun b hb => hholds.2 b (mem_cons_of_mem a hb)
  | sweep =>
    simp only [Metrics.stepFlusher, hf]
    split
    · exact ⟨h.buckets, h.calls, trivial⟩
    · exact h.setFlusher trivial

end

variable [DecidableEq ι]

theorem Sound.setCall (h : s.Sound) (i : ι) {c : Call} (hc : ∀ a ∈ c.left, 0 ≤ a.2) :
    (s.setCall i c).Sound := by
  refine ⟨h.buckets, fun j => ?_, h.flusher⟩
  by_cases hj : j = i
  · subst hj
    simpa [Metrics.setCall] using hc
  · simpa [Metrics.setCall, hj] using h.calls j

theorem Sound.stepCall (h : s.Sound) (i : ι) : (s.stepCall i).Sound := by
  have hleft := h.calls i
  cases hcall : s.calls i with
  | idle => simpa [Metrics.stepCall, hcall] using h
  | lookup key left =>
    rw [hcall] at hleft
    simp only [Metrics.stepCall, hcall]
    exact (h.loadOrStore key).setCall i (by rwa [left_toMake])
  | adding key bucket left =>
    rw [hcall] at hleft
    cases left with
    | nil =>
      simp only [Metrics.stepCall, hcall]
      exact h.setCall i (by simp [Call.left])
    | cons a left =>
      simp only [Metrics.stepCall, hcall]
      refine (h.addTo key bucket (hleft a (mem_cons_self ..))).setCall i ?_
      rw [left_toMake]
      exact fun b hb => hleft b (mem_cons_of_mem a hb)

/-- **Every step keeps the invariant.** -/
theorem Sound.step (h : s.Sound) (e : Event ι) : (s.step e).Sound := by
  cases e with
  | record i clock _ sample =>
    simp only [Metrics.step, startRecord]
    split
    · split
      · exact h
      · have hrecorded :
            ({ s with samples := s.samples ++ [normalize clock sample] } : Metrics ι).Sound :=
          ⟨h.buckets, h.calls, h.flusher⟩
        exact hrecorded.setCall i (nonneg_of_mem_sample_adds _)
    · exact h
  | call i => exact h.stepCall i
  | pass | finish =>
    simp only [Metrics.step]
    split
    · exact h.setFlusher trivial
    · exact h
  | visit key =>
    simp only [Metrics.step]
    split
    · next hindex =>
      split
      · exact h
      · exact h.setFlusher ⟨hindex, by decide, fun _ _ => rfl, le_rfl⟩
    · exact h
  | flush stored clock => exact h.stepFlusher stored clock

end

end Metrics

end RenewApi.PerfMetrics
