import RenewApi.Stream.Commit

/-! # A committed stream

After the commit every data frame goes to the client as it is, in whatever chunks it was written.
Frames without a `data` line do not: `Write` skips them, before the commit and after it alike. The
keep-alive comment `: PING` that the stream scanner sends once the client has got output is such a
frame. -/

namespace RenewApi.Stream

open Framing Relational List Delimiters

variable {cfg : StreamSettings} {fs : List Bytes} {f : Bytes}

namespace StreamStagingWriter

/-- Calls of `Write` until one fails. -/
def writeAll (cfg : StreamSettings) : List Bytes → StreamStagingWriter →
    StreamStagingWriter × Except StagingError Unit
  | [], w => (w, .ok ())
  | p :: ps, w =>
    match w.write cfg p with
    | (w', .ok ()) => writeAll cfg ps w'
    | (w', .error e) => (w', .error e)

/-- The writer has committed an event stream and has no error. -/
structure Flowing (w : StreamStagingWriter) : Prop where
  state : w.state = .observed
  written : w.client.written = true
  err : w.err = none
  eventStream : isEventStream w.header = true

def dataFrames (cfg : StreamSettings) (frames : List Bytes) : Bytes :=
  (frames.filter cfg.dataBearing).flatten

theorem dataFrames_cons_of_data (h : cfg.dataBearing f = true) :
    dataFrames cfg (f :: fs) = f ++ dataFrames cfg fs := by
  rw [dataFrames, filter_cons_of_pos h, flatten_cons, dataFrames]

theorem dataFrames_cons_of_no_data (h : cfg.dataBearing f = false) :
    dataFrames cfg (f :: fs) = dataFrames cfg fs := by
  rw [dataFrames, filter_cons_of_neg (by rw [h]; exact Bool.false_ne_true), dataFrames]

theorem dataFrames_append (fs gs : List Bytes) :
    dataFrames cfg (fs ++ gs) = dataFrames cfg fs ++ dataFrames cfg gs := by
  rw [dataFrames, filter_append, flatten_append, dataFrames, dataFrames]

theorem length_dataFrames_le (frames : List Bytes) :
    (dataFrames cfg frames).length ≤ frames.flatten.length := by
  induction frames with
  | nil => exact Nat.le_refl _
  | cons f fs ih =>
    rw [flatten_cons, length_append]
    cases hdata : cfg.dataBearing f with
    | false =>
      rw [dataFrames_cons_of_no_data hdata]
      omega
    | true =>
      rw [dataFrames_cons_of_data hdata, length_append]
      omega

variable {w : StreamStagingWriter} {body pending p : Bytes}

/-- **The loop of a flowing writer** takes all frames off `pending`; those with data go to the
client. -/
theorem writeLoop_flowing {fuel : Nat} (hw : w.Flowing) (hbody : w.client.body = some body)
    (hpasses : ∀ f ∈ (sseDelimiters.cutAll w.pending).1, cfg.dataBearing f = true → cfg.passes f = true)
    (hfuel : w.pending.length < fuel) :
    ∃ w', w.writeLoop cfg fuel = (w', .ok ()) ∧ w'.Flowing ∧
      w'.pending = (sseDelimiters.cutAll w.pending).2 ∧
      w'.client.body = some (body ++ dataFrames cfg (sseDelimiters.cutAll w.pending).1) := by
  -- Each round takes a frame off, so the induction is on the fuel.
  induction fuel generalizing w body with
  | zero => exact absurd hfuel (Nat.not_lt_zero _)
  | succ fuel ih =>
    rw [writeLoop, writeRound]
    cases hcut : sseDelimiters.cut w.pending with
    | none =>
      have hend : w.endWrite = (w, .returned (.ok ())) := by simp [endWrite, hw.written]
      rw [hend, cutAll_of_none hcut]
      exact ⟨w, rfl, hw, rfl, by rw [hbody]; simp [dataFrames]⟩
    | some fr =>
      obtain ⟨frame, rest⟩ := fr
      have hless : rest.length < fuel := by
        have := length_lt_of_cut hcut
        omega
      rw [cutAll_of_some hcut] at hpasses ⊢
      dsimp only at hpasses ⊢
      have hrest : ∀ f ∈ (sseDelimiters.cutAll rest).1, cfg.dataBearing f = true →
          cfg.passes f = true := fun f hf => hpasses f (mem_cons_of_mem _ hf)
      cases hdata : cfg.dataBearing frame with
      | false =>
        rw [acceptFrame_skip hdata]
        obtain ⟨w', hloop, hflow, hpend, hbody'⟩ := ih (w := { w with pending := rest })
          ⟨hw.state, hw.written, hw.err, hw.eventStream⟩ hbody hrest hless
        refine ⟨w', hloop, hflow, hpend, ?_⟩
        rw [hbody', dataFrames_cons_of_no_data hdata]
      | true =>
        have hframe := hpasses frame mem_cons_self hdata
        rw [acceptFrame_forward (w := { w with pending := rest }) hframe hw.written]
        have hbody' : (w.client.write frame).body = some (body ++ frame) := by
          rw [ClientWriter.write, hbody]
          rfl
        obtain ⟨w', hloop, hflow, hpend, hshown⟩ := ih
          (w := { w with
            pending := rest
            terminal := w.terminal || (cfg.meaning frame).terminal
            client := w.client.write frame })
          ⟨hw.state, rfl, hw.err, hw.eventStream⟩ hbody' hrest hless
        refine ⟨w', hloop, hflow, hpend, ?_⟩
        rw [hshown, dataFrames_cons_of_data hdata, append_assoc]

theorem write_flowing (hw : w.Flowing) (hbody : w.client.body = some body)
    (hlimit : (w.pending ++ p).length ≤ cfg.scannerBufferSize)
    (hpasses : ∀ f ∈ (sseDelimiters.cutAll (w.pending ++ p)).1, cfg.dataBearing f = true →
      cfg.passes f = true) :
    ∃ w', w.write cfg p = (w', .ok ()) ∧ w'.Flowing ∧
      w'.pending = (sseDelimiters.cutAll (w.pending ++ p)).2 ∧
      w'.client.body = some (body ++ dataFrames cfg (sseDelimiters.cutAll (w.pending ++ p)).1) := by
  rw [write, beginWrite_stream hw.err (by rw [hw.state]; nofun) hw.eventStream,
    if_neg (Nat.not_lt.mpr hlimit)]
  exact writeLoop_flowing (w := { w with pending := w.pending ++ p })
    ⟨hw.state, hw.written, hw.err, hw.eventStream⟩ hbody hpasses (Nat.lt_succ_self _)

/-- No call exceeds the buffer, which starts with `pending`. -/
def WithinLimit (cfg : StreamSettings) (pending : Bytes) (chunks : List Bytes) : Prop :=
  ∀ before p after, chunks = before ++ p :: after →
    ((sseDelimiters.cutAll (pending ++ before.flatten)).2 ++ p).length ≤ cfg.scannerBufferSize

theorem withinLimit_of_length {chunks : List Bytes}
    (h : (pending ++ chunks.flatten).length ≤ cfg.scannerBufferSize) :
    WithinLimit cfg pending chunks := by
  intro before p after hsplit
  have hcut := congrArg length
    (flatten_cutAll (d := sseDelimiters) (pending ++ before.flatten))
  rw [hsplit, flatten_append, flatten_cons] at h
  simp only [length_append] at h hcut ⊢
  omega

theorem WithinLimit.tail {ps : List Bytes} (h : WithinLimit cfg pending (p :: ps)) :
    WithinLimit cfg (sseDelimiters.cutAll (pending ++ p)).2 ps := by
  intro before q after hsplit
  have := h (p :: before) q after (by rw [hsplit, cons_append])
  rwa [flatten_cons, ← append_assoc, cutAll_append] at this

/-- **Any chunks**: what reaches the client are the data frames of the concatenation. -/
theorem writeAll_flowing (chunks : List Bytes) (hw : w.Flowing) (hbody : w.client.body = some body)
    (hpending : sseDelimiters.cut w.pending = none) (hlimit : WithinLimit cfg w.pending chunks)
    (hpasses : ∀ f ∈ (sseDelimiters.cutAll (w.pending ++ chunks.flatten)).1,
      cfg.dataBearing f = true → cfg.passes f = true) :
    ∃ w', w.writeAll cfg chunks = (w', .ok ()) ∧
      w'.client.body =
        some (body ++ dataFrames cfg (sseDelimiters.cutAll (w.pending ++ chunks.flatten)).1) := by
  induction chunks generalizing w body with
  | nil =>
    refine ⟨w, rfl, ?_⟩
    rw [flatten_nil, append_nil, cutAll_of_none hpending, hbody]
    simp [dataFrames]
  | cons p ps ih =>
    -- The frames of the first call come before those of the others.
    have hcut := cutAll_append (d := sseDelimiters) (w.pending ++ p) ps.flatten
    rw [flatten_cons, ← append_assoc, hcut] at hpasses ⊢
    have hlimit' : (w.pending ++ p).length ≤ cfg.scannerBufferSize := by
      have hfirst := hlimit [] p ps rfl
      rwa [flatten_nil, append_nil, cutAll_of_none hpending] at hfirst
    obtain ⟨w', hwrite, hflow, hpend, hbody'⟩ := write_flowing hw hbody hlimit'
      fun f hf => hpasses f (mem_append_left _ hf)
    obtain ⟨w'', hall, hbody''⟩ := ih hflow hbody' (by rw [hpend]; exact cut_cutAll _)
      (by rw [hpend]; exact hlimit.tail)
      (fun f hf => hpasses f (mem_append_right _ (by rwa [hpend] at hf)))
    refine ⟨w'', by rw [writeAll, hwrite]; exact hall, ?_⟩
    rw [hbody'', hpend, dataFrames_append, append_assoc]

/-- Dropping a frame makes the stream shorter. -/
theorem dataFrames_eq_flatten_iff {frames : List Bytes} (hne : ∀ f ∈ frames, f ≠ []) :
    dataFrames cfg frames = frames.flatten ↔ ∀ f ∈ frames, cfg.dataBearing f = true := by
  constructor
  · intro heq
    -- Compare the lengths: every frame is at least one byte.
    induction frames with
    | nil => exact fun f hf => (nomatch hf)
    | cons f fs ih =>
      rw [flatten_cons] at heq
      cases hdata : cfg.dataBearing f with
      | false =>
        rw [dataFrames_cons_of_no_data hdata] at heq
        have hlength := congrArg length heq
        have hle : (dataFrames cfg fs).length ≤ fs.flatten.length := length_dataFrames_le fs
        have hpos := length_pos_iff.mpr (hne f mem_cons_self)
        rw [length_append] at hlength
        omega
      | true =>
        rw [dataFrames_cons_of_data hdata] at heq
        intro g hg
        rcases mem_cons.mp hg with rfl | hg
        · exact hdata
        · exact ih (fun g hg => hne g (mem_cons_of_mem _ hg)) (append_cancel_left heq) g hg
  · intro hall
    rw [dataFrames, filter_eq_self.mpr hall]

/-- **A committed stream is passed through unchanged exactly if all its frames carry data.** For
frames written to a flowing writer in any chunks within the limit, data frames well formed and no
failures, every `Write` succeeds; the client gets their concatenation if and only if none is a
comment or an event without data. -/
theorem passthrough_iff (cfg : StreamSettings) (w : StreamStagingWriter) (hw : w.Flowing)
    (body : Bytes) (hbody : w.client.body = some body) (hpending : w.pending = [])
    (frames : List Bytes) (hframes : ∀ f ∈ frames, sseDelimiters.Frame f)
    (hpasses : ∀ f ∈ frames, cfg.dataBearing f = true → cfg.passes f = true)
    (chunks : List Bytes) (hchunks : chunks.flatten = frames.flatten)
    (hlimit : WithinLimit cfg [] chunks) :
    (w.writeAll cfg chunks).2 = .ok () ∧
      ((w.writeAll cfg chunks).1.client.body = some (body ++ frames.flatten) ↔
        ∀ f ∈ frames, cfg.dataBearing f = true) := by
  have hcut : (sseDelimiters.cutAll (w.pending ++ chunks.flatten)).1 = frames := by
    rw [hpending, nil_append, hchunks, cutAll_flatten hframes]
  obtain ⟨w', hall, hbody'⟩ := writeAll_flowing chunks hw hbody
    (by rw [hpending]; exact sseDelimiters.cut_nil) (by rw [hpending]; exact hlimit)
    (by rw [hcut]; exact hpasses)
  rw [hcut] at hbody'
  rw [hall]
  refine ⟨rfl, ?_⟩
  rw [hbody', Option.some.injEq, append_cancel_left_eq]
  exact dataFrames_eq_flatten_iff fun f hf => (hframes f hf).ne_nil

def sampleCommitted : StreamStagingWriter :=
  (StreamStagingWriter.writeAll sampleStream [sampleFrame]
    { (StagedAttempt.start (fun _ => none) 200).writer with
      header := fun key => if key = "Content-Type" then some ["text/event-stream"] else none }).1

theorem sampleCommitted_flowing :
    sampleCommitted.Flowing ∧ sampleCommitted.client.body = some sampleFrame ∧
      sampleCommitted.pending = [] := by
  -- one evaluation of the writer for all of its fields
  have h : (sampleCommitted.state = .observed ∧ sampleCommitted.client.written = true ∧
      sampleCommitted.err = none ∧ isEventStream sampleCommitted.header = true) ∧
      sampleCommitted.client.body = some sampleFrame ∧ sampleCommitted.pending = [] := by
    decide +kernel
  obtain ⟨⟨hstate, hwritten, herr, hheader⟩, hclient⟩ := h
  exact ⟨⟨hstate, hwritten, herr, hheader⟩, hclient⟩

/-- A second frame, cut inside its delimiter. -/
theorem passthrough_iff_sample :
    (sampleCommitted.writeAll sampleStream [sampleFrame.take 22, sampleFrame.drop 22]).2 = .ok () ∧
      ((sampleCommitted.writeAll sampleStream [sampleFrame.take 22, sampleFrame.drop 22]).1.client.body =
          some (sampleFrame ++ [sampleFrame].flatten) ↔
        ∀ f ∈ [sampleFrame], sampleStream.dataBearing f = true) := by
  have hlimit : WithinLimit sampleStream [] [sampleFrame.take 22, sampleFrame.drop 22] :=
    withinLimit_of_length (by decide +kernel)
  obtain ⟨hflowing, hbody, hpending⟩ := sampleCommitted_flowing
  exact passthrough_iff sampleStream sampleCommitted hflowing sampleFrame hbody hpending
    [sampleFrame] (by decide +kernel) (by decide +kernel)
    [sampleFrame.take 22, sampleFrame.drop 22] (by decide +kernel) hlimit

/-- `: PING` and an empty line: `PingData`. -/
def pingFrame : Bytes := [58, 32, 80, 73, 78, 71, 10, 10]

/-- **The keep-alive does not reach the client**: its `Write` on a committed writer succeeds, and
the client has only what it had before. -/
theorem ping_dropped :
    sampleCommitted.state = .observed ∧ sampleCommitted.client.body = some sampleFrame ∧
      sseDelimiters.Frame pingFrame ∧
      (sampleCommitted.writeAll sampleStream [pingFrame]).2 = .ok () ∧
      (sampleCommitted.writeAll sampleStream [pingFrame]).1.client.body ≠
        some (sampleFrame ++ pingFrame) := by
  obtain ⟨hflowing, hbody, -⟩ := sampleCommitted_flowing
  refine ⟨hflowing.state, hbody, by decide +kernel, ?_, by decide +kernel⟩
  rfl

end StreamStagingWriter

end RenewApi.Stream
