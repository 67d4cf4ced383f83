import RenewApi.Stream.Staging

/-! # What a staged attempt shows the client

Nothing reaches the client's writer before a complete frame with semantic output is accepted while
the state is still `waiting`; then the frames kept back so far do, that one included. -/

namespace RenewApi.Stream

open Framing Relational Relay List StreamStagingWriter StreamSettings

variable {frame : Bytes} {w : StreamStagingWriter}

variable {cfg : StreamSettings} {x : ProcessedFrame}

theorem StreamSettings.passes_iff :
    cfg.passes frame = true ↔
      cfg.dataBearing frame = true ∧ (cfg.meaning frame).valid = true ∧
        (cfg.meaning frame).failed = false := by
  simp [passes, and_assoc]

namespace StreamStagingWriter

variable {p : Bytes}

theorem acceptFrame_skip (h : cfg.dataBearing frame = false) :
    w.acceptFrame cfg frame = (w, .looping) := by
  rw [acceptFrame, h, Bool.not_false, if_pos rfl]

theorem acceptFrame_reject (h : cfg.dataBearing frame = true) (hbad : cfg.passes frame = false) :
    w.acceptFrame cfg frame =
      ({ w with err := some (.malformed (cfg.payload frame)) },
        .returned (.error (.malformed (cfg.payload frame)))) := by
  have hmeaning : (!(cfg.meaning frame).valid || (cfg.meaning frame).failed) = true := by
    rw [passes, h] at hbad
    revert hbad
    cases (cfg.meaning frame).valid <;> cases (cfg.meaning frame).failed <;> simp
  rw [acceptFrame, h, Bool.not_true, if_neg Bool.false_ne_true, if_pos hmeaning]

section

variable (h : cfg.passes frame = true)
include h

theorem acceptFrame_forward (hwritten : w.client.written = true) : w.acceptFrame cfg frame =
      ({ w with
          terminal := w.terminal || (cfg.meaning frame).terminal
          client := w.client.write frame }, .looping) := by
  simp [acceptFrame, passes_iff.mp h, hwritten]

section

variable (hwritten : w.client.written = false)
include hwritten

theorem acceptFrame_stage (hsemantic : (cfg.meaning frame).semantic = false) :
    w.acceptFrame cfg frame =
      ({ w with
          terminal := w.terminal || (cfg.meaning frame).terminal
          staged := w.staged ++ frame }, .looping) := by
  simp [acceptFrame, passes_iff.mp h, hwritten, hsemantic]

section

variable (hsemantic : (cfg.meaning frame).semantic = true)
include hsemantic

theorem acceptFrame_commit (hstate : w.state = .waiting) : w.acceptFrame cfg frame =
      (commit { w with
          terminal := w.terminal || (cfg.meaning frame).terminal
          staged := w.staged ++ frame
          state := .observed }, .looping) := by
  simp [acceptFrame, passes_iff.mp h, hwritten, hsemantic, hstate]

theorem acceptFrame_late (hstate : w.state = .timedOut) : w.acceptFrame cfg frame =
      ({ w with
          terminal := w.terminal || (cfg.meaning frame).terminal
          staged := w.staged ++ frame }, .returned (.error .firstSemanticTimeout)) := by
  simp [acceptFrame, passes_iff.mp h, hwritten, hsemantic, hstate]

end

end

end

theorem beginWrite_of_err {e : StagingError} (h : w.err = some e) :
    w.beginWrite cfg p = (w, .returned (.error e)) := by
  simp [beginWrite, h]

theorem beginWrite_of_timedOut (herr : w.err = none) (h : w.state = .timedOut) :
    w.beginWrite cfg p = (w, .returned (.error .firstSemanticTimeout)) := by
  simp [beginWrite, herr, h]

theorem beginWrite_stream (herr : w.err = none) (hstate : w.state ≠ .timedOut)
    (hsse : isEventStream w.header = true) :
    w.beginWrite cfg p =
      if cfg.scannerBufferSize < (w.pending ++ p).length then
        ({ w with pending := w.pending ++ p, err := some .frameLimit }, .returned (.error .frameLimit))
      else ({ w with pending := w.pending ++ p }, .looping) := by
  simp only [beginWrite, herr, hstate, hsse, ↓reduceIte, Bool.not_true, Bool.false_eq_true]

@[simp] theorem body_commit (w : StreamStagingWriter) :
    w.commit.client.body = some (w.client.body.getD [] ++ w.staged) := by
  unfold commit ClientWriter.writeHeader
  dsimp only
  split <;> rfl

end StreamStagingWriter

/-! ## The invariant -/

/-- The frame was accepted with semantic output while the writer was waiting. -/
def ProcessedFrame.accepted (cfg : StreamSettings) (x : ProcessedFrame) : Bool :=
  x.state = .waiting && cfg.passes x.frame && (cfg.meaning x.frame).semantic

/-- The frames of `xs` that pass, one after the other. -/
def StreamSettings.forwarded (cfg : StreamSettings) (xs : List ProcessedFrame) : Bytes :=
  ((xs.map (·.frame)).filter cfg.passes).flatten

theorem StreamSettings.forwarded_append (xs ys : List ProcessedFrame) :
    cfg.forwarded (xs ++ ys) = cfg.forwarded xs ++ cfg.forwarded ys := by
  simp [forwarded]

namespace StagedAttempt

structure Sound (cfg : StreamSettings) (c : ClientWriter) (s : StagedAttempt) : Prop where
  bytes : (s.processed.map (·.frame)).flatten ++ s.writer.pending = s.received
  frames : ∀ x ∈ s.processed, sseDelimiters.Frame x.frame
  /-- A data frame that does not pass ends the attempt, so it is the last one. -/
  earlier : ∀ x ∈ s.processed.dropLast, cfg.dataBearing x.frame = true → cfg.passes x.frame = true
  good : s.writer.err = none → ∀ x ∈ s.processed, cfg.dataBearing x.frame = true →
    cfg.passes x.frame = true
  writing : s.writing = true → s.writer.err = none
  held : s.writer.state ≠ .observed →
    s.writer.client = c ∧ s.writer.staged = cfg.forwarded s.processed ∧
      ∀ x ∈ s.processed, x.accepted cfg = false
  shown : s.writer.state = .observed → s.writer.client.body = some (cfg.forwarded s.processed) ∧
    ∃ x ∈ s.processed, x.accepted cfg = true

theorem sound_start (cfg : StreamSettings) (header : Header) (status : Int) :
    (start header status).Sound cfg ⟨header, status, none⟩ where
  bytes := rfl
  frames := fun _ hx => (nomatch hx)
  earlier := fun _ hx => (nomatch hx)
  good := fun _ _ hx => (nomatch hx)
  writing := fun h => (nomatch h)
  held := fun _ => ⟨rfl, rfl, fun _ hx => (nomatch hx)⟩
  shown := fun h => (nomatch h)

variable {c : ClientWriter} {s : StagedAttempt} {rest : Bytes}

theorem Sound.written (h : s.Sound cfg c) (hc : c.body = none) :
    s.writer.client.written = decide (s.writer.state = .observed) := by
  by_cases hstate : s.writer.state = .observed
  · rw [ClientWriter.written, (h.shown hstate).1, decide_eq_true hstate]
    rfl
  · rw [ClientWriter.written, (h.held hstate).1, hc, decide_eq_false hstate]
    rfl

theorem Sound.write (h : s.Sound cfg c) {p : Bytes} (hsse : isEventStream s.writer.header = true) :
    (s.step cfg (.write p)).Sound cfg c := by
  rw [step]
  split
  · exact h
  · cases herr : s.writer.err with
    | some e =>
      have haccepts : s.writer.accepts = false := by simp [accepts, herr]
      rw [beginWrite_of_err herr, haccepts, if_neg Bool.false_ne_true]
      exact { h with writing := fun hw => (nomatch hw) }
    | none =>
      by_cases hstate : s.writer.state = .timedOut
      · have haccepts : s.writer.accepts = false := by simp [accepts, hstate]
        rw [beginWrite_of_timedOut herr hstate, haccepts, if_neg Bool.false_ne_true]
        exact { h with writing := fun hw => (nomatch hw) }
      · have haccepts : s.writer.accepts = true := by
          simp [accepts, herr, hstate, hsse]
        have hbytes : (s.processed.map (·.frame)).flatten ++ (s.writer.pending ++ p) =
            s.received ++ p := by
          rw [← append_assoc, h.bytes]
        rw [beginWrite_stream herr hstate hsse, haccepts, if_pos rfl]
        split
        · exact
            { h with
              bytes := hbytes
              good := fun hnone => (nomatch hnone)
              writing := fun hw => (nomatch hw) }
        · exact { h with bytes := hbytes, good := fun _ => h.good herr, writing := fun _ => herr }

section

variable (h : s.Sound cfg c)
include h

section

variable (hwriting : s.writing = true)
  (hcut : sseDelimiters.cut s.writer.pending = some (frame, rest))
include hwriting hcut

/-- **One more processed frame**: the writer `w'` it leaves is fit for the next one only if this one
passed, and has the bytes of this one staged or shown. -/
theorem Sound.add_frame {w' : StreamStagingWriter}
    {writing' : Bool} (hpending : w'.pending = rest)
    (hgood : w'.err = none → cfg.dataBearing frame = true → cfg.passes frame = true)
    (hwriting' : writing' = true → w'.err = none)
    (hheld : w'.state ≠ .observed → s.writer.state ≠ .observed ∧ w'.client = c ∧
      w'.staged = cfg.forwarded s.processed ++ cfg.forwarded [⟨frame, s.writer.state⟩] ∧
      ProcessedFrame.accepted cfg ⟨frame, s.writer.state⟩ = false)
    (hshown : w'.state = .observed → w'.client.body =
        some (cfg.forwarded s.processed ++ cfg.forwarded [⟨frame, s.writer.state⟩]) ∧
      (s.writer.state = .observed ∨ ProcessedFrame.accepted cfg ⟨frame, s.writer.state⟩ = true)) :
    Sound cfg c ⟨w', writing', s.received, s.processed ++ [⟨frame, s.writer.state⟩]⟩ where
  bytes := by
    show ((s.processed ++ [(⟨frame, s.writer.state⟩ : ProcessedFrame)]).map (·.frame)).flatten ++
      w'.pending = s.received
    rw [map_append, flatten_append, map_singleton, flatten_singleton,
      append_assoc, hpending, Delimiters.append_of_cut hcut]
    exact h.bytes
  frames := by
    intro x hx
    rcases mem_append.mp hx with hx | hx
    · exact h.frames x hx
    · rw [mem_singleton.mp hx]
      exact Delimiters.frame_of_cut hcut
  earlier := by
    rw [dropLast_concat]
    exact h.good (h.writing hwriting)
  good := by
    intro herr x hx
    rcases mem_append.mp hx with hx | hx
    · exact h.good (h.writing hwriting) x hx
    · rw [mem_singleton.mp hx]
      exact hgood herr
  writing := hwriting'
  held := by
    intro hstate
    obtain ⟨hstate', hclient, hstaged, haccepted⟩ := hheld hstate
    refine ⟨hclient, hstaged.trans (forwarded_append _ _).symm, ?_⟩
    intro x hx
    rcases mem_append.mp hx with hx | hx
    · exact (h.held hstate').2.2 x hx
    · rw [mem_singleton.mp hx]
      exact haccepted
  shown := by
    intro hstate
    obtain ⟨hbody, hsome⟩ := hshown hstate
    refine ⟨hbody.trans (congrArg some (forwarded_append _ _).symm), ?_⟩
    rcases hsome with hobs | haccepted
    · obtain ⟨x, hx, haccepted⟩ := (h.shown hobs).2
      exact ⟨x, mem_append_left _ hx, haccepted⟩
    · exact ⟨_, mem_append_right _ (mem_singleton_self _), haccepted⟩

/-- A frame that does not pass leaves staged and shown bytes alone. -/
theorem Sound.frame_fails (hpasses : cfg.passes frame = false) :
    Sound cfg c (resume { s with processed := s.processed ++ [⟨frame, s.writer.state⟩] }
      (acceptFrame cfg frame { s.writer with pending := rest })) := by
  have hnothing : cfg.forwarded s.processed ++ cfg.forwarded [⟨frame, s.writer.state⟩] =
      cfg.forwarded s.processed := by
    simp [forwarded, hpasses]
  have hheld : s.writer.state ≠ .observed → s.writer.state ≠ .observed ∧ s.writer.client = c ∧
      s.writer.staged = cfg.forwarded s.processed ++ cfg.forwarded [⟨frame, s.writer.state⟩] ∧
      ProcessedFrame.accepted cfg ⟨frame, s.writer.state⟩ = false := by
    intro hstate
    obtain ⟨hclient, hstaged, _⟩ := h.held hstate
    exact ⟨hstate, hclient, by rw [hnothing, hstaged], by simp [ProcessedFrame.accepted, hpasses]⟩
  have hshown : s.writer.state = .observed → s.writer.client.body =
        some (cfg.forwarded s.processed ++ cfg.forwarded [⟨frame, s.writer.state⟩]) ∧
      (s.writer.state = .observed ∨ ProcessedFrame.accepted cfg ⟨frame, s.writer.state⟩ = true) := by
    intro hstate
    rw [hnothing, (h.shown hstate).1]
    exact ⟨rfl, .inl hstate⟩
  by_cases hdata : cfg.dataBearing frame = true
  · rw [acceptFrame_reject hdata hpasses]
    exact h.add_frame hwriting hcut rfl (fun hnone => (nomatch hnone)) (fun hw => (nomatch hw))
      hheld hshown
  · rw [Bool.not_eq_true] at hdata
    rw [acceptFrame_skip hdata]
    exact h.add_frame hwriting hcut rfl
      (fun _ hd => absurd (hdata.symm.trans hd) Bool.false_ne_true) (fun _ => h.writing hwriting)
      hheld hshown

end

theorem Sound.frame_passes (hc : c.body = none) (hwriting : s.writing = true)
    (hcut : sseDelimiters.cut s.writer.pending = some (frame, rest))
    (hpasses : cfg.passes frame = true) :
    Sound cfg c (resume { s with processed := s.processed ++ [⟨frame, s.writer.state⟩] }
      (acceptFrame cfg frame { s.writer with pending := rest })) := by
  have hwritten := h.written hc
  have hframe : cfg.forwarded [⟨frame, s.writer.state⟩] = frame := by simp [forwarded, hpasses]
  by_cases hstate : s.writer.state = .observed
  · rw [acceptFrame_forward (w := { s.writer with pending := rest }) hpasses
      (hwritten.trans (decide_eq_true hstate))]
    refine h.add_frame hwriting hcut rfl (fun _ _ => hpasses) (fun _ => h.writing hwriting)
      (fun hne => absurd hstate hne) fun _ => ⟨?_, .inl hstate⟩
    show some (s.writer.client.body.getD [] ++ frame) = _
    rw [(h.shown hstate).1, hframe]
    rfl
  · obtain ⟨hclient, hstaged, _⟩ := h.held hstate
    replace hwritten := hwritten.trans (decide_eq_false hstate)
    have hkept : s.writer.staged ++ frame =
        cfg.forwarded s.processed ++ cfg.forwarded [⟨frame, s.writer.state⟩] := by
      rw [hstaged, hframe]
    cases hsemantic : (cfg.meaning frame).semantic with
    | false =>
      rw [acceptFrame_stage (w := { s.writer with pending := rest }) hpasses
        hwritten hsemantic]
      exact h.add_frame hwriting hcut rfl (fun _ _ => hpasses) (fun _ => h.writing hwriting)
        (fun _ => ⟨hstate, hclient, hkept, by simp [ProcessedFrame.accepted, hsemantic]⟩)
        (fun hobs => absurd hobs hstate)
    | true =>
      -- The compare-and-swap decides the race with the timer.
      by_cases hwaiting : s.writer.state = .waiting
      · rw [acceptFrame_commit (w := { s.writer with pending := rest }) hpasses
          hwritten hsemantic hwaiting]
        refine h.add_frame hwriting hcut rfl (fun _ _ => hpasses) (fun _ => h.writing hwriting)
          (fun hne => absurd rfl hne) fun _ => ⟨?_, .inr ?_⟩
        · rw [body_commit]
          rw [hclient, hc, hkept]
          rfl
        · simp [ProcessedFrame.accepted, hwaiting, hpasses, hsemantic]
      · have htimedOut : s.writer.state = .timedOut := by
          cases hst : s.writer.state with
          | waiting => exact absurd hst hwaiting
          | observed => exact absurd hst hstate
          | timedOut => rfl
        rw [acceptFrame_late (w := { s.writer with pending := rest }) hpasses
          hwritten hsemantic htimedOut]
        exact h.add_frame hwriting hcut rfl (fun _ _ => hpasses) (fun hw => (nomatch hw))
          (fun _ => ⟨hstate, hclient, hkept, by simp [ProcessedFrame.accepted, htimedOut]⟩)
          (fun hobs => absurd hobs hstate)

/-- **A round of `Write` keeps the invariant.** -/
theorem Sound.round (hc : c.body = none) : (s.step cfg .round).Sound cfg c := by
  rw [step]
  split
  case isFalse => exact h
  case isTrue hwriting =>
    rw [writeRound, nextFrame]
    cases hcut : sseDelimiters.cut s.writer.pending with
    | none =>
      -- No complete frame is left: the call returns.
      simp only [Option.map_none, Option.toList_none, append_nil]
      unfold endWrite
      split
      · exact
          { h with
            good := fun hnone => (nomatch hnone)
            writing := fun hw => (nomatch hw) }
      · exact { h with writing := fun hw => (nomatch hw) }
    | some fr =>
      obtain ⟨frame, rest⟩ := fr
      cases hpasses : cfg.passes frame with
      | true => exact h.frame_passes hc hwriting hcut hpasses
      | false => exact h.frame_fails hwriting hcut hpasses

theorem Sound.timer : (s.step cfg .timer).Sound cfg c := by
  rw [step, fireTimer]
  split
  · next hstate =>
    exact
      { h with
        held := fun _ => h.held (by rw [hstate]; nofun)
        shown := fun hobs => (nomatch hobs) }
  · exact h

end

/-- Every `Write` finds the content type of an event stream. -/
def writesEventStream (s : StagedAttempt) : StagingEvent → Prop
  | .write _ => isEventStream s.writer.header = true
  | _ => True

instance writesEventStream.decidable (s : StagedAttempt) : ∀ e, Decidable (s.writesEventStream e)
  | .write _ => inferInstanceAs (Decidable (_ = true))
  | .round | .timer | .setHeader _ _ | .writeHeader _ => isTrue trivial

/-- **Every event keeps the invariant.** -/
theorem sound_step (hc : c.body = none) (s : StagedAttempt) (e : StagingEvent)
    (hsse : s.writesEventStream e) (h : s.Sound cfg c) : (s.step cfg e).Sound cfg c := by
  cases e with
  | write p => exact h.write hsse
  | round => exact h.round hc
  | timer => exact h.timer
  | setHeader => exact { h with }
  | writeHeader code => exact { h with }

theorem timedOut_step (s : StagedAttempt) (e : StagingEvent) (h : s.writer.state = .timedOut) :
    (s.step cfg e).writer.state = .timedOut := by
  cases e with
  | write p =>
    rw [step]
    split
    · exact h
    · cases herr : s.writer.err with
      | some e =>
        rw [beginWrite_of_err herr]
        exact h
      | none =>
        rw [beginWrite_of_timedOut herr h]
        exact h
  | round =>
    rw [step]
    split
    · unfold writeRound
      split
      · unfold endWrite
        split <;> exact h
      · unfold acceptFrame
        split
        · exact h
        · split
          · exact h
          · dsimp only
            split
            · split
              · rw [h]
                rfl
              · exact h
            · exact h
    · exact h
  | timer =>
    rw [step, fireTimer, if_neg (by rw [h]; nofun)]
    exact h
  | setHeader => exact h
  | writeHeader code => exact h

/-! ## The end of the attempt -/

theorem withStreamStaging_error {callErr : Option NewAPIError} {late : Bool}
    (h : (w.withStreamStaging cfg callErr late).2 ≠ none) :
    (w.withStreamStaging cfg callErr late).1.client = w.client := by
  have htimer : (if late then w.fireTimer else w).client = w.client := by
    cases late with
    | false => rfl
    | true =>
      rw [if_pos rfl, fireTimer]
      split <;> rfl
  unfold withStreamStaging at h ⊢
  rw [apply_ite Prod.snd, ite_self] at h
  rw [if_neg]
  · exact htimer
  · intro hcommit
    rw [Bool.and_eq_true, Bool.and_eq_true, Option.isNone_iff_eq_none] at hcommit
    exact h hcommit.1.1

theorem Sound.forwarded_before (h : s.Sound cfg c) {before after : List ProcessedFrame}
    (hsplit : s.processed = before ++ x :: after) (haccepted : x.accepted cfg = true) :
    cfg.forwarded (before ++ [x]) = (((before ++ [x]).map (·.frame)).filter cfg.dataBearing).flatten := by
  unfold forwarded
  congr 1
  refine filter_congr fun f hf => ?_
  obtain ⟨y, hy, rfl⟩ := mem_map.mp hf
  have hpasses : cfg.dataBearing y.frame = true → cfg.passes y.frame = true := by
    rcases mem_append.mp hy with hy | hy
    · refine h.earlier y ?_
      rw [hsplit, dropLast_append_of_ne_nil (cons_ne_nil x after)]
      exact mem_append_left _ hy
    · rw [mem_singleton.mp hy]
      simp only [ProcessedFrame.accepted, Bool.and_eq_true] at haccepted
      exact fun _ => haccepted.1.2
  cases hdata : cfg.dataBearing y.frame with
  | true => exact hpasses hdata
  | false => simp [passes, hdata]

/-- **The client sees a staged attempt only from its semantic output on.** During an attempt that
writes an event stream to an unwritten client writer, whatever the chunks and whenever the timer
fires:

* the processed frames are complete frames, cut in order off the bytes taken in;
* until one of them is accepted with semantic output in the state `waiting`, the client's writer is
  as it was;
* when one is, the client has got the data frames up to and including it, and from then on those
  that pass;
* after the timer has fired in the state `waiting` the client's writer is as it was, for ever;
* if the attempt ends with an error and the client's writer is unwritten, then it is as it was. -/
theorem semantic_commit (cfg : StreamSettings) (header : Header) (status : Int)
    (es : List StagingEvent) (hsse : Along (step cfg) writesEventStream (start header status) es) :
    let c : ClientWriter := ⟨header, status, none⟩
    let s := run (step cfg) (start header status) es
    ((s.processed.map (·.frame)).flatten ++ s.writer.pending = s.received ∧
        ∀ x ∈ s.processed, sseDelimiters.Frame x.frame) ∧
      ((∀ x ∈ s.processed, x.accepted cfg = false) → s.writer.client = c) ∧
      (∀ before x after, s.processed = before ++ x :: after → x.accepted cfg = true →
        s.writer.client.body =
          some ((((before ++ [x]).map (·.frame)).filter cfg.dataBearing).flatten ++
            cfg.forwarded after)) ∧
      (∀ before after, es = before ++ .timer :: after →
        (run (step cfg) (start header status) before).writer.state = .waiting → s.writer.client = c) ∧
      (∀ callErr late, (s.writer.withStreamStaging cfg callErr late).2 ≠ none →
        (s.writer.withStreamStaging cfg callErr late).1.client.written = false →
        (s.writer.withStreamStaging cfg callErr late).1.client = c) := by
  intro c s
  have hs : s.Sound cfg c :=
    run_invariant (fun s e hC h => sound_step rfl s e hC h) hsse (sound_start cfg header status)
  refine ⟨⟨hs.bytes, hs.frames⟩, ?_, ?_, ?_, ?_⟩
  · intro hnone
    by_cases hstate : s.writer.state = .observed
    · obtain ⟨x, hx, haccepted⟩ := (hs.shown hstate).2
      exact absurd ((hnone x hx).symm.trans haccepted) Bool.false_ne_true
    · exact (hs.held hstate).1
  · intro before x after hsplit haccepted
    have hmem : x ∈ s.processed := by rw [hsplit]; simp
    by_cases hstate : s.writer.state = .observed
    · rw [(hs.shown hstate).1, hsplit, append_cons, forwarded_append,
        hs.forwarded_before hsplit haccepted]
    · exact absurd (((hs.held hstate).2.2 x hmem).symm.trans haccepted) Bool.false_ne_true
  · intro before after hes hwaiting
    have htimedOut : s.writer.state = .timedOut := by
      show (run (step cfg) (start header status) es).writer.state = .timedOut
      rw [hes, run_append, run_cons]
      refine run_invariant_all (I := fun s : StagedAttempt => s.writer.state = .timedOut)
        timedOut_step after ?_
      rw [step, fireTimer, if_pos hwaiting]
    exact (hs.held (by rw [htimedOut]; nofun)).1
  · intro callErr late herr hunwritten
    rw [withStreamStaging_error herr] at hunwritten ⊢
    rw [hs.written rfl] at hunwritten
    exact (hs.held (of_decide_eq_false hunwritten)).1

end StagedAttempt

/-- The JSON text `\x7b"answer":"hi"\x7d`. -/
def samplePayload : Bytes := [123, 34, 97, 110, 115, 119, 101, 114, 34, 58, 34, 104, 105, 34, 125]

/-- Settings that know this text and no other. -/
def sampleStream : StreamSettings where
  codec :=
    { parse := fun b => if b = samplePayload then some (.object [("answer", .string "hi")]) else none
      trimSpace := fun b =>
        let trimLeft (b : Bytes) := b.dropWhile [9, 10, 11, 12, 13, 32].contains
        (trimLeft (trimLeft b).reverse).reverse }
  scannerBufferSize := 1024
  preview := fun _ => ""

/-- `data: ` with this text and an empty line. -/
def sampleFrame : Bytes := [100, 97, 116, 97, 58, 32] ++ samplePayload ++ [10, 10]

/-- An attempt that streams `sampleFrame` in two chunks. -/
def sampleStaging : List StagingEvent :=
  [.setHeader "Content-Type" ["text/event-stream"], .write (sampleFrame.take 3), .round,
    .write (sampleFrame.drop 3), .round, .round]

/-- After its two chunks the frame has reached the client. -/
theorem semantic_commit_sample :
    Along (StagedAttempt.step sampleStream) StagedAttempt.writesEventStream
        (StagedAttempt.start (fun _ => none) 200) sampleStaging ∧
      (run (StagedAttempt.step sampleStream) (StagedAttempt.start (fun _ => none) 200)
        sampleStaging).writer.client.body = some sampleFrame := by
  have halong : Along (StagedAttempt.step sampleStream) StagedAttempt.writesEventStream
      (StagedAttempt.start (fun _ => none) 200) sampleStaging := by decide +kernel
  refine ⟨halong, ?_⟩
  obtain ⟨_, _, hshown, _⟩ := StagedAttempt.semantic_commit sampleStream (fun _ => none) 200
    sampleStaging halong
  exact (hshown [] ⟨sampleFrame, .waiting⟩ [] (by decide +kernel) (by decide +kernel)).trans
    (by decide +kernel)

end RenewApi.Stream
