import RenewApi.Relay.Failover
import RenewApi.Stream.Delimited
import RenewApi.Stream.Semantics

/-! # The staging writer of a streamed attempt

A `streamStagingWriter` in front of the client's own writer keeps headers and frames back until a
frame carries semantic output. A timer that fires first ends the attempt. -/

namespace RenewApi.Stream

open Framing Relay

/-- A frame ends with an empty line, in either kind of line end. -/
def sseDelimiters : Delimiters UInt8 where
  first := [10, 10]
  second := [13, 10, 13, 10]
  first_ne_nil := by decide
  second_ne_nil := by decide
  first_not_infix := by decide
  second_not_infix := by decide

/-- `ReplaceAll(s, "\r\n", "\n")`. -/
def unixLines : Bytes → Bytes
  | [] => []
  | [b] => [b]
  | a :: b :: l => if a = 13 ∧ b = 10 then 10 :: unixLines l else a :: unixLines (b :: l)

def parseSSEField (codec : StreamCodec) (field line : Bytes) : Option Bytes :=
  let start := field ++ [58]
  if start <+: line then
    let value := line.drop start.length
    some (codec.trimSpace (if value.head? = some 32 then value.tail else value))
  else none

/-- The values of the `data` lines of a frame. -/
def frameData (codec : StreamCodec) (frame : Bytes) : List Bytes :=
  ((unixLines frame).splitOn 10).filterMap (parseSSEField codec [100, 97, 116, 97])

structure StreamSettings where
  codec : StreamCodec
  /-- `getScannerBufferSize`. -/
  scannerBufferSize : Nat
  /-- `LocalLogPreview`. -/
  preview : Bytes → String

namespace StreamSettings

variable (cfg : StreamSettings)

def dataBearing (frame : Bytes) : Bool := !(frameData cfg.codec frame).isEmpty

/-- The data lines of a frame joined. -/
def payload (frame : Bytes) : Bytes := [10].intercalate (frameData cfg.codec frame)

/-- What a frame says. -/
def meaning (frame : Bytes) : StreamFrameMeaning := classifyStreamPayload cfg.codec (cfg.payload frame)

/-- A data frame that is well formed and no failure. -/
def passes (frame : Bytes) : Bool :=
  cfg.dataBearing frame && (cfg.meaning frame).valid && !(cfg.meaning frame).failed

end StreamSettings

/-! ## The writers -/

/-- A header map. -/
abbrev Header := String → Option (List String)

def contentType (h : Header) : String := ((h "Content-Type").bind List.head?).getD ""

def isEventStream (h : Header) : Bool := "text/event-stream".toList <+: (contentType h).toList

/-- The client's own writer. -/
structure ClientWriter where
  header : Header
  status : Int
  /-- What was written; `none` before the first write. -/
  body : Option Bytes

namespace ClientWriter

def written (c : ClientWriter) : Bool := c.body.isSome

def writeHeader (code : Int) (c : ClientWriter) : ClientWriter :=
  if 0 < code && !c.written then { c with status := code } else c

def write (p : Bytes) (c : ClientWriter) : ClientWriter :=
  { c with body := some (c.body.getD [] ++ p) }

end ClientWriter

/-- The atomic state of the staging writer. -/
inductive StagingState
  | waiting
  | observed
  | timedOut
  deriving DecidableEq

/-- Why a `Write` fails. -/
inductive StagingError
  | firstSemanticTimeout
  | responseLimit
  | frameLimit
  | malformed (payload : Bytes)
  | preludeLimit
  deriving DecidableEq

def StagingError.text (cfg : StreamSettings) : StagingError → String
  | .firstSemanticTimeout => "first_semantic_timeout"
  | .responseLimit => "upstream_stream_staging: response exceeds staging limit"
  | .frameLimit => "upstream_stream_staging: frame exceeds staging limit"
  | .malformed payload => "upstream_stream_staging: malformed or failed SSE: " ++ cfg.preview payload
  | .preludeLimit => "upstream_stream_staging: SSE prelude exceeds staging limit"

def maxStreamStagingBytes : Nat := 2 ^ 20

structure StreamStagingWriter where
  client : ClientWriter
  header : Header
  status : Int
  pending : Bytes
  staged : Bytes
  state : StagingState
  err : Option StagingError
  terminal : Bool

/-- How far a `Write` is. -/
inductive WriteProgress
  | looping
  | returned (result : Except StagingError Unit)

namespace StreamStagingWriter

/-- `commit`: headers, status and staged frames go to the client. -/
def commit (w : StreamStagingWriter) : StreamStagingWriter :=
  let client : ClientWriter :=
    { w.client with header := fun key => (w.header key).or (w.client.header key) }
  { w with client := (client.writeHeader w.status).write w.staged, staged := [] }

variable (cfg : StreamSettings)

/-- One frame of the loop in `Write`, already taken off `pending`. -/
def acceptFrame (frame : Bytes) (w : StreamStagingWriter) :
    StreamStagingWriter × WriteProgress :=
  if !cfg.dataBearing frame then (w, .looping)
  else if !(cfg.meaning frame).valid || (cfg.meaning frame).failed then
    ({ w with err := some (.malformed (cfg.payload frame)) },
      .returned (.error (.malformed (cfg.payload frame))))
  else
    let w := { w with terminal := w.terminal || (cfg.meaning frame).terminal }
    if !w.client.written then
      let w := { w with staged := w.staged ++ frame }
      if (cfg.meaning frame).semantic then
        -- The compare-and-swap from `waiting` to `observed`, and the load after it failed.
        match w.state with
        | .waiting => ({ w with state := .observed }.commit, .looping)
        | .observed => (w.commit, .looping)
        | .timedOut => (w, .returned (.error .firstSemanticTimeout))
      else (w, .looping)
    else ({ w with client := w.client.write frame }, .looping)

def endWrite (w : StreamStagingWriter) : StreamStagingWriter × WriteProgress :=
  if !w.client.written && maxStreamStagingBytes < w.staged.length + w.pending.length then
    ({ w with err := some .preludeLimit }, .returned (.error .preludeLimit))
  else (w, .returned (.ok ()))

def writeRound (w : StreamStagingWriter) : StreamStagingWriter × WriteProgress :=
  match sseDelimiters.cut w.pending with
  | none => w.endWrite
  | some (frame, rest) => { w with pending := rest }.acceptFrame cfg frame

/-- `Write` takes the bytes of this call into `pending`. -/
def accepts (w : StreamStagingWriter) : Bool :=
  w.err.isNone && w.state ≠ .timedOut && isEventStream w.header

/-- The part of `Write` before its loop. -/
def beginWrite (p : Bytes) (w : StreamStagingWriter) :
    StreamStagingWriter × WriteProgress :=
  match w.err with
  | some e => (w, .returned (.error e))
  | none =>
    if w.state = .timedOut then (w, .returned (.error .firstSemanticTimeout))
    else if !isEventStream w.header then
      if cfg.scannerBufferSize < w.staged.length + p.length then
        ({ w with err := some .responseLimit }, .returned (.error .responseLimit))
      else ({ w with staged := w.staged ++ p }, .returned (.ok ()))
    else
      let w := { w with pending := w.pending ++ p }
      if cfg.scannerBufferSize < w.pending.length then
        ({ w with err := some .frameLimit }, .returned (.error .frameLimit))
      else (w, .looping)

/-- The loop in `Write`; every round but the last takes a frame off `pending`. -/
def writeLoop : Nat → StreamStagingWriter →
    StreamStagingWriter × Except StagingError Unit
  | 0, w => (w, .ok ())
  | fuel + 1, w =>
    match w.writeRound cfg with
    | (w', .looping) => writeLoop fuel w'
    | (w', .returned result) => (w', result)

/-- **`Write`**, when the timer does not fire in between. -/
def write (p : Bytes) (w : StreamStagingWriter) :
    StreamStagingWriter × Except StagingError Unit :=
  match w.beginWrite cfg p with
  | (w', .looping) => w'.writeLoop cfg (w'.pending.length + 1)
  | (w', .returned result) => (w', result)

/-- The timer: `CompareAndSwap(0, 2)`. -/
def fireTimer (w : StreamStagingWriter) : StreamStagingWriter :=
  if w.state = .waiting then { w with state := .timedOut } else w

def validate (w : StreamStagingWriter) : Option NewAPIError :=
  if w.state = .timedOut then
    some ⟨504, "channel:response_time_exceeded", false, StagingError.text cfg .firstSemanticTimeout⟩
  else
    match w.err with
    | some e => some ⟨502, "bad_response_body", false, e.text cfg⟩
    | none =>
      if !isEventStream w.header then none
      else if !w.client.written then
        some ⟨502, "empty_response", false, "upstream stream ended without semantic output"⟩
      else if !(cfg.codec.trimSpace w.pending).isEmpty || !w.terminal then
        some ⟨502, "truncated_response", false, "upstream stream ended before a protocol terminal"⟩
      else none

/-- **The end of `WithStreamStaging`**, once the attempt has returned `callErr`. The timer is not
stopped yet; `late` says that it fires between the two looks at the state. -/
def withStreamStaging (callErr : Option NewAPIError) (late : Bool)
    (w : StreamStagingWriter) : StreamStagingWriter × Option NewAPIError :=
  let err := if w.state = .timedOut then w.validate cfg else callErr
  let w := if late then w.fireTimer else w
  let err := err.or (w.validate cfg)
  if err.isNone && !w.client.written && !w.staged.isEmpty then (w.commit, err) else (w, err)

end StreamStagingWriter

/-! ## An attempt -/

/-- A frame the loop has processed, and the atomic state at that time. -/
structure ProcessedFrame where
  frame : Bytes
  state : StagingState
  deriving DecidableEq

/-- The frame the next round of the loop takes off `pending`. -/
def StreamStagingWriter.nextFrame (w : StreamStagingWriter) : Option ProcessedFrame :=
  (sseDelimiters.cut w.pending).map fun fr => ⟨fr.1, w.state⟩

/-- The staging writer of an attempt in progress. -/
structure StagedAttempt where
  writer : StreamStagingWriter
  /-- A `Write` holds the mutex. -/
  writing : Bool
  /-- The bytes taken into `pending` so far. -/
  received : Bytes
  processed : List ProcessedFrame

/-- What can happen during an attempt. -/
inductive StagingEvent
  /-- `Write` is called and gets to its loop. -/
  | write (p : Bytes)
  /-- A `Write` in progress does one round of its loop. -/
  | round
  | timer
  /-- `Header()[key] = values`. -/
  | setHeader (key : String) (values : List String)
  /-- `WriteHeader`. -/
  | writeHeader (code : Int)

namespace StagedAttempt

/-- The start of `WithStreamStaging` on a client writer that was not written to. -/
def start (header : Header) (status : Int) : StagedAttempt where
  writer :=
    { client := { header := header, status := status, body := none }
      header := header, status := 200, pending := [], staged := []
      state := .waiting, err := none, terminal := false }
  writing := false
  received := []
  processed := []

/-- Whether the call goes on after this part of a `Write`. -/
def resume (s : StagedAttempt) : StreamStagingWriter × WriteProgress → StagedAttempt
  | (w, .looping) => { s with writer := w, writing := true }
  | (w, .returned _) => { s with writer := w, writing := false }

/-- **One event of an attempt.** A `Write` that finds the mutex taken waits: its event comes
later. -/
def step (cfg : StreamSettings) (s : StagedAttempt) : StagingEvent → StagedAttempt
  | .write p =>
    if s.writing then s
    else
      { s with received := if s.writer.accepts then s.received ++ p else s.received }.resume
        (s.writer.beginWrite cfg p)
  | .round =>
    if s.writing then
      { s with processed := s.processed ++ s.writer.nextFrame.toList }.resume (s.writer.writeRound cfg)
    else s
  | .timer => { s with writer := s.writer.fireTimer }
  | .setHeader key values =>
    { s with writer := { s.writer with
        header := fun k => if k = key then some values else s.writer.header k } }
  | .writeHeader code =>
    { s with writer := { s.writer with
        status := if !s.writer.client.written && 0 < code then code else s.writer.status } }

end StagedAttempt

end RenewApi.Stream
