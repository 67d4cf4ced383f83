import Mathlib.Data.List.Basic

/-! # Chat completion chunks

The chunks of an OpenAI stream (`dto/openai_response.go`) as the relay reads them, and their
conversion to the two other stream formats (`service/convert.go`). -/

namespace RenewApi.Convert

/-- `dto.InputTokenDetails`: the counts that are read. -/
structure InputTokenDetails where
  cachedTokens : Int := 0
  cachedCreationTokens : Int := 0
  cacheWriteTokens : Int := 0
  audioTokens : Int := 0
  imageTokens : Int := 0
  deriving DecidableEq

/-- The larger of the two fields in which cache creation is reported. -/
def InputTokenDetails.cacheCreationTokensTotal (d : InputTokenDetails) : Int :=
  if d.cacheWriteTokens > d.cachedCreationTokens then d.cacheWriteTokens else d.cachedCreationTokens

/-- `dto.OutputTokenDetails`: the counts that are read. -/
structure OutputTokenDetails where
  audioTokens : Int := 0
  imageTokens : Int := 0
  deriving DecidableEq

/-- `dto.Usage`. -/
structure Usage where
  promptTokens : Int := 0
  completionTokens : Int := 0
  totalTokens : Int := 0
  promptCacheHitTokens : Int := 0
  promptTokensDetails : InputTokenDetails := {}
  completionTokenDetails : OutputTokenDetails := {}
  inputTokensDetails : Option InputTokenDetails := none
  usageSemantic : String := ""
  claudeCacheCreation5mTokens : Int := 0
  claudeCacheCreation1hTokens : Int := 0
  deriving DecidableEq

/-- Some count is not zero. -/
def validUsage : Option Usage → Bool
  | none => false
  | some u => u.promptTokens != 0 || u.completionTokens != 0

/-- A delta of a tool call. -/
structure ToolCall where
  index : Option Nat := none
  id : String := ""
  name : String := ""
  arguments : String := ""
  deriving DecidableEq

/-- The fields of a delta. `toolCalls` is `none` where the chunk has no `tool_calls` or `null`. -/
structure Delta where
  content : Option String := none
  reasoningContent : Option String := none
  reasoning : Option String := none
  toolCalls : Option (List ToolCall) := none
  deriving DecidableEq

namespace Delta

def getContentString (d : Delta) : String := d.content.getD ""

/-- `reasoning_content`, else `reasoning`. -/
def getReasoningContent (d : Delta) : String := (d.reasoningContent.or d.reasoning).getD ""

def calls (d : Delta) : List ToolCall := d.toolCalls.getD []

end Delta

/-- A choice of a chunk. -/
structure Choice where
  index : Nat := 0
  delta : Delta := {}
  finishReason : Option String := none
  deriving DecidableEq

/-- What the raw text of a chunk has in the places where some upstreams put their cached tokens. -/
structure Extracted where
  cached : Option Int := none
  moonshot : Option Int := none
  llama : Option Int := none
  deriving DecidableEq

/-- A decoded chunk. `extracted` is what the three `extract…CachedTokensFromBody` functions find in
its raw text. -/
structure Chunk where
  id : String := ""
  model : String := ""
  choices : List Choice := []
  usage : Option Usage := none
  extracted : Extracted := {}
  deriving DecidableEq

namespace Chunk

/-- The finish reason of the first choice, when it is not empty. -/
def finish? (c : Chunk) : Option String :=
  c.choices.head?.bind fun choice => choice.finishReason.filter (· ≠ "")

/-- The delta of the first choice. -/
def delta (c : Chunk) : Delta := (c.choices.head?.map Choice.delta).getD {}

end Chunk

/-! ## Claude events -/

/-- The usage block of a Claude event. -/
structure ClaudeUsage where
  inputTokens : Int
  outputTokens : Int
  cacheCreationInputTokens : Int
  cacheReadInputTokens : Int
  cacheCreation : Option (Int × Int)
  deriving DecidableEq

/-- What is in neither part counts for the first. -/
def normalizeCacheCreationSplit (total tokens5m tokens1h : Int) : Int × Int :=
  (tokens5m + max (total - tokens5m - tokens1h) 0, tokens1h)

/-- The usage in Claude's terms. Of a prompt count with cache writes the cached tokens are taken
off. -/
def buildClaudeUsageFromOpenAIUsage (u : Usage) : ClaudeUsage :=
  let creation := u.promptTokensDetails.cacheCreationTokensTotal
  let split := normalizeCacheCreationSplit creation u.claudeCacheCreation5mTokens
    u.claudeCacheCreation1hTokens
  { inputTokens := if u.promptTokensDetails.cacheWriteTokens > 0 then
      max (u.promptTokens - (u.promptTokensDetails.cachedTokens + creation)) 0 else u.promptTokens
    outputTokens := u.completionTokens
    cacheCreationInputTokens := creation
    cacheReadInputTokens := u.promptTokensDetails.cachedTokens
    cacheCreation := if split.1 > 0 ∨ split.2 > 0 then some split else none }

/-- The kinds of content blocks. -/
inductive BlockKind where
  | text | thinking | tool
  deriving DecidableEq

/-- A content block as it starts. -/
inductive ContentBlock where
  | text
  | thinking
  | toolUse (id name : String)
  deriving DecidableEq

def ContentBlock.kind : ContentBlock → BlockKind
  | .text => .text
  | .thinking => .thinking
  | .toolUse .. => .tool

/-- The events of a Claude stream. -/
inductive ClaudeEvent where
  | messageStart (id model : String) (inputTokens : Int)
  | blockStart (index : Nat) (block : ContentBlock)
  | blockDelta (index : Nat) (kind : BlockKind) (delta : String)
  | blockStop (index : Nat)
  | messageDelta (stopReason : String) (usage : ClaudeUsage)
  | messageStop
  deriving DecidableEq

/-- Claude's word for a finish reason. -/
def stopReasonOpenAI2Claude (reason : String) : String :=
  match reason.toLower with
  | "stop" => "end_turn"
  | "stop_sequence" => "stop_sequence"
  | "length" | "max_tokens" => "max_tokens"
  | "content_filter" => "refusal"
  | "tool_calls" => "tool_use"
  | _ => reason

/-- The state between chunks. -/
structure ClaudeConvertInfo where
  lastMessagesType : Option BlockKind := none
  index : Nat := 0
  usage : Option Usage := none
  finishReason : String := ""
  done : Bool := false
  messageStarted : Bool := false
  hasOutput : Bool := false
  toolCallBaseIndex : Nat := 0
  toolCallMaxIndexOffset : Nat := 0
  deriving DecidableEq

/-- The state of a call of the converter: the shared record, and `claudeResponses`. -/
structure Conversion where
  info : ClaudeConvertInfo
  out : List ClaudeEvent := []

namespace Conversion

/-- Append events. -/
def emit (events : List ClaudeEvent) (w : Conversion) : Conversion := { w with out := w.out ++ events }

/-- The first output starts the message. -/
def markClaudeOutput (c : Chunk) (estimate : Int) (w : Conversion) : Conversion :=
  if w.info.messageStarted then { w with info.hasOutput := true }
  else
    { info := { w.info with hasOutput := true, messageStarted := true }
      out := w.out ++ [.messageStart c.id c.model estimate] }

/-- The stop events of the blocks that are open according to the record. -/
def openBlockStops (info : ClaudeConvertInfo) : List ClaudeEvent :=
  match info.lastMessagesType with
  | some .text | some .thinking => [.blockStop info.index]
  | some .tool => (List.range (info.toolCallMaxIndexOffset + 1)).map fun offset =>
      .blockStop (info.toolCallBaseIndex + offset)
  | none => []

/-- Close the open blocks. -/
def stopOpenBlocks (w : Conversion) : Conversion := w.emit (openBlockStops w.info)

/-- Close them and go on to the next index. -/
def stopOpenBlocksAndAdvance (w : Conversion) : Conversion :=
  match w.info.lastMessagesType with
  | none => w
  | some .tool => { w.stopOpenBlocks with info := { w.info with
      index := w.info.toolCallBaseIndex + w.info.toolCallMaxIndexOffset + 1
      toolCallBaseIndex := 0, toolCallMaxIndexOffset := 0, lastMessagesType := none } }
  | some _ => { w.stopOpenBlocks with info := { w.info with
      index := w.info.index + 1, lastMessagesType := none } }

section

variable (first : Bool)

/-- One round of the loops over `tool_calls`. The first chunk starts a block in every round, a later
chunk where the call has a name. -/
def toolRound (w : Conversion) (call : ToolCall × Nat) : Conversion :=
  let offset := call.1.index.getD call.2
  let index := w.info.toolCallBaseIndex + offset
  let starts := if first || call.1.name ≠ "" then
    [ClaudeEvent.blockStart index (.toolUse call.1.id call.1.name)] else []
  let deltas := if call.1.arguments ≠ "" then [.blockDelta index .tool call.1.arguments] else []
  { info := { w.info with toolCallMaxIndexOffset := max w.info.toolCallMaxIndexOffset offset }
    out := w.out ++ starts ++ deltas }

/-- Before the loop: only a later chunk goes on with tool blocks that are open. -/
def startTools (w : Conversion) : Conversion :=
  if first then
    { w with info := { w.info with
        lastMessagesType := some .tool, toolCallBaseIndex := 0, toolCallMaxIndexOffset := 0 } }
  else if w.info.lastMessagesType = some .tool then w
  else
    let w := w.stopOpenBlocksAndAdvance
    { w with info := { w.info with
        lastMessagesType := some .tool, toolCallBaseIndex := w.info.index, toolCallMaxIndexOffset := 0 } }

/-- After the loop: only a later chunk moves `Index`. -/
def moveIndex (w : Conversion) : Conversion :=
  if first then w
  else { w with info.index := w.info.toolCallBaseIndex + w.info.toolCallMaxIndexOffset }

/-- The tool calls of a chunk. -/
def toolCalls (c : Chunk) (estimate : Int) (w : Conversion) : Conversion :=
  (c.delta.calls.zipIdx.foldl (toolRound first)
    ((w.markClaudeOutput c estimate).startTools first)).moveIndex first

/-- The first chunk starts a block in any case. -/
def startBlock (block : ContentBlock) (w : Conversion) : Conversion :=
  if w.info.lastMessagesType = some block.kind then
    if first then w.emit [.blockStart w.info.index block] else w
  else
    let w := w.stopOpenBlocksAndAdvance
    w.emit [.blockStart w.info.index block]

/-- Text or thinking. -/
def content (block : ContentBlock) (delta : String) (c : Chunk) (estimate : Int)
    (w : Conversion) : Conversion :=
  let w := (w.markClaudeOutput c estimate).startBlock first block
  { info := { w.info with lastMessagesType := some block.kind }
    out := w.out ++ [.blockDelta w.info.index block.kind delta] }

/-- Thinking, or else text. -/
def contents (c : Chunk) (estimate : Int) (w : Conversion) : Conversion :=
  if c.delta.getReasoningContent ≠ "" then
    w.content first .thinking c.delta.getReasoningContent c estimate
  else if c.delta.getContentString ≠ "" then
    w.content first .text c.delta.getContentString c estimate
  else w

end

/-- The end of the message; without any output there is none. -/
def endMessage (usage : Usage) (stopReason : String) (w : Conversion) : Conversion :=
  if w.info.hasOutput then
    { w.stopOpenBlocks.emit [.messageDelta stopReason (buildClaudeUsageFromOpenAIUsage usage),
        .messageStop] with info.done := true }
  else { info := { w.info with done := true }, out := [] }

end Conversion

open Conversion in
/-- The deltas of the first choice. Only the first chunk may bring content beside tool calls. -/
def convertDelta (first : Bool) (c : Chunk) (estimate : Int) (w : Conversion) : Conversion :=
  if c.delta.calls = [] then w.contents first c estimate
  else if first then (w.toolCalls first c estimate).contents first c estimate
  else w.toolCalls first c estimate

open Conversion in
/-- **`StreamResponseOpenAI2Claude`**. `first` is `SendResponseCount == 1`, `estimate` is
`GetEstimatePromptTokens`. -/
def streamResponseOpenAI2Claude (first : Bool) (estimate : Int) (info : ClaudeConvertInfo)
    (c : Chunk) : Conversion :=
  let usage := c.usage.or info.usage
  if info.done then { info }
  else if first = false ∧ c.choices = [] then
    match usage with
    | none => { info }
    | some u =>
      let reason := stopReasonOpenAI2Claude info.finishReason
      endMessage u (if reason = "" then "end_turn" else reason) { info }
  else
    let w := convertDelta first c estimate { info }
    match c.finish? with
    | none => w
    | some reason => endMessage (usage.getD { promptTokens := estimate })
        (stopReasonOpenAI2Claude reason)
        -- a first chunk without output leaves the finish reason as it was
        (if first && !w.info.hasOutput then w else { w with info.finishReason := reason })

/-! ## Gemini responses -/

/-- A part of a Gemini response. The arguments of a function call are of a type `A` of decoded
objects. -/
inductive GeminiPart (A : Type*) where
  | text (s : String)
  | functionCall (name : String) (arguments : A)
  deriving DecidableEq

/-- Decoding of JSON objects: `json.Unmarshal` to a map, the empty map, and
`map[string]interface{}{"arguments": s}`. -/
structure ArgumentCodec (A : Type*) where
  unmarshal : String → Option A
  unmarshal_empty : unmarshal "" = none
  empty : A
  wrap : String → A

/-- A candidate of a response. -/
structure GeminiCandidate (A : Type*) where
  index : Nat
  finishReason : Option String
  parts : List (GeminiPart A)

/-- A response with its token counts. -/
structure GeminiResponse (A : Type*) where
  candidates : List (GeminiCandidate A)
  promptTokenCount : Int
  candidatesTokenCount : Int
  totalTokenCount : Int

section

variable {A : Type*} (codec : ArgumentCodec A)

/-- The arguments parsed, or wrapped as they are. -/
def functionCallArguments (call : ToolCall) : A :=
  if call.arguments ≠ "" then (codec.unmarshal call.arguments).getD (codec.wrap call.arguments)
  else codec.empty

/-- The parts of a choice: text only where the delta has no `tool_calls` at all. -/
def geminiParts (d : Delta) : List (GeminiPart A) :=
  match d.toolCalls with
  | some calls => calls.map fun t => .functionCall t.name (functionCallArguments codec t)
  | none => if d.getContentString ≠ "" then [.text d.getContentString] else []

/-- Gemini's word for a finish reason. -/
def geminiFinishReason : String → String
  | "length" => "MAX_TOKENS"
  | "content_filter" => "SAFETY"
  | _ => "STOP"

/-- One chunk becomes at most one Gemini response, without a state. -/
def streamResponseOpenAI2Gemini (estimate : Int) (c : Chunk) : Option (GeminiResponse A) :=
  let hasContent := c.choices.any fun choice =>
    choice.delta.getContentString ≠ "" || choice.delta.calls ≠ []
  let hasFinishReason := c.choices.any fun choice => choice.finishReason.isSome
  if !hasContent && !hasFinishReason then none
  else some {
    candidates := c.choices.map fun choice =>
      { index := choice.index, finishReason := choice.finishReason.map geminiFinishReason
        parts := geminiParts codec choice.delta }
    promptTokenCount := (c.usage.map Usage.promptTokens).getD estimate
    candidatesTokenCount := (c.usage.map Usage.completionTokens).getD 0
    totalTokenCount := (c.usage.map Usage.totalTokens).getD estimate }

end

end RenewApi.Convert
