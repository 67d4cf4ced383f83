import Mathlib.Data.List.Basic

/-! # The meaning of a stream payload

`ClassifyStreamPayload` reads the data of one server-sent event and says whether it is well formed,
whether it carries output the client came for (`Semantic`), whether it ends the protocol
(`Terminal`) and whether it reports a failure (`Failed`). -/

namespace RenewApi.Stream

open List

/-- A byte string. -/
abbrev Bytes := List UInt8

/-! ## Values -/

/-- A JSON value; of a number only whether it is zero is read. -/
inductive Json
  | null
  | bool (b : Bool)
  | number (nonzero : Bool)
  | string (s : String)
  | array (items : List Json)
  | object (fields : List (String × Json))

namespace Json

/-- `Get` of one key; `none` is a result that does not exist. -/
def get (key : String) : Option Json → Option Json
  | some (.object fields) => fields.lookup key
  | _ => none

def getPath (path : List String) (r : Option Json) : Option Json :=
  path.foldl (fun r key => get key r) r

/-- `String()`, as far as it is compared with a word: the text of any other value starts as no word
in the classifier does. -/
def text : Option Json → String
  | some (.string s) => s
  | _ => ""

/-- `Array()`. -/
def elems : Option Json → List Json
  | none | some .null => []
  | some (.array items) => items
  | some v => [v]

def truth : Option Json → Bool
  | some (.bool b) => b
  | some (.number nonzero) => nonzero
  | some (.string s) => ["1", "t", "true"].contains s.toLower
  | _ => false

/-- `Type == gjson.String`. -/
def isString : Option Json → Bool
  | some (.string _) => true
  | _ => false

def nonemptyStreamValue : Option Json → Bool
  | none | some .null => false
  | some (.string s) => s ≠ ""
  | some _ => true

def streamChatMessage (r : Option Json) : Bool :=
  ([["content"], ["reasoning_content"], ["reasoning"], ["refusal"], ["audio", "data"],
      ["function_call", "name"], ["function_call", "arguments"]].any fun field =>
    let value := getPath field r
    isString value && nonemptyStreamValue value) ||
  (elems (get "tool_calls" r)).any fun call =>
    nonemptyStreamValue (getPath ["function", "name"] (some call)) ||
      nonemptyStreamValue (getPath ["function", "arguments"] (some call))

theorem sizeOf_get_lt {key : String} {r v : Json} (h : get key (some r) = some v) :
    sizeOf v < sizeOf r := by
  cases r with
  | object fields =>
    have hmem : (key, v) ∈ fields := by
      rw [get] at h
      induction fields with
      | nil => cases h
      | cons kv fields ih =>
        rw [lookup_cons] at h
        split at h
        · next hkey =>
          rw [← Option.some.inj h, eq_of_beq hkey]
          exact mem_cons_self
        · exact mem_cons_of_mem _ (ih h)
    have h1 := sizeOf_lt_of_mem hmem
    rw [Prod.mk.sizeOf_spec] at h1
    rw [object.sizeOf_spec]
    omega
  | _ => cases h

theorem sizeOf_elems_get_lt {key : String} {r c : Json} (h : c ∈ elems (get key (some r))) :
    sizeOf c < sizeOf r := by
  cases hget : get key (some r) with
  | none =>
    rw [hget] at h
    cases h
  | some v =>
    have hv := sizeOf_get_lt hget
    rw [hget] at h
    cases v with
    | null => cases h
    | array items =>
      have hc : sizeOf c < sizeOf items := sizeOf_lt_of_mem h
      rw [array.sizeOf_spec] at hv
      omega
    | _ => rw [mem_singleton.mp h]; exact hv

/-- `streamOutputItem`: items without a known type are searched for one in their contents. -/
def streamOutputItem (r : Json) : Bool :=
  let typ := text (get "type" (some r))
  let has (path : List String) := nonemptyStreamValue (getPath path (some r))
  if ["function_call", "custom_tool_call", "tool_use"].contains typ then has ["name"]
  else if ["computer_call", "local_shell_call"].contains typ then has ["action", "type"]
  else if typ = "shell_call" then !(elems (getPath ["action", "commands"] (some r))).isEmpty
  else if typ = "apply_patch_call" then has ["operation", "type"]
  else if ["compaction", "context_compaction", "compaction_summary"].contains typ then
    has ["encrypted_content"]
  else if typ = "image_generation_call" then has ["result"]
  else if ["text", "output_text", "refusal", "thinking"].contains typ then
    has ["text"] || has ["refusal"] || has ["thinking"]
  else (elems (get "content" (some r))).attach.any fun c => streamOutputItem c.1
  termination_by sizeOf r
  decreasing_by exact sizeOf_elems_get_lt c.2

end Json

/-! ## The classifier -/

structure StreamFrameMeaning where
  valid : Bool
  semantic : Bool
  terminal : Bool
  failed : Bool
  deriving DecidableEq

/-- What reading a payload rests on. -/
structure StreamCodec where
  /-- `gjson.Valid` and `gjson.Parse`. -/
  parse : Bytes → Option Json
  /-- `TrimSpace`. -/
  trimSpace : Bytes → Bytes

def donePayload : Bytes := [0x5b, 0x44, 0x4f, 0x4e, 0x45, 0x5d]

open Json in
/-- The event carries a failure. -/
def failedPayload (r : Json) : Bool :=
  let typ := text (get "type" (some r))
  (match get "error" (some r) with
    | none | some .null => false
    | some _ => true) ||
  ["error", "response.failed", "response.error"].contains typ ||
  text (getPath ["response", "status"] (some r)) = "failed"

open Json in
/-- What the type of an event says: whether it is semantic and whether it is terminal. -/
def meaningOfType (r : Json) : Bool × Bool :=
  let typ := text (get "type" (some r))
  let has (path : List String) := nonemptyStreamValue (getPath path (some r))
  let item (key : String) := (get key (some r)).any streamOutputItem
  if ["response.output_text.delta", "response.refusal.delta", "response.reasoning_text.delta",
      "response.reasoning_summary_text.delta", "response.function_call_arguments.delta",
      "response.custom_tool_call_input.delta", "response.audio.delta", "response.output_audio.delta",
      "response.audio_transcript.delta"].contains typ then (has ["delta"], false)
  else if typ = "response.image_generation_call.partial_image" then (has ["partial_image_b64"], false)
  else if typ = "response.output_text.done" then (has ["text"], false)
  else if typ = "response.refusal.done" then (has ["refusal"], false)
  else if typ = "response.function_call_arguments.done" then (has ["arguments"], false)
  else if typ = "response.custom_tool_call_input.done" then (has ["input"], false)
  else if ["response.output_item.added", "response.output_item.done"].contains typ then
    (item "item", false)
  else if ["response.completed", "response.incomplete"].contains typ then
    ((elems (getPath ["response", "output"] (some r))).any streamOutputItem, true)
  else if typ = "content_block_start" then (item "content_block", false)
  else if typ = "content_block_delta" then
    (has ["delta", "text"] || has ["delta", "thinking"] || has ["delta", "partial_json"], false)
  else if typ = "message_stop" then (false, true)
  else if typ = "message_delta" then (false, has ["delta", "stop_reason"])
  else (false, false)

open Json in
/-- What the choices of a chat completion and the candidates of a generation say. -/
def meaningOfChoices (r : Json) : Bool × Bool :=
  let choices := elems (get "choices" (some r))
  let candidates := elems (get "candidates" (some r))
  (choices.any (fun choice =>
      nonemptyStreamValue (get "text" (some choice)) || streamChatMessage (get "delta" (some choice)) ||
        streamChatMessage (get "message" (some choice))) ||
    candidates.any (fun candidate =>
      (elems (getPath ["content", "parts"] (some candidate))).any fun part =>
        nonemptyStreamValue (get "text" (some part)) ||
          nonemptyStreamValue (getPath ["functionCall", "name"] (some part)) ||
          nonemptyStreamValue (getPath ["inlineData", "data"] (some part))),
   choices.any (fun choice => nonemptyStreamValue (get "finish_reason" (some choice))) ||
    candidates.any (fun candidate => nonemptyStreamValue (get "finishReason" (some candidate))))

open Json in
/-- What the text fields of other suppliers say. -/
def meaningOfText (r : Json) : Bool × Bool :=
  (([["answer"], ["response"], ["output", "text"], ["result"]].any fun field =>
      let value := getPath field (some r)
      isString value && nonemptyStreamValue value) ||
    streamChatMessage (get "message" (some r)),
   truth (get "done" (some r)) || text (get "event" (some r)) = "message_end")

def classifyStreamPayload (codec : StreamCodec) (data : Bytes) : StreamFrameMeaning :=
  if codec.trimSpace data = donePayload then
    { valid := true, semantic := false, terminal := true, failed := false }
  else
    match codec.parse data with
    | none => { valid := false, semantic := false, terminal := false, failed := false }
    | some r =>
      if failedPayload r then { valid := true, semantic := false, terminal := true, failed := true }
      else
        { valid := true
          semantic := (meaningOfType r).1 || (meaningOfChoices r).1 || (meaningOfText r).1
          terminal := (meaningOfType r).2 || (meaningOfChoices r).2 || (meaningOfText r).2
          failed := false }

end RenewApi.Stream
