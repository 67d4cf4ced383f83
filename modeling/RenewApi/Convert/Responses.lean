import RenewApi.Channels.Text
import RenewApi.Convert.ToolSchema
import RenewApi.Relational.Transaction

/-! # Chat messages and Responses items

The two conversions between the messages of a chat request and the input items of a Responses
request, as far as tool calls and their outputs are concerned. What a content part looks like is
left to a `PartCodec`.

* **Chat to Responses** (`calls_kept_iff`): a message whose content is an array of parts fails on a
  tool call it cannot represent; one with text or no content skips it.
* **Responses to Chat** (`tool_turns_iff`): every `function_call` item becomes an assistant message
  of its own. -/

namespace RenewApi.Responses

open List Relational Text
open ToolSchema (Value)

variable {P Q C : Type}

/-- `dto.Message.Content`: absent, a text or an array of parts. -/
inductive Content (P : Type) where
  | null
  | text (s : String)
  | parts (parts : List P)
  deriving DecidableEq

/-- `dto.FunctionRequest`. -/
structure FunctionRequest where
  name : String := ""
  arguments : String := ""
  deriving DecidableEq

/-- `dto.ToolCallRequest`. -/
structure ToolCallRequest where
  id : String := ""
  type : String := ""
  function : FunctionRequest := {}
  deriving DecidableEq

/-- The name a key is matched by: the case of its letters does not count. -/
def foldName (key : String) : String :=
  String.ofList (key.toList.map fun c => if c = 'ſ' then 's' else c.toLower)

/-- A value decoded into a string: null leaves it, and so does a value of another type. -/
def decodeString (old : String) : Value → String
  | .string s => s
  | _ => old

/-- Whether a value can be decoded into a string. -/
def isText : Value → Bool
  | .null | .string _ => true
  | _ => false

/-- The values under a path of names. -/
def valuesAt : List String → Value → List Value
  | [], v => [v]
  | key :: path, .object fields =>
    fields.flatMap fun f => if foldName f.1 = key then valuesAt path f.2 else []
  | _ :: _, _ => []

/-- The last text under a path. -/
def lastText (path : List String) (v : Value) : String := (valuesAt path v).foldl decodeString ""

/-- A tool call as `json.Unmarshal` decodes it: after a value of another type, an error, the decoder
goes on. -/
def ToolCallRequest.decode (v : Value) : ToolCallRequest :=
  ⟨lastText ["id"] v, lastText ["type"] v, lastText ["function", "name"] v,
    lastText ["function", "arguments"] v⟩

/-- `ParseToolCalls`: the error of the decoder is dropped. -/
def parseToolCalls : Option Value → List ToolCallRequest
  | some (.array calls) => calls.map ToolCallRequest.decode
  | _ => []

/-! ## Chat to Responses -/

/-- A `dto.Message` of a request: its tool calls are not decoded yet. `extraFields` names the
members that `dto.Message` does not declare. -/
structure RequestMessage (P : Type) where
  role : String
  content : Content P
  toolCallId : String := ""
  toolCalls : Option Value := none
  extraFields : List String := []

/-- An element of `inputItems`. -/
inductive InputItem (Q : Type) where
  | message (role : String) (content : Content Q)
  | functionCall (callId name arguments : String)
  | functionCallOutput (callId output : String)
  deriving DecidableEq

/-- How content parts are read: the text of a text part, the Responses form of a part for a role,
and the JSON text of all parts; `mismatch` is the decoder's error for a value of another type. -/
structure PartCodec (P Q : Type) where
  text? : P → Option String
  convert : String → P → Q
  marshal : List P → String
  mismatch : Value → String

/-- The part of `dto.GeneralOpenAIRequest` that decides over its messages. -/
structure ChatRequest (P : Type) where
  model : String
  n : Option Int := none
  messages : List (RequestMessage P)
  topLogProbs : Option Int := none
  logProbs : Option Bool := none
  extraFields : List String := []
  serviceTier : Option Value := none
  reasoning : Option Value := none

/-- Why a tool call has no `function_call` item. -/
def ToolCallRequest.problem? (tc : ToolCallRequest) : Option String :=
  if trimSpace tc.id = "" then some "tool call id is required"
  else if tc.type ≠ "" ∧ tc.type ≠ "function" then
    some ("unsupported tool call type " ++ String.quote tc.type)
  else if trimSpace tc.function.name = "" then some "tool call name is required"
  else none

/-- The item of a tool call: the name is trimmed, the id and the arguments are not. -/
def ToolCallRequest.item (tc : ToolCallRequest) : InputItem Q :=
  .functionCall tc.id (trimSpace tc.function.name) tc.function.arguments

/-- The tool calls of an assistant message. -/
def RequestMessage.assistantCalls (m : RequestMessage P) : List ToolCallRequest :=
  if trimSpace m.role = "assistant" then parseToolCalls m.toolCalls else []

section

variable (codec : PartCodec P Q)

/-- `strings.Join` of the non-blank text parts of a system message. -/
def PartCodec.systemText (parts : List P) : String :=
  "\n".intercalate ((parts.filterMap codec.text?).filter (trimSpace · ≠ ""))

/-- The instructions of a system or developer message. -/
def PartCodec.instructions : Content P → List String
  | .null => []
  | .text s => [trimSpace s].filter (· ≠ "")
  | .parts ps => [trimSpace (codec.systemText ps)].filter (· ≠ "")

/-- The output of a tool message as a text. -/
def PartCodec.output : Content P → String
  | .null => ""
  | .text s => s
  | .parts ps => codec.marshal ps

/-- One pass of the loop over `req.Messages`: the instructions and the items it appends. -/
def convertMessage (m : RequestMessage P) : Except String (List String × List (InputItem Q)) :=
  let role := trimSpace m.role
  if role = "" then .ok ([], [])
  else if role = "tool" ∨ role = "function" then
    let callId := trimSpace m.toolCallId
    if callId = "" then .error "tool output requires tool_call_id for Responses conversion"
    else .ok ([], [.functionCallOutput callId (codec.output m.content)])
  else if role = "system" ∨ role = "developer" then .ok (codec.instructions m.content, [])
  else
    -- the calls of a message without parts are skipped where those of one with parts fail
    let skipping := (m.assistantCalls.filter (·.problem?.isNone)).map ToolCallRequest.item
    match m.content with
    | .null => .ok ([], .message role (.text "") :: skipping)
    | .text s => .ok ([], .message role (.text s) :: skipping)
    | .parts ps =>
      match m.assistantCalls.findSome? ToolCallRequest.problem? with
      | some e => .error e
      | none => .ok ([], .message role (.parts (ps.map (codec.convert role))) ::
          m.assistantCalls.map ToolCallRequest.item)

/-- The loop over the messages. -/
def convertMessages : List (RequestMessage P) → Except String (List String × List (InputItem Q))
  | [] => .ok ([], [])
  | m :: ms => do
    let (instructions, items) ← convertMessage codec m
    let (instructions', items') ← convertMessages ms
    .ok (instructions ++ instructions', items ++ items')

/-- The first of the sorted names. -/
def first? : List String → Option String
  | [] => none
  | name :: names => some (names.foldl (fun a b => if b < a then b else a) name)

/-- `rejectExtensions`: the first name that is not allowed is reported. -/
def rejectExtensions (names : List String) (path : String) (allowed : List String) : Option String :=
  (first? (names.filter (· ∉ allowed))).map fun name =>
    path ++ "." ++ name ++ " has no supported representation in the target protocol"

/-- Whether a value can be decoded into a `*dto.Reasoning`. -/
def isReasoning : Value → Bool
  | .null => true
  | .object fields => ["effort", "summary"].all fun key => (valuesAt [key] (.object fields)).all isText
  | _ => false

/-- `copyChatResponsesFields`, whose error is all that matters here. -/
def copyChatResponsesFields (req : ChatRequest P) : Option String :=
  if req.topLogProbs.isSome ∨ req.logProbs = some true then
    some "Chat logprobs are not supported by the Responses response bridge"
  else
    (rejectExtensions req.extraFields "request"
      ["include", "client_metadata", "prompt_cache_options"]).or <|
    (req.messages.zipIdx.findSome? fun (m, i) =>
      rejectExtensions m.extraFields ("messages[" ++ toString i ++ "]") []).or <|
    ((req.serviceTier.filter (!isText ·)).map fun v =>
      "invalid service_tier: " ++ codec.mismatch v).or <|
    (req.reasoning.filter (!isReasoning ·)).map fun v => "invalid reasoning: " ++ codec.mismatch v

/-- `ChatCompletionsRequestToResponsesRequest`: the instructions and the input. -/
def chatCompletionsRequestToResponsesRequest :
    Option (ChatRequest P) → Except String (String × List (InputItem Q))
  | none => .error "request is nil"
  | some req =>
    if req.model = "" then .error "model is required"
    else if 1 < req.n.getD 1 then
      .error "n>1 is not supported in responses compatibility mode"
    else do
      let (instructions, items) ← convertMessages codec req.messages
      match copyChatResponsesFields codec req with
      | some e => .error e
      | none => .ok ("\n\n".intercalate instructions, items)

end

/-! ### What becomes of the calls -/

/-- Call id, name and arguments of a `function_call` item. -/
def InputItem.call? : InputItem Q → Option (String × String × String)
  | .functionCall callId name arguments => some (callId, name, arguments)
  | _ => none

/-- What a call turns into: nothing if it has a problem. -/
def ToolCallRequest.kept? (tc : ToolCallRequest) : Option (String × String × String) :=
  if tc.problem?.isNone then some (tc.id, trimSpace tc.function.name, tc.function.arguments) else none

/-- A tool call as the client wrote it, and whether it stands in a list. -/
structure RawCall where
  listed : Bool
  value : Value

/-- What becomes of a call. -/
def RawCall.kept? (c : RawCall) : Option (String × String × String) :=
  if c.listed then (ToolCallRequest.decode c.value).kept? else none

/-- The tool calls of an assistant message: the elements of an array, or any other value but
null. -/
def RequestMessage.rawCalls (m : RequestMessage P) : List RawCall :=
  if trimSpace m.role = "assistant" then
    match m.toolCalls with
    | none | some .null => []
    | some (.array calls) => calls.map (⟨true, ·⟩)
    | some v => [⟨false, v⟩]
  else []

/-- What a call needs to be sent, as far as the decoder reads it. -/
structure Sendable (v : Value) : Prop where
  id : trimSpace (lastText ["id"] v) ≠ ""
  type : lastText ["type"] v = "" ∨ lastText ["type"] v = "function"
  name : trimSpace (lastText ["function", "name"] v) ≠ ""

/-- A message for which there is no error. -/
structure RequestMessage.Convertible (m : RequestMessage P) : Prop where
  output : trimSpace m.role = "tool" ∨ trimSpace m.role = "function" → trimSpace m.toolCallId ≠ ""
  calls : trimSpace m.role = "assistant" → ∀ ps, m.content = .parts ps →
    ∀ c ∈ m.rawCalls, c.listed = true → Sendable c.value

/-- The fields for which there is no error. -/
structure ChatRequest.FieldsConvertible (req : ChatRequest P) : Prop where
  logProbs : req.topLogProbs = none ∧ req.logProbs ≠ some true
  extraFields : ∀ name ∈ req.extraFields,
    name ∈ ["include", "client_metadata", "prompt_cache_options"]
  messageFields : ∀ m ∈ req.messages, m.extraFields = []
  serviceTier : ∀ v ∈ req.serviceTier, isText v = true
  reasoning : ∀ v ∈ req.reasoning, isReasoning v = true

/-- The requests for which there is no error. -/
structure ChatRequest.Convertible (req : ChatRequest P) : Prop extends req.FieldsConvertible where
  model : req.model ≠ ""
  one : req.n.getD 1 ≤ 1
  messages : ∀ m ∈ req.messages, m.Convertible

theorem ite_some_eq_none {p : Prop} [Decidable p] {e : String} {o : Option String} :
    (if p then some e else o) = none ↔ ¬ p ∧ o = none := by
  by_cases hp : p <;> simp [hp]

theorem problem?_decode_eq_none (v : Value) :
    (ToolCallRequest.decode v).problem? = none ↔ Sendable v := by
  simp only [ToolCallRequest.problem?, ite_some_eq_none, not_and_or, not_not, and_true]
  exact ⟨fun ⟨hid, htype, hname⟩ => ⟨hid, htype, hname⟩, fun h => ⟨h.id, h.type, h.name⟩⟩

theorem rejectExtensions_eq_none {names allowed : List String} {path : String} :
    rejectExtensions names path allowed = none ↔ ∀ name ∈ names, name ∈ allowed := by
  have hfirst : ∀ l, first? l = none ↔ l = [] := fun l => by cases l <;> simp [first?]
  simp [rejectExtensions, hfirst]

section

variable {codec : PartCodec P Q}

theorem copyChatResponsesFields_eq_none {req : ChatRequest P} :
    copyChatResponsesFields codec req = none ↔ req.FieldsConvertible := by
  have hmessages : (req.messages.zipIdx.findSome? fun x => rejectExtensions x.1.extraFields
      ("messages[" ++ toString x.2 ++ "]") []) = none ↔ ∀ m ∈ req.messages, m.extraFields = [] := by
    simp only [findSome?_eq_none_iff, rejectExtensions_eq_none, not_mem_nil, imp_false,
      ← eq_nil_iff_forall_not_mem]
    exact ⟨fun h m hm => by
      obtain ⟨i, hi⟩ := mem_iff_getElem?.mp hm
      exact h (m, i) (mem_zipIdx_iff_getElem?.mpr hi), fun h x hx => h x.1 (fst_mem_of_mem_zipIdx hx)⟩
  unfold copyChatResponsesFields
  simp only [ite_some_eq_none, Option.or_eq_none_iff, rejectExtensions_eq_none, hmessages,
    Option.map_eq_none_iff, Option.filter_eq_none_iff, not_or, Bool.not_eq_true', Bool.not_eq_false,
    Option.isSome_iff_ne_none, not_not]
  exact ⟨fun ⟨hlog, hextra, hmessage, htier, hreasoning⟩ => ⟨hlog, hextra, hmessage, htier, hreasoning⟩,
    fun h => ⟨h.logProbs, h.extraFields, h.messageFields, h.serviceTier, h.reasoning⟩⟩

theorem filterMap_call?_item (calls : List ToolCallRequest) :
    ((calls.filter (·.problem?.isNone)).map (ToolCallRequest.item (Q := Q))).filterMap InputItem.call? =
      calls.filterMap ToolCallRequest.kept? := by
  rw [filterMap_map, filterMap_filter]
  rfl

theorem rawCalls_of_assistant {m : RequestMessage P} (h : trimSpace m.role = "assistant") :
    (parseToolCalls m.toolCalls).filterMap ToolCallRequest.kept? = m.rawCalls.filterMap RawCall.kept? ∧
      ((parseToolCalls m.toolCalls).findSome? ToolCallRequest.problem? = none ↔
        ∀ c ∈ m.rawCalls, c.listed = true → Sendable c.value) := by
  rw [RequestMessage.rawCalls, if_pos h]
  cases m.toolCalls with
  | none => simp [parseToolCalls]
  | some v =>
    cases v with
    | array calls =>
      simp only [parseToolCalls, filterMap_map, findSome?_eq_none_iff, forall_mem_map,
        problem?_decode_eq_none]
      exact ⟨rfl, by simp⟩
    | _ => simp [parseToolCalls, RawCall.kept?]

/-- When a message is converted, and what becomes of its calls. -/
theorem convertMessage_spec (m : RequestMessage P) :
    ((∃ r, convertMessage codec m = .ok r) ↔ m.Convertible) ∧
      ∀ r, convertMessage codec m = .ok r →
        r.2.filterMap InputItem.call? = m.rawCalls.filterMap RawCall.kept? := by
  have hconvertible : m.Convertible ↔ _ ∧ _ := ⟨fun h => ⟨h.output, h.calls⟩, fun h => ⟨h.1, h.2⟩⟩
  rw [hconvertible]
  unfold convertMessage RequestMessage.assistantCalls
  dsimp only
  by_cases hassistant : trimSpace m.role = "assistant"
  · obtain ⟨hkept, hproblem⟩ := rawCalls_of_assistant hassistant
    rw [← hkept, ← hproblem, if_pos hassistant, hassistant, if_neg (by decide), if_neg (by decide),
      if_neg (by decide)]
    cases m.content with
    | null | text s =>
      refine ⟨by simp, fun r h => ?_⟩
      cases h
      exact filterMap_call?_item _
    | parts ps =>
      cases hfind : (parseToolCalls m.toolCalls).findSome? ToolCallRequest.problem? with
      | some e => simp
      | none =>
        -- no call has a problem, so the calls that are kept are all of them
        have hnone := findSome?_eq_none_iff.mp hfind
        refine ⟨by simp, fun r h => ?_⟩
        cases h
        rw [← filterMap_call?_item, filter_eq_self.mpr fun tc htc => by simp [hnone tc htc]]
        rfl
  · rw [if_neg hassistant, RequestMessage.rawCalls, if_neg hassistant]
    -- a message of another role appends no `function_call` item
    split_ifs with hempty houtput hcall <;> simp_all [InputItem.call?]
    cases m.content <;> simp

theorem convertMessages_spec (ms : List (RequestMessage P)) :
    ((∃ r, convertMessages codec ms = .ok r) ↔ ∀ m ∈ ms, ∃ r, convertMessage codec m = .ok r) ∧
      ∀ r, convertMessages codec ms = .ok r →
        r.2.filterMap InputItem.call? =
          (ms.flatMap RequestMessage.rawCalls).filterMap RawCall.kept? := by
  induction ms with
  | nil =>
    refine ⟨by simp [convertMessages], fun r h => ?_⟩
    cases h
    rfl
  | cons m ms ih =>
    refine ⟨⟨?_, ?_⟩, fun r h => ?_⟩
    · rintro ⟨r, h⟩
      obtain ⟨x, hm, h⟩ := bind_eq_ok.mp h
      obtain ⟨xs, hms, -⟩ := bind_eq_ok.mp h
      exact forall_mem_cons.mpr ⟨⟨x, hm⟩, ih.1.mp ⟨xs, hms⟩⟩
    · intro h
      obtain ⟨⟨x, hm⟩, hms⟩ := forall_mem_cons.mp h
      obtain ⟨xs, hms⟩ := ih.1.mpr hms
      exact ⟨_, bind_eq_ok.mpr ⟨x, hm, bind_eq_ok.mpr ⟨xs, hms, rfl⟩⟩⟩
    · obtain ⟨x, hm, h⟩ := bind_eq_ok.mp h
      obtain ⟨xs, hms, h⟩ := bind_eq_ok.mp h
      cases h
      rw [filterMap_append, (convertMessage_spec m).2 _ hm, ih.2 _ hms, flatMap_cons,
        filterMap_append]

theorem request_eq_ok {req : ChatRequest P} {out : String × List (InputItem Q)} :
    chatCompletionsRequestToResponsesRequest codec (some req) = .ok out ↔
      req.model ≠ "" ∧ req.n.getD 1 ≤ 1 ∧ copyChatResponsesFields codec req = none ∧
        ∃ x, convertMessages codec req.messages = .ok x ∧ out = ("\n\n".intercalate x.1, x.2) := by
  rw [chatCompletionsRequestToResponsesRequest, guard_eq_ok, guard_eq_ok, bind_eq_ok, not_lt]
  cases copyChatResponsesFields codec req with
  | none => simp only [Except.ok.injEq, true_and, eq_comm (b := out), ne_eq]
  | some e => simp

/-- The requests that are converted. -/
theorem exists_request_ok {req : ChatRequest P} :
    (∃ out, chatCompletionsRequestToResponsesRequest codec (some req) = .ok out) ↔
      req.Convertible := by
  have hmessages : (∃ x, convertMessages codec req.messages = .ok x) ↔
      ∀ m ∈ req.messages, m.Convertible := by
    rw [(convertMessages_spec _).1]
    exact forall₂_congr fun m _ => (convertMessage_spec m).1
  constructor
  · rintro ⟨out, h⟩
    obtain ⟨hmodel, hone, hfields, x, hx, -⟩ := request_eq_ok.mp h
    exact ⟨copyChatResponsesFields_eq_none.mp hfields, hmodel, hone, hmessages.mp ⟨x, hx⟩⟩
  · intro h
    obtain ⟨x, hx⟩ := hmessages.mpr h.messages
    have hfields : copyChatResponsesFields codec req = none :=
      copyChatResponsesFields_eq_none.mpr h.toFieldsConvertible
    exact ⟨_, request_eq_ok.mpr ⟨h.model, h.one, hfields, x, hx, rfl⟩⟩

end

/-- Where a call has texts. -/
def textPaths : List (List String) := [["id"], ["function", "name"], ["function", "arguments"]]

/-- Call id, name and arguments of a call as the client wrote it, if they are texts. -/
def RawCall.call? (c : RawCall) : Option (String × String × String) :=
  if textPaths.all fun path => (valuesAt path c.value).all isText then
    some (lastText ["id"] c.value, lastText ["function", "name"] c.value,
      lastText ["function", "arguments"] c.value)
  else none

/-- No call is lost: if the request is converted, the `function_call` items are its calls, in
order. -/
def ChatRequest.CallsKept (codec : PartCodec P Q) (req : ChatRequest P) : Prop :=
  ∀ out, chatCompletionsRequestToResponsesRequest codec (some req) = .ok out →
    (out.2.filterMap InputItem.call?).map some =
      (req.messages.flatMap RequestMessage.rawCalls).map RawCall.call?

/-- A call that can be sent as it stands. -/
structure Representable (c : RawCall) : Prop extends Sendable c.value where
  listed : c.listed = true
  texts : ∀ path ∈ textPaths, ∀ v ∈ valuesAt path c.value, isText v = true
  trimmed : trimSpace (lastText ["function", "name"] c.value) = lastText ["function", "name"] c.value

/-- A call can be sent as it stands exactly if what is sent is what the client wrote. -/
theorem representable_iff {c : RawCall} :
    (∃ x, c.kept? = some x ∧ c.call? = some x) ↔ Representable c := by
  have hkept : ∀ x, c.kept? = some x ↔ (c.listed = true ∧ Sendable c.value) ∧
      (lastText ["id"] c.value, trimSpace (lastText ["function", "name"] c.value),
        lastText ["function", "arguments"] c.value) = x := fun x => by
    rw [← problem?_decode_eq_none, RawCall.kept?, ToolCallRequest.kept?]
    cases c.listed <;> cases (ToolCallRequest.decode c.value).problem? <;> simp [ToolCallRequest.decode]
  simp only [hkept, RawCall.call?, all_eq_true, Option.ite_none_right_eq_some, Option.some.injEq]
  constructor
  · rintro ⟨_, ⟨⟨hlisted, hsend⟩, rfl⟩, htexts, hsame⟩
    simp only [Prod.mk.injEq, true_and, and_true] at hsame
    exact ⟨hsend, hlisted, htexts, hsame.symm⟩
  · intro h
    exact ⟨_, ⟨⟨h.listed, h.toSendable⟩, rfl⟩, h.texts, by rw [h.trimmed]⟩

theorem map_some_filterMap_iff {α β : Type} {f g : α → Option β} {l : List α} :
    (l.filterMap f).map some = l.map g ↔ ∀ x ∈ l, ∃ c, f x = some c ∧ g x = some c := by
  induction l with
  | nil => simp
  | cons x l ih =>
    rw [forall_mem_cons, ← ih]
    cases hf : f x with
    | none =>
      refine ⟨fun h => ?_, fun ⟨⟨c, hc, _⟩, _⟩ => nomatch hc⟩
      -- a list that is one element short cannot be the same
      have hlen := congrArg length h
      have hle := length_filterMap_le f l
      simp only [filterMap_cons_none hf, length_map, length_cons] at hlen
      omega
    | some c => simp [filterMap_cons_some hf, eq_comm]

/-- **No tool call is lost** exactly if the request is rejected or the tool calls of each assistant
message are a list of function calls with an id and a trimmed name, whose id, name and arguments are
texts. -/
theorem calls_kept_iff (codec : PartCodec P Q) (req : ChatRequest P) :
    ((∃ out, chatCompletionsRequestToResponsesRequest codec (some req) = .ok out) ↔
        req.Convertible) ∧
      (req.CallsKept codec ↔
        (req.Convertible → ∀ m ∈ req.messages, ∀ c ∈ m.rawCalls, Representable c)) := by
  refine ⟨exists_request_ok, ?_⟩
  rw [← exists_request_ok, forall_exists_index]
  refine forall₂_congr fun out hout => ?_
  obtain ⟨-, -, -, x, hmessages, rfl⟩ := request_eq_ok.mp hout
  rw [(convertMessages_spec _).2 x hmessages, map_some_filterMap_iff]
  simp only [representable_iff, mem_flatMap, forall_exists_index, and_imp]
  exact ⟨fun h m hm c hc => h c m hm hc, fun h c m hm hc => h m hm c hc⟩

/-- A request of one assistant message with a text and the given tool calls. -/
def sampleRequest (calls : Value) : ChatRequest Unit :=
  { model := "m", messages := [⟨"assistant", .text "", "", some calls, []⟩] }

def sampleParts : PartCodec Unit Unit := ⟨fun _ => none, fun _ => id, fun _ => "", fun _ => ""⟩

/-- A call of the function `f`. -/
def sampleCall (id arguments : Value) : Value :=
  .object [("id", id), ("function", .object [("name", .string "f"), ("arguments", arguments)])]

/-- Three calls that are lost: one without an id, one whose arguments are an object, and one that
does not stand in a list. -/
theorem call_without_id_skipped :
    ¬ (sampleRequest (.array [sampleCall .null (.string "1")])).CallsKept sampleParts ∧
      ¬ (sampleRequest (.array [sampleCall (.string "a") (.object [])])).CallsKept sampleParts ∧
      ¬ (sampleRequest (sampleCall (.string "a") (.string "1"))).CallsKept sampleParts := by
  refine ⟨fun h => ?_, fun h => ?_, fun h => ?_⟩ <;>
    exact absurd (h _ rfl) (by decide)

/-! ## Responses to Chat -/

/-- A `dto.Message` of the converted request; `toolCalls` are those that `SetToolCalls` writes. -/
structure Message (P : Type) where
  role : String
  content : Content P
  toolCallId : String := ""
  toolCalls : List ToolCallRequest := []
  deriving DecidableEq

/-- An input item by its trimmed `type`, with its trimmed role. `content` is that of an item with a
content or of an image or file. -/
inductive ResponsesItem (C : Type) where
  | functionCallOutput (callId : String) (output : C)
  | functionCall (callId name arguments : String)
  | text (role text : String)
  | content (role : String) (content : C)
  | bare (role text : String)
  deriving DecidableEq

/-- The role of an item, `user` by default. -/
def roleOr (role : String) : String := if role = "" then "user" else role

/-- The assistant message of one call. -/
def callMessage (callId name arguments : String) : Message P :=
  { role := "assistant", content := .null, toolCalls := [⟨callId, "function", name, arguments⟩] }

section

variable (chat : String → C → Content P)

/-- The message of one output. `chat` is `responsesContentToChatContent`. -/
def outputMessage (callId : String) (output : C) : Message P :=
  { role := "tool", content := chat "tool" output, toolCallId := callId }

/-- `responsesInputItemToChatMessages`. -/
def responsesInputItemToChatMessages :
    ResponsesItem C → List (Message P)
  | .functionCallOutput callId output => [outputMessage chat callId output]
  | .functionCall callId name arguments => [callMessage callId name arguments]
  | .text role s => [{ role := roleOr role, content := .text s }]
  | .content role c => [{ role := roleOr role, content := chat (roleOr role) c }]
  | .bare role s => if s = "" then [] else [{ role := roleOr role, content := .text s }]

/-- `responsesInputToChatMessages`. -/
def responsesInputToChatMessages (items : List (ResponsesItem C)) : List (Message P) :=
  items.flatMap (responsesInputItemToChatMessages chat)

end

/-- The call of an item, as it is sent to the model. -/
def ResponsesItem.call? : ResponsesItem C → Option ToolCallRequest
  | .functionCall callId name arguments => some ⟨callId, "function", name, arguments⟩
  | _ => none

/-- The call id and the content of an output. -/
def ResponsesItem.output? : ResponsesItem C → Option (String × C)
  | .functionCallOutput callId output => some (callId, output)
  | _ => none

/-- A run of calls with one output for each of them, or any item that is not a call. -/
inductive Segment (C : Type) where
  | turn (calls : List (String × String × String)) (outputs : List (String × C))
      (answered : (outputs.map Prod.fst).Perm (calls.map Prod.fst))
  | loose (item : ResponsesItem C) (not_call : item.call? = none)

/-- The items of a segment. -/
def Segment.items : Segment C → List (ResponsesItem C)
  | .turn calls outputs _ =>
    calls.map (fun c => .functionCall c.1 c.2.1 c.2.2) ++
      outputs.map fun o => .functionCallOutput o.1 o.2
  | .loose item _ => [item]

/-- The tool messages `ms` answer the calls, one each. -/
def Answers (calls : List ToolCallRequest) (ms : List (Message P)) : Prop :=
  (∀ m ∈ ms, m.role = "tool") ∧ (ms.map Message.toolCallId).Perm (calls.map ToolCallRequest.id)

/-- Every message with tool calls is directly followed by one tool message for each of them. -/
def ToolTurns : List (Message P) → Prop
  | [] => True
  | m :: ms => (m.toolCalls ≠ [] → Answers m.toolCalls (ms.take m.toolCalls.length)) ∧ ToolTurns ms

section

variable {chat : String → C → Content P} {ms ms' : List (Message P)} {outputs : List (String × C)}
  {calls : List (String × String × String)}

theorem toolCalls_item (item : ResponsesItem C) :
    (responsesInputItemToChatMessages chat item).flatMap Message.toolCalls = item.call?.toList := by
  cases item with
  | bare role s => by_cases hs : s = "" <;> simp [responsesInputItemToChatMessages, ResponsesItem.call?]
  | _ => rfl

theorem toolCalls_input (items : List (ResponsesItem C)) :
    (responsesInputToChatMessages chat items).flatMap Message.toolCalls =
      items.filterMap ResponsesItem.call? := by
  rw [responsesInputToChatMessages, flatMap_assoc, filterMap_eq_flatMap_toList]
  exact congrArg (items.flatMap ·) (funext toolCalls_item)

theorem outputs_input (items : List (ResponsesItem C)) :
    ((items.filterMap ResponsesItem.output?).map fun o => outputMessage chat o.1 o.2).Sublist
      (responsesInputToChatMessages chat items) := by
  induction items with
  | nil => exact .refl _
  | cons item items ih =>
    cases hout : item.output? with
    | none =>
      rw [filterMap_cons_none hout]
      exact ih.trans (sublist_append_right _ _)
    | some o =>
      cases item with
      | functionCallOutput callId output =>
        exact ih.cons_cons _
      | _ => cases hout

theorem toolTurns_of_append (h : ToolTurns (ms ++ ms')) : ToolTurns ms' := by
  induction ms with
  | nil => exact h
  | cons m ms ih => exact ih h.2

/-- Messages without calls in front change nothing. -/
theorem toolTurns_append (hms : ms.flatMap Message.toolCalls = []) (h : ToolTurns ms') :
    ToolTurns (ms ++ ms') := by
  induction ms with
  | nil => exact h
  | cons m ms ih =>
    rw [flatMap_cons, append_eq_nil_iff] at hms
    exact ⟨fun hne => absurd hms.1 hne, ih hms.2⟩

/-- A turn of one call is a well-formed tool turn. -/
theorem toolTurns_turn (answered : (outputs.map Prod.fst).Perm (calls.map Prod.fst))
    (hone : calls.length ≤ 1) (h : ToolTurns ms) :
    ToolTurns (responsesInputToChatMessages chat (Segment.turn calls outputs answered).items ++ ms) := by
  have hlen := answered.length_eq
  match calls, outputs, hone, hlen with
  | [], [], _, _ => exact h
  | [call], [output], _, _ =>
    refine ⟨fun _ => ⟨?_, answered⟩, fun hne => absurd rfl hne, h⟩
    intro m hm
    obtain rfl := mem_singleton.mp hm
    rfl

/-- The first of two calls in a row is followed by a message that is no tool message. -/
theorem not_toolTurns_calls {i n a i' n' a' : String} :
    ¬ ToolTurns (callMessage i n a :: callMessage i' n' a' :: ms) := by
  intro h
  have hrole : "assistant" = "tool" := (h.1 (cons_ne_nil _ _)).1 _ (mem_singleton_self _)
  exact absurd hrole (by decide)

end

/-- **Well-formed tool turns**: calls and outputs are kept in order, and every assistant message
with calls is followed by their outputs, exactly if no turn has two calls. -/
theorem tool_turns_iff (chat : String → C → Content P) (segments : List (Segment C)) :
    let items := segments.flatMap Segment.items
    let messages := responsesInputToChatMessages chat items
    (messages.flatMap Message.toolCalls = items.filterMap ResponsesItem.call? ∧
        ((items.filterMap ResponsesItem.output?).map fun o => outputMessage chat o.1 o.2).Sublist
          messages ∧
        ToolTurns messages) ↔
      ∀ calls outputs answered, Segment.turn calls outputs answered ∈ segments →
        calls.length ≤ 1 := by
  intro items messages
  rw [and_iff_right (toolCalls_input items), and_iff_right (outputs_input items)]
  simp only [messages, items, responsesInputToChatMessages, flatMap_assoc]
  induction segments with
  | nil => simp [ToolTurns]
  | cons segment segments ih =>
    rw [flatMap_cons]
    constructor
    · intro h calls outputs answered hmem
      rcases mem_cons.mp hmem with rfl | hmem
      · match calls with
        | [] | [_] => simp
        | _ :: _ :: _ => exact absurd h not_toolTurns_calls
      · exact ih.mp (toolTurns_of_append h) calls outputs answered hmem
    · intro h
      have hrest := ih.mpr fun calls outputs answered hmem =>
        h calls outputs answered (mem_cons_of_mem _ hmem)
      cases segment with
      | turn calls outputs answered =>
        exact toolTurns_turn answered (h calls outputs answered mem_cons_self) hrest
      | loose item not_call =>
        refine toolTurns_append ?_ hrest
        rw [Segment.items, flatMap_singleton, toolCalls_item, not_call]
        rfl

/-- Two parallel calls become two assistant messages, and the first is not answered. -/
theorem parallel_calls_split :
    ¬ ToolTurns (responsesInputToChatMessages (fun _ => Content.text (P := Unit))
      [.functionCall "a" "f" "1", .functionCall "b" "f" "2",
        .functionCallOutput "a" "x", .functionCallOutput "b" "y"]) :=
  not_toolTurns_calls

end RenewApi.Responses
