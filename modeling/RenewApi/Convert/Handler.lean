import Mathlib.Data.List.Induction
import RenewApi.Convert.Chunks

/-! # Relaying a stream of chunks

`OaiStreamHandler` (`relay/channel/openai/relay-openai.go`) without the anti-poison buffers, and
with `ForceFormat` and `ThinkingToContent` off. Every chunk is sent when the next one has arrived;
the last one is dealt with after the stream. -/

namespace RenewApi.Convert

open List Option ClaudeEvent

/-- What the client speaks. -/
inductive RelayFormat where
  | openAI | claude | gemini
  deriving DecidableEq

/-- The channel types that are told apart. -/
inductive ChannelType where
  | openAI | deepSeek | zhipuV4 | moonshot | other
  deriving DecidableEq

/-- What the handler reads of `RelayInfo`, and the token count of a text. -/
structure RelayInfo (A : Type*) where
  relayFormat : RelayFormat
  channelType : ChannelType := .other
  shouldIncludeUsage : Bool := false
  isAudioModel : Bool := false
  estimatePromptTokens : Int := 0
  estimateTokenByModel : String → Int := fun _ => 0
  codec : ArgumentCodec A

/-- What is written to the client. -/
inductive Sent (A : Type*) where
  | chunk (c : Chunk)
  | finalUsage (usage : Usage)
  | done
  | claude (event : ClaudeEvent)
  | gemini (response : GeminiResponse A)

/-- What has been sent so far, with the state of the converter. -/
structure Relayed (A : Type*) where
  sendResponseCount : Nat := 0
  claudeConvertInfo : ClaudeConvertInfo := {}
  sent : List (Sent A) := []

variable {A : Type*} (info : RelayInfo A)

section

variable (s : Relayed A) (c : Chunk)

/-- Send the Claude events of a chunk. -/
def convertToClaude : Relayed A :=
  let w := streamResponseOpenAI2Claude (s.sendResponseCount == 1) info.estimatePromptTokens
    s.claudeConvertInfo c
  { s with claudeConvertInfo := w.info, sent := s.sent ++ w.out.map .claude }

/-- The same, with the usage of the chunk noted first. -/
def handleClaudeFormat : Relayed A :=
  convertToClaude info { s with
    claudeConvertInfo.usage := c.usage.or s.claudeConvertInfo.usage } c

/-- Send the Gemini response of a chunk. -/
def handleGeminiFormat : Relayed A :=
  { s with sent := s.sent ++
      ((streamResponseOpenAI2Gemini info.codec info.estimatePromptTokens c).map .gemini).toList }

/-- Send a chunk in the client's format. -/
def handleStreamFormat : Relayed A :=
  let s := { s with sendResponseCount := s.sendResponseCount + 1 }
  match info.relayFormat with
  | .openAI => { s with sent := s.sent ++ [.chunk c] }
  | .claude => handleClaudeFormat info s c
  | .gemini => handleGeminiFormat info s c

end

/-- The variables of the callback. -/
structure Scan (A : Type*) where
  relayed : Relayed A := {}
  lastStreamData : Option Chunk := none
  secondLastStreamData : Option Chunk := none
  responseText : String := ""
  toolCount : Nat := 0

/-- `ProcessStreamResponse` for one choice: the text that is counted. -/
def Choice.countedText (choice : Choice) : String :=
  choice.delta.getContentString ++ choice.delta.getReasoningContent ++
    String.join (choice.delta.calls.map fun t => t.name ++ t.arguments)

/-- The callback of `StreamScannerHandler`, once for each chunk. -/
def scan (s : Scan A) (c : Chunk) : Scan A :=
  let s := match s.lastStreamData with
    | some last => { s with relayed := handleStreamFormat info s.relayed last, lastStreamData := none }
    | none => s
  let s := if info.isAudioModel && s.lastStreamData.isSome then
    { s with secondLastStreamData := s.lastStreamData } else s
  { s with
    lastStreamData := some c
    responseText := s.responseText ++ String.join (c.choices.map Choice.countedText)
    toolCount := c.choices.foldl (fun n choice => max n choice.delta.calls.length) s.toolCount }

/-- `applyUsagePostProcessing`: where a channel puts its cached tokens. -/
def applyUsagePostProcessing (u : Usage) (body : Extracted) : Usage :=
  let cached (n : Int) : Usage := { u with promptTokensDetails.cachedTokens := n }
  let inputDetails := (u.inputTokensDetails.map InputTokenDetails.cachedTokens).filter (0 < ·)
  let hit : Option Int := if u.promptCacheHitTokens > 0 then some u.promptCacheHitTokens else none
  if u.promptTokensDetails.cachedTokens ≠ 0 then u
  else match info.channelType with
  | .deepSeek => if u.promptCacheHitTokens ≠ 0 then cached u.promptCacheHitTokens else u
  | .zhipuV4 => (((inputDetails.or body.cached).or hit).map cached).getD u
  | .moonshot => ((((inputDetails.or body.moonshot).or body.cached).or hit).map cached).getD u
  | .openAI => (body.llama.map cached).getD u
  | .other => u

/-- `handleLastResponse`: the usage of the last chunk, and whether the chunk may be sent. -/
def handleLastResponse (c : Chunk) : Option Usage × Bool :=
  if validUsage c.usage then
    (c.usage, info.shouldIncludeUsage || c.choices.any fun choice =>
      choice.delta.getContentString ≠ "" || choice.delta.getReasoningContent ≠ "")
  else (none, true)

/-- What follows the last chunk. -/
def handleFinalResponse (last : Option Chunk) (usage : Usage) (containStreamUsage : Bool)
    (s : Relayed A) : Relayed A :=
  match info.relayFormat, last with
  | .openAI, _ => { s with sent := s.sent ++
      (if info.shouldIncludeUsage && !containStreamUsage then [.finalUsage usage] else []) ++ [.done] }
  | .claude, some c =>
      let s := convertToClaude info { s with claudeConvertInfo.usage := some usage } c
      { s with claudeConvertInfo.done := true }
  | .gemini, some c => handleGeminiFormat info s c
  | _, none => s

/-- **`OaiStreamHandler`** on the chunks of a stream: the billed usage, and what was relayed. -/
def oaiStreamHandler (chunks : List Chunk) : Usage × Relayed A :=
  let s := chunks.foldl (scan info) {}
  let audioUsage := (s.secondLastStreamData.bind Chunk.usage).filter fun u => validUsage (some u)
  let (lastUsage, shouldSend) := match s.lastStreamData with
    | some c => handleLastResponse info c
    | none => (none, true)
  let relayed := match info.relayFormat, s.lastStreamData with
    | .openAI, some c => if shouldSend then handleStreamFormat info s.relayed c else s.relayed
    | _, _ => s.relayed
  let streamUsage := lastUsage.or audioUsage
  let usage := applyUsagePostProcessing info
    (streamUsage.getD
      { promptTokens := info.estimatePromptTokens
        completionTokens := info.estimateTokenByModel s.responseText + s.toolCount * 7
        totalTokens := info.estimatePromptTokens + info.estimateTokenByModel s.responseText })
    ((s.lastStreamData.map Chunk.extracted).getD {})
  (usage, handleFinalResponse info s.lastStreamData usage streamUsage.isSome relayed)

/-! ## The chunk that is held back -/

variable (s : Scan A) (cs : List Chunk) (c : Chunk) {output : Bool}

@[simp] theorem lastStreamData_scan : (scan info s c).lastStreamData = some c := rfl

theorem secondLastStreamData_scan :
    (scan info s c).secondLastStreamData = s.secondLastStreamData := by
  unfold scan
  cases h : s.lastStreamData <;> simp [h]

theorem relayed_scan : (scan info s c).relayed
      = (s.lastStreamData.map (handleStreamFormat info s.relayed)).getD s.relayed := by
  unfold scan
  cases h : s.lastStreamData <;> simp [h]

/-- **The callback is one chunk behind**: after a stream that ends with `c`, all chunks before `c`
have been sent. The second but last chunk is never kept. -/
theorem foldl_scan : ((cs ++ [c]).foldl (scan info) {}).lastStreamData = some c ∧
    ((cs ++ [c]).foldl (scan info) {}).secondLastStreamData = none ∧
    ((cs ++ [c]).foldl (scan info) {}).relayed = cs.foldl (handleStreamFormat info) {} := by
  have hsecond : ∀ cs : List Chunk, (cs.foldl (scan info) {}).secondLastStreamData = none := by
    intro cs
    induction cs using reverseRecOn with
    | nil => rfl
    | append_singleton cs c ih =>
      rw [foldl_append, foldl_cons, foldl_nil, secondLastStreamData_scan, ih]
  refine ⟨by simp, hsecond _, ?_⟩
  induction cs using reverseRecOn generalizing c with
  | nil => exact relayed_scan info {} c
  | append_singleton cs d ih =>
    have hlast : ((cs ++ [d]).foldl (scan info) {}).lastStreamData = some d := by
      simp
    rw [foldl_append, foldl_cons, foldl_nil, relayed_scan, hlast, map_some,
      getD_some, ih d, foldl_append, foldl_cons, foldl_nil]

/-! ## Where the usage comes from -/

section

variable (chunks : List Chunk)

/-- The estimate from the text of a stream (`ResponseText2Usage`). -/
def estimatedUsage : Usage :=
  let s := chunks.foldl (scan info) {}
  { promptTokens := info.estimatePromptTokens
    completionTokens := info.estimateTokenByModel s.responseText + s.toolCount * 7
    totalTokens := info.estimatePromptTokens + info.estimateTokenByModel s.responseText }

/-- The usage of a chunk, if it is valid. -/
def Chunk.validUsage? (c : Chunk) : Option Usage := c.usage.filter fun u => validUsage (some u)

/-- The usage of `OaiStreamHandler` before `applyUsagePostProcessing`. -/
def handlerUsage : Usage :=
  let s := chunks.foldl (scan info) {}
  ((s.lastStreamData.bind fun c => (handleLastResponse info c).1).or
    ((s.secondLastStreamData.bind Chunk.usage).filter fun u => validUsage (some u))).getD
      (estimatedUsage info chunks)

theorem oaiStreamHandler_usage :
    (oaiStreamHandler info chunks).1 = applyUsagePostProcessing info (handlerUsage info chunks)
      (((chunks.foldl (scan info) {}).lastStreamData.map Chunk.extracted).getD {}) := by
  unfold oaiStreamHandler handlerUsage
  dsimp only
  cases (chunks.foldl (scan info) {}).lastStreamData <;> rfl

theorem handleLastResponse_usage : (handleLastResponse info c).1 = c.validUsage? := by
  unfold handleLastResponse Chunk.validUsage?
  cases husage : c.usage with
  | none => rfl
  | some u => cases hvalid : validUsage (some u) <;> simp [hvalid, Option.filter]

/-- Only the last chunk is asked, as the last but one is never kept. -/
theorem handlerUsage_eq : handlerUsage info chunks =
    (chunks.getLast?.bind Chunk.validUsage?).getD (estimatedUsage info chunks) := by
  rcases eq_nil_or_concat chunks with rfl | ⟨cs, c, rfl⟩
  · rfl
  · obtain ⟨hlast, hsecond, -⟩ := foldl_scan info cs c
    simp only [handlerUsage, concat_eq_append, hlast, hsecond, getLast?_concat, bind_none,
      handleLastResponse_usage, Option.filter_none, or_none]

end

/-- **The usage of the last chunk, then for an audio model that of the last but one, then the
estimate**: this is billed exactly if an audio model never depends on the last chunk but one. -/
theorem usage_source_iff (info : RelayInfo A) (chunks : List Chunk) :
    handlerUsage info chunks = ((chunks.getLast?.bind Chunk.validUsage?).or
        (if info.isAudioModel then chunks.dropLast.getLast?.bind Chunk.validUsage? else none)).getD
          (estimatedUsage info chunks) ↔
      (info.isAudioModel = true → chunks.getLast?.bind Chunk.validUsage? = none →
        ∀ u, chunks.dropLast.getLast?.bind Chunk.validUsage? = some u →
          u = estimatedUsage info chunks) := by
  rw [handlerUsage_eq]
  cases chunks.getLast?.bind Chunk.validUsage? with
  | some u => simp
  | none =>
    cases info.isAudioModel <;> cases chunks.dropLast.getLast?.bind Chunk.validUsage? <;>
      simp [eq_comm]

/-! ## What an OpenAI client receives -/

/-- What a chunk brings to a client, with the choice it belongs to. -/
inductive Item where
  | content (choice : Nat) (s : String)
  | reasoning (choice : Nat) (s : String)
  | toolCall (choice : Nat) (call : ToolCall)
  | finish (choice : Nat) (reason : String)
  deriving DecidableEq

/-- What a choice brings. -/
def Choice.items (choice : Choice) : List Item :=
  let given (s : Option String) := (s.filter (· ≠ "")).toList
  (given choice.delta.reasoningContent).map (.reasoning choice.index) ++
    (given choice.delta.reasoning).map (.reasoning choice.index) ++
    (given choice.delta.content).map (.content choice.index) ++
    choice.delta.calls.map (.toolCall choice.index) ++
    choice.finishReason.toList.map (.finish choice.index)

/-- What a chunk brings. -/
def Chunk.items (c : Chunk) : List Item := c.choices.flatMap Choice.items

/-- What an OpenAI client gets of it. -/
def Sent.items : Sent A → List Item
  | .chunk c => c.items
  | _ => []

/-- The last chunk is not sent: its usage is valid and not asked for, and no choice has content or
reasoning. -/
def Chunk.withheld (c : Chunk) : Prop :=
  validUsage c.usage = true ∧ info.shouldIncludeUsage = false ∧
    ∀ choice ∈ c.choices, choice.delta.getContentString = "" ∧ choice.delta.getReasoningContent = ""

theorem shouldSend_eq_false_iff : (handleLastResponse info c).2 = false ↔ c.withheld info := by
  unfold handleLastResponse Chunk.withheld
  by_cases hvalid : validUsage c.usage = true <;> simp [hvalid]

theorem foldl_handleStreamFormat_openAI (h : info.relayFormat = .openAI) (cs : List Chunk)
    (s : Relayed A) : (cs.foldl (handleStreamFormat info) s).sent = s.sent ++ cs.map .chunk := by
  induction cs generalizing s with
  | nil => simp
  | cons c cs ih =>
    rw [foldl_cons, ih]
    simp [handleStreamFormat, h]

theorem flatMap_items_chunks :
    (cs.map Sent.chunk).flatMap (Sent.items (A := A)) = cs.flatMap Chunk.items := by
  rw [flatMap_map]
  rfl

/-- **Pass-through**: an OpenAI client receives everything exactly when the last chunk is sent, or
brings nothing but usage. -/
theorem passthrough_complete_iff (h : info.relayFormat = .openAI) (chunks : List Chunk) :
    (oaiStreamHandler info chunks).2.sent.flatMap Sent.items = chunks.flatMap Chunk.items ↔
      ∀ c, chunks.getLast? = some c → c.withheld info → c.items = [] := by
  -- what the end of the handler adds brings nothing to the client
  have hend : ∀ (last : Option Chunk) (u : Usage) (b : Bool) (s : Relayed A),
      (handleFinalResponse info last u b s).sent.flatMap Sent.items = s.sent.flatMap Sent.items := by
    intro last u b s
    simp only [handleFinalResponse, h]
    split <;> simp [Sent.items]
  rcases eq_nil_or_concat chunks with rfl | ⟨cs, c, rfl⟩
  · simp [oaiStreamHandler, hend]
  obtain ⟨hlast, -, hrelayed⟩ := foldl_scan info cs c
  have hsent : (oaiStreamHandler info (cs ++ [c])).2.sent.flatMap Sent.items
      = cs.flatMap Chunk.items ++ if (handleLastResponse info c).2 then c.items else [] := by
    simp only [oaiStreamHandler, hlast, hrelayed, hend, h]
    split
    · simp [handleStreamFormat, h, foldl_handleStreamFormat_openAI info h, flatMap_items_chunks,
        Sent.items]
    · simp [foldl_handleStreamFormat_openAI info h, flatMap_items_chunks]
  have hsend := shouldSend_eq_false_iff info c
  rw [concat_eq_append, hsent, flatMap_append, append_cancel_left_eq,
    flatMap_cons, flatMap_nil, append_nil, getLast?_concat]
  cases hbool : (handleLastResponse info c).2 with
  | true =>
    have hwithheld : ¬ c.withheld info := by
      rw [← hsend, hbool]
      exact Bool.noConfusion
    simp [hwithheld]
  | false =>
    constructor
    · rintro hnil d ⟨⟩ -
      exact hnil.symm
    · intro hall
      exact (hall c rfl (hsend.mp hbool)).symm

/-- A codec for streams without tool arguments. -/
def noArguments : ArgumentCodec Unit := ⟨fun _ => none, rfl, (), fun _ => ()⟩

/-- A stream whose last chunk has the tool call, the finish reason and the usage. -/
def toolCallWithUsage : List Chunk :=
  [{ choices := [{ delta := { content := some "Let me see." } }] },
    { choices := [{ delta := { toolCalls := some [{ index := some 0, id := "call_1", name := "read" }] }
                    finishReason := some "tool_calls" }]
      usage := some { promptTokens := 9, completionTokens := 4 } }]

theorem passthrough_complete_iff_toolCall :
    (oaiStreamHandler ⟨.openAI, .other, true, false, 0, fun _ => 0, noArguments⟩
        toolCallWithUsage).2.sent.flatMap Sent.items = toolCallWithUsage.flatMap Chunk.items :=
  (passthrough_complete_iff ⟨.openAI, .other, true, false, 0, fun _ => 0, noArguments⟩ rfl _).mpr
    fun _ _ hwithheld => Bool.noConfusion hwithheld.2.1

theorem toolCall_withheld : (oaiStreamHandler { relayFormat := .openAI, codec := noArguments }
        toolCallWithUsage).2.sent.flatMap Sent.items ≠ toolCallWithUsage.flatMap Chunk.items := by
  decide

/-- **An audio model is billed by the estimate** though the last chunk but one has a valid usage. -/
theorem second_last_usage_ignored :
    let u : Usage := { promptTokens := 9, completionTokens := 4 }
    let info : RelayInfo Unit := { relayFormat := .openAI, isAudioModel := true, codec := noArguments }
    let chunks : List Chunk := [{ usage := some u }, {}]
    handlerUsage info chunks = {} ∧
    handlerUsage info chunks ≠ ((chunks.getLast?.bind Chunk.validUsage?).or
        (if info.isAudioModel then chunks.dropLast.getLast?.bind Chunk.validUsage? else none)).getD
          (estimatedUsage info chunks) := by
  decide

/-! ## What a Claude client is told -/

/-- The usage that an event tells. -/
def ClaudeEvent.usage? : ClaudeEvent → Option ClaudeUsage
  | .messageDelta _ usage => some usage
  | _ => none

def Sent.claudeUsage? : Sent A → Option ClaudeUsage
  | .claude event => event.usage?
  | _ => none

@[simp] theorem claudeUsage?_claude (event : ClaudeEvent) :
    (Sent.claude (A := A) event).claudeUsage? = event.usage? := rfl

/-- The chunk has text, reasoning or tool calls. -/
def Chunk.hasOutput (c : Chunk) : Bool :=
  c.delta.calls ≠ [] || c.delta.getReasoningContent ≠ "" || c.delta.getContentString ≠ ""

/-- The usage that is known when the message ends, with the finish chunk or an earlier chunk without
choices: the last one up to then, or the estimate. -/
def usageAtEnd (estimate : Int) (first output : Bool) (usage : Option Usage) :
    List Chunk → Option Usage
  | [] => none
  | c :: cs =>
    let output := output || c.hasOutput
    let usage := c.usage.or usage
    if c.finish?.isSome then
      if output then some (usage.getD { promptTokens := estimate }) else none
    else if !first && c.choices.isEmpty && usage.isSome then if output then usage else none
    else usageAtEnd estimate false output usage cs

namespace Conversion

/-- A part of the conversion that does not end the message. `output` says whether it marks
output. -/
structure Continues (output : Bool) (w w' : Conversion) : Prop where
  usages : w'.out.filterMap ClaudeEvent.usage? = w.out.filterMap ClaudeEvent.usage?
  done : w'.info.done = w.info.done
  usage : w'.info.usage = w.info.usage
  hasOutput : w'.info.hasOutput = (w.info.hasOutput || output)

theorem Continues.trans {a b : Bool} {w₁ w₂ w₃ : Conversion} (h : Continues a w₁ w₂)
    (h' : Continues b w₂ w₃) : Continues (a || b) w₁ w₃ :=
  ⟨h'.usages.trans h.usages, h'.done.trans h.done, h'.usage.trans h.usage,
    by rw [h'.hasOutput, h.hasOutput, Bool.or_assoc]⟩

theorem continues_of_info {w w' : Conversion} (hout : w'.out = w.out)
    (hdone : w'.info.done = w.info.done) (husage : w'.info.usage = w.info.usage)
    (houtput : w'.info.hasOutput = w.info.hasOutput) : Continues false w w' :=
  ⟨by rw [hout], hdone, husage, by rw [houtput, Bool.or_false]⟩

theorem Continues.setFinishReason {w w' : Conversion} (h : Continues output w w') (keeps : Bool)
    (reason : String) :
    Continues output w (if keeps then w' else { w' with info.finishReason := reason }) := by
  split
  · exact h
  · exact ⟨h.usages, h.done, h.usage, h.hasOutput⟩

theorem usages_openBlockStops (info : ClaudeConvertInfo) :
    (openBlockStops info).filterMap usage? = [] := by
  unfold openBlockStops
  split <;> simp [usage?]

variable (c : Chunk) (estimate : Int) (w : Conversion)

theorem continues_markClaudeOutput : Continues true w (w.markClaudeOutput c estimate) := by
  unfold markClaudeOutput
  split <;> constructor <;> simp [usage?]

theorem continues_stopOpenBlocksAndAdvance : Continues false w w.stopOpenBlocksAndAdvance := by
  unfold stopOpenBlocksAndAdvance
  split <;> constructor <;> simp [stopOpenBlocks, emit, usages_openBlockStops]

theorem continues_foldl_toolRound (first : Bool) (calls : List (ToolCall × Nat)) :
    Continues false w (calls.foldl (toolRound first) w) := by
  induction calls generalizing w with
  | nil => exact continues_of_info rfl rfl rfl rfl
  | cons call calls ih =>
    have hround : Continues false w (toolRound first w call) := by
      refine ⟨?_, rfl, rfl, by simp [toolRound]⟩
      unfold toolRound
      split <;> split <;> simp [usage?]
    exact hround.trans (ih _)

theorem continues_toolCalls (first : Bool) : Continues true w (w.toolCalls first c estimate) := by
  have hstart : ∀ w : Conversion, Continues false w (w.startTools first) := by
    intro w
    have hstop := continues_stopOpenBlocksAndAdvance w
    unfold startTools
    split
    · exact continues_of_info rfl rfl rfl rfl
    · split
      · exact continues_of_info rfl rfl rfl rfl
      · exact ⟨hstop.usages, hstop.done, hstop.usage, hstop.hasOutput⟩
  have hmove : ∀ w : Conversion, Continues false w (w.moveIndex first) := by
    intro w
    unfold moveIndex
    split <;> exact continues_of_info rfl rfl rfl rfl
  exact (((continues_markClaudeOutput c estimate w).trans (hstart _)).trans
    (continues_foldl_toolRound _ first _)).trans (hmove _)

theorem continues_content (first : Bool) (block : ContentBlock) (delta : String) :
    Continues true w (w.content first block delta c estimate) := by
  have hstart : ∀ w : Conversion, Continues false w (w.startBlock first block) := by
    intro w
    have hstop := continues_stopOpenBlocksAndAdvance w
    unfold startBlock
    split
    · split <;> constructor <;> simp [emit, usage?]
    · exact ⟨by simp [emit, usage?, hstop.usages], hstop.done, hstop.usage, hstop.hasOutput⟩
  have h := (continues_markClaudeOutput c estimate w).trans (hstart _)
  exact ⟨by simp [content, usage?, h.usages], h.done, h.usage, h.hasOutput⟩

theorem continues_contents (first : Bool) :
    Continues (c.delta.getReasoningContent ≠ "" || c.delta.getContentString ≠ "") w
      (w.contents first c estimate) := by
  unfold contents
  by_cases hreasoning : c.delta.getReasoningContent = ""
  · by_cases htext : c.delta.getContentString = ""
    · simpa [hreasoning, htext] using continues_of_info rfl rfl rfl rfl
    · simpa [hreasoning, htext] using continues_content c estimate w first .text _
  · simpa [hreasoning] using continues_content c estimate w first .thinking _

theorem usages_endMessage {cinfo : ClaudeConvertInfo} {w : Conversion}
    (h : Continues output { info := cinfo } w) (usage : Usage) (reason : String) :
    (endMessage usage reason w).out.filterMap usage?
      = ((if cinfo.hasOutput || output then some usage else none).map
          buildClaudeUsageFromOpenAIUsage).toList := by
  have hquiet : w.out.filterMap usage? = [] := h.usages
  rw [← h.hasOutput]
  unfold endMessage
  split <;> simp [stopOpenBlocks, emit, usages_openBlockStops, usage?, hquiet]

theorem done_endMessage (usage : Usage) (reason : String) :
    (endMessage usage reason w).info.done = true := by
  unfold endMessage
  split <;> rfl

end Conversion

open Conversion

variable (estimate : Int) {cinfo : ClaudeConvertInfo} (first : Bool) (c : Chunk)

theorem hasOutput_of_choices_nil {c : Chunk} (h : c.choices = []) : c.hasOutput = false := by
  simp [Chunk.hasOutput, Chunk.delta, h, Delta.calls, Delta.getReasoningContent, Delta.getContentString]

theorem finish?_of_choices_nil {c : Chunk} (h : c.choices = []) : c.finish? = none := by
  simp [Chunk.finish?, h]

theorem continues_convertDelta (w : Conversion) :
    Continues c.hasOutput w (convertDelta first c estimate w) := by
  have hcontents := fun w => continues_contents c estimate w first
  have htools := continues_toolCalls c estimate w first
  unfold convertDelta
  by_cases hcalls : c.delta.calls = []
  · simp only [hcalls, Chunk.hasOutput, ne_eq, not_true_eq_false]
    exact hcontents w
  · cases first with
    | true => simpa [hcalls, Chunk.hasOutput] using htools.trans (hcontents _)
    | false => simpa [hcalls, Chunk.hasOutput] using htools

/-- **One chunk** ends the message and tells the usage that is known by then, or tells none. -/
theorem convert_chunk (hdone : cinfo.done = false) :
    let w := streamResponseOpenAI2Claude first estimate cinfo c
    (w.info.done = true ∧ ∀ cs, w.out.filterMap usage?
      = ((usageAtEnd estimate first cinfo.hasOutput cinfo.usage (c :: cs)).map
          buildClaudeUsageFromOpenAIUsage).toList) ∨
    (c.finish? = none ∧ w.info.done = false ∧ w.out.filterMap usage? = [] ∧
      w.info.usage = cinfo.usage ∧
      ∀ cs, usageAtEnd estimate first cinfo.hasOutput cinfo.usage (c :: cs)
        = usageAtEnd estimate false w.info.hasOutput (c.usage.or cinfo.usage) cs) := by
  intro w
  have hw : w = streamResponseOpenAI2Claude first estimate cinfo c := rfl
  have hnot : ¬ cinfo.done = true := by simp [hdone]
  simp only [streamResponseOpenAI2Claude] at hw
  rw [if_neg hnot] at hw
  by_cases hchoices : first = false ∧ c.choices = []
  · have hfinish := finish?_of_choices_nil hchoices.2
    have hout := hasOutput_of_choices_nil hchoices.2
    rw [if_pos hchoices] at hw
    cases husage : c.usage.or cinfo.usage with
    | none =>
      rw [husage] at hw
      refine .inr ⟨hfinish, hw ▸ hdone, hw ▸ rfl, hw ▸ rfl, fun cs => ?_⟩
      rw [hw]
      simp [usageAtEnd, hfinish, husage, hout]
    | some u =>
      rw [husage] at hw
      refine .inl ⟨hw ▸ done_endMessage _ _ _, fun cs => ?_⟩
      rw [hw, usages_endMessage (continues_of_info rfl rfl rfl rfl)]
      simp [usageAtEnd, hfinish, husage, hout, hchoices]
  · have hmid := continues_convertDelta estimate first c { info := cinfo }
    rw [if_neg hchoices] at hw
    cases hfinish : c.finish? with
    | none =>
      rw [hfinish] at hw
      refine .inr ⟨rfl, hw ▸ hmid.done.trans hdone, hw ▸ hmid.usages, hw ▸ hmid.usage, fun cs => ?_⟩
      rw [hw, hmid.hasOutput]
      cases first <;> simp_all [usageAtEnd]
    | some reason =>
      rw [hfinish] at hw
      refine .inl ⟨hw ▸ done_endMessage _ _ _, fun cs => ?_⟩
      rw [hw]
      refine (usages_endMessage (hmid.setFinishReason _ reason) _ _).trans ?_
      simp [usageAtEnd, hfinish]

/-! ### The whole stream -/

variable (h : info.relayFormat = .claude)
include h

theorem foldl_of_done (cs : List Chunk) {s : Relayed A} (hdone : s.claudeConvertInfo.done = true) :
    (cs.foldl (handleStreamFormat info) s).sent = s.sent ∧
      (cs.foldl (handleStreamFormat info) s).claudeConvertInfo.done = true := by
  induction cs generalizing s with
  | nil => exact ⟨rfl, hdone⟩
  | cons c cs ih =>
    have hstep : (handleStreamFormat info s c).sent = s.sent ∧
        (handleStreamFormat info s c).claudeConvertInfo.done = true := by
      simp [handleStreamFormat, h, handleClaudeFormat, convertToClaude, streamResponseOpenAI2Claude,
        hdone]
    obtain ⟨hsent, hend⟩ := ih hstep.2
    exact ⟨hsent.trans hstep.1, hend⟩

/-- **A Claude client is told one usage at most**, the one known when the message ended. -/
theorem told_foldl (cs : List Chunk) {s : Relayed A} (hdone : s.claudeConvertInfo.done = false) :
    (cs.foldl (handleStreamFormat info) s).sent.filterMap Sent.claudeUsage?
      = s.sent.filterMap Sent.claudeUsage? ++
        ((usageAtEnd info.estimatePromptTokens (s.sendResponseCount == 0)
          s.claudeConvertInfo.hasOutput s.claudeConvertInfo.usage cs).map
            buildClaudeUsageFromOpenAIUsage).toList ∧
    ((∃ c ∈ cs, c.finish? ≠ none) →
      (cs.foldl (handleStreamFormat info) s).claudeConvertInfo.done = true) := by
  induction cs generalizing s with
  | nil => simp [usageAtEnd]
  | cons c cs ih =>
    -- the record that the converter gets has the usage of the chunk already
    have hknown : ({ s.claudeConvertInfo with
        usage := c.usage.or s.claudeConvertInfo.usage } : ClaudeConvertInfo).done = false := hdone
    have hchunk := convert_chunk info.estimatePromptTokens (s.sendResponseCount == 0) c hknown
    have hstep : handleStreamFormat info s c = convertToClaude info
        { s with sendResponseCount := s.sendResponseCount + 1
                 claudeConvertInfo.usage := c.usage.or s.claudeConvertInfo.usage } c := by
      simp [handleStreamFormat, h, handleClaudeFormat]
    have husage : ∀ cs, usageAtEnd info.estimatePromptTokens (s.sendResponseCount == 0)
        s.claudeConvertInfo.hasOutput (c.usage.or s.claudeConvertInfo.usage) (c :: cs)
        = usageAtEnd info.estimatePromptTokens (s.sendResponseCount == 0)
          s.claudeConvertInfo.hasOutput s.claudeConvertInfo.usage (c :: cs) := by
      simp [usageAtEnd, ← Option.or_assoc]
    simp only [husage] at hchunk
    rw [foldl_cons]
    rcases hchunk with ⟨hend, htold⟩ | ⟨hfinish, hgoes, hquiet, hsame, hrest⟩
    · have hafter : (handleStreamFormat info s c).claudeConvertInfo.done = true := by
        rw [hstep]
        simpa [convertToClaude] using hend
      obtain ⟨hsent, hstays⟩ := foldl_of_done info h cs hafter
      refine ⟨?_, fun _ => hstays⟩
      rw [hsent, hstep]
      simpa [convertToClaude, Function.comp_def] using htold cs
    · have hafter : (handleStreamFormat info s c).claudeConvertInfo.done = false := by
        rw [hstep]
        simpa [convertToClaude] using hgoes
      obtain ⟨htold, hstays⟩ := ih hafter
      refine ⟨?_, fun hfin => hstays ?_⟩
      · rw [htold, hrest, hstep]
        simp [convertToClaude, Function.comp_def, hquiet, hsame, ← Option.or_assoc]
      · obtain ⟨d, hd, hdfin⟩ := hfin
        rcases mem_cons.mp hd with rfl | hd
        · exact absurd hfinish hdfin
        · exact ⟨d, hd, hdfin⟩

/-- **Told and billed**: with a usage chunk after the finish chunk, a Claude client is told the
billed usage exactly when the usage known at the end of the message converts to the same. -/
theorem claude_told_billed_iff (before : List Chunk) {finish last : Chunk}
    (hfinish : finish.finish? ≠ none) {u : Usage} (husage : last.usage = some u)
    (hvalid : validUsage (some u) = true) :
    (oaiStreamHandler info (before ++ [finish, last])).1
      = applyUsagePostProcessing info u last.extracted ∧
    ((oaiStreamHandler info (before ++ [finish, last])).2.sent.filterMap Sent.claudeUsage?
        = [buildClaudeUsageFromOpenAIUsage
            (oaiStreamHandler info (before ++ [finish, last])).1] ↔
      (usageAtEnd info.estimatePromptTokens true false none (before ++ [finish])).map
          buildClaudeUsageFromOpenAIUsage
        = some (buildClaudeUsageFromOpenAIUsage (applyUsagePostProcessing info u last.extracted))) := by
  have happend : before ++ [finish, last] = (before ++ [finish]) ++ [last] := by simp
  rw [happend]
  obtain ⟨hheld, hsecond, hrelayed⟩ := foldl_scan info (before ++ [finish]) last
  obtain ⟨htold, hend⟩ := told_foldl info h (before ++ [finish]) (s := {}) rfl
  have hdone := hend ⟨finish, by simp, hfinish⟩
  generalize before ++ [finish] = chunks at *
  have hbilled : (oaiStreamHandler info (chunks ++ [last])).1
      = applyUsagePostProcessing info u last.extracted := by
    simp only [oaiStreamHandler, hheld, handleLastResponse, husage, hvalid, if_true, some_or,
      getD_some, map_some]
  -- the message has ended, so the last chunk adds nothing
  have hsent : (oaiStreamHandler info (chunks ++ [last])).2.sent
      = (chunks.foldl (handleStreamFormat info) {}).sent := by
    simp only [oaiStreamHandler, hheld, hrelayed, h, handleFinalResponse, convertToClaude,
      streamResponseOpenAI2Claude, hdone, if_true, map_nil, append_nil]
  refine ⟨hbilled, ?_⟩
  rw [hbilled, hsent, htold]
  change [] ++ ((usageAtEnd info.estimatePromptTokens true false none chunks).map _).toList = _ ↔ _
  cases usageAtEnd info.estimatePromptTokens true false none chunks <;> simp

omit h

/-- A stream that brings its usage in a chunk of its own, after the finish chunk. -/
def usageAfterFinish (known : Option Usage) : List Chunk :=
  [{ choices := [{ delta := { content := some "Hi" } }] },
    { choices := [{ finishReason := some "stop" }], usage := known },
    { usage := some { promptTokens := 9, completionTokens := 4 } }]

theorem claude_told_billed_iff_known :
    (oaiStreamHandler { relayFormat := .claude, codec := noArguments }
      (usageAfterFinish (some { promptTokens := 9, completionTokens := 4 }))).2.sent.filterMap
        Sent.claudeUsage?
      = [buildClaudeUsageFromOpenAIUsage (oaiStreamHandler
          { relayFormat := .claude, codec := noArguments }
          (usageAfterFinish (some { promptTokens := 9, completionTokens := 4 }))).1] :=
  (claude_told_billed_iff { relayFormat := .claude, codec := noArguments } rfl
    [{ choices := [{ delta := { content := some "Hi" } }] }] (by decide) rfl (by decide)).2.mpr
    (by decide)

theorem told_estimate : (oaiStreamHandler { relayFormat := .claude, codec := noArguments }
      (usageAfterFinish none)).2.sent.filterMap Sent.claudeUsage?
      ≠ [buildClaudeUsageFromOpenAIUsage (oaiStreamHandler
          { relayFormat := .claude, codec := noArguments } (usageAfterFinish none)).1] := by
  decide

end RenewApi.Convert
