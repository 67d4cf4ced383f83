import Mathlib.Data.List.Dedup
import RenewApi.Convert.Handler

/-! # What a Gemini client receives

A Gemini stream has no partial function calls, and the converter has no state: every delta of a tool
call becomes a function call of its own. -/

namespace RenewApi.Convert

open List GeminiPart

variable {A : Type*} (info : RelayInfo A)

def GeminiPart.text? : GeminiPart A → Option String
  | .text s => some s
  | .functionCall .. => none

def GeminiPart.call? : GeminiPart A → Option (String × A)
  | .text _ => none
  | .functionCall name arguments => some (name, arguments)

def Sent.parts : Sent A → List (GeminiPart A)
  | .gemini response => response.candidates.flatMap GeminiCandidate.parts
  | _ => []

def deltas (chunks : List Chunk) : List Delta := chunks.flatMap fun c => c.choices.map Choice.delta

/-! ## The parts of a stream -/

theorem parts_convert (c : Chunk) :
    ((streamResponseOpenAI2Gemini info.codec info.estimatePromptTokens c).map Sent.gemini).toList.flatMap
        Sent.parts
      = (c.choices.map Choice.delta).flatMap (geminiParts info.codec) := by
  simp only [streamResponseOpenAI2Gemini]
  split
  case isFalse h => simp [Sent.parts, flatMap_map]
  case isTrue h =>
    -- a chunk that is skipped has no part in any choice
    have hempty : ∀ choice ∈ c.choices, geminiParts info.codec choice.delta = [] := by
      intro choice hchoice
      simp only [Bool.and_eq_true, Bool.not_eq_true', any_eq_false, Bool.or_eq_true,
        decide_eq_true_eq, not_or] at h
      obtain ⟨htext, hcalls⟩ := h.1 choice hchoice
      unfold geminiParts
      split
      case h_1 calls hsome =>
        have : calls = [] := by simpa [Delta.calls, hsome] using hcalls
        simp [this]
      case h_2 hnone => simp [htext]
    rw [flatMap_map, flatMap_eq_nil_iff.mpr hempty]
    rfl

theorem foldl_handleStreamFormat_gemini (h : info.relayFormat = .gemini) (cs : List Chunk)
    (s : Relayed A) :
    (cs.foldl (handleStreamFormat info) s).sent.flatMap Sent.parts
      = s.sent.flatMap Sent.parts ++ (deltas cs).flatMap (geminiParts info.codec) := by
  induction cs generalizing s with
  | nil => simp [deltas]
  | cons c cs ih =>
    rw [foldl_cons, ih]
    simp only [handleStreamFormat, h, handleGeminiFormat, flatMap_append, parts_convert]
    simp [deltas]

/-- **The stream, delta by delta**: the converter sees every chunk once. -/
theorem parts_oaiStreamHandler (h : info.relayFormat = .gemini) (chunks : List Chunk) :
    (oaiStreamHandler info chunks).2.sent.flatMap Sent.parts
      = (deltas chunks).flatMap (geminiParts info.codec) := by
  rcases eq_nil_or_concat chunks with rfl | ⟨cs, c, rfl⟩
  · simp [oaiStreamHandler, h, handleFinalResponse, deltas]
  · obtain ⟨hlast, -, hrelayed⟩ := foldl_scan info cs c
    rw [concat_eq_append]
    simp only [oaiStreamHandler, hlast, hrelayed, h, handleFinalResponse, handleGeminiFormat,
      flatMap_append, foldl_handleStreamFormat_gemini info h, parts_convert]
    simp [deltas]

/-! ## Whole tool calls -/

section

variable (calls : List ToolCall)

/-- The tools of a stream, in the order of their first deltas. -/
def toolIndexes : List (Option Nat) :=
  (calls.map ToolCall.index).reverse.dedup.reverse

/-- The name in the first delta of a tool. -/
def toolName (index : Option Nat) : String :=
  ((calls.find? (·.index = index)).map ToolCall.name).getD ""

/-- The arguments of a tool, from all its fragments. -/
def toolArguments (index : Option Nat) : String :=
  String.join ((calls.filter (·.index = index)).map ToolCall.arguments)

theorem length_toolIndexes_iff :
    (toolIndexes calls).length = calls.length ↔ (calls.map ToolCall.index).Nodup := by
  rw [← nodup_reverse, ← dedup_eq_self, toolIndexes, length_reverse]
  constructor
  · intro hlength
    exact (dedup_sublist _).eq_of_length (by simp [hlength])
  · intro hself
    simp [hself]

end

variable {calls : List ToolCall} (codec : ArgumentCodec A) (ds : List Delta) (d : Delta)

theorem filter_index_of_nodup (h : (calls.map ToolCall.index).Nodup) {t : ToolCall}
    (ht : t ∈ calls) : calls.filter (·.index = t.index) = [t] := by
  induction calls with
  | nil => exact absurd ht not_mem_nil
  | cons u calls ih =>
    rw [map_cons, nodup_cons] at h
    rcases mem_cons.mp ht with rfl | ht
    · have hnone : calls.filter (·.index = t.index) = [] := by
        rw [filter_eq_nil_iff]
        intro v hv hindex
        exact h.1 (mem_map.mpr ⟨v, hv, by simpa using hindex⟩)
      simp [hnone]
    · have hne : u.index ≠ t.index := fun hindex =>
        h.1 (mem_map.mpr ⟨t, ht, hindex.symm⟩)
      simp [hne, ih h.2 ht]

theorem calls_geminiParts : (geminiParts codec d).filterMap call?
      = d.calls.map fun t => (t.name, functionCallArguments codec t) := by
  unfold geminiParts
  split
  case h_1 calls hsome => simp [Delta.calls, hsome, Function.comp_def, call?]
  case h_2 hnone =>
    simp only [Delta.calls, hnone, Option.getD_none]
    split <;> simp [call?]

/-! ## Text -/

/-- The text of a delta that reaches the client. -/
def Delta.keptText (d : Delta) : String := if d.toolCalls.isSome then "" else d.getContentString

theorem texts_geminiParts : String.join ((geminiParts codec d).filterMap text?) = d.keptText := by
  unfold geminiParts Delta.keptText
  split
  case h_1 calls hsome =>
    simp [hsome, filterMap_map, Function.comp_def, text?]
  case h_2 hnone =>
    simp only [hnone, Option.isSome_none, Bool.false_eq_true, if_false]
    by_cases htext : d.getContentString = "" <;> simp [htext, text?]

theorem keptText_eq_iff :
    d.keptText.length = d.getContentString.length ↔ (d.toolCalls.isSome → d.getContentString = "") := by
  unfold Delta.keptText
  by_cases htools : d.toolCalls.isSome
  · rw [eq_comm]
    simp [htools]
  · simp [htools]

theorem length_join_keptText_le : (String.join (ds.map Delta.keptText)).length
      ≤ (String.join (ds.map Delta.getContentString)).length := by
  induction ds with
  | nil => exact Nat.le_refl _
  | cons d ds ih =>
    have hd : d.keptText.length ≤ d.getContentString.length := by
      unfold Delta.keptText
      split <;> simp
    simp only [map_cons, String.join_cons, String.length_append]
    omega

/-- No text is lost exactly when none is dropped: what is dropped is missing from the length. -/
theorem join_keptText_iff :
    String.join (ds.map Delta.keptText) = String.join (ds.map Delta.getContentString) ↔
      ∀ d ∈ ds, d.toolCalls.isSome → d.getContentString = "" := by
  constructor
  · intro h
    have hlength := congrArg String.length h
    clear h
    induction ds with
    | nil => simp
    | cons d ds ih =>
      have hd := length_join_keptText_le [d]
      have hds := length_join_keptText_le ds
      simp only [map_cons, map_nil, String.join_cons, String.length_append] at hd hlength
      rw [forall_mem_cons, ← keptText_eq_iff]
      exact ⟨by omega, ih (by omega)⟩
  · intro h
    congr 1
    refine map_congr_left fun d hd => ?_
    unfold Delta.keptText
    split
    case isTrue htools => exact (h d hd htools).symm
    case isFalse => rfl

/-! ## The whole stream -/

/-- **Tool calls stay whole** exactly when each comes in one delta, and the text is complete exactly
when no delta has both. -/
theorem gemini_whole_iff (h : info.relayFormat = .gemini) (chunks : List Chunk)
    (hobject : ∀ k ∈ toolIndexes ((deltas chunks).flatMap Delta.calls),
      (info.codec.unmarshal (toolArguments ((deltas chunks).flatMap Delta.calls) k)).isSome) :
    let calls := (deltas chunks).flatMap Delta.calls
    let parts := (oaiStreamHandler info chunks).2.sent.flatMap Sent.parts
    ((parts.filterMap GeminiPart.call?).map (fun call => (call.1, some call.2))
        = (toolIndexes calls).map fun k =>
          (toolName calls k, info.codec.unmarshal (toolArguments calls k))) ∧
      String.join (parts.filterMap GeminiPart.text?)
        = String.join ((deltas chunks).map Delta.getContentString) ↔
    (calls.map ToolCall.index).Nodup ∧
      ∀ d ∈ deltas chunks, d.toolCalls.isSome → d.getContentString = "" := by
  intro calls parts
  have hparts : parts = (deltas chunks).flatMap (geminiParts info.codec) :=
    parts_oaiStreamHandler info h chunks
  have htexts : String.join (parts.filterMap text?)
      = String.join ((deltas chunks).map Delta.keptText) := by
    rw [hparts]
    induction deltas chunks with
    | nil => rfl
    | cons d ds ih =>
      rw [flatMap_cons, filterMap_append, String.join_append, ih, texts_geminiParts,
        map_cons, String.join_cons]
  have hcalls : parts.filterMap call?
      = calls.map fun t => (t.name, functionCallArguments info.codec t) := by
    rw [hparts]
    simp only [filterMap_flatMap, calls_geminiParts, calls, map_flatMap]
  rw [htexts, join_keptText_iff, hcalls, map_map]
  refine and_congr ⟨fun heq => ?_, fun hnodup => ?_⟩ Iff.rfl
  · -- one function call for every delta: there are as many tools as deltas
    have hlength := congrArg length heq
    rw [length_map, length_map] at hlength
    exact (length_toolIndexes_iff calls).mp hlength.symm
  · have hindexes : toolIndexes calls = calls.map ToolCall.index := by
      rw [toolIndexes, dedup_eq_self.mpr (nodup_reverse.mpr hnodup), reverse_reverse]
    rw [hindexes, map_map]
    refine map_congr_left fun t ht => ?_
    have hfilter := filter_index_of_nodup hnodup ht
    have harguments : toolArguments calls t.index = t.arguments := by
      simp [toolArguments, hfilter]
    have hname : toolName calls t.index = t.name := by
      simp [toolName, ← head?_filter, hfilter]
    have hsome := hobject t.index (by
      rw [hindexes]
      exact mem_map_of_mem ht)
    obtain ⟨a, ha⟩ := Option.isSome_iff_exists.mp (harguments ▸ hsome)
    have hne : t.arguments ≠ "" := by
      intro hempty
      rw [hempty, info.codec.unmarshal_empty] at ha
      cases ha
    simp [hname, harguments, functionCallArguments, hne, ha]

/-- A codec for objects whose values are texts. It reads one of them. -/
def sampleCodec : ArgumentCodec (List (String × String)) where
  unmarshal s := if s = "\x7b\"a\":1\x7d" then some [("a", "1")] else none
  unmarshal_empty := by decide
  empty := []
  wrap s := [("arguments", s)]

/-- A text, then deltas of tool calls, each in a chunk of its own. -/
def toolStream (calls : List ToolCall) : List Chunk :=
  { choices := [{ delta := { content := some "Let me see." } }] } ::
    calls.map fun call => { choices := [{ delta := { toolCalls := some [call] } }] }

theorem gemini_whole_iff_twoTools :
    let chunks := toolStream [{ index := some 0, name := "f", arguments := "\x7b\"a\":1\x7d" },
      { index := some 1, name := "g", arguments := "\x7b\"a\":1\x7d" }]
    let parts := (oaiStreamHandler { relayFormat := .gemini, codec := sampleCodec }
      chunks).2.sent.flatMap Sent.parts
    (parts.filterMap GeminiPart.call?).map (fun call => (call.1, some call.2))
        = [("f", some [("a", "1")]), ("g", some [("a", "1")])] ∧
      String.join (parts.filterMap GeminiPart.text?) = "Let me see." := by
  intro chunks parts
  have hwhole := (gemini_whole_iff { relayFormat := .gemini, codec := sampleCodec } rfl chunks
    (by decide +kernel)).mpr (by decide +kernel)
  exact ⟨hwhole.1.trans (by decide +kernel), hwhole.2.trans (by decide +kernel)⟩

/-- The two fragments of one call become two calls. -/
theorem two_fragments_two_calls :
    let chunks := toolStream [{ index := some 0, name := "f", arguments := "\x7b\"a\"" },
      { index := some 0, arguments := ":1\x7d" }]
    let calls := (deltas chunks).flatMap Delta.calls
    (toolIndexes calls).map (fun k => (toolName calls k, sampleCodec.unmarshal (toolArguments calls k)))
      = [("f", some [("a", "1")])] ∧
    ((oaiStreamHandler { relayFormat := .gemini, codec := sampleCodec }
        chunks).2.sent.flatMap Sent.parts).filterMap GeminiPart.call?
      = [("f", [("arguments", "\x7b\"a\"")]), ("", [("arguments", ":1\x7d")])] := by
  decide +kernel

end RenewApi.Convert
