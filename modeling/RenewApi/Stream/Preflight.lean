import RenewApi.Stream.Semantics

/-! # Preflight of a stream

`StreamPreflightBuffer` (`relay/antipoison/stream_preflight.go`) holds the data of a stream back
until the first bytes of its visible text have been scanned. -/

namespace RenewApi.AntiPoison

open List RenewApi.Stream

structure OpaqueScanResult where
  score : Int
  action : String
  signals : List String

inductive OpaqueError where
  | blocked
  | suspicious
  deriving DecidableEq

def opaqueScanError (result : OpaqueScanResult) : Option OpaqueError :=
  if result.action = "block" then some .blocked
  else if result.action = "retry" then some .suspicious
  else none

def OpaqueScanResult.allow : OpaqueScanResult := ⟨0, "allow", []⟩

structure StreamPreflightBuffer where
  limit : Nat
  released : Bool
  chunks : List String
  text : Bytes

/-- What a call returns, with the texts that it had scanned. -/
structure Reply where
  chunks : List String
  result : OpaqueScanResult
  error : Option OpaqueError
  scanned : List Bytes

namespace StreamPreflightBuffer

/-- An empty buffer. -/
def start (limit : Nat) : StreamPreflightBuffer := ⟨limit, false, [], []⟩

variable (scan : Bytes → OpaqueScanResult) (b : StreamPreflightBuffer)

def release : StreamPreflightBuffer × Reply :=
  let text := b.text.take b.limit
  let result := scan text
  match opaqueScanError result with
  | some e => (b, ⟨[], result, some e, [text]⟩)
  | none => ({ b with released := true, chunks := [] }, ⟨b.chunks, result, none, [text]⟩)

/-- The item is kept for later. -/
def store (data : String) (visibleText : Bytes) : StreamPreflightBuffer :=
  { b with
    chunks := if data ≠ "" then b.chunks ++ [data] else b.chunks
    text := b.text ++ visibleText }

def add (data : String) (visibleText : Bytes) : StreamPreflightBuffer × Reply :=
  if b.released then (b, ⟨[data], .allow, none, []⟩)
  else
    let b := b.store data visibleText
    if b.text.length < b.limit then (b, ⟨[], .allow, none, []⟩) else b.release scan

def finalize : StreamPreflightBuffer × Reply :=
  if b.released then (b, ⟨[], .allow, none, []⟩) else b.release scan

/-- The replies to the calls for a stream, up to the first error. -/
def preflight (b : StreamPreflightBuffer) : List (String × Bytes) → List Reply
  | [] => [(b.finalize scan).2]
  | (data, visibleText) :: items =>
    let (b, reply) := b.add scan data visibleText
    match reply.error with
    | some _ => [reply]
    | none => reply :: preflight b items

/-! ## What it guarantees -/

/-- **One scan guards the data of a stream** with a given visible text. -/
structure Guarded (limit : Nat) (data : List String) (text : Bytes) (replies : List Reply) : Prop where
  once : replies.flatMap Reply.scanned = [text.take limit]
  /-- Nothing is handed out before a scan has passed. -/
  held : ∀ before r after, replies = before ++ r :: after → r.chunks ≠ [] →
    ∃ t ∈ (before ++ [r]).flatMap Reply.scanned, opaqueScanError (scan t) = none
  refused : ∀ e, opaqueScanError (scan (text.take limit)) = some e →
    replies.flatMap Reply.chunks = [] ∧ replies.getLast?.bind Reply.error = some e
  passed : opaqueScanError (scan (text.take limit)) = none →
    (replies.flatMap Reply.chunks).filter (· ≠ "") = data.filter (· ≠ "") ∧
      ∀ r ∈ replies, r.error = none

variable {scan b} {limit : Nat} {data : List String} {text : Bytes} {replies : List Reply}

theorem Guarded.congr (h : Guarded scan limit data text replies) {data' : List String}
    (hdata : data.filter (· ≠ "") = data'.filter (· ≠ "")) : Guarded scan limit data' text replies :=
  ⟨h.once, h.held, h.refused, hdata ▸ h.passed⟩

/-- A call that only stores its item comes before the scan. -/
theorem Guarded.stored (h : Guarded scan limit data text replies) :
    Guarded scan limit data text (⟨[], .allow, none, []⟩ :: replies) where
  once := h.once
  held := by
    rintro (_ | ⟨x, before⟩) r after heq hchunks
    · obtain ⟨rfl, -⟩ := cons.inj heq
      exact absurd rfl hchunks
    · obtain ⟨rfl, hrest⟩ := cons.inj heq
      exact h.held before r after hrest hchunks
  refused := by
    intro e he
    obtain ⟨hchunks, hlast⟩ := h.refused e he
    refine ⟨hchunks, ?_⟩
    cases replies with
    | nil => cases hlast
    | cons => exact hlast
  passed := by
    intro hpass
    obtain ⟨hchunks, herror⟩ := h.passed hpass
    exact ⟨hchunks, forall_mem_cons.mpr ⟨rfl, herror⟩⟩

/-- The call that scans decides about all that has been stored and all that comes after. -/
theorem guarded_release (htext : b.text.take b.limit = text.take b.limit)
    (hafter : (b.release scan).1.released = true →
      (∀ r ∈ replies, r.scanned = [] ∧ r.error = none) ∧ replies.flatMap Reply.chunks = data) :
    Guarded scan b.limit (b.chunks ++ data) text
      (match (b.release scan).2.error with
      | some _ => [(b.release scan).2]
      | none => (b.release scan).2 :: replies) := by
  rw [release, htext] at hafter ⊢
  cases hscan : opaqueScanError (scan (text.take b.limit)) with
  | some e =>
    refine ⟨rfl, fun before r after heq hchunks => ?_, fun e' he' => ⟨rfl, hscan.symm.trans he'⟩,
      fun hpass => (nomatch hscan.symm.trans hpass)⟩
    have hr : r ∈ before ++ r :: after := mem_append_right _ mem_cons_self
    rw [← heq, mem_singleton] at hr
    exact absurd (congrArg Reply.chunks hr) hchunks
  | none =>
    rw [hscan] at hafter
    obtain ⟨hafter, hdata⟩ := hafter rfl
    have hscanned : replies.flatMap Reply.scanned = [] :=
      flatMap_eq_nil_iff.mpr fun r hr => (hafter r hr).1
    refine ⟨by simp [hscanned], fun before r after heq _ => ⟨_, ?_, hscan⟩,
      fun e he => (nomatch hscan.symm.trans he), fun _ => ⟨by simp [hdata], ?_⟩⟩
    · -- the scan is in the first reply, which is the one looked at or stands before it
      cases before with
      | nil => simp [← (cons.inj heq).1]
      | cons => simp [← (cons.inj heq).1]
    · exact forall_mem_cons.mpr ⟨rfl, fun r hr => (hafter r hr).2⟩

/-- After the scan every item is handed on. -/
theorem preflight_of_released (h : b.released = true) (items : List (String × Bytes)) :
    (∀ r ∈ b.preflight scan items, r.scanned = [] ∧ r.error = none) ∧
      (b.preflight scan items).flatMap Reply.chunks = items.map Prod.fst := by
  induction items with
  | nil => simp [preflight, finalize, h]
  | cons item items ih =>
    obtain ⟨hafter, hchunks⟩ := ih
    simp only [preflight, add, h, if_true, flatMap_cons, hchunks]
    exact ⟨forall_mem_cons.mpr ⟨⟨rfl, rfl⟩, hafter⟩, rfl⟩

theorem guarded_preflight (h : b.released = false) (items : List (String × Bytes)) :
    Guarded scan b.limit (b.chunks ++ items.map Prod.fst) (b.text ++ (items.map Prod.snd).flatten)
      (b.preflight scan items) := by
  induction items generalizing b with
  | nil =>
    have hrelease : Guarded scan b.limit (b.chunks ++ []) b.text _ :=
      guarded_release rfl fun _ => ⟨forall_mem_nil _, rfl⟩
    rw [preflight, finalize, if_neg (by simp [h]), map_nil, map_nil, flatten_nil]
    cases herror : (b.release scan).2.error with
    | none => simpa [herror] using hrelease
    | some => simpa [herror] using hrelease
  | cons item items ih =>
    obtain ⟨data, visibleText⟩ := item
    have hdata : ((b.store data visibleText).chunks ++ items.map Prod.fst).filter (· ≠ "") =
        (b.chunks ++ data :: items.map Prod.fst).filter (· ≠ "") := by
      rw [store]
      split <;> simp_all
    rw [preflight, add, if_neg (by simp [h]), map_cons, map_cons, flatten_cons, ← append_assoc]
    refine Guarded.congr ?_ hdata
    dsimp only
    split_ifs with hshort
    · exact (ih (b := b.store data visibleText) h).stored
    · -- the bytes that are scanned are there already, so what follows does not matter
      refine guarded_release (b := b.store data visibleText) ?_ fun hreleased =>
        preflight_of_released hreleased items
      exact (take_append_of_le_length (Nat.le_of_not_lt hshort)).symm

/-- **The preflight of a stream is one scan of its first bytes**, whatever way its text is split,
and it decides about all its data. -/
theorem preflight_guarded (scan : Bytes → OpaqueScanResult) (limit : Nat)
    (items : List (String × Bytes)) :
    Guarded scan limit (items.map Prod.fst) (items.map Prod.snd).flatten
      ((start limit).preflight scan items) :=
  guarded_preflight (b := start limit) rfl items

end StreamPreflightBuffer

end RenewApi.AntiPoison
