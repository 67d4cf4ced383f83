import Mathlib.Data.List.Induction
import RenewApi.Relay.Loop

/-! # The outcome of a stream

Reader, writer, ping and timer report the end of one stream. `setTransportEnd` keeps the report of
the highest **priority**, the later one of two that are equal; `finalize` turns it into a code.

A run of reports ends with one of its **top** reports, any of them in some order (`exists_order`).
So the code is the same in every order exactly if they leave no tie between codes
(`code_order_independent_iff`). -/

namespace RenewApi.Stream

open List
open Relay (StreamAttemptCode)

/-- `StreamEndReason`. -/
inductive StreamEndReason
  | none | done | timeout | firstSemanticTimeout | clientGone | scannerErr | handlerStop | eof | panic
  | pingFail | writeError
  deriving DecidableEq

/-- `StreamSemanticEnd`. -/
inductive StreamSemanticEnd
  | none | completed | failed | incomplete
  deriving DecidableEq

/-- `StreamTerminationPolicy`. -/
inductive StreamTerminationPolicy
  | default | openAIResponses
  deriving DecidableEq

/-- `StreamStatus`, as far as the code of the outcome depends on it. -/
structure StreamStatus where
  endReason : StreamEndReason := .none
  endSet : Bool := false
  transportEnd : StreamEndReason := .none
  semanticEnd : StreamSemanticEnd := .none
  policy : StreamTerminationPolicy := .default
  rawFrameCount : Nat := 0
  validEventCount : Nat := 0
  invalidEventCount : Nat := 0
  terminalSeen : Bool := false
  clientCommitted : Bool := false
  deriving DecidableEq

/-- `streamEndPriority`. -/
def StreamEndReason.priority : StreamEndReason → Nat
  | .clientGone | .writeError => 100
  | .panic | .scannerErr | .pingFail => 90
  | .timeout | .firstSemanticTimeout => 80
  | .done => 20
  | .eof => 10
  | .none | .handlerStop => 0

/-- An end that is not a normal one. -/
def StreamEndReason.failing : StreamEndReason → Bool
  | .clientGone | .writeError | .panic | .scannerErr | .pingFail | .timeout
  | .firstSemanticTimeout => true
  | .none | .done | .handlerStop | .eof => false

namespace StreamStatus

section

variable (s : StreamStatus)

/-- `SetTransportEnd`. -/
def setTransportEnd (reason : StreamEndReason) : StreamStatus :=
  if s.transportEnd.priority ≤ reason.priority then { s with transportEnd := reason } else s

/-- The code of `outcomeLocked`. -/
def outcome : StreamAttemptCode :=
  if s.transportEnd = .clientGone then .clientGone
  else if s.transportEnd = .writeError ∨ (s.transportEnd = .pingFail ∧ s.clientCommitted) then
    .writeError
  else if s.transportEnd = .scannerErr ∨ s.transportEnd = .panic then .badResponseBody
  else if s.semanticEnd = .failed ∨ s.endReason = .handlerStop then .failed
  else if s.transportEnd = .timeout ∨ s.transportEnd = .firstSemanticTimeout then .timeout
  else if s.policy = .openAIResponses ∧ 0 < s.invalidEventCount ∧ s.validEventCount = 0 then
    .badResponseBody
  else if s.policy = .openAIResponses ∧ s.validEventCount = 0 then .emptyResponse
  else if s.policy = .openAIResponses ∧ (¬ s.terminalSeen ∨ s.semanticEnd ≠ .completed) then
    .incomplete
  else if s.rawFrameCount = 0 ∧ s.transportEnd = .eof then .emptyResponse
  else .ok

/-- `Finalize`, up to the code it returns. -/
def finalize : StreamAttemptCode :=
  let s := if s.policy = .openAIResponses ∧ s.semanticEnd = .none ∧ 0 < s.validEventCount then
      { s with semanticEnd := .incomplete }
    else s
  let s := if s.endSet then s
    else { s with
      endSet := true
      endReason :=
        if s.semanticEnd = .failed then .handlerStop
        else if s.semanticEnd = .completed then .done
        else if s.transportEnd ≠ .none then s.transportEnd
        else .eof }
  s.outcome

/-- The status after the reports; before them no end is known. -/
def reported (reports : List StreamEndReason) : StreamStatus :=
  reports.foldl setTransportEnd { s with transportEnd := .none }

end

end StreamStatus

/-- A report of the highest priority. -/
def Top (reports : List StreamEndReason) (r : StreamEndReason) : Prop :=
  r ∈ reports ∧ ∀ r' ∈ reports, r'.priority ≤ r.priority

variable {s : StreamStatus} {reports : List StreamEndReason} {r : StreamEndReason}

section

variable (s : StreamStatus)

section

variable (reports : List StreamEndReason)

theorem reported_append (r : StreamEndReason) :
    s.reported (reports ++ [r]) = (s.reported reports).setTransportEnd r := by
  simp [StreamStatus.reported]

theorem transportEnd_setTransportEnd (r : StreamEndReason) :
    (s.setTransportEnd r).transportEnd =
      if s.transportEnd.priority ≤ r.priority then r else s.transportEnd := by
  unfold StreamStatus.setTransportEnd
  split <;> rfl

/-- Only the transport end changes. -/
theorem reported_eq :
    s.reported reports = { s with transportEnd := (s.reported reports).transportEnd } := by
  induction reports using reverseRecOn with
  | nil => rfl
  | append_singleton reports r ih =>
    rw [reported_append, ih, StreamStatus.setTransportEnd]
    split <;> rfl

/-- A run of reports ends with one of its top reports. -/
theorem transportEnd_top :
    (reports = [] ∧ (s.reported reports).transportEnd = .none) ∨
      Top reports (s.reported reports).transportEnd := by
  -- on the last report: it replaces the top one so far unless that has a higher priority
  induction reports using reverseRecOn with
  | nil => exact .inl ⟨rfl, rfl⟩
  | append_singleton reports r ih =>
    right
    rw [reported_append, transportEnd_setTransportEnd]
    split
    · rename_i hle
      refine ⟨by simp, fun r' hr' => ?_⟩
      rcases mem_append.mp hr' with hr' | hr'
      · rcases ih with ⟨rfl, -⟩ | htop
        · cases hr'
        · exact (htop.2 r' hr').trans hle
      · rw [mem_singleton.mp hr']
    · rename_i hlt
      rcases ih with ⟨-, hnone⟩ | htop
      · rw [hnone] at hlt
        exact absurd (Nat.zero_le _) hlt
      · refine ⟨mem_append_left _ htop.1, fun r' hr' => ?_⟩
        rcases mem_append.mp hr' with hr' | hr'
        · exact htop.2 r' hr'
        · rw [mem_singleton.mp hr']
          omega

end

/-- Every top report is the one that counts if it comes last. -/
theorem exists_order (h : Top reports r) :
    ∃ order, order.Perm reports ∧ (s.reported order).transportEnd = r := by
  refine ⟨reports.erase r ++ [r], ?_, ?_⟩
  · exact perm_append_comm.trans (perm_cons_erase h.1).symm
  · rw [reported_append, transportEnd_setTransportEnd, if_pos]
    rcases transportEnd_top s (reports.erase r) with ⟨-, hnone⟩ | htop
    · rw [hnone]
      exact Nat.zero_le _
    · exact h.2 _ (mem_of_mem_erase htop.1)

/-- The stream failed, or its handler stopped it. -/
def StreamStatus.Stopped : Prop :=
  s.semanticEnd = .failed ∨ s.endSet = true ∧ s.endReason = .handlerStop
  deriving Decidable

/-- The code of a stream whose transport reported nothing. -/
def StreamStatus.silent : StreamAttemptCode :=
  if s.Stopped then .failed
  else if s.policy ≠ .openAIResponses then .ok
  else if 0 < s.invalidEventCount ∧ s.validEventCount = 0 then .badResponseBody
  else if s.validEventCount = 0 then .emptyResponse
  else if ¬s.terminalSeen ∨ s.semanticEnd ≠ .completed then .incomplete
  else .ok

/-- The code by the end that counts. -/
def codeOf : StreamEndReason → StreamAttemptCode
  | .clientGone => .clientGone
  | .writeError => .writeError
  | .panic | .scannerErr => .badResponseBody
  | .pingFail => if s.clientCommitted then .writeError else s.silent
  | .timeout | .firstSemanticTimeout => if s.Stopped then .failed else .timeout
  | .eof => if s.silent = .ok ∧ s.rawFrameCount = 0 then .emptyResponse else s.silent
  | .handlerStop => if s.endSet ∨ s.semanticEnd = .completed then s.silent else .failed
  | .none | .done => s.silent

theorem finalize_reported (reports : List StreamEndReason) :
    (s.reported reports).finalize = codeOf s (s.reported reports).transportEnd := by
  rw [reported_eq]
  generalize (s.reported reports).transportEnd = r
  unfold StreamStatus.finalize StreamStatus.outcome codeOf StreamStatus.silent StreamStatus.Stopped
  cases r <;> grind

/-- A failing end is never `ok`, a failed ping apart. -/
theorem codeOf_ne_ok (hfail : r.failing = true) (hping : r ≠ .pingFail) : codeOf s r ≠ .ok := by
  cases r <;> simp [StreamEndReason.failing] at hfail hping <;> simp [codeOf]
  all_goals split <;> simp

/-- The ties of reports with different codes. -/
theorem codeOf_eq_or_tie {r' : StreamEndReason} (h : r.priority = r'.priority) :
    codeOf s r = codeOf s r' ∨ ∃ tie ∈ [(StreamEndReason.clientGone, StreamEndReason.writeError),
      (.panic, .pingFail), (.scannerErr, .pingFail), (.none, .handlerStop)],
      (r, r') = tie ∨ (r', r) = tie := by
  cases r <;> cases r' <;> first
    | exact absurd h (by decide)
    | exact .inl rfl
    | exact .inr (by decide)

end

theorem failing_iff : r.failing = true ↔ 80 ≤ r.priority := by
  cases r <;> decide

/-- Order independence in terms of the codes of the top reports. -/
theorem code_same_iff_top (s : StreamStatus) (reports : List StreamEndReason) :
    ((∀ order, order.Perm reports → (s.reported order).finalize = (s.reported reports).finalize) ∧
        ∀ r ∈ reports, r.failing = true → (s.reported reports).finalize ≠ .ok) ↔
      (∀ r r', Top reports r → Top reports r' → codeOf s r = codeOf s r') ∧
        (Top reports .pingFail → codeOf s .pingFail ≠ .ok) := by
  constructor
  · rintro ⟨hsame, hok⟩
    have hcode : ∀ r, Top reports r → codeOf s r = (s.reported reports).finalize := by
      intro r hr
      obtain ⟨order, hperm, rfl⟩ := exists_order s hr
      rw [← finalize_reported, hsame order hperm]
    refine ⟨fun r r' hr hr' => (hcode r hr).trans (hcode r' hr').symm, fun hping => ?_⟩
    rw [hcode _ hping]
    exact hok _ hping.1 rfl
  · rintro ⟨hagree, hping⟩
    constructor
    · intro order hperm
      rw [finalize_reported, finalize_reported]
      rcases transportEnd_top s order with ⟨rfl, -⟩ | htop
      · rw [nil_perm.mp hperm]
      rcases transportEnd_top s reports with ⟨rfl, -⟩ | htop'
      · rw [perm_nil.mp hperm]
      exact hagree _ _ ⟨hperm.mem_iff.mp htop.1, fun r hr => htop.2 r (hperm.mem_iff.mpr hr)⟩ htop'
    · intro r hr hfail
      rw [finalize_reported]
      rcases transportEnd_top s reports with ⟨rfl, -⟩ | htop
      · cases hr
      by_cases heq : (s.reported reports).transportEnd = .pingFail
      · rw [heq] at htop ⊢
        exact hping htop
      · -- the end that counts has at least the priority of a failure
        exact codeOf_ne_ok s (failing_iff.mpr ((failing_iff.mp hfail).trans (htop.2 r hr))) heq

/-- **The reports settle the outcome**, whatever their order: no tie of reports with different codes
arises, or the status makes the codes equal. -/
structure Settled (s : StreamStatus) (reports : List StreamEndReason) : Prop where
  /-- Not both a vanished client and a failed write. -/
  client : ¬(.clientGone ∈ reports ∧ .writeError ∈ reports)
  /-- A failed ping that nothing outranks finds the client committed, the stream stopped, or a
  Responses stream that did not complete. -/
  ping : Top reports .pingFail → s.clientCommitted = true ∨ s.Stopped ∨
    s.policy = .openAIResponses ∧
      ¬(0 < s.validEventCount ∧ s.terminalSeen = true ∧ s.semanticEnd = .completed)
  /-- Together with a panic or a scanner error it finds a Responses stream of invalid events only. -/
  broken : Top reports .pingFail → .panic ∈ reports ∨ .scannerErr ∈ reports →
    s.clientCommitted = false ∧ ¬s.Stopped ∧ s.policy = .openAIResponses ∧
      0 < s.invalidEventCount ∧ s.validEventCount = 0
  /-- If just no end and a stop of the handler were reported, the end was set before or the events
  had ended the stream. -/
  idle : Top reports .none → .handlerStop ∈ reports →
    s.endSet = true ∨ s.semanticEnd = .failed ∨ s.semanticEnd = .completed

theorem Top.of_priority {r' : StreamEndReason} (h : Top reports r) (hr' : r' ∈ reports)
    (heq : r.priority = r'.priority) : Top reports r' :=
  ⟨hr', fun x hx => heq ▸ h.2 x hx⟩

theorem top_of_hundred (hr : r ∈ reports) (h : r.priority = 100) : Top reports r :=
  ⟨hr, fun r' _ => h ▸ (by cases r' <;> decide)⟩

theorem pingFail_ne_ok_iff : codeOf s .pingFail ≠ .ok ↔ s.clientCommitted = true ∨ s.Stopped ∨
    s.policy = .openAIResponses ∧
      ¬(0 < s.validEventCount ∧ s.terminalSeen = true ∧ s.semanticEnd = .completed) := by
  unfold codeOf StreamStatus.silent
  grind

theorem pingFail_eq_iff : .badResponseBody = codeOf s .pingFail ↔
    s.clientCommitted = false ∧ ¬s.Stopped ∧ s.policy = .openAIResponses ∧
      0 < s.invalidEventCount ∧ s.validEventCount = 0 := by
  unfold codeOf StreamStatus.silent
  grind

theorem none_eq_iff : codeOf s .none = codeOf s .handlerStop ↔
    s.endSet = true ∨ s.semanticEnd = .failed ∨ s.semanticEnd = .completed := by
  unfold codeOf StreamStatus.silent StreamStatus.Stopped
  grind

/-- **The outcome does not depend on the order of the reports** and no failure is reported as `ok`,
exactly if the reports settle it. -/
theorem code_order_independent_iff (s : StreamStatus) (reports : List StreamEndReason) :
    ((∀ order, order.Perm reports → (s.reported order).finalize = (s.reported reports).finalize) ∧
        ∀ r ∈ reports, r.failing = true → (s.reported reports).finalize ≠ .ok) ↔
      Settled s reports := by
  rw [code_same_iff_top]
  constructor
  · rintro ⟨hagree, hping⟩
    refine ⟨fun ⟨hgone, hwrite⟩ => ?_, fun htop => pingFail_ne_ok_iff.mp (hping htop),
      fun htop hbroken => ?_,
      fun htop hstop => none_eq_iff.mp (hagree _ _ htop (htop.of_priority hstop rfl))⟩
    · cases hagree _ _ (top_of_hundred hgone rfl) (top_of_hundred hwrite rfl)
    · rw [← pingFail_eq_iff]
      rcases hbroken with h | h
      · exact hagree _ _ (htop.of_priority h rfl) htop
      · exact hagree _ _ (htop.of_priority h rfl) htop
  · intro h
    refine ⟨fun r r' hr hr' => ?_, fun htop => pingFail_ne_ok_iff.mpr (h.ping htop)⟩
    rcases codeOf_eq_or_tie s (le_antisymm (hr'.2 r hr.1) (hr.2 r' hr'.1)) with heq | ⟨tie, htie, heq⟩
    · exact heq
    · simp only [mem_cons, not_mem_nil, or_false] at htie
      rcases htie with rfl | rfl | rfl | rfl <;> rcases heq with heq | heq <;> cases heq
      · exact absurd ⟨hr.1, hr'.1⟩ h.client
      · exact absurd ⟨hr'.1, hr.1⟩ h.client
      · exact pingFail_eq_iff.mpr (h.broken hr' (.inl hr.1))
      · exact (pingFail_eq_iff.mpr (h.broken hr (.inl hr'.1))).symm
      · exact pingFail_eq_iff.mpr (h.broken hr' (.inr hr.1))
      · exact (pingFail_eq_iff.mpr (h.broken hr (.inr hr'.1))).symm
      · exact none_eq_iff.mpr (h.idle hr hr'.1)
      · exact (none_eq_iff.mpr (h.idle hr' hr.1)).symm

/-- The later of a vanished client and a failed write counts, and a failed ping is `ok` while the
client has got nothing. -/
theorem code_depends_on_order :
    (StreamStatus.reported {} [.clientGone, .writeError]).finalize = .writeError ∧
      (StreamStatus.reported {} [.writeError, .clientGone]).finalize = .clientGone ∧
      (StreamStatus.reported {} [.pingFail]).finalize = .ok := by
  decide

end RenewApi.Stream
