import RenewApi.Relational.Transaction
import Mathlib.Data.List.ModifyLast
import Mathlib.Data.Finset.Card

/-! # The failover state of a request

One client request may be attempted on several channels, and on one channel with several mapped
models. `ChannelFailoverState` is the budget these attempts share. -/

namespace RenewApi.Relay

open Relational List

section

variable {α : Type*} {l : List α} {a : α}

/-- **Equal entries form one block**: whatever stands between two equal entries equals them. -/
def Contiguous (l : List α) : Prop :=
  ∀ i j k, i ≤ j → j ≤ k → k < l.length → l[i]? = l[k]? → l[j]? = l[i]?

theorem contiguous_nil : Contiguous ([] : List α) :=
  fun _ _ k _ _ hk => absurd hk (Nat.not_lt_zero k)

theorem Contiguous.append_last (h : Contiguous l) (hlast : l.getLast? = some a) :
    Contiguous (l ++ [a]) := by
  have hne : l ≠ [] := by
    rintro rfl
    simp at hlast
  have hpos : 0 < l.length := length_pos_iff.mpr hne
  -- The new entry equals the one before it, so every index may be moved back into `l`.
  have hmove : ∀ i, i ≤ l.length → (l ++ [a])[i]? = l[min i (l.length - 1)]? := by
    intro i hi
    rcases Nat.lt_or_ge i l.length with hlt | hge
    · rw [getElem?_append_left hlt, Nat.min_eq_left (by omega)]
    · obtain rfl : i = l.length := by omega
      rw [getElem?_concat_length, Nat.min_eq_right (by omega), ← getLast?_eq_getElem?, hlast]
  intro i j k hij hjk hk heq
  rw [length_append, length_singleton] at hk
  rw [hmove i (by omega), hmove k (by omega)] at heq
  rw [hmove j (by omega), hmove i (by omega)]
  exact h _ _ _ (by omega) (by omega) (by omega) heq

theorem Contiguous.append_new (h : Contiguous l) (hnew : a ∉ l) : Contiguous (l ++ [a]) := by
  intro i j k hij hjk hk heq
  rw [length_append, length_singleton] at hk
  rcases Nat.lt_or_ge k l.length with hlt | hge
  · rw [getElem?_append_left (by omega), getElem?_append_left hlt] at heq
    rw [getElem?_append_left (by omega), getElem?_append_left (by omega)]
    exact h i j k hij hjk hlt heq
  · obtain rfl : k = l.length := by omega
    -- An earlier entry is not the new one, so the block of the new entry is the entry alone.
    rcases Nat.lt_or_ge i l.length with hi | hi
    · rw [getElem?_concat_length, getElem?_append_left hi] at heq
      exact absurd (mem_of_getElem? heq) hnew
    · obtain rfl : i = j := by omega
      rfl

end

/-! ## The state -/

/-- `types.NewAPIError`: the parts that the retry logic reads. -/
structure NewAPIError where
  statusCode : Int
  errorCode : String
  skipRetry : Bool
  /-- `Error()`. -/
  text : String
  deriving DecidableEq

structure ChannelAttemptRecord where
  upstreamModel : String := ""
  mappingRuleID : String := ""
  channelID : Int
  channelName : String
  priority : Int
  attempt : Nat
  switchCount : Nat
  statusCode : Int := 0
  realError : String := ""
  timeoutStage : String := ""
  elapsedMS : Int := 0
  upstreamRequestID : String := ""
  deriving DecidableEq

def maxChannelSwitches : Nat := 5

structure ChannelFailoverState where
  attemptCount : Nat
  switchCount : Nat
  maxSwitches : Nat
  /-- The keys of the map `AttemptedChannelIDs`. -/
  attemptedChannelIDs : List Int
  lastInternalError : Option NewAPIError
  attemptRecords : List ChannelAttemptRecord
  startedAt : Int
  deriving DecidableEq

def newChannelFailoverState : ChannelFailoverState where
  attemptCount := 0
  switchCount := 0
  maxSwitches := maxChannelSwitches
  attemptedChannelIDs := []
  lastInternalError := none
  attemptRecords := []
  startedAt := 0

namespace ChannelFailoverState

def canAttempt (s : ChannelFailoverState) : Bool :=
  s.attemptCount < s.maxSwitches + 1

section

variable (now : Int) (channelID : Int) (name : String) (priority : Int)

def beginAttempt (s : ChannelFailoverState) : ChannelFailoverState :=
  { s with
    attemptCount := s.attemptCount + 1
    startedAt := now
    attemptRecords := s.attemptRecords ++
      [{ channelID := channelID, channelName := name, priority := priority
         attempt := s.attemptCount + 1, switchCount := s.switchCount }] }

/-- `Begin`: an attempt on a channel that was not attempted before. -/
def begin (s : ChannelFailoverState) : ChannelFailoverState × Bool :=
  if !s.canAttempt || s.attemptedChannelIDs.contains channelID then (s, false)
  else
    ({ s with
        attemptedChannelIDs := channelID :: s.attemptedChannelIDs
        switchCount := if 0 < s.attemptCount then s.switchCount + 1 else s.switchCount }
      |>.beginAttempt now channelID name priority, true)

/-- `BeginMappedCandidate`: an attempt on the channel of the last one with a new target. -/
def beginMappedCandidate
    (target : String) (s : ChannelFailoverState) : ChannelFailoverState × Bool :=
  if !s.canAttempt || target = "" || s.attemptRecords.getLast?.map (·.channelID) ≠ some channelID then
    (s, false)
  else if s.attemptRecords.any (fun r => r.channelID = channelID && r.upstreamModel = target) then
    (s, false)
  else (s.beginAttempt now channelID name priority, true)

end

/-- `Finish`: how the last attempt ended; `redact` is `RedactErrorCredentials` with the secrets of
the call. -/
def finish (redact : String → String) (now : Int) (err : Option NewAPIError)
    (upstreamRequestID timeoutStage : String) (s : ChannelFailoverState) : ChannelFailoverState :=
  if s.attemptRecords.isEmpty then s
  else
    { s with
      lastInternalError := err.or s.lastInternalError
      attemptRecords := s.attemptRecords.modifyLast fun record =>
        { record with
          elapsedMS := now - s.startedAt
          upstreamRequestID := upstreamRequestID
          timeoutStage := timeoutStage
          statusCode := err.elim 200 (·.statusCode)
          realError := err.elim record.realError (fun e => redact e.text) } }

/-- The caller's write of the attempted model into the last record. -/
def writeUpstreamModel (model : String) (s : ChannelFailoverState) : ChannelFailoverState :=
  { s with attemptRecords := s.attemptRecords.modifyLast ({ · with upstreamModel := model }) }

end ChannelFailoverState

/-! ## What a call does -/

theorem map_modifyLast {R β : Type*} {g : R → β} {f : R → R} (hf : ∀ r, g (f r) = g r) (l : List R) :
    (l.modifyLast f).map g = l.map g := by
  rcases eq_nil_or_concat l with rfl | ⟨l, r, rfl⟩
  · rfl
  · rw [concat_eq_append, modifyLast_concat, map_append, map_append, map_singleton,
      map_singleton, hf]

def ChannelAttemptRecord.target (r : ChannelAttemptRecord) : Int × String :=
  (r.channelID, r.upstreamModel)

namespace ChannelFailoverState

variable {s : ChannelFailoverState} {now channelID priority : Int} {name target : String}

/-- The channels and models of the attempts so far, oldest first. -/
def targets (s : ChannelFailoverState) : List (Int × String) :=
  s.attemptRecords.map (·.target)

/-- `Finish` keeps the counters and the targets. -/
theorem finish_keeps (redact : String → String) (now : Int) (err : Option NewAPIError)
    (upstreamRequestID timeoutStage : String) (s : ChannelFailoverState) :
    let s' := s.finish redact now err upstreamRequestID timeoutStage
    s'.attemptCount = s.attemptCount ∧ s'.switchCount = s.switchCount ∧
      s'.maxSwitches = s.maxSwitches ∧ s'.attemptedChannelIDs = s.attemptedChannelIDs ∧
      s'.targets = s.targets := by
  unfold finish
  split
  · exact ⟨rfl, rfl, rfl, rfl, rfl⟩
  · refine ⟨rfl, rfl, rfl, rfl, ?_⟩
    apply map_modifyLast
    intro record
    rfl

variable (s : ChannelFailoverState) (now channelID : Int) (name : String) (priority : Int)

theorem targets_beginAttempt (model : String) :
    ((s.beginAttempt now channelID name priority).writeUpstreamModel model).targets =
      s.targets ++ [(channelID, model)] := by
  unfold targets writeUpstreamModel beginAttempt
  rw [modifyLast_concat, map_append]
  rfl

/-- **What `Begin` does**: it refuses and changes nothing, or it opens an attempt on a channel that
was not attempted. -/
theorem begin_cases : s.begin now channelID name priority = (s, false) ∨
      s.attemptCount < s.maxSwitches + 1 ∧ channelID ∉ s.attemptedChannelIDs ∧
        s.begin now channelID name priority =
          (beginAttempt now channelID name priority
            { s with
              attemptedChannelIDs := channelID :: s.attemptedChannelIDs
              switchCount := if 0 < s.attemptCount then s.switchCount + 1 else s.switchCount },
            true) := by
  by_cases h : (!s.canAttempt || s.attemptedChannelIDs.contains channelID) = true
  · left
    unfold begin
    rw [if_pos h]
  · right
    simp only [Bool.or_eq_true, Bool.not_eq_true', not_or, Bool.not_eq_false, canAttempt,
      decide_eq_true_eq, contains_iff_mem] at h
    refine ⟨h.1, h.2, ?_⟩
    unfold begin
    rw [if_neg (by simp [canAttempt, h.1, h.2])]

/-- **What `BeginMappedCandidate` does**: it refuses and changes nothing, or it opens an attempt on
the last channel with a target that is new there. -/
theorem beginMappedCandidate_cases (target : String) :
    s.beginMappedCandidate now channelID name priority target = (s, false) ∨
      s.attemptCount < s.maxSwitches + 1 ∧
        (s.targets.map Prod.fst).getLast? = some channelID ∧ (channelID, target) ∉ s.targets ∧
        s.beginMappedCandidate now channelID name priority target =
          (s.beginAttempt now channelID name priority, true) := by
  unfold beginMappedCandidate
  split
  · exact .inl rfl
  · next hguard =>
    split
    · exact .inl rfl
    · next hnew =>
      simp only [Bool.or_eq_true, Bool.not_eq_true', decide_eq_true_eq, not_or,
        Bool.not_eq_false, canAttempt, Decidable.not_not] at hguard
      refine .inr ⟨hguard.1.1, ?_, ?_, rfl⟩
      · rw [targets, map_map, getLast?_map]
        exact hguard.2
      · rw [targets, mem_map]
        rintro ⟨r, hr, heq⟩
        refine hnew (any_eq_true.mpr ⟨r, hr, ?_⟩)
        rw [ChannelAttemptRecord.target, Prod.mk.injEq] at heq
        simp [heq.1, heq.2]

end ChannelFailoverState

/-! ## Histories -/

/-- A call by the relay. -/
inductive FailoverCall
  /-- `Begin`; a granted attempt runs `model`. -/
  | begin (channelID : Int) (name : String) (priority : Int) (model : String)
  | beginMappedCandidate (channelID : Int) (name : String) (priority : Int) (target : String)
  | finish (redact : String → String) (err : Option NewAPIError)
      (upstreamRequestID timeoutStage : String)

/-- An attempt that was granted. -/
structure Attempt where
  channelID : Int
  target : String
  /-- It was granted by `BeginMappedCandidate`. -/
  mapped : Bool
  deriving DecidableEq

/-- The state with the attempts granted so far, oldest first. -/
structure FailoverHistory where
  state : ChannelFailoverState
  granted : List Attempt

namespace FailoverHistory

/-- A new request. -/
def start : FailoverHistory := ⟨newChannelFailoverState, []⟩

section

variable (h : FailoverHistory)
include h

/-- Note the answer of a call: a granted attempt gets its model and enters the history. -/
def answer (a : Attempt) : ChannelFailoverState × Bool → FailoverHistory
  | (s, true) => ⟨s.writeUpstreamModel a.target, h.granted ++ [a]⟩
  | (s, false) => ⟨s, h.granted⟩

/-- One call at a time. -/
def step (e : Int × FailoverCall) : FailoverHistory :=
  match e.2 with
  | .begin channelID name priority model =>
    h.answer ⟨channelID, model, false⟩ (h.state.begin e.1 channelID name priority)
  | .beginMappedCandidate channelID name priority target =>
    h.answer ⟨channelID, target, true⟩
      (h.state.beginMappedCandidate e.1 channelID name priority target)
  | .finish redact err upstreamRequestID timeoutStage =>
    { h with state := h.state.finish redact e.1 err upstreamRequestID timeoutStage }

/-- The channels attempted, oldest first. -/
def channels : List Int := h.granted.map (·.channelID)

/-- **The accounts of a request are right.** -/
structure Sound : Prop where
  maxSwitches : h.state.maxSwitches = maxChannelSwitches
  records : h.state.targets = h.granted.map (fun a => (a.channelID, a.target))
  count : h.state.attemptCount = h.granted.length
  budget : h.state.attemptCount ≤ h.state.maxSwitches + 1
  attempted : ∀ c, c ∈ h.state.attemptedChannelIDs ↔ c ∈ h.channels
  switches : h.state.switchCount = h.channels.toFinset.card - 1
  contiguous : Contiguous h.channels
  fresh : h.granted.Pairwise fun a b => b.mapped = true → a.channelID = b.channelID → a.target ≠ b.target

end

theorem sound_start : start.Sound where
  maxSwitches := rfl
  records := rfl
  count := rfl
  budget := Nat.zero_le _
  attempted := fun _ => Iff.rfl
  switches := rfl
  contiguous := contiguous_nil
  fresh := Pairwise.nil

theorem channels_append (s : ChannelFailoverState) (as : List Attempt) (a : Attempt) :
    channels ⟨s, as ++ [a]⟩ = as.map (·.channelID) ++ [a.channelID] := by
  rw [channels, map_append, map_singleton]

theorem card_append_new {l : List Int} {c : Int} (h : c ∉ l) :
    (l ++ [c]).toFinset.card = l.toFinset.card + 1 := by
  rw [toFinset_append, Finset.union_comm, toFinset_cons, toFinset_nil,
    insert_empty_eq, Finset.singleton_union, Finset.card_insert_of_notMem (by simpa using h)]

variable {h : FailoverHistory} {channelID priority now : Int}

/-- A switch to a channel that was not attempted keeps the accounts right. -/
theorem Sound.append_begin (hs : h.Sound) {name model : String}
    (hbudget : h.state.attemptCount < h.state.maxSwitches + 1)
    (hnew : channelID ∉ h.state.attemptedChannelIDs) :
    Sound ⟨((ChannelFailoverState.beginAttempt now channelID name priority
        { h.state with
          attemptedChannelIDs := channelID :: h.state.attemptedChannelIDs
          switchCount := if 0 < h.state.attemptCount then h.state.switchCount + 1
            else h.state.switchCount }).writeUpstreamModel model),
      h.granted ++ [⟨channelID, model, false⟩]⟩ := by
  have hfresh : channelID ∉ h.granted.map (·.channelID) :=
    fun hmem => hnew ((hs.attempted channelID).mpr hmem)
  refine ⟨hs.maxSwitches, ?_, ?_, ?_, ?_, ?_, ?_, ?_⟩
  · rw [ChannelFailoverState.targets_beginAttempt, map_append, ← hs.records]
    rfl
  · show h.state.attemptCount + 1 = _
    rw [hs.count, length_append, length_singleton]
  · exact hbudget
  · intro c
    rw [channels_append]
    show c ∈ channelID :: h.state.attemptedChannelIDs ↔ _
    rw [mem_cons, hs.attempted c, mem_append, mem_singleton, or_comm]
    rfl
  · rw [channels_append, card_append_new hfresh]
    show (if 0 < h.state.attemptCount then h.state.switchCount + 1 else h.state.switchCount) = _
    have hswitches := hs.switches
    rw [channels] at hswitches
    -- Before the first attempt there is no channel to switch away from.
    rcases hgranted : h.granted with _ | ⟨a, as⟩
    · rw [hgranted] at hswitches
      rw [if_neg (by rw [hs.count, hgranted]; exact Nat.lt_irrefl 0), hswitches]
      rfl
    · have hpos : 0 < (h.granted.map (·.channelID)).toFinset.card := by
        refine Finset.card_pos.mpr ⟨a.channelID, mem_toFinset.mpr ?_⟩
        rw [hgranted]
        exact mem_cons_self
      rw [hgranted] at hpos hswitches
      rw [if_pos (by rw [hs.count, hgranted]; exact Nat.succ_pos _)]
      omega
  · rw [channels_append]
    exact hs.contiguous.append_new hfresh
  · refine pairwise_append.mpr ⟨hs.fresh, pairwise_singleton _ _, ?_⟩
    intro a _ b hb hmapped
    rw [mem_singleton.mp hb] at hmapped
    exact absurd hmapped Bool.false_ne_true

/-- A further target on the last channel keeps the accounts right. -/
theorem Sound.append_mapped (hs : h.Sound) {name target : String}
    (hbudget : h.state.attemptCount < h.state.maxSwitches + 1)
    (hlast : (h.state.targets.map Prod.fst).getLast? = some channelID)
    (hnew : (channelID, target) ∉ h.state.targets) :
    Sound ⟨(h.state.beginAttempt now channelID name priority).writeUpstreamModel target,
      h.granted ++ [⟨channelID, target, true⟩]⟩ := by
  have hchannels : h.state.targets.map Prod.fst = h.channels := by
    rw [hs.records, map_map]
    rfl
  rw [hchannels] at hlast
  have hmem : channelID ∈ h.channels := mem_of_getLast? hlast
  refine ⟨hs.maxSwitches, ?_, ?_, hbudget, ?_, ?_, ?_, ?_⟩
  · rw [ChannelFailoverState.targets_beginAttempt, map_append, map_singleton, ← hs.records]
  · show h.state.attemptCount + 1 = _
    rw [hs.count, length_append, length_singleton]
  · intro c
    rw [channels_append]
    show c ∈ h.state.attemptedChannelIDs ↔ _
    rw [hs.attempted c, mem_append, mem_singleton]
    constructor
    · exact Or.inl
    · rintro (hc | rfl)
      · exact hc
      · exact hmem
  · rw [channels_append, ← channels, toFinset_append, Finset.union_eq_left.mpr (by simpa using hmem)]
    exact hs.switches
  · rw [channels_append]
    exact hs.contiguous.append_last hlast
  · refine pairwise_append.mpr ⟨hs.fresh, pairwise_singleton _ _, ?_⟩
    intro a ha b hb _ hchannel htarget
    rw [mem_singleton.mp hb] at hchannel htarget
    refine hnew ?_
    rw [hs.records, mem_map]
    exact ⟨a, ha, Prod.ext hchannel htarget⟩

/-- **Every call keeps the accounts right.** -/
theorem sound_step (h : FailoverHistory) (e : Int × FailoverCall) (hs : h.Sound) :
    (h.step e).Sound := by
  obtain ⟨now, call⟩ := e
  cases call with
  | begin channelID name priority =>
    show (h.answer _ (h.state.begin now channelID name priority)).Sound
    rcases h.state.begin_cases now channelID name priority with hrefused | ⟨hbudget, hnew, hgranted⟩
    · rw [hrefused]
      exact hs
    · rw [hgranted]
      exact hs.append_begin hbudget hnew
  | beginMappedCandidate channelID name priority target =>
    show (h.answer _ (h.state.beginMappedCandidate now channelID name priority target)).Sound
    rcases h.state.beginMappedCandidate_cases now channelID name priority target with
      hrefused | ⟨hbudget, hlast, hnew, hgranted⟩
    · rw [hrefused]
      exact hs
    · rw [hgranted]
      exact hs.append_mapped hbudget hlast hnew
  | finish redact err upstreamRequestID timeoutStage =>
    obtain ⟨hcount, hswitch, hmax, hattempted, htargets⟩ :=
      h.state.finish_keeps redact now err upstreamRequestID timeoutStage
    exact
      { maxSwitches := hmax.trans hs.maxSwitches
        records := htargets.trans hs.records
        count := hcount.trans hs.count
        budget := by
          show (h.state.finish redact now err upstreamRequestID timeoutStage).attemptCount ≤
            (h.state.finish redact now err upstreamRequestID timeoutStage).maxSwitches + 1
          rw [hcount, hmax]
          exact hs.budget
        attempted := fun c => by
          show c ∈ (h.state.finish redact now err upstreamRequestID
            timeoutStage).attemptedChannelIDs ↔ _
          rw [hattempted]
          exact hs.attempted c
        switches := hswitch.trans hs.switches
        contiguous := hs.contiguous
        fresh := hs.fresh }

/-- **The accounts of a request are right after any calls.** The records are the granted attempts
and at most `MaxSwitches + 1`; `SwitchCount` is the number of distinct channels less one; the
attempts on a channel form one block; and a mapped candidate runs a target that was not attempted on
its channel. -/
theorem failover_accounting (calls : List (Int × FailoverCall)) :
    let h := run step start calls
    h.state.attemptRecords.length = h.state.attemptCount ∧
      h.state.attemptCount ≤ h.state.maxSwitches + 1 ∧
      h.state.maxSwitches = maxChannelSwitches ∧
      h.state.attemptRecords.map (·.target) = h.granted.map (fun a => (a.channelID, a.target)) ∧
      h.state.switchCount = h.channels.toFinset.card - 1 ∧
      Contiguous h.channels ∧
      (∀ i k, i + 1 ≤ k → k < h.channels.length → h.channels[i + 1]? ≠ h.channels[i]? →
        h.channels[k]? ≠ h.channels[i]?) ∧
      h.granted.Pairwise
        (fun a b => b.mapped = true → a.channelID = b.channelID → a.target ≠ b.target) := by
  intro h
  have hs : h.Sound := run_invariant_all sound_step calls sound_start
  have hlength : h.state.attemptRecords.length = h.state.attemptCount := by
    have hlengths := congrArg length hs.records
    rw [ChannelFailoverState.targets, length_map, length_map] at hlengths
    rw [hlengths, hs.count]
  refine ⟨hlength, hs.budget, hs.maxSwitches, hs.records, hs.switches, hs.contiguous, ?_, hs.fresh⟩
  intro i k hik hk hleft
  exact fun hback => hleft (hs.contiguous i (i + 1) k (Nat.le_succ i) hik hk hback.symm)

end FailoverHistory

end RenewApi.Relay
