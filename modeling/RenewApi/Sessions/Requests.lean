import RenewApi.Sessions.Affinity

/-! # The requests of a session

Requests of one session run side by side; the operations of different requests interleave freely. -/

namespace RenewApi.Sessions

open Relational Text Concurrent Program

/-- A cache that freshness depends on. -/
def Cache.tracked : Cache → Bool
  | .record | .legacy | .negative | .negativeV2 => true
  | .multiKeyIndex | .keyNegative | .recoveryChain => false

/-- An operation that changes no such cache. -/
def CacheOp.aside (op : CacheOp) : Bool :=
  match op.target with
  | none => true
  | some (c, _) => !c.tracked

def CacheOp.records : CacheOp → Option Int
  | .setWithTTL .legacy _ channelID => some channelID
  | _ => none

/-- The operation deletes an affinity. -/
def CacheOp.evicts : CacheOp → Bool
  | .compareAndDelete .legacy .. => true
  | _ => false

def CacheOp.marks : CacheOp → Bool
  | .setWithTTL .negative .. | .setWithTTL .negativeV2 .. => true
  | _ => false

/-- The operation clears the plain mark under a key. -/
def CacheOp.clears (key : String) : CacheOp → Prop
  | .compareAndDelete .negative key' value => key' = key ∧ value = (1 : Int)
  | _ => False

/-- The operation looks for the mark under a key that names a generation. -/
def CacheOp.looks (key : String) : CacheOp → Prop
  | .get .negativeV2 key' => key' = key
  | _ => False

theorem exec_at_of_aside {op : CacheOp} (h : op.aside = true) (m : Moment) (s : Caches) {c : Cache}
    (hc : c.tracked = true) (key : String) : (op.exec m s).1.at c key = s.at c key := by
  refine exec_at_of_target_ne m op s fun htarget => ?_
  rw [CacheOp.aside, htarget] at h
  simp [hc] at h

/-! ## A repair -/

/-- **The operations of a repair** for a failed channel. -/
inductive RecoveryOp (key : String) (failed : Int) : CacheOp → Prop
  | aside {op : CacheOp} (h : op.aside = true) : RecoveryOp key failed op
  | dropRecord (expected : ChannelAffinityRecord) :
      RecoveryOp key failed (.compareAndDelete .record key expected)
  | dropChannel : RecoveryOp key failed (.compareAndDelete .legacy key failed)
  | mark (hkey : channelAffinityNegativeKey key failed ≠ "") :
      RecoveryOp key failed
        (.setWithTTL .negative (channelAffinityNegativeKey key failed) (1 : Int))
  | markV2 (hkey : channelAffinityNegativeKey key failed ≠ "") (negative : ChannelSessionNegative) :
      RecoveryOp key failed
        (.setWithTTL .negativeV2 (channelAffinityNegativeKey key failed) negative)

section

variable {key : String} {failed : Int}

variable {P : CacheOp → Prop}

/-- Reading the record performs nothing but `Get`. -/
theorem only_getAffinityRecord (h : ∀ c key, P (.get c key)) : (getAffinityRecord key).Only P := by
  refine .ite (fun _ => .done _) fun _ => .call (h _ _) fun answer => ?_
  rcases answer with fault | _ | record
  · exact .done _
  · refine .call (h _ _) fun answer => ?_
    rcases answer with fault | _ | channelID
    · exact .done _
    · exact .done _
    · dsimp only
      split <;> exact .done _
  · exact .done _

theorem only_affinityObservationStillCurrent (observed : Option ChannelAffinityRecord) :
    (affinityObservationStillCurrent key observed).Only (RecoveryOp key failed) := by
  refine .ite (fun _ => .done _) fun _ =>
    .bind (only_getAffinityRecord fun _ _ => .aside rfl) fun answer => ?_
  cases answer <;> exact .done _

variable (setting : Option StreamRecoverySetting) (env : Environment)
  (context : Option ChannelAffinityRecord) (attempt : FailedAttempt)

theorem only_markChannelSessionNegative :
    (markChannelSessionNegative setting key context failed).Only (RecoveryOp key failed) := by
  refine .ite (fun _ => .done _) fun hkey => .ite (fun _ => .done _) fun _ => ?_
  have hplain : (setPlainNegative (channelAffinityNegativeKey key failed)).Only
      (RecoveryOp key failed) := by
    refine .call (.mark hkey) fun answer => ?_
    cases answer <;> exact .done _
  split
  · exact hplain
  · refine .call (.aside rfl) fun clock => .call (.markV2 hkey _) fun answer => ?_
    cases answer with
    | error => exact .done _
    | ok _ => exact hplain

theorem only_markChannelSessionKeyNegative (keyIndex : Int) :
    (markChannelSessionKeyNegative key failed keyIndex).Only (RecoveryOp key failed) := by
  refine .ite (fun _ => .done _) fun _ => .call (.aside rfl) fun answer => ?_
  cases answer <;> exact .done _

theorem only_evictCurrentChannelAffinityIfMatches (choice : KeyChoice) :
    (evictCurrentChannelAffinityIfMatches key context choice failed).Only (RecoveryOp key failed) := by
  refine .ite (fun _ => .done _) fun _ => .ite (fun _ => .done _) fun _ => ?_
  split
  · refine .call (.aside rfl) fun answer => ?_
    rcases answer with fault | _ | record
    · exact .done _
    · refine .call .dropChannel fun answer => ?_
      cases answer <;> exact .done _
    · exact .done _
  · refine .ite (fun _ => .done _) fun _ => .call (.dropRecord _) fun answer => ?_
    rcases answer with fault | _ | _
    · exact .done _
    · exact .done _
    · refine .ite (fun _ => ?_) fun _ => ?_
      · exact .call (.aside rfl) fun _ => .call .dropChannel fun _ => .done _
      · exact .call .dropChannel fun _ => .done _

theorem only_swapIn {max : Int} {expected : Option SessionRecoveryChain}
    {next : SessionRecoveryChain} {again : CacheProgram Answer}
    (h : again.Only (RecoveryOp key failed)) :
    (swapIn max key expected next again).Only (RecoveryOp key failed) := by
  refine .call (.aside rfl) fun answer => ?_
  rcases answer with fault | _ | _
  · exact .done _
  · exact h
  · exact .done _

theorem only_consumeSessionRecoveryBudget (f : Failure) :
    (consumeSessionRecoveryBudget setting key f).Only (RecoveryOp key failed) := by
  have hattempt : ∀ max attempts, (attempt max key f attempts).Only (RecoveryOp key failed) := by
    intro max attempts
    induction attempts with
    | zero => exact .done _
    | succ attempts ih =>
      refine .call (.aside rfl) fun answer => ?_
      rcases answer with fault | _ | current
      · exact .done _
      · exact .call (.aside rfl) fun _ => only_swapIn ih
      · exact .ite (fun _ => .done _) fun _ => .ite (fun _ => .done _) fun _ => only_swapIn ih
  cases setting with
  | none => exact .done _
  | some =>
    exact .ite (fun _ => .done _) fun _ => .ite (fun _ => .done _) fun _ => hattempt _ 8

theorem only_repairRoute (result : SessionRecoveryResult) :
    (repairRoute env key context attempt result).Only (RecoveryOp key attempt.channelID) := by
  refine .bind ?_ fun keyNegative => .bind ?_ fun evicted => .bind ?_ fun channelNegative => .done _
  · exact .ite (fun _ => only_markChannelSessionKeyNegative _) fun _ => .done _
  · exact .ite (fun _ => only_evictCurrentChannelAffinityIfMatches _ _) fun _ => .done _
  · exact .ite (fun _ => only_markChannelSessionNegative _ _) fun _ => .done _

/-- **A repair performs no other operations.** -/
theorem only_applySessionRecovery :
    (applySessionRecovery env key context attempt).Only (RecoveryOp key attempt.channelID) := by
  refine .ite (fun _ => .done _) fun _ => .ite (fun _ => .done _) fun _ => ?_
  refine .bind (only_affinityObservationStillCurrent _) fun _ => .ite (fun _ => .done _) fun _ => ?_
  refine .ite (fun _ => ?_) fun _ => only_repairRoute ..
  exact .bind (only_consumeSessionRecoveryBudget _ _) fun _ =>
    .ite (fun _ => only_repairRoute ..) fun _ => .done _

end

/-! ## A success -/

/-- **The operations of a success** on a channel, with what comes after them. -/
inductive RecordingNode (u : Session) (channelID : Int) :
    (op : CacheOp) → (op.Result → CacheProgram Unit) → Prop
  | aside {op : CacheOp} {next : op.Result → CacheProgram Unit} (h : op.aside = true)
      (hlooks : ∀ key, ¬op.looks key) : RecordingNode u channelID op next
  | record (record : ChannelAffinityRecord)
      (next : (CacheOp.setWithTTL .record u.cacheKey record).Result → CacheProgram Unit) :
      RecordingNode u channelID (.setWithTTL .record u.cacheKey record) next
  | channel (next : (CacheOp.setWithTTL .legacy u.cacheKey channelID).Result → CacheProgram Unit)
      (h : u.markKey channelID ≠ "" → ∀ answer,
        (next answer).Will (CacheOp.clears (u.markKey channelID)) ∧
          (next answer).Will (CacheOp.looks (u.markKey channelID))) :
      RecordingNode u channelID (.setWithTTL .legacy u.cacheKey channelID) next
  | clear (hkey : u.markKey channelID ≠ "")
      (next : (CacheOp.compareAndDelete .negative (u.markKey channelID)
        (1 : Int)).Result → CacheProgram Unit) :
      RecordingNode u channelID
        (.compareAndDelete .negative (u.markKey channelID) (1 : Int)) next
  /-- The mark for a generation is looked for; if there is one, it is cleared next. -/
  | look (hkey : u.markKey channelID ≠ "")
      (next : (CacheOp.get .negativeV2 (u.markKey channelID)).Result →
        CacheProgram Unit)
      (h : ∀ negative, ∃ rest, next (.ok (some negative)) =
        .call (.compareAndDelete .negativeV2 (u.markKey channelID) negative) rest) :
      RecordingNode u channelID (.get .negativeV2 (u.markKey channelID)) next
  | clearV2 (hkey : u.markKey channelID ≠ "") (negative : ChannelSessionNegative)
      (next : (CacheOp.compareAndDelete .negativeV2 (u.markKey channelID)
        negative).Result → CacheProgram Unit) :
      RecordingNode u channelID
        (.compareAndDelete .negativeV2 (u.markKey channelID) negative) next

section

variable {u : Session} {channelID : Int}

theorem only_clearRecoveryChain_recordKeyChoice (choice : KeyChoice) :
    (clearRecoveryChain u.cacheKey >>= fun _ => recordKeyChoice u choice channelID).Only
      fun op => op.aside = true ∧ ∀ key, ¬op.looks key := by
  refine .bind (.call ⟨rfl, fun _ => id⟩ fun answer => ?_) fun _ => ?_
  · rcases answer with fault | _ | chain
    · exact .done _
    · exact .done _
    · exact .call ⟨rfl, fun _ => id⟩ fun _ => .done _
  · refine .ite (fun _ => .ite (fun _ => ?_) fun _ => ?_) fun _ => .done _
    · exact .call ⟨rfl, fun _ => id⟩ fun _ => .call ⟨rfl, fun _ => id⟩ fun _ => .done _
    · exact .call ⟨rfl, fun _ => id⟩ fun _ => .done _

theorem throughout_clear_bind {f : Unit → CacheProgram Unit}
    (hf : (f ()).Throughout (RecordingNode u channelID)) :
    (clearChannelSessionNegative u.key channelID >>= f).Throughout (RecordingNode u channelID) := by
  unfold clearChannelSessionNegative
  dsimp only
  split
  · exact hf
  · next hkey =>
    refine .call (.clear hkey _) fun _ => .call (.look hkey _ fun negative => ⟨_, rfl⟩) fun answer => ?_
    rcases answer with fault | _ | negative
    · exact hf
    · exact hf
    · exact .call (.clearV2 hkey negative _) fun _ => hf

/-- **A success performs no other operations**, and clears the marks after it was recorded. -/
theorem throughout_recordChannelAffinity (setting : ChannelAffinitySetting) (served : Served) :
    (recordChannelAffinity (some setting) u served).Throughout
      (RecordingNode u (served.channel setting)) := by
  unfold recordChannelAffinity
  dsimp only
  split
  · exact .done _
  · refine .call (.aside rfl fun _ => id) fun clock => .call (.record _ _) fun _ => ?_
    refine .call (.channel _ fun hkey _ => ?_) fun _ => throughout_clear_bind ?_
    · unfold clearChannelSessionNegative
      rw [if_neg hkey]
      exact ⟨.now ⟨rfl, rfl⟩, .later fun _ => .now rfl⟩
    · exact (only_clearRecoveryChain_recordKeyChoice served.choice).throughout
        fun _ _ h => .aside h.1 h.2

end

/-! ## Requests -/

/-- The call that a request is in. -/
inductive Phase where
  | idle
  | recovering (failed : Int)
      (rest : CacheProgram (SessionRecoveryResult × Option ChannelAffinityRecord))
  | recording (channelID : Int) (rest : CacheProgram Unit)

/-- A request: when it saw the affinity, the record in its context, the call it is in, and the
channels it has recorded, with the time, and marked. -/
structure Request where
  observedAt : Nat
  context : Option ChannelAffinityRecord
  phase : Phase
  recorded : List (Int × Nat)
  marked : List Int

def Phase.next : Phase → Option CacheOp
  | .recovering _ (.call op _) => some op
  | .recording _ (.call op _) => some op
  | _ => none

/-- The channel that a call repairs the route of. -/
def Phase.failed : Phase → Option Int
  | .recovering failed _ => some failed
  | _ => none

/-- A call goes on, or has ended. -/
def Request.resume (r : Request) : Phase → Request
  | .recovering _ (.done (_, context)) => { r with phase := .idle, context := context }
  | .recording _ (.done _) => { r with phase := .idle }
  | phase => { r with phase := phase }

def Request.note (r : Request) (time : Nat) (op : CacheOp) : Request :=
  { r with
    recorded := (op.records.map fun channelID => (channelID, time)).toList ++ r.recorded
    marked := if op.marks then r.phase.failed.toList ++ r.marked else r.marked }

/-- The caches, and the number of steps so far. -/
structure SessionStore where
  time : Nat
  caches : Caches

/-- What happens to a request. -/
inductive SessionEvent where
  | observe
  /-- `ApplySessionRecovery` is called. -/
  | recover (attempt : FailedAttempt)
  /-- `RecordChannelAffinity` is called. -/
  | succeed (served : Served)
  | go (clock : Int)

/-- What the calls of a session read besides the caches. -/
structure SessionConfig where
  environment : Environment
  affinity : ChannelAffinitySetting
  session : Session

/-- All caches can be reached. -/
def moment (clock : Int) : Moment := ⟨clock, true⟩

/-- A step of a request; a new call starts when the one before has ended. -/
def sessionAct (cfg : SessionConfig) (e : SessionEvent) (s : SessionStore)
    (request : Option Request) : SessionStore × Option Request :=
  let later : SessionStore := { s with time := s.time + 1 }
  match request, e with
  | none, .observe =>
    let seen := (preferredAffinityRecord cfg.session.key).alone (CacheOp.exec (moment 0)) s.caches
    (later, some ⟨s.time, seen.2, .idle, [], []⟩)
  | some r, .recover attempt =>
    match r.phase with
    | .idle =>
      (later, some (r.resume (.recovering attempt.channelID
        (applySessionRecovery cfg.environment cfg.session.key r.context attempt))))
    | _ => (later, some r)
  | some r, .succeed served =>
    match r.phase with
    | .idle =>
      (later, some (r.resume (.recording (served.channel cfg.affinity)
        (recordChannelAffinity (some cfg.affinity) cfg.session served))))
    | _ => (later, some r)
  | some r, .go clock =>
    match r.phase with
    | .recovering failed (.call op next) =>
      let after := op.exec (moment clock) s.caches
      (⟨s.time + 1, after.1⟩, some ((r.note s.time op).resume (.recovering failed (next after.2))))
    | .recording channelID (.call op next) =>
      let after := op.exec (moment clock) s.caches
      (⟨s.time + 1, after.1⟩, some ((r.note s.time op).resume (.recording channelID (next after.2))))
    | _ => (later, some r)
  | request, _ => (later, request)

/-- The operations of a call are known. -/
def Phase.Sound (u : Session) : Phase → Prop
  | .idle => True
  | .recovering failed rest => rest.Only (RecoveryOp u.key failed)
  | .recording channelID rest => rest.Throughout (RecordingNode u channelID)

def Phase.Will (P : CacheOp → Prop) : Phase → Prop
  | .recording _ rest => rest.Will P
  | _ => False

/-- The mark under a key that a success clears next. -/
def Phase.clearing (key : String) : Phase → Option ChannelSessionNegative
  | .recording _ (.call (.compareAndDelete .negativeV2 key' negative) _) =>
    if key' = key then some negative else none
  | _ => none

section

variable (r : Request) (phase : Phase)

@[simp] theorem Request.observedAt_resume : (r.resume phase).observedAt = r.observedAt := by
  unfold Request.resume
  split <;> rfl

@[simp] theorem Request.recorded_resume : (r.resume phase).recorded = r.recorded := by
  unfold Request.resume
  split <;> rfl

@[simp] theorem Request.marked_resume : (r.resume phase).marked = r.marked := by
  unfold Request.resume
  split <;> rfl

variable {phase}

theorem Request.sound_resume {u : Session} (h : phase.Sound u) : (r.resume phase).phase.Sound u := by
  unfold Request.resume
  split
  · trivial
  · trivial
  · exact h

theorem Request.will_resume (h : phase.Will P) : (r.resume phase).phase.Will P := by
  unfold Request.resume
  split
  · exact h.elim
  · cases h
  · exact h

theorem Request.clearing_resume {key : String} {negative : ChannelSessionNegative}
    (h : phase.clearing key = some negative) : (r.resume phase).phase.clearing key = some negative := by
  unfold Request.resume
  split
  · cases h
  · cases h
  · exact h

end

inductive Move (cfg : SessionConfig) (s : SessionStore) :
    Option Request → SessionEvent → SessionStore × Option Request → Prop
  | stays (request : Option Request) (e : SessionEvent) :
      Move cfg s request e (⟨s.time + 1, s.caches⟩, request)
  | observes (context : Option ChannelAffinityRecord) (e : SessionEvent) :
      Move cfg s none e (⟨s.time + 1, s.caches⟩, some ⟨s.time, context, .idle, [], []⟩)
  | starts (r : Request) (e : SessionEvent) {phase} (hidle : r.phase = .idle)
      (hsound : phase.Sound cfg.session) :
      Move cfg s (some r) e (⟨s.time + 1, s.caches⟩, some (r.resume phase))
  | recovers (r : Request) (clock : Int) {failed op next}
      (hphase : r.phase = .recovering failed (.call op next)) :
      Move cfg s (some r) (.go clock)
        (⟨s.time + 1, (op.exec (moment clock) s.caches).1⟩, some ((r.note s.time op).resume
            (.recovering failed (next (op.exec (moment clock) s.caches).2))))
  | records (r : Request) (clock : Int) {channelID op next}
      (hphase : r.phase = .recording channelID (.call op next)) :
      Move cfg s (some r) (.go clock)
        (⟨s.time + 1, (op.exec (moment clock) s.caches).1⟩, some ((r.note s.time op).resume
            (.recording channelID (next (op.exec (moment clock) s.caches).2))))

theorem move_sessionAct (cfg : SessionConfig) (e : SessionEvent) (s : SessionStore)
    (request : Option Request) : Move cfg s request e (sessionAct cfg e s request) := by
  unfold sessionAct
  split
  · exact .observes _ _
  · split
    · next hidle => exact .starts _ _ hidle (only_applySessionRecovery _ _ _)
    · exact .stays _ _
  · split
    · next hidle => exact .starts _ _ hidle (throughout_recordChannelAffinity _ _)
    · exact .stays _ _
  · split
    · next hphase => exact .recovers _ _ hphase
    · next hphase => exact .records _ _ hphase
    · exact .stays _ _
  · exact .stays _ _

abbrev Requests (ι : Type*) := World ι SessionStore (Option Request)

/-- A step of one request. -/
abbrev sessionStep {ι : Type*} [DecidableEq ι] (cfg : SessionConfig) (w : Requests ι)
    (e : ι × SessionEvent) : Requests ι :=
  w.step (sessionAct cfg) e

/-- No requests yet. -/
def Requests.start {ι : Type*} (caches : Caches) : Requests ι := ⟨⟨0, caches⟩, fun _ => none⟩

/-- **What a step does**: one request moves, the others stand still. -/
theorem session_move {ι : Type*} [DecidableEq ι] (cfg : SessionConfig) (w : Requests ι)
    (e : ι × SessionEvent) :
    ∃ request after, w.threads e.1 = request ∧ Move cfg w.shared request e.2 after ∧
      (sessionStep cfg w e).shared = after.1 ∧ (sessionStep cfg w e).threads e.1 = after.2 ∧
        ∀ j, j ≠ e.1 → (sessionStep cfg w e).threads j = w.threads j :=
  ⟨_, _, rfl, move_sessionAct cfg e.2 w.shared (w.threads e.1), rfl, World.threads_step_self w e.1 e.2,
    fun _ h => World.threads_step_of_ne w h⟩

end RenewApi.Sessions
