import RenewApi.Sessions.Budget

/-! # Recording and repairing the affinity of a session

The calls of `service/channel_affinity.go` and `service/session_route_recovery.go`, as programs over
the caches. -/

namespace RenewApi.Sessions

open Text Concurrent Program List

/-- A session, by the text that its keys are made of. -/
structure Session where
  suffix : String

/-- The key in the context of a request (`setChannelAffinityContext`). -/
def Session.cacheKey (u : Session) : String := channelAffinityCacheNamespace ++ ":" ++ u.suffix

/-- **`currentChannelAffinityKey`**. -/
def Session.key (u : Session) : String := channelAffinityRawCacheKey u.cacheKey

/-- The key of a channel's mark. -/
@[irreducible] def channelAffinityNegativeKey (cacheKey : String) (channelID : Int) : String :=
  let key := channelAffinityRawCacheKey cacheKey
  if key = "" ∨ channelID ≤ 0 then "" else key ++ "\nchannel:" ++ toString channelID

/-- The key of the marks of a channel. -/
abbrev Session.markKey (u : Session) (channelID : Int) : String :=
  channelAffinityNegativeKey u.key channelID

/-- The key of the mark of one of its keys. -/
@[irreducible] def channelAffinityKeyNegativeKey (key : String) (channelID keyIndex : Int) : String :=
  if key = "" ∨ channelID ≤ 0 ∨ keyIndex < 0 then ""
  else key ++ "\nchannel:" ++ toString channelID ++ "\nkey:" ++ toString keyIndex

variable (u : Session) (space : String) {key : String} {channelID : Int}

theorem Session.trimSpace_cacheKey :
    trimSpace u.cacheKey = channelAffinityCacheNamespace ++ ":" ++ u.key := by
  have htrim : trimSpace u.cacheKey = String.ofList
      ((channelAffinityCacheNamespace ++ ":").toList ++ u.suffix.toList.rdropWhile isSpace) := by
    rw [trimSpace, cacheKey, String.toList_append,
      trimBy_append_left (by decide) (by decide) (by decide)]
  rw [key, channelAffinityRawCacheKey_eq htrim, htrim, String.ofList_append, String.ofList_toList]

theorem Session.fullKey_legacy_ne : fullKey Cache.legacy.space u.cacheKey ≠ "" := by
  refine fullKey_ne_empty (by decide) fun h => ?_
  rw [u.trimSpace_cacheKey, String.append_eq_empty_iff] at h
  exact absurd h.1 (by decide)

/-- **A success is out of the sight of the session**: its record is stored under the key of the
context, and read under the key without the namespace. -/
theorem Session.fullKey_record_ne :
    fullKey Cache.record.space u.key ≠ fullKey Cache.record.space u.cacheKey := by
  have hspace : namespacePrefix Cache.record.space ≠ "" := by decide
  have hpositive : 0 < (channelAffinityCacheNamespace ++ ":").toList.length := by decide
  have hlength : (channelAffinityCacheNamespace ++ ":").toList.length ≤
      (namespacePrefix Cache.record.space).toList.length := by decide
  have hpart : (namespacePrefix Cache.record.space).toList.take
      (channelAffinityCacheNamespace ++ ":").toList.length ≠
        (channelAffinityCacheNamespace ++ ":").toList := by decide
  have hcolon : (channelAffinityCacheNamespace ++ ":").toList.dropWhile (· == ':') =
      (channelAffinityCacheNamespace ++ ":").toList := by decide
  have htrim := u.trimSpace_cacheKey
  generalize channelAffinityCacheNamespace ++ ":" = start at hpositive hlength hpart hcolon htrim
  have hsome : start.toList ≠ [] := ne_nil_of_length_pos hpositive
  have hne : start ++ u.key ≠ "" :=
    fun h => hsome (congrArg String.toList (String.append_eq_empty_iff.mp h).1)
  -- the two namespaces part before the end of the shorter one
  have hother : startsWith (start ++ u.key) (namespacePrefix Cache.record.space) = false := by
    by_contra h
    rw [Bool.not_eq_false, startsWith, isPrefixOf_iff_prefix, String.toList_append] at h
    obtain ⟨rest, hrest⟩ := h
    have htake := congrArg (take start.toList.length) hrest
    rw [take_left, take_append_of_le_length hlength] at htake
    exact hpart htake
  have hcolons : dropColons (start ++ u.key) = start ++ u.key := by
    rw [← String.toList_inj, dropColons, String.toList_append, String.toList_ofList,
      dropWhile_append, hcolon, if_neg (by simpa using hsome)]
  have hfull : fullKey Cache.record.space u.cacheKey =
      namespacePrefix Cache.record.space ++ (start ++ u.key) := by
    simp only [fullKey, htrim, if_neg hne, if_neg hspace, hother, hcolons, Bool.false_eq_true, if_false]
  -- the full key of the context is longer than any full key that the key of the session can have
  intro h
  have hle := length_fullKey_le Cache.record.space u.key
  rw [h, hfull] at hle
  simp only [String.toList_append, length_append] at hle
  omega

section

variable (h : channelAffinityNegativeKey key channelID ≠ "")
include h

theorem fullKey_negativeKey_tail :
    ∃ head, (fullKey space (channelAffinityNegativeKey key channelID)).toList =
      head ++ ':' :: (toString channelID).toList := by
  have hkey : channelAffinityNegativeKey key channelID = String.ofList
      (((channelAffinityRawCacheKey key).toList ++ "\nchannel".toList) ++
        ':' :: (toString channelID).toList) := by
    simp only [channelAffinityNegativeKey] at h ⊢
    split at h
    · exact absurd rfl h
    · next hgood =>
      rw [if_neg hgood, ← String.toList_inj, String.toList_ofList, String.toList_append,
        String.toList_append, append_assoc, append_assoc]
      rfl
  rw [hkey]
  refine fullKey_append space ⟨'c', mem_append_right _ (by decide), by decide, by decide⟩
    (cons_ne_nil _ _) fun c hc => ?_
  rcases mem_cons.mp hc with rfl | hc
  · decide
  · exact isSpace_of_mem_toString_int hc

theorem fullKey_negativeKey_ne : fullKey space (channelAffinityNegativeKey key channelID) ≠ "" := by
  obtain ⟨head, htail⟩ := fullKey_negativeKey_tail space h
  intro hblank
  rw [hblank] at htail
  exact append_ne_nil_of_right_ne_nil head (cons_ne_nil _ _) htail.symm

end

/-- **Marks of different channels have different full keys.** -/
theorem fullKey_negativeKey_inj {space key : String} {x y : Int}
    (hx : channelAffinityNegativeKey key x ≠ "") (hy : channelAffinityNegativeKey key y ≠ "")
    (h : fullKey space (channelAffinityNegativeKey key x) =
      fullKey space (channelAffinityNegativeKey key y)) : x = y := by
  obtain ⟨head, hhead⟩ := fullKey_negativeKey_tail space hx
  obtain ⟨head', hhead'⟩ := fullKey_negativeKey_tail space hy
  rw [h, hhead'] at hhead
  have htexts := (append_cons_inj_of_last (colon_notMem_toString_int y)
    (colon_notMem_toString_int x) hhead).2
  exact toString_int_injective (String.toList_inj.mp htexts.symm)

/-- **`getAffinityRecord`**: a channel of the plain cache stands for a record without a
generation. -/
def getAffinityRecord (cacheKey : String) : CacheProgram (Except Fault (Option ChannelAffinityRecord)) :=
  let key := channelAffinityRawCacheKey cacheKey
  if key = "" then pure (.ok none)
  else
    .call (.get .record key) fun
      | .error fault => pure (.error fault)
      | .ok (some record) => pure (.ok (some record))
      | .ok none =>
        .call (.get .legacy key) fun
          | .error fault => pure (.error fault)
          | .ok none => pure (.ok none)
          | .ok (some (channelID : Int)) =>
            if channelID ≤ 0 then pure (.ok none) else pure (.ok (some ⟨channelID, "", 0⟩))

/-- The record that the request has seen. -/
def observedAffinityRecord (context : Option ChannelAffinityRecord) : Option ChannelAffinityRecord :=
  context.filter fun record => 0 < record.channelID

def matchedAffinityRecord (context : Option ChannelAffinityRecord) : Option ChannelAffinityRecord :=
  (observedAffinityRecord context).filter fun record => record.generation ≠ ""

/-- The stored record is the one that was seen. -/
def affinityObservationStillCurrent (key : String) (observed : Option ChannelAffinityRecord) :
    CacheProgram Bool :=
  if key = "" then pure false
  else do
    match ← getAffinityRecord key with
    | .error _ => pure false
    | .ok current => pure (current = observed)

/-! ## Marks -/

def channelAffinityNegative (cacheKey : String) (channelID : Int) : CacheProgram Bool :=
  let key := channelAffinityNegativeKey cacheKey channelID
  if key = "" then pure false
  else
    .call (.get .negative key) fun
      | .ok (some (value : Int)) => pure (value = 1)
      | _ => pure false

def channelAffinityNegativeForRecord (cacheKey : String) (record : ChannelAffinityRecord) :
    CacheProgram Bool :=
  let key := channelAffinityNegativeKey cacheKey record.channelID
  if record.channelID ≤ 0 then pure false
  else if key = "" then pure false
  else
    .call (.get .negativeV2 key) fun
      | .error _ => pure false
      | .ok (some (negative : ChannelSessionNegative)) =>
        pure (negative.failedGeneration = record.generation ∧ record.recordedAt ≤ negative.failedAt)
      | .ok none => channelAffinityNegative cacheKey record.channelID

/-- The session avoids the channel. -/
def shouldAvoidChannelForSession (key : String) (channelID : Int) : CacheProgram Bool := do
  match ← getAffinityRecord key with
  | .ok (some record) =>
    if record.channelID = channelID then channelAffinityNegativeForRecord key record
    else channelAffinityNegative key channelID
  | _ => channelAffinityNegative key channelID

/-- **`GetPreferredChannelByAffinity`**: the record that the request remembers, none if it is
marked. -/
def preferredAffinityRecord (key : String) : CacheProgram (Option ChannelAffinityRecord) := do
  match ← getAffinityRecord key with
  | .ok (some record) =>
    if ← channelAffinityNegativeForRecord key record then pure none else pure (some record)
  | _ => pure none

/-- Store a plain mark. -/
def setPlainNegative (negativeKey : String) : CacheProgram Bool :=
  .call (.setWithTTL .negative negativeKey (1 : Int)) fun
    | .ok _ => pure true
    | .error _ => pure false

/-- Mark a channel that failed. -/
def markChannelSessionNegative (setting : Option StreamRecoverySetting) (key : String)
    (context : Option ChannelAffinityRecord) (channelID : Int) : CacheProgram Bool :=
  let negativeKey := channelAffinityNegativeKey key channelID
  if negativeKey = "" then pure false
  else if ∃ s ∈ setting, s.sessionNegativeTTLSeconds ≤ 0 then pure false
  else
    match (matchedAffinityRecord context).filter fun record => record.channelID = channelID with
    | none => setPlainNegative negativeKey
    | some record =>
      .call .now fun clock =>
        .call (.setWithTTL .negativeV2 negativeKey
            (⟨record.generation, clock⟩ : ChannelSessionNegative)) fun
          | .ok _ => setPlainNegative negativeKey
          | .error _ => pure false

/-- Mark a key of the channel. -/
def markChannelSessionKeyNegative (key : String) (channelID keyIndex : Int) : CacheProgram Bool :=
  let keyNegativeKey := channelAffinityKeyNegativeKey key channelID keyIndex
  if keyNegativeKey = "" then pure false
  else
    .call (.setWithTTL .keyNegative keyNegativeKey (1 : Int)) fun
      | .ok _ => pure true
      | .error _ => pure false

/-- Remove the marks of a channel. -/
def clearChannelSessionNegative (key : String) (channelID : Int) : CacheProgram Unit :=
  let negativeKey := channelAffinityNegativeKey key channelID
  if negativeKey = "" then pure ()
  else
    .call (.compareAndDelete .negative negativeKey (1 : Int)) fun _ =>
      .call (.get .negativeV2 negativeKey) fun
        | .ok (some negative) =>
          .call (.compareAndDelete .negativeV2 negativeKey negative) fun _ => pure ()
        | _ => pure ()

/-! ## After a failure -/

/-- The key of a channel with several keys that the request was sent with. -/
structure KeyChoice where
  isMultiKey : Bool
  index : Int

/-- Delete the affinity if it still names the failed channel. -/
def evictCurrentChannelAffinityIfMatches (key : String) (context : Option ChannelAffinityRecord)
    (choice : KeyChoice) (failedChannelID : Int) : CacheProgram Bool :=
  if failedChannelID ≤ 0 then pure false
  else if key = "" then pure false
  else
    match matchedAffinityRecord context with
    | none =>
      .call (.get .record key) fun
        | .ok none =>
          .call (.compareAndDelete .legacy key failedChannelID) fun
            | .ok deleted => pure deleted
            | .error _ => pure false
        | _ => pure false
    | some expected =>
      if expected.channelID ≠ failedChannelID then pure false
      else
        .call (.compareAndDelete .record key expected) fun
          | .ok true => do
            if choice.isMultiKey ∧ 0 ≤ choice.index then
              let _ ← perform (.compareAndDelete .multiKeyIndex key choice.index)
            let _ ← perform (.compareAndDelete .legacy key failedChannelID)
            pure true
          | _ => pure false

/-- **`SessionRecoveryDecision`**, as far as the repair reads it. -/
structure SessionRecoveryDecision where
  evictAffinity : Bool
  markChannelNegative : Bool
  markKeyNegative : Bool
  reason : String

/-- What a repair did. -/
structure SessionRecoveryResult where
  applied : Bool := false
  affinityEvicted : Bool := false
  affinityCASMiss : Bool := false
  channelNegative : Bool := false
  keyNegative : Bool := false
  budgetUsed : Int := 0
  budgetMax : Int := 0
  budgetExhausted : Bool := false
  action : String
  billingPolicy : String := ""

/-- The attempt that failed. -/
structure FailedAttempt where
  requestId : String
  channelID : Int
  choice : KeyChoice
  clientResponseCommitted : Bool
  decision : SessionRecoveryDecision

/-- What the calls read of the settings, and the keyed hash of `affinityFingerprint`. -/
structure Environment where
  recovery : Option StreamRecoverySetting
  fingerprint : String → String

def Environment.failureToken (env : Environment) (context : Option ChannelAffinityRecord)
    (attempt : FailedAttempt) : String :=
  env.fingerprint (attempt.requestId ++ ":" ++ toString attempt.channelID ++ ":" ++
    (context.map ChannelAffinityRecord.generation).getD "")

/-- A call that is made on a condition; otherwise the answer is no. -/
def onlyIf (c : Prop) [Decidable c] (p : CacheProgram Bool) : CacheProgram Bool :=
  if c then p else pure false

section

variable (env : Environment) (key : String) (context : Option ChannelAffinityRecord)
  (attempt : FailedAttempt)

/-- The part of `ApplySessionRecovery` that writes: the key is marked, the affinity deleted, also in
the context, and the channel marked. -/
def repairRoute (result : SessionRecoveryResult) :
    CacheProgram (SessionRecoveryResult × Option ChannelAffinityRecord) := do
  let observed := observedAffinityRecord context
  let keyNegative ← onlyIf (attempt.decision.markKeyNegative ∧ attempt.choice.isMultiKey)
    (markChannelSessionKeyNegative key attempt.channelID attempt.choice.index)
  let evicted ← onlyIf attempt.decision.evictAffinity
    (evictCurrentChannelAffinityIfMatches key context attempt.choice attempt.channelID)
  let channelNegative ← onlyIf (attempt.decision.markChannelNegative ∧ (observed.isNone ∨ evicted))
    (markChannelSessionNegative env.recovery key context attempt.channelID)
  pure
    ({ result with
        keyNegative := keyNegative
        affinityEvicted := evicted
        affinityCASMiss := attempt.decision.evictAffinity && observed.isSome && !evicted
        channelNegative := channelNegative
        billingPolicy :=
          if attempt.clientResponseCommitted then "committed_failure_refund_once" else ""
        action := "route_repaired" }, if evicted then none else context)

/-- **`ApplySessionRecovery`**: the result, and the record that the context holds afterwards. -/
def applySessionRecovery : CacheProgram (SessionRecoveryResult × Option ChannelAffinityRecord) := do
  let d := attempt.decision
  let result : SessionRecoveryResult := { action := d.reason }
  let miss : SessionRecoveryResult × Option ChannelAffinityRecord :=
    ({ result with affinityCASMiss := true, action := "affinity_cas_miss" }, context)
  if ¬d.evictAffinity ∧ ¬d.markChannelNegative ∧ ¬d.markKeyNegative then return (result, context)
  if ∃ record ∈ observedAffinityRecord context, record.channelID ≠ attempt.channelID then return miss
  if !(← affinityObservationStillCurrent key (observedAffinityRecord context)) then return miss
  if attempt.clientResponseCommitted ∧ (d.evictAffinity ∨ d.markChannelNegative) then
    let answer ← consumeSessionRecoveryBudget env.recovery key
      ⟨attempt.channelID, env.failureToken context attempt⟩
    let charged := { result with
      budgetUsed := answer.used, budgetMax := answer.max, applied := answer.allowed }
    if answer.allowed then repairRoute env key context attempt charged
    else
      return ({ charged with budgetExhausted := true, action := "recovery_budget_exhausted" }, context)
  else repairRoute env key context attempt { result with applied := true }

end

/-! ## After a success -/

/-- **`ChannelAffinitySetting`**, as far as `RecordChannelAffinity` reads it. -/
structure ChannelAffinitySetting where
  enabled : Bool
  switchOnSuccess : Bool

/-- A request that succeeded: the channel it is recorded for, the channel in its context, and the
new generation. -/
structure Served where
  channelID : Int
  contextChannelID : Int
  choice : KeyChoice
  generation : String

/-- The channel that a success is recorded for. -/
def Served.channel (setting : ChannelAffinitySetting) (served : Served) : Int :=
  if setting.switchOnSuccess ∧ 0 < served.contextChannelID then served.contextChannelID
  else served.channelID

/-- The recovery chain of the session is forgotten. -/
def clearRecoveryChain (cacheKey : String) : CacheProgram Unit :=
  .call (.get .recoveryChain cacheKey) fun
    | .ok (some chain) => .call (.compareAndDelete .recoveryChain cacheKey chain) fun _ => pure ()
    | _ => pure ()

/-- The key that served the request is remembered. -/
def recordKeyChoice (u : Session) (choice : KeyChoice) (channelID : Int) : CacheProgram Unit :=
  if choice.isMultiKey ∧ 0 ≤ choice.index then do
    let keyNegativeKey := channelAffinityKeyNegativeKey u.key channelID choice.index
    if keyNegativeKey ≠ "" then
      let _ ← perform (.compareAndDelete .keyNegative keyNegativeKey (1 : Int))
    let _ ← perform (.setWithTTL .multiKeyIndex (channelAffinityRawCacheKey u.cacheKey) choice.index)
    pure ()
  else pure ()

/-- **`RecordChannelAffinity`**. The record and the channel are stored under the key of the
context. -/
def recordChannelAffinity (setting : Option ChannelAffinitySetting) (u : Session) (served : Served) :
    CacheProgram Unit :=
  match setting with
  | none => pure ()
  | some setting =>
    if served.channelID ≤ 0 ∨ !setting.enabled then pure ()
    else
      let channelID := served.channel setting
      .call .now fun (clock : Int) =>
        .call (.setWithTTL .record u.cacheKey
            (⟨channelID, served.generation, clock⟩ : ChannelAffinityRecord)) fun _ =>
          .call (.setWithTTL .legacy u.cacheKey channelID) fun _ => do
            clearChannelSessionNegative u.key channelID
            clearRecoveryChain u.cacheKey
            recordKeyChoice u served.choice channelID

end RenewApi.Sessions
