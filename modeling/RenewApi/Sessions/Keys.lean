import RenewApi.Channels.Status
import RenewApi.Channels.Writers
import RenewApi.Sessions.Affinity

/-! # The key of a session

`ResolveChannelAffinityMultiKey` chooses a key for a session, on a channel with several keys: the
preferred key, else the one that the hash of the session draws, else those after it in turn. Keys
that failed the session lately are avoided. -/

namespace RenewApi.Sessions

open Channels Text List

/-- What `channelAffinityMeta` tells the choice. -/
structure AffinityMeta where
  cacheKey : String
  keyFingerprint : String

/-- A channel and what the choice of a key reads besides: the context of the request, and the cache
of failed keys. -/
structure KeyRequest where
  codec : Codec
  channel : Channel
  matchedKey : String := ""
  preferredChannelId : Int := 0
  preferredIndex : Option Int := none
  affinity : Option AffinityMeta
  negatives : String → Option Int

/-- A key with its position, none (`used` is false), or an error. -/
abbrev KeyAnswer := Except String (Option (String × Nat))

/-- The text that the hash is taken of. -/
def AffinityMeta.seed (known : AffinityMeta) : String :=
  if trimSpace known.cacheKey = "" then trimSpace known.keyFingerprint else trimSpace known.cacheKey

/-- The cache key of a session is never blank. -/
theorem seed_ne (u : Session) (fingerprint : String) :
    AffinityMeta.seed ⟨u.cacheKey, fingerprint⟩ ≠ "" := by
  have hne : trimSpace u.cacheKey ≠ "" := by
    rw [u.trimSpace_cacheKey, String.append_assoc, Ne, String.append_eq_empty_iff]
    exact fun h => absurd h.1 (by decide)
  rwa [AffinityMeta.seed, if_neg hne]

/-- The hash `fnv.New32a`. -/
def sum32 (seed : String) : UInt32 :=
  seed.toUTF8.foldl (fun h b => (h ^^^ b.toUInt32) * 16777619) 2166136261

section

variable (codec : Codec) (c : Channel)

def getEnabledKeyByIndex (index : Int) : KeyAnswer :=
  if !c.channelInfo.isMultiKey then
    .ok (if index = 0 ∧ c.key ≠ "" then some (c.key, 0) else none)
  else if index < 0 then .ok none
  else if c.getKeys codec = [] then .error "no keys available"
  else
    match (c.getKeys codec)[index.toNat]? with
    | none => .ok none
    | some key =>
      if keyEnabled c.channelInfo.multiKeyStatusList index.toNat then .ok (some (key, index.toNat))
      else .ok none

def getStableEnabledKey (seed : String) : KeyAnswer :=
  if trimSpace seed = "" then .ok none
  else if !c.channelInfo.isMultiKey then .ok (if c.key ≠ "" then some (c.key, 0) else none)
  else
    let keys := c.getKeys codec
    let enabledIdx := enabledIndexes keys c.channelInfo.multiKeyStatusList
    if keys = [] then .error "no keys available"
    else if enabledIdx = [] then .error "no enabled keys"
    else
      let selectedIdx := enabledIdx.getD ((sum32 seed).toNat % enabledIdx.length) 0
      .ok (some (keys.getD selectedIdx "", selectedIdx))

/-- The key stands at the position and is enabled. -/
def EnabledKey (key : String) (i : Nat) : Prop :=
  (c.getKeys codec)[i]? = some key ∧ keyEnabled c.channelInfo.multiKeyStatusList i = true
  deriving Decidable

end

namespace KeyRequest

variable (q : KeyRequest)

def currentChannelAffinityKey : String :=
  if trimSpace q.matchedKey ≠ "" then channelAffinityRawCacheKey q.matchedKey
  else
    match q.affinity with
    | none => ""
    | some known => channelAffinityRawCacheKey known.cacheKey

def shouldAvoidChannelKeyForSession (keyIndex : Int) : Bool :=
  let key := channelAffinityKeyNegativeKey q.currentChannelAffinityKey q.channel.id keyIndex
  if key = "" then false else q.negatives key == some 1

/-- Take the key at the index; where it is not enabled or avoided, go on. -/
def takeKey (index : Int) (next : KeyAnswer) : KeyAnswer :=
  match getEnabledKeyByIndex q.codec q.channel index with
  | .error e => .error e
  | .ok none => next
  | .ok (some (key, selected)) =>
    if q.shouldAvoidChannelKeyForSession selected then next else .ok (some (key, selected))

/-- The keys at the offsets from an index, in turn. -/
def nextKey (index n : Nat) (offsets : List Nat) : KeyAnswer :=
  offsets.foldr (fun offset => q.takeKey ((index + offset) % n : Nat))
    (.error "all enabled keys are temporarily unavailable for this session")

/-- The choice without a preferred key. -/
def stableKey : KeyAnswer :=
  match q.affinity with
  | none => .ok none
  | some known =>
    if known.seed = "" then .ok none
    else
      match getStableEnabledKey q.codec q.channel known.seed with
      | .ok (some (key, index)) =>
        let n := (q.channel.getKeys q.codec).length
        if q.shouldAvoidChannelKeyForSession index then q.nextKey index n (range' 1 (n - 1))
        else .ok (some (key, index))
      | answer => answer

def resolveChannelAffinityMultiKey : KeyAnswer :=
  if !q.channel.channelInfo.isMultiKey then .ok none
  else
    match q.preferredIndex with
    | none => q.stableKey
    | some preferredIndex =>
      if q.preferredChannelId = q.channel.id ∧ 0 ≤ preferredIndex then
        q.takeKey preferredIndex q.stableKey
      else q.stableKey

/-! ## Sound and complete -/

/-- **The session may use the key**: it is enabled and not avoided. -/
def Usable (key : String) (i : Nat) : Prop :=
  EnabledKey q.codec q.channel key i ∧ q.shouldAvoidChannelKeyForSession i = false
  deriving Decidable

/-- A key that is answered is usable, and one is answered if one at the positions `among` is
usable. -/
def Decides (among : Nat → Prop) (answer : KeyAnswer) : Prop :=
  (∀ key i, answer = .ok (some (key, i)) → q.Usable key i) ∧
    ∀ key i, among i → q.Usable key i → ∃ found, answer = .ok (some found)

variable {q} {known : AffinityMeta} {among : Nat → Prop}

theorem decides_found {key : String} {index : Nat} (h : q.Usable key index) :
    q.Decides among (.ok (some (key, index))) := by
  refine ⟨fun key i hfound => ?_, fun _ _ _ _ => ⟨_, rfl⟩⟩
  cases hfound
  exact h

theorem decides_error (e : String) (h : ∀ key i, among i → ¬q.Usable key i) :
    q.Decides among (.error e) :=
  ⟨fun _ _ hfound => (by cases hfound), fun key i hi husable => absurd husable (h key i hi)⟩

section

variable (hmulti : q.channel.channelInfo.isMultiKey = true)
include hmulti

theorem decides_takeKey (index : Nat) {next : KeyAnswer} (h : q.Decides among next) :
    q.Decides (fun i => i = index ∨ among i) (q.takeKey index next) := by
  have hskip : (∀ key, ¬q.Usable key index) → q.Decides (fun i => i = index ∨ among i) next := by
    refine fun hno => ⟨h.1, ?_⟩
    rintro key i (rfl | hi) husable
    · exact absurd husable (hno key)
    · exact h.2 key i hi husable
  rw [takeKey, getEnabledKeyByIndex, hmulti, Bool.not_true, if_neg Bool.false_ne_true,
    if_neg (Int.natCast_nonneg index).not_gt, Int.toNat_natCast]
  by_cases hnil : q.channel.getKeys q.codec = []
  · rw [if_pos hnil]
    exact decides_error _ fun key i _ => by simp [Usable, EnabledKey, hnil]
  rw [if_neg hnil]
  cases hkey : (q.channel.getKeys q.codec)[index]? with
  | none => exact hskip fun key => by simp [Usable, EnabledKey, hkey]
  | some key =>
    cases henabled : keyEnabled q.channel.channelInfo.multiKeyStatusList index with
    | false => exact hskip fun key => by simp [Usable, EnabledKey, henabled]
    | true =>
      cases havoid : q.shouldAvoidChannelKeyForSession index with
      | true =>
        simp only [havoid, if_true]
        exact hskip fun key => by simp [Usable, havoid]
      | false =>
        simp only [havoid, if_true, Bool.false_eq_true]
        exact decides_found ⟨⟨hkey, henabled⟩, havoid⟩

theorem decides_nextKey (index n : Nat) (offsets : List Nat) :
    q.Decides (fun i => ∃ offset ∈ offsets, i = (index + offset) % n) (q.nextKey index n offsets) := by
  induction offsets with
  | nil => exact decides_error _ fun key i hnone => by simp at hnone
  | cons offset rest ih =>
    have htake := decides_takeKey hmulti ((index + offset) % n) ih
    exact ⟨htake.1, fun key i hi => htake.2 key i (by simpa using hi)⟩

theorem getStableEnabledKey_cases {seed : String} (hseed : trimSpace seed ≠ "") :
    (∃ e, getStableEnabledKey q.codec q.channel seed = .error e ∧
      ∀ key i, ¬EnabledKey q.codec q.channel key i) ∨
    ∃ key i, getStableEnabledKey q.codec q.channel seed = .ok (some (key, i)) ∧
      EnabledKey q.codec q.channel key i := by
  rw [getStableEnabledKey, if_neg hseed, hmulti, Bool.not_true, if_neg Bool.false_ne_true]
  dsimp only
  split
  · rename_i hnil
    exact .inl ⟨_, rfl, by simp [EnabledKey, hnil]⟩
  · split
    · rename_i hnone
      refine .inl ⟨_, rfl, fun key i henabled => ?_⟩
      have hlt := (List.getElem?_eq_some_iff.mp henabled.1).1
      exact filter_eq_nil_iff.mp hnone i (mem_range.mpr hlt) henabled.2
    · rename_i hsome
      -- the hash draws one of the enabled positions
      have hdraw := Nat.mod_lt (sum32 seed).toNat (length_pos_of_ne_nil hsome)
      obtain ⟨hlt, henabled⟩ := mem_filter.mp (getElem_mem hdraw)
      refine .inr ⟨_, _, rfl, ?_⟩
      rw [mem_range] at hlt
      simp only [getD_eq_getElem?_getD, List.getElem?_eq_getElem hdraw, List.getElem?_eq_getElem hlt,
        Option.getD_some]
      exact ⟨List.getElem?_eq_getElem hlt, henabled⟩

theorem decides_stableKey (haffinity : q.affinity = some known) (hseed : known.seed ≠ "") :
    q.Decides (fun _ => True) q.stableKey := by
  have htrim : trimSpace known.seed = known.seed := by
    rw [AffinityMeta.seed]
    split <;> exact trimSpace_trimSpace _
  rw [stableKey, haffinity]
  dsimp only
  rw [if_neg hseed]
  rcases getStableEnabledKey_cases hmulti (htrim ▸ hseed) with
    ⟨e, heq, hnone⟩ | ⟨key, index, heq, henabled⟩
  · rw [heq]
    exact decides_error _ fun key i _ husable => hnone key i husable.1
  · rw [heq]
    dsimp only
    cases havoid : q.shouldAvoidChannelKeyForSession index with
    | false => exact decides_found ⟨henabled, havoid⟩
    | true =>
      have hnext := decides_nextKey hmulti index (q.channel.getKeys q.codec).length
        (range' 1 ((q.channel.getKeys q.codec).length - 1))
      refine ⟨hnext.1, fun key i _ husable => hnext.2 key i ?_ husable⟩
      -- the turn of a position comes at its distance from the one drawn, around the end
      have hindex := (List.getElem?_eq_some_iff.mp henabled.1).1
      have hi := (List.getElem?_eq_some_iff.mp husable.1.1).1
      generalize (q.channel.getKeys q.codec).length = n at hindex hi ⊢
      have hne : i ≠ index := by
        rintro rfl
        exact absurd husable.2 (by simp [havoid])
      rcases Nat.lt_or_gt_of_ne hne with hlt | hgt
      · refine ⟨i + n - index, mem_range'_1.mpr (by omega), ?_⟩
        rw [Nat.add_sub_cancel' (by omega), Nat.add_mod_right, Nat.mod_eq_of_lt hi]
      · refine ⟨i - index, mem_range'_1.mpr (by omega), ?_⟩
        rw [Nat.add_sub_cancel' hgt.le, Nat.mod_eq_of_lt hi]

/-- **The choice for a session is sound and complete.** For a session whose cache key is in the
namespace: a key that is returned is enabled and not avoided, one is returned whenever there is such
a key, and otherwise there is an error or no choice. -/
theorem resolve_sound_complete (u : Session) {fingerprint : String}
    (haffinity : q.affinity = some ⟨u.cacheKey, fingerprint⟩) :
    (∀ key i, q.resolveChannelAffinityMultiKey = .ok (some (key, i)) → q.Usable key i) ∧
    ((∃ key i, q.Usable key i) → ∃ found, q.resolveChannelAffinityMultiKey = .ok (some found)) ∧
    ((∀ key i, ¬q.Usable key i) → q.resolveChannelAffinityMultiKey = .ok none ∨
      ∃ e, q.resolveChannelAffinityMultiKey = .error e) := by
  have hstable := decides_stableKey hmulti haffinity (seed_ne u fingerprint)
  have h : q.Decides (fun _ => True) q.resolveChannelAffinityMultiKey := by
    rw [resolveChannelAffinityMultiKey, hmulti, Bool.not_true, if_neg Bool.false_ne_true]
    split
    · exact hstable
    · split
      · rename_i index hpreferred
        obtain ⟨n, rfl⟩ := Int.eq_ofNat_of_zero_le hpreferred.2
        simpa using decides_takeKey hmulti n hstable
      · exact hstable
  refine ⟨h.1, fun ⟨key, i, husable⟩ => h.2 key i trivial husable, fun hnone => ?_⟩
  cases hanswer : q.resolveChannelAffinityMultiKey with
  | error e => exact .inr ⟨e, rfl⟩
  | ok found =>
    cases found with
    | none => exact .inl rfl
    | some found => exact absurd (h.1 _ _ hanswer) (hnone _ _)

end

/-- A channel with three keys, the first of them disabled. -/
def threeKeys : Channel :=
  { twoKeys with
    key := "a\nb\nc"
    channelInfo :=
      { isMultiKey := true, multiKeySize := 3
        multiKeyStatusList := Finmap.singleton 0 channelStatusManuallyDisabled } }

/-- A session on that channel, which the second key failed lately. -/
def ofSession (u : Session) : KeyRequest where
  codec := Codec.plain
  channel := threeKeys
  affinity := some ⟨u.cacheKey, ""⟩
  negatives key := if key = channelAffinityKeyNegativeKey u.key 1 1 then some 1 else none

/-- Of a disabled, an avoided and a third key, the third is chosen. -/
theorem resolve_sound_complete_threeKeys :
    let q := ofSession ⟨"s"⟩
    ¬q.Usable "a" 0 ∧ ¬q.Usable "b" 1 ∧
      ∃ found, q.resolveChannelAffinityMultiKey = .ok (some found) :=
  ⟨by decide +kernel, by decide +kernel,
    (resolve_sound_complete rfl ⟨"s"⟩ rfl).2.1 ⟨"c", 2, by decide +kernel⟩⟩

end KeyRequest

end RenewApi.Sessions
