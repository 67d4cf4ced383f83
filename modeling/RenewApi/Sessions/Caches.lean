import RenewApi.Channels.Text
import RenewApi.Concurrent.Program

/-! # The caches of session affinity

`service/channel_affinity.go` remembers for a session which channel served it, and which channels
failed it, in seven caches (`pkg/cachex`). -/

namespace RenewApi.Sessions

open Text Concurrent List Function

def namespacePrefix (space : String) : String :=
  let ns := String.ofList ((trimSpace space).toList.rdropWhile (· == ':'))
  if ns = "" then "" else ns ++ ":"

/-- The text without leading colons. -/
def dropColons (key : String) : String := String.ofList (key.toList.dropWhile (· == ':'))

/-- The text starts with the other one. -/
def startsWith (key start : String) : Bool := start.toList.isPrefixOf key.toList

/-- **`Namespace.FullKey`**. -/
@[irreducible] def fullKey (space key : String) : String :=
  let key := trimSpace key
  if key = "" then ""
  else if namespacePrefix space = "" then dropColons key
  else if startsWith key (namespacePrefix space) then key
  else namespacePrefix space ++ dropColons key

variable {q t : List Char} {p : Char → Bool}

theorem trimBy_append (hq : ∃ c ∈ q, p c = false) (ht : t ≠ []) (hclean : ∀ c ∈ t, p c = false) :
    trimBy p (q ++ t) = q.dropWhile p ++ t := by
  obtain ⟨t', x, rfl⟩ := eq_nil_or_concat t |>.resolve_left ht
  obtain ⟨c, hc, hpc⟩ := hq
  have hsome : ¬(q.dropWhile p).isEmpty = true := by
    rw [List.isEmpty_iff, List.dropWhile_eq_nil_iff]
    exact fun h => absurd (h c hc) (by simp [hpc])
  rw [concat_eq_append] at hclean ⊢
  rw [trimBy, dropWhile_append, if_neg hsome, ← append_assoc,
    rdropWhile_concat_neg _ _ _ (by simp [hclean x])]

theorem trimBy_append_left (hne : q ≠ []) (hfirst : q.dropWhile p = q) (hlast : q.rdropWhile p = q)
    (t : List Char) : trimBy p (q ++ t) = q ++ t.rdropWhile p := by
  have hsome : ¬(q.dropWhile p).isEmpty = true := by
    rw [hfirst, List.isEmpty_iff]
    exact hne
  rw [trimBy, dropWhile_append, if_neg hsome, hfirst]
  induction t using reverseRecOn with
  | nil => rw [append_nil, hlast, rdropWhile_nil, append_nil]
  | append_singleton t x ih =>
    rw [← append_assoc, rdropWhile_concat, rdropWhile_concat]
    split
    · exact ih
    · exact append_assoc ..

/-- **The end of a key is the end of its full key**, if it has no white space and more than white
space and colons stands before it. -/
theorem fullKey_append (space : String) (hq : ∃ c ∈ q, isSpace c = false ∧ c ≠ ':') (ht : t ≠ [])
    (hclean : ∀ c ∈ t, isSpace c = false) :
    ∃ h, (fullKey space (String.ofList (q ++ t))).toList = h ++ t := by
  obtain ⟨c, hc, hspace, hcolon⟩ := hq
  have htrim : trimSpace (String.ofList (q ++ t)) = String.ofList (q.dropWhile isSpace ++ t) := by
    rw [trimSpace, String.toList_ofList, trimBy_append ⟨c, hc, hspace⟩ ht hclean]
  -- what keeps the end of the text from being dropped with the colons is still there
  have hkept : c ∈ q.dropWhile isSpace := by
    rw [← takeWhile_append_dropWhile (p := isSpace) (l := q)] at hc
    rcases mem_append.mp hc with htake | hdrop
    · exact absurd (mem_takeWhile_imp htake) (by simp [hspace])
    · exact hdrop
  have hdrop : (dropColons (String.ofList (q.dropWhile isSpace ++ t))).toList =
      (q.dropWhile isSpace).dropWhile (· == ':') ++ t := by
    rw [dropColons, String.toList_ofList, String.toList_ofList, dropWhile_append, if_neg]
    rw [List.isEmpty_iff, List.dropWhile_eq_nil_iff]
    exact fun h => absurd (h c hkept) (by simpa using hcolon)
  have hne : String.ofList (q.dropWhile isSpace ++ t) ≠ "" :=
    fun h => ht (append_eq_nil_iff.mp (String.ofList_eq_empty_iff.mp h)).2
  simp only [fullKey, htrim, if_neg hne]
  split
  · exact ⟨_, hdrop⟩
  · split
    · exact ⟨_, String.toList_ofList⟩
    · exact ⟨_, by rw [String.toList_append, hdrop, ← append_assoc]⟩

variable {key : String}

theorem fullKey_ne_empty {space : String} (hspace : namespacePrefix space ≠ "")
    (hkey : trimSpace key ≠ "") : fullKey space key ≠ "" := by
  simp only [fullKey, if_neg hkey, if_neg hspace]
  split
  · exact hkey
  · exact fun h => hspace (String.append_eq_empty_iff.mp h).1

theorem length_fullKey_le (space key : String) :
    (fullKey space key).toList.length ≤ (namespacePrefix space).toList.length + key.toList.length := by
  have htrim : (trimSpace key).toList.length ≤ key.toList.length := by
    rw [trimSpace, String.toList_ofList]
    exact (IsPrefix.length_le <| rdropWhile_prefix _ _).trans (dropWhile_suffix _).length_le
  have hdrop : (dropColons (trimSpace key)).toList.length ≤ (trimSpace key).toList.length := by
    rw [dropColons, String.toList_ofList]
    exact (dropWhile_suffix _).length_le
  simp only [fullKey]
  split
  · exact Nat.zero_le _
  · split
    · omega
    · split
      · omega
      · rw [String.toList_append, length_append]
        omega

def channelAffinityCacheNamespace : String := "new-api:channel_affinity:v3"

@[irreducible] def channelAffinityRawCacheKey (cacheKey : String) : String :=
  let key := trimSpace cacheKey
  let start := channelAffinityCacheNamespace ++ ":"
  if startsWith key start then String.ofList (key.toList.drop start.toList.length) else key

theorem channelAffinityRawCacheKey_eq {cacheKey : String} {rest : List Char}
    (h : trimSpace cacheKey =
      String.ofList ((channelAffinityCacheNamespace ++ ":").toList ++ rest)) :
    channelAffinityRawCacheKey cacheKey = String.ofList rest := by
  simp only [channelAffinityRawCacheKey, startsWith, h, String.toList_ofList]
  rw [if_pos <| isPrefixOf_iff_prefix.mpr <| prefix_append _ _, drop_left]

/-! ## Entries -/

structure ChannelAffinityRecord where
  channelID : Int
  generation : String
  recordedAt : Int
  deriving DecidableEq

structure ChannelSessionNegative where
  failedGeneration : String
  failedAt : Int
  deriving DecidableEq

structure SessionRecoveryChain where
  firstFailureAt : Int
  routeChanges : Int
  lastChannelID : Int
  lastFailureToken : String
  deriving DecidableEq

inductive Cache where
  /-- `getChannelAffinityRecordCache` -/
  | record
  /-- `getChannelAffinityCache`, the plain one: a channel per session -/
  | legacy
  /-- `getChannelAffinityMultiKeyIndexCache` -/
  | multiKeyIndex
  /-- `getChannelAffinityNegativeCache` -/
  | negative
  /-- `getChannelAffinityNegativeV2Cache` -/
  | negativeV2
  /-- `getChannelAffinityKeyNegativeCache` -/
  | keyNegative
  /-- `getChannelAffinityRecoveryChainCache` -/
  | recoveryChain
  deriving DecidableEq

def Cache.Value : Cache → Type
  | .record => ChannelAffinityRecord
  | .negativeV2 => ChannelSessionNegative
  | .recoveryChain => SessionRecoveryChain
  | .legacy | .multiKeyIndex | .negative | .keyNegative => Int

instance (c : Cache) : DecidableEq c.Value :=
  match c with
  | .record => inferInstanceAs (DecidableEq ChannelAffinityRecord)
  | .negativeV2 => inferInstanceAs (DecidableEq ChannelSessionNegative)
  | .recoveryChain => inferInstanceAs (DecidableEq SessionRecoveryChain)
  | .legacy | .multiKeyIndex | .negative | .keyNegative => inferInstanceAs (DecidableEq Int)

/-- The namespace of a cache. -/
def Cache.space : Cache → String
  | .record => "new-api:channel_affinity:v3_record"
  | .legacy => channelAffinityCacheNamespace
  | .multiKeyIndex => "new-api:channel_affinity_multi_key_index:v3"
  | .negative => "new-api:channel_affinity_negative:v3"
  | .negativeV2 => "new-api:channel_affinity_negative:v3_record"
  | .keyNegative => "new-api:channel_affinity_key_negative:v3"
  | .recoveryChain => "new-api:channel_affinity_recovery_chain:v3"

/-- What the caches hold, by full key. -/
abbrev Caches := (c : Cache) → String → Option c.Value

section

variable (s : Caches) (c : Cache) (key : String)

/-- The entry under a key. -/
def Caches.at : Option c.Value := s c (fullKey c.space key)

/-- An entry is replaced. -/
def Caches.put (value : Option c.Value) : Caches :=
  Function.update s c (Function.update (s c) (fullKey c.space key) value)

def Caches.empty : Caches := fun _ _ => none

@[simp] theorem Caches.at_put_self (value : Option c.Value) :
    (s.put c key value).at c key = value := by
  rw [Caches.at, Caches.put, update_self, update_self]

end

variable {c : Cache} (s : Caches) {c' : Cache} {key' : String} (value : Option c.Value)

theorem Caches.at_put_of_ne (h : c' = c → fullKey c.space key' ≠ fullKey c.space key) :
    (s.put c key value).at c' key' = s.at c' key' := by
  by_cases hc : c' = c
  · subst hc
    rw [Caches.at, Caches.put, update_self, update_of_ne (h rfl)]
    rfl
  · rw [Caches.at, Caches.put, update_of_ne hc]
    rfl

theorem Caches.at_congr (h : fullKey c.space key = fullKey c.space key') :
    s.at c key = s.at c key' := by
  rw [Caches.at, h, Caches.at]

/-! ## Operations -/

/-- An operation that did not reach its cache. -/
inductive Fault where
  | unreachable
  deriving DecidableEq

/-- **The operations of `HybridCache`** that are used, and the clock. -/
inductive CacheOp where
  | get (c : Cache) (key : String)
  | setWithTTL (c : Cache) (key : String) (value : c.Value)
  | compareAndDelete (c : Cache) (key : String) (expected : c.Value)
  | compareAndSwap (c : Cache) (key : String) (expected : Option c.Value) (replacement : c.Value)
  | now

/-- The answer to an operation. -/
def CacheOp.Result : CacheOp → Type
  | .get c _ => Except Fault (Option c.Value)
  | .setWithTTL .. => Except Fault Unit
  | .compareAndDelete .. => Except Fault Bool
  | .compareAndSwap .. => Except Fault Bool
  | .now => Int

/-- What a step finds outside the caches: the clock, and whether the cache can be reached. -/
structure Moment where
  clock : Int
  reachable : Bool

/-- **An operation is performed.** A blank key is no key. -/
def CacheOp.exec (m : Moment) (op : CacheOp) (s : Caches) : Caches × op.Result :=
  match op with
  | .get c key =>
    if fullKey c.space key = "" then (s, .ok none)
    else if m.reachable then (s, .ok (s.at c key))
    else (s, .error .unreachable)
  | .setWithTTL c key value =>
    if fullKey c.space key = "" then (s, .ok ())
    else if m.reachable then (s.put c key (some value), .ok ())
    else (s, .error .unreachable)
  | .compareAndDelete c key expected =>
    if fullKey c.space key = "" then (s, .ok false)
    else if m.reachable then
      if s.at c key = some expected then (s.put c key none, .ok true) else (s, .ok false)
    else (s, .error .unreachable)
  | .compareAndSwap c key expected replacement =>
    if fullKey c.space key = "" then (s, .ok false)
    else if m.reachable then
      if s.at c key = expected then (s.put c key (some replacement), .ok true) else (s, .ok false)
    else (s, .error .unreachable)
  | .now => (s, m.clock)

/-- The entry that an operation may change. -/
def CacheOp.target : CacheOp → Option (Cache × String)
  | .get .. => none
  | .setWithTTL c key _ => some (c, fullKey c.space key)
  | .compareAndDelete c key _ => some (c, fullKey c.space key)
  | .compareAndSwap c key _ _ => some (c, fullKey c.space key)
  | .now => none

/-- **All other entries stay as they are.** -/
theorem exec_at_of_target_ne (m : Moment) (op : CacheOp) (s : Caches)
    (h : op.target ≠ some (c, fullKey c.space key)) : (op.exec m s).1.at c key = s.at c key := by
  have hput : ∀ (c' : Cache) (key' : String) (value : Option c'.Value),
      some (c', fullKey c'.space key') ≠ some (c, fullKey c.space key) →
        (s.put c' key' value).at c key = s.at c key := by
    intro c' key' value hne
    refine s.at_put_of_ne value fun hc hkey => hne ?_
    subst hc
    rw [hkey]
  cases op with
  | get =>
    simp only [CacheOp.exec]
    split
    · rfl
    · split <;> rfl
  | now => rfl
  | setWithTTL c' key' =>
    simp only [CacheOp.exec]
    split
    · rfl
    · split
      · exact hput c' key' _ h
      · rfl
  | compareAndDelete c' key' =>
    simp only [CacheOp.exec]
    split
    · rfl
    · split
      · split
        · exact hput c' key' _ h
        · rfl
      · rfl
  | compareAndSwap c' key' =>
    simp only [CacheOp.exec]
    split
    · rfl
    · split
      · split
        · exact hput c' key' _ h
        · rfl
      · rfl

variable {m : Moment}

section

variable (hm : m.reachable = true) (hkey : fullKey c.space key ≠ "")
include hm hkey

/-- What `CompareAndDelete` leaves of its entry: nothing, or something else than it expects. -/
theorem exec_compareAndDelete_at (expected : c.Value) (s : Caches) :
    (s.at c key = some expected ∧
        ((CacheOp.compareAndDelete c key expected).exec m s).1.at c key = none) ∨
      (s.at c key ≠ some expected ∧
        ((CacheOp.compareAndDelete c key expected).exec m s).1.at c key = s.at c key) := by
  simp only [CacheOp.exec, if_neg hkey, if_pos hm]
  split
  · next hsame => exact .inl ⟨hsame, s.at_put_self c key none⟩
  · next hother => exact .inr ⟨hother, rfl⟩

theorem exec_setWithTTL_at (value : c.Value) (s : Caches) :
    ((CacheOp.setWithTTL c key value).exec m s).1.at c key = some value := by
  simp only [CacheOp.exec, if_neg hkey, if_pos hm]
  exact s.at_put_self c key (some value)

end

theorem exec_get_cases (m : Moment) (c : Cache) (key : String) (s : Caches) :
    (fullKey c.space key = "" ∧ CacheOp.exec m (.get c key) s = (s, .ok none)) ∨
      CacheOp.exec m (.get c key) s = (s, .ok (s.at c key)) ∨
      (m.reachable = false ∧ CacheOp.exec m (.get c key) s = (s, .error .unreachable)) := by
  simp only [CacheOp.exec]
  split
  · next hblank => exact .inl ⟨hblank, rfl⟩
  · split
    · exact .inr (.inl rfl)
    · next hdown => exact .inr (.inr ⟨by simpa using hdown, rfl⟩)

theorem exec_get_of_reachable (hm : m.reachable = true) (hkey : fullKey c.space key ≠ "")
    (s : Caches) : CacheOp.exec m (.get c key) s = (s, .ok (s.at c key)) := by
  simp only [CacheOp.exec, if_neg hkey, if_pos hm]

theorem exec_compareAndSwap_cases (m : Moment) (c : Cache) (key : String)
    (expected : Option c.Value) (replacement : c.Value) (s : Caches) :
    CacheOp.exec m (.compareAndSwap c key expected replacement) s = (s, .ok false) ∨
      CacheOp.exec m (.compareAndSwap c key expected replacement) s = (s, .error .unreachable) ∨
      (fullKey c.space key ≠ "" ∧ s.at c key = expected ∧
        CacheOp.exec m (.compareAndSwap c key expected replacement) s =
          (s.put c key (some replacement), .ok true)) := by
  simp only [CacheOp.exec]
  split
  · exact .inl rfl
  · next hkey =>
    split
    · split
      · next hexpected => exact .inr (.inr ⟨hkey, hexpected, rfl⟩)
      · exact .inl rfl
    · exact .inr (.inl rfl)

/-- Code that uses the caches. -/
abbrev CacheProgram := Program CacheOp CacheOp.Result

end RenewApi.Sessions
