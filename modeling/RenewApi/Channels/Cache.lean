import RenewApi.Channels.Rows
import RenewApi.Relational.Transaction

/-! # The routing cache of channels

An index from groups and models to channel ids (`group2model2channels`) beside a map of all channels
(`channelsIDM`).

* **Rebuild**: `reloadChannelCache` reads both tables. A write under a group that the index does not
  have is a write into a nil map: `none` is that fault.
* **Sorting**: the order among equal priorities is not fixed by the code and no statement here
  depends on it. -/

namespace RenewApi.Channels

open Relational Text Function

/-- `map[string]map[string][]int`: an absent group is a nil map. -/
abbrev Index := String → Option (String → Option (List Int))

/-- What a lookup of group and model reads: an absent group or model reads as the empty list. -/
def bucket (index : Index) (g m : String) : List Int := ((index g).bind (· m)).getD []

def setBucket (index : Index) (models : String → Option (List Int)) (g m : String)
    (ids : List Int) : Index :=
  update index g (some (update models m (some ids)))

theorem bucket_setBucket {index : Index} {models : String → Option (List Int)} {g : String}
    (h : (index g).getD (fun _ => none) = models) (m : String) (ids : List Int) (g' m' : String) :
    bucket (setBucket index models g m ids) g' m' =
      if g' = g ∧ m' = m then ids else bucket index g' m' := by
  unfold bucket setBucket
  by_cases hg : g' = g
  · subst hg
    by_cases hm : m' = m
    · subst hm
      simp
    · rw [← h, update_self, if_neg (fun h => hm h.2), Option.bind_some,
        update_of_ne hm]
      cases index g' with
      | none => rfl
      | some => rfl
  · simp [hg]

/-! ## Priority order -/

section

variable (channels : Int → Option Channel)

/-- The priority of a channel of the map, if there is one. -/
def rank (id : Int) : Option Int :=
  (channels id).map Channel.getPriority

/-- The comparison of a bucket: descending priority, and ids without a channel last. -/
def before (i j : Int) : Bool :=
  match rank channels i, rank channels j with
  | _, none => true
  | none, some _ => false
  | some left, some right => right ≤ left

/-- The order of a bucket. -/
def Before (i j : Int) : Prop := before channels i j = true
  deriving Decidable

end

instance (channels : Int → Option Channel) : Std.Total (Before channels) where
  total i j := by
    unfold Before before
    cases rank channels i with
    | none => cases rank channels j <;> simp
    | some left =>
      cases rank channels j with
      | none => simp
      | some right =>
        simp only [decide_eq_true_eq]
        omega

instance (channels : Int → Option Channel) : IsTrans Int (Before channels) where
  trans i j k hij hjk := by
    unfold Before before at *
    cases hk : rank channels k with
    | none => simp
    | some right =>
      rw [hk] at hjk
      cases hj : rank channels j with
      | none => simp [hj] at hjk
      | some middle =>
        rw [hj] at hij hjk
        cases hi : rank channels i with
        | none => simp [hi] at hij
        | some left =>
          rw [hi] at hij
          simp only [decide_eq_true_eq] at hij hjk ⊢
          omega

def sortByPriority (channels : Int → Option Channel) (ids : List Int) : List Int :=
  ids.insertionSort (Before channels)

@[simp] theorem mem_sortByPriority {channels : Int → Option Channel} {ids : List Int} {id : Int} :
    id ∈ sortByPriority channels ids ↔ id ∈ ids :=
  (List.perm_insertionSort _ _).mem_iff

/-- Every bucket is in priority order. -/
def Ordered (channels : Int → Option Channel) (index : Index) : Prop :=
  ∀ g m, (bucket index g m).Pairwise (Before channels)

/-! ## The cache -/

/-- **The routing cache**: the index of enabled channels and the map of all channels. -/
structure RoutingCache where
  group2model2channels : Index
  channelsIDM : Int → Option Channel

def RoutingCache.bucket (cache : RoutingCache) (g m : String) : List Int :=
  Channels.bucket cache.group2model2channels g m

section

variable (codec : Codec)

/-- The index before any channel is entered: an empty map for every group of an ability row. -/
def emptyIndex (abilities : List Ability) : Index := fun g =>
  if g ∈ abilities.map Ability.group then some fun _ => none else none

/-- The writes of the rebuild, in order: every enabled channel, every piece of its group text as it
stands, every model it serves. -/
def entries (channels : List Channel) : List (String × String × Int) :=
  (channels.filter (·.status = channelStatusEnabled)).flatMap fun c =>
    (split ',' c.group).flatMap fun g =>
      (c.getRoutingModels codec).map fun m => (g, m, c.id)

/-- Append an id to a bucket. The map of the group has to exist. -/
def addEntry (index : Index) (entry : String × String × Int) : Option Index :=
  match index entry.1 with
  | none => none
  | some models =>
    some (setBucket index models entry.1 entry.2.1 ((models entry.2.1).getD [] ++ [entry.2.2]))

def sortBuckets (channels : Int → Option Channel) (index : Index) : Index := fun g =>
  (index g).map fun models m => (models m).map (sortByPriority channels)

section

variable (old : Int → Option Channel)

/-- A row as the cache keeps it: with its parsed keys, and a polling channel goes on from the
polling index of the cached channel it replaces. -/
def cacheChannel (c : Channel) : Channel :=
  if c.channelInfo.isMultiKey then
    let withKeys := { c with keys := c.getKeys codec }
    if c.channelInfo.multiKeyMode = .polling then
      match old c.id with
      | some o =>
        if o.channelInfo.isMultiKey ∧ o.channelInfo.multiKeyMode = .polling then
          { withKeys with channelInfo :=
              { c.channelInfo with multiKeyPollingIndex := o.channelInfo.multiKeyPollingIndex } }
        else withKeys
      | none => withKeys
    else withKeys
  else c

/-- The map of all channels that a rebuild publishes. -/
def loadChannels (table : Table Channel) : Int → Option Channel :=
  fun id => (table.find? id).map (cacheChannel codec old)

/-- **`ReloadChannelCache`** from the tables, `old` being the channel map it replaces. -/
def reloadChannelCache (table : Table Channel)
    (abilities : List Ability) : Option RoutingCache := do
  let index ← (entries codec table.rows).foldlM addEntry (emptyIndex abilities)
  some
    { group2model2channels := sortBuckets table.find? index
      channelsIDM := loadChannels codec old table }

end

end

/-! ## Updating one channel -/

/-- Remove an id from one bucket, if group and bucket exist. -/
def removeEntry (id : Int) (index : Index) (g m : String) : Index :=
  match index g with
  | none => index
  | some models =>
    match models m with
    | none => index
    | some ids => setBucket index models g m (ids.filter (· ≠ id))

def removeEverywhere (id : Int) (index : Index) : Index := fun g =>
  (index g).map fun models m => (models m).map fun ids => ids.filter (· ≠ id)

/-- Enter an id into one bucket of a group, once, and sort the bucket. -/
def enterModel (channels : Int → Option Channel) (id : Int) (g : String) (index : Index)
    (m : String) : Index :=
  let m := trimSpace m
  if m = "" then index
  else
    let models := (index g).getD fun _ => none
    let ids := (models m).getD []
    let ids := if id ∈ ids then ids else ids ++ [id]
    setBucket index models g m (sortByPriority channels ids)

/-- Make sure that a group has a map. -/
def ensureGroup (index : Index) (g : String) : Index :=
  match index g with
  | none => update index g (some fun _ => none)
  | some _ => index

def enterGroup (channels : Int → Option Channel) (models : List String) (id : Int) (index : Index)
    (g : String) : Index :=
  if g = "" then index else models.foldl (enterModel channels id g) (ensureGroup index g)

/-- The status of one channel is set in the map and its id in the buckets. -/
def cacheUpdateChannelStatus (codec : Codec) (cache : RoutingCache) (id status : Int) :
    RoutingCache :=
  match cache.channelsIDM id with
  | none =>
    if status ≠ channelStatusEnabled then
      { cache with group2model2channels := removeEverywhere id cache.group2model2channels }
    else cache
  | some channel =>
    let channel := { channel with status := status }
    let channels := update cache.channelsIDM id (some channel)
    let models := channel.getRoutingModels codec
    if status ≠ channelStatusEnabled then
      { group2model2channels := channel.getGroups.foldl (fun index g =>
          models.foldl (fun index m => removeEntry id index g (trimSpace m)) index)
            cache.group2model2channels
        channelsIDM := channels }
    else
      { group2model2channels := channel.getGroups.foldl (enterGroup channels models id)
          cache.group2model2channels
        channelsIDM := channels }

def setStatus (table : Table Channel) (id status : Int) : Table Channel :=
  table.updateWhere (·.id == id) fun c => { c with status := status }

end RenewApi.Channels
