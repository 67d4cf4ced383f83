import RenewApi.Channels.Cache

/-! # The routing index and its rebuild

The index is rebuilt from the tables now and then and updated in place in between. Both are measured
against one description of what the index is for: `Lists`, "an enabled channel that has the group
and the model".

* **A rebuild establishes it** as soon as it does not fault (`mirrors_rebuild`,
  `exists_rebuild_iff`). -/

namespace RenewApi.Channels

open Relational Text List

variable {codec : Codec} {table : Table Channel} {cache : RoutingCache} {index index' : Index}
  {entry : String × String × Int} {g : String} {old : Int → Option Channel} {c : Channel}

/-- An enabled channel has the group and the model. -/
def Lists (codec : Codec) (table : Table Channel) (g m : String) (id : Int) : Prop :=
  ∃ c ∈ table.rows, c.id = id ∧ c.status = channelStatusEnabled ∧ g ∈ c.getGroups ∧
    m ∈ c.getRoutingModels codec

def Serves (codec : Codec) (c : Channel) (g m : String) : Prop :=
  g ∈ c.getGroups ∧ m ∈ c.getRoutingModels codec

/-- The buckets list exactly the channels of `Lists`, in priority order, and the channel map is what
a rebuild would publish. -/
structure Mirrors (codec : Codec) (table : Table Channel) (cache : RoutingCache) : Prop where
  /-- Each bucket lists exactly the enabled channels that have its group and its model. -/
  mem_bucket : ∀ g m id, id ∈ cache.bucket g m ↔ Lists codec table g m id
  ordered : Ordered cache.channelsIDM cache.group2model2channels
  channels : cache.channelsIDM = loadChannels codec cache.channelsIDM table

theorem Mirrors.channelsIDM_of_mem (h : Mirrors codec table cache) (hc : c ∈ table.rows) :
    cache.channelsIDM c.id = some (cacheChannel codec cache.channelsIDM c) := by
  have hrow : table.find? c.id = some c := Table.find?_of_mem hc
  have hload := congrFun h.channels c.id
  rwa [loadChannels, hrow] at hload

/-! ## The writes of a rebuild -/

theorem isSome_addEntry (h : addEntry index entry = some index') (g : String) :
    (index' g).isSome = (index g).isSome := by
  rw [addEntry] at h
  cases hg : index entry.1 with
  | none => simp [hg] at h
  | some =>
    rw [hg] at h
    cases h
    by_cases hgroup : g = entry.1
    · subst hgroup
      simp [setBucket, hg]
    · simp [setBucket, hgroup]

theorem mem_bucket_addEntry (h : addEntry index entry = some index') (g m : String) (id : Int) :
    id ∈ bucket index' g m ↔ id ∈ bucket index g m ∨ (g, m, id) = entry := by
  obtain ⟨group, model, channel⟩ := entry
  rw [addEntry] at h
  cases hg : index group with
  | none => simp [hg] at h
  | some =>
    rw [hg] at h
    cases h
    rw [bucket_setBucket (by rw [hg]; rfl)]
    split
    · rename_i heq
      obtain ⟨rfl, rfl⟩ := heq
      simp [bucket, hg]
    · rename_i hne
      simp only [Prod.mk.injEq]
      exact ⟨Or.inl, fun h => h.resolve_right fun ⟨h, h', _⟩ => hne ⟨h, h'⟩⟩

theorem exists_addEntry_iff :
    (∃ index', addEntry index entry = some index') ↔ (index entry.1).isSome := by
  rw [addEntry]
  cases index entry.1 with
  | none => simp
  | some => simp

/-- **The rebuild's loop**: it goes through exactly when every entry's group has a map, and then
each bucket has gained its entries. -/
theorem foldlM_addEntry (es : List (String × String × Int)) (index : Index) :
    ((∃ index', es.foldlM addEntry index = some index') ↔ ∀ e ∈ es, (index e.1).isSome) ∧
    ∀ index', es.foldlM addEntry index = some index' →
      ∀ g m id, id ∈ bucket index' g m ↔ id ∈ bucket index g m ∨ (g, m, id) ∈ es := by
  induction es generalizing index with
  | nil => simp
  | cons e es ih =>
    rw [foldlM_cons]
    cases hadd : addEntry index e with
    | none =>
      have hnone : ¬(index e.1).isSome := fun h => by
        obtain ⟨index', h'⟩ := exists_addEntry_iff.mpr h
        rw [hadd] at h'
        cases h'
      refine ⟨⟨?_, fun h => absurd (h e mem_cons_self) hnone⟩, ?_⟩
      · rintro ⟨index', h⟩
        cases h
      · intro index' h
        cases h
    | some next =>
      -- the groups of `next` are those of `index`, so the rest of the loop faults on the same entries
      have hsome : (index e.1).isSome := exists_addEntry_iff.mp ⟨next, hadd⟩
      obtain ⟨hiff, hmem⟩ := ih next
      constructor
      · refine hiff.trans ?_
        simp only [forall_mem_cons, isSome_addEntry hadd]
        exact ⟨fun h => ⟨hsome, h⟩, fun h => h.2⟩
      · intro index' h g m id
        rw [hmem index' h, mem_bucket_addEntry hadd, mem_cons, or_assoc]

theorem mem_entries {channels : List Channel} {m : String} {id : Int} :
    (g, m, id) ∈ entries codec channels ↔ ∃ c ∈ channels, c.id = id ∧
      c.status = channelStatusEnabled ∧ g ∈ split ',' c.group ∧ m ∈ c.getRoutingModels codec := by
  simp only [entries, mem_flatMap, mem_filter, mem_map, decide_eq_true_eq, Prod.mk.injEq]
  constructor
  · rintro ⟨c, ⟨hc, hstatus⟩, g', hg, m', hm, rfl, rfl, rfl⟩
    exact ⟨c, hc, rfl, hstatus, hg, hm⟩
  · rintro ⟨c, hc, rfl, hstatus, hg, hm⟩
    exact ⟨c, ⟨hc, hstatus⟩, g, hg, m, hm, rfl, rfl, rfl⟩

@[simp] theorem bucket_emptyIndex (abilities : List Ability) (g m : String) :
    bucket (emptyIndex abilities) g m = [] := by
  unfold bucket emptyIndex
  split <;> rfl

@[simp] theorem bucket_sortBuckets (channels : Int → Option Channel) (index : Index) (g m : String) :
    bucket (sortBuckets channels index) g m = sortByPriority channels (bucket index g m) := by
  unfold bucket sortBuckets
  cases index g with
  | none => rfl
  | some models =>
    simp only [Option.map_some, Option.bind_some]
    cases models m with
    | none => rfl
    | some ids => rfl

/-! ## Cached channels -/

theorem cacheChannel_eq (codec : Codec) (old : Int → Option Channel) (c : Channel) :
    ∃ keys idx, cacheChannel codec old c =
      { c with keys := keys, channelInfo := { c.channelInfo with multiKeyPollingIndex := idx } } := by
  unfold cacheChannel
  split
  · split
    · split
      · split
        · exact ⟨_, _, rfl⟩
        · exact ⟨_, c.channelInfo.multiKeyPollingIndex, rfl⟩
      · exact ⟨_, c.channelInfo.multiKeyPollingIndex, rfl⟩
    · exact ⟨_, c.channelInfo.multiKeyPollingIndex, rfl⟩
  · exact ⟨c.keys, c.channelInfo.multiKeyPollingIndex, rfl⟩

/-- A rebuild over a cache that already holds a channel as a rebuild leaves it changes nothing. -/
theorem cacheChannel_of_cached {old' : Int → Option Channel}
    (h : old' c.id = some (cacheChannel codec old c)) :
    cacheChannel codec old' c = cacheChannel codec old c := by
  obtain ⟨keys, idx, heq⟩ := cacheChannel_eq codec old c
  by_cases hmulti : c.channelInfo.isMultiKey = true
  · by_cases hmode : c.channelInfo.multiKeyMode = .polling
    · -- the cached channel polls too, so its index is taken over
      have hleft : cacheChannel codec old' c =
          { c with
            keys := c.getKeys codec
            channelInfo := { c.channelInfo with
              multiKeyPollingIndex :=
                (cacheChannel codec old c).channelInfo.multiKeyPollingIndex } } := by
        conv_lhs => unfold cacheChannel
        rw [if_pos hmulti, if_pos hmode, h]
        dsimp only
        rw [if_pos]
        rw [heq]
        exact ⟨hmulti, hmode⟩
      have hkeys : (cacheChannel codec old c).keys = c.getKeys codec := by
        unfold cacheChannel
        rw [if_pos hmulti, if_pos hmode]
        split
        · split <;> rfl
        · rfl
      rw [hleft, ← hkeys, heq]
    · unfold cacheChannel
      rw [if_pos hmulti, if_neg hmode, if_pos hmulti, if_neg hmode]
  · unfold cacheChannel
    rw [if_neg hmulti, if_neg hmulti]

theorem cacheChannel_setStatus (old : Int → Option Channel) (c : Channel) (status : Int) :
    cacheChannel codec old { c with status := status } =
      { cacheChannel codec old c with status := status } := by
  unfold cacheChannel
  dsimp only
  split
  · split
    · split
      · split <;> rfl
      · rfl
    · rfl
  · rfl

theorem rank_loadChannels (old : Int → Option Channel) (table : Table Channel) (id : Int) :
    rank (loadChannels codec old table) id = rank table.find? id := by
  unfold rank loadChannels
  rw [Option.map_map]
  congr 1
  funext c
  obtain ⟨keys, idx, heq⟩ := cacheChannel_eq codec old c
  rw [Function.comp_apply, heq]
  rfl

theorem Ordered.of_rank {channels channels' : Int → Option Channel} (h : Ordered channels index)
    (hrank : ∀ id, rank channels' id = rank channels id) : Ordered channels' index := by
  intro g m
  refine (h g m).imp fun hij => ?_
  rw [Before, before, hrank, hrank]
  exact hij

/-! ## A full rebuild -/

def allAbilities (codec : Codec) (table : Table Channel) : List Ability :=
  table.rows.flatMap (·.buildAbilities codec)

/-- A rebuild from the channels and the abilities they expand to. -/
def rebuild (codec : Codec) (old : Int → Option Channel) (table : Table Channel) :
    Option RoutingCache :=
  reloadChannelCache codec old table (allAbilities codec table)

def Channel.CleanGroups (c : Channel) : Prop := ∀ piece ∈ split ',' c.group, Clean piece
  deriving Decidable

theorem Channel.getGroups_of_clean (h : c.CleanGroups) : c.getGroups = split ',' c.group := by
  rw [Channel.getGroups, Channel.listColumn_eq, fields_eq_split h]

theorem clean_of_mem_allAbilities (h : g ∈ (allAbilities codec table).map Ability.group) :
    Clean g := by
  obtain ⟨a, ha, rfl⟩ := mem_map.mp h
  obtain ⟨c, -, hac⟩ := mem_flatMap.mp ha
  exact Channel.clean_of_mem_getGroups (Channel.mem_of_mem_buildAbilities hac).1

theorem rebuild_eq_some (h : rebuild codec old table = some cache) :
    ∃ index, (entries codec table.rows).foldlM addEntry (emptyIndex (allAbilities codec table)) =
        some index ∧
      cache = ⟨sortBuckets table.find? index, loadChannels codec old table⟩ := by
  unfold rebuild reloadChannelCache at h
  cases hloop : (entries codec table.rows).foldlM addEntry
      (emptyIndex (allAbilities codec table)) with
  | none => simp [hloop] at h
  | some index =>
    rw [hloop] at h
    cases h
    exact ⟨index, rfl, rfl⟩

theorem isSome_emptyIndex {abilities : List Ability} :
    (emptyIndex abilities g).isSome ↔ g ∈ abilities.map Ability.group := by
  rw [emptyIndex]
  split
  · rename_i h
    simpa using h
  · rename_i h
    simpa using h

/-- **A rebuild goes through** exactly when every enabled channel that serves a model has clean
groups only. -/
theorem exists_rebuild_iff :
    (∃ cache, rebuild codec old table = some cache) ↔
      ∀ c ∈ table.rows, c.status = channelStatusEnabled → c.getRoutingModels codec ≠ [] →
        c.CleanGroups := by
  have hloop := (foldlM_addEntry (entries codec table.rows)
    (emptyIndex (allAbilities codec table))).1
  have hrebuild : (∃ cache, rebuild codec old table = some cache) ↔
      ∃ index, (entries codec table.rows).foldlM addEntry
        (emptyIndex (allAbilities codec table)) = some index := by
    constructor
    · rintro ⟨cache, h⟩
      obtain ⟨index, hindex, -⟩ := rebuild_eq_some h
      exact ⟨index, hindex⟩
    · rintro ⟨index, hindex⟩
      unfold rebuild reloadChannelCache
      rw [hindex]
      exact ⟨_, rfl⟩
  rw [hrebuild, hloop]
  constructor
  · intro h c hc hstatus hmodels piece hpiece
    obtain ⟨m, hm⟩ := exists_mem_of_ne_nil _ hmodels
    have hentry : (piece, m, c.id) ∈ entries codec table.rows :=
      mem_entries.mpr ⟨c, hc, rfl, hstatus, hpiece, hm⟩
    exact clean_of_mem_allAbilities (isSome_emptyIndex.mp (h _ hentry))
  · rintro h ⟨g, m, id⟩ hentry
    obtain ⟨c, hc, rfl, hstatus, hg, hm⟩ := mem_entries.mp hentry
    have hmodels : c.getRoutingModels codec ≠ [] := ne_nil_of_mem hm
    rw [← Channel.getGroups_of_clean (h c hc hstatus hmodels)] at hg
    obtain ⟨a, ha, hag⟩ := Channel.exists_ability_of_mem_getGroups hg hmodels
    exact isSome_emptyIndex.mpr
      (mem_map.mpr ⟨a, mem_flatMap.mpr ⟨c, hc, ha⟩, hag⟩)

theorem loadChannels_loadChannels (old : Int → Option Channel) (table : Table Channel) :
    loadChannels codec (loadChannels codec old table) table = loadChannels codec old table := by
  funext id
  rw [loadChannels]
  cases hfind : table.find? id with
  | none => rw [loadChannels, hfind]; rfl
  | some c =>
    have hid : c.id = id := Table.key_of_find? hfind
    have hcached : loadChannels codec old table c.id = some (cacheChannel codec old c) := by
      rw [loadChannels, hid, hfind]
      rfl
    rw [Option.map_some, cacheChannel_of_cached hcached, ← hcached, hid]

theorem mirrors_rebuild (h : rebuild codec old table = some cache) : Mirrors codec table cache := by
  have hclean := exists_rebuild_iff.mp ⟨cache, h⟩
  obtain ⟨index, hindex, rfl⟩ := rebuild_eq_some h
  have hmem := (foldlM_addEntry (entries codec table.rows) _).2 index hindex
  refine ⟨?_, ?_, ?_⟩
  · intro g m id
    show id ∈ bucket (sortBuckets table.find? index) g m ↔ _
    rw [bucket_sortBuckets, mem_sortByPriority, hmem, bucket_emptyIndex, mem_entries, Lists]
    -- an entered channel has clean groups, so its pieces are its groups
    constructor
    · rintro (hnil | ⟨c, hc, hid, hstatus, hg, hm⟩)
      · exact absurd hnil not_mem_nil
      · have hgroups := Channel.getGroups_of_clean (hclean c hc hstatus (ne_nil_of_mem hm))
        exact ⟨c, hc, hid, hstatus, hgroups ▸ hg, hm⟩
    · rintro ⟨c, hc, hid, hstatus, hg, hm⟩
      have hgroups := Channel.getGroups_of_clean (hclean c hc hstatus (ne_nil_of_mem hm))
      exact Or.inr ⟨c, hc, hid, hstatus, hgroups ▸ hg, hm⟩
  · have hsorted : Ordered table.find? (sortBuckets table.find? index) := by
      intro g m
      rw [bucket_sortBuckets]
      exact pairwise_insertionSort _ _
    exact hsorted.of_rank (rank_loadChannels old table)
  · exact (loadChannels_loadChannels old table).symm

end RenewApi.Channels
