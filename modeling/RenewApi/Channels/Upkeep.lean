import RenewApi.Channels.Rebuild

/-! # Keeping the routing index up to date

Between two rebuilds the index is updated in place, one channel at a time. -/

namespace RenewApi.Channels

open Relational Text List Table Function

variable {codec : Codec} {table : Table Channel} {cache : RoutingCache} {id : Int}
  {channels : Int → Option Channel} {index i : Index} {present : Prop} {c : Channel} {β : Type}
  {f : Index → β → Index}

/-- An update of the index that settles whether `id` is listed in the buckets it touches, and leaves
every other membership alone. -/
def Settles (present : Prop) (id : Int) (touched : String → String → Prop) (i i' : Index) : Prop :=
  ∀ g m x, x ∈ bucket i' g m ↔
    (x = id ∧ touched g m ∧ present) ∨ (¬(x = id ∧ touched g m) ∧ x ∈ bucket i g m)

theorem Settles.foldl {touched : β → String → String → Prop}
    (hf : ∀ i b, Settles present id (touched b) i (f i b)) (l : List β) (i : Index) :
    Settles present id (fun g m => ∃ b ∈ l, touched b g m) i (l.foldl f i) := by
  induction l generalizing i with
  | nil =>
    intro g m x
    simp
  | cons b l ih =>
    intro g m x
    rw [foldl_cons, ih (f i b) g m x, hf i b g m x]
    by_cases hx : x = id
    · by_cases hb : touched b g m
      · by_cases hl : ∃ b ∈ l, touched b g m <;> simp [hx, hb, hl]
      · simp [hx, hb]
    · simp [hx]

theorem Settles.congr {touched touched' : String → String → Prop} {i' : Index}
    (h : Settles present id touched i i') (heq : ∀ g m, touched g m ↔ touched' g m) :
    Settles present id touched' i i' := by
  intro g m x
  rw [h g m x, heq]

theorem Ordered.foldl (hf : ∀ i b, Ordered channels i → Ordered channels (f i b)) (l : List β)
    (h : Ordered channels i) : Ordered channels (l.foldl f i) := by
  induction l generalizing i with
  | nil => exact h
  | cons b l ih => exact ih (hf i b h)

theorem Ordered.setBucket {models : String → Option (List Int)} {g m : String} {ids : List Int}
    (h : Ordered channels index) (hg : (index g).getD (fun _ => none) = models)
    (hids : ids.Pairwise (Before channels)) :
    Ordered channels (setBucket index models g m ids) := by
  intro g' m'
  rw [bucket_setBucket hg]
  split
  · exact hids
  · exact h g' m'

section

variable (id : Int) (index : Index) (g m : String)

theorem bucket_removeEntry (g' m' : String) :
    bucket (removeEntry id index g m) g' m' =
      if g' = g ∧ m' = m then (bucket index g' m').filter (· ≠ id) else bucket index g' m' := by
  unfold removeEntry
  cases hg : index g with
  | none =>
    dsimp only
    split
    · rename_i heq
      simp [bucket, heq.1, hg]
    · rfl
  | some models =>
    dsimp only
    cases hm : models m with
    | none =>
      dsimp only
      split
      · rename_i heq
        simp [bucket, heq.1, heq.2, hg, hm]
      · rfl
    | some ids =>
      rw [bucket_setBucket (by rw [hg]; rfl)]
      split
      · rename_i heq
        simp [bucket, heq.1, heq.2, hg, hm]
      · rfl

theorem settles_removeEntry :
    Settles False id (fun g' m' => g' = g ∧ m' = m) index (removeEntry id index g m) := by
  intro g' m' x
  rw [bucket_removeEntry]
  split
  · rename_i h
    simp [h, and_comm]
  · rename_i h
    simp [h]

variable {id index g m}

theorem Ordered.removeEntry (h : Ordered channels index) :
    Ordered channels (removeEntry id index g m) := by
  intro g' m'
  rw [bucket_removeEntry]
  split
  · exact (h g' m').filter _
  · exact h g' m'

theorem bucket_removeEverywhere (id : Int) (index : Index) (g m : String) :
    bucket (removeEverywhere id index) g m = (bucket index g m).filter (· ≠ id) := by
  unfold bucket removeEverywhere
  cases index g with
  | none => rfl
  | some models =>
    simp only [Option.map_some, Option.bind_some]
    cases models m with
    | none => rfl
    | some ids => rfl

end

section

@[simp] theorem bucket_ensureGroup (index : Index) (g g' m' : String) :
    bucket (ensureGroup index g) g' m' = bucket index g' m' := by
  unfold ensureGroup
  cases hg : index g with
  | none =>
    by_cases h : g' = g
    · simp [bucket, h, hg]
    · simp [bucket, h]
  | some => rfl

theorem settles_enterModel (index : Index) (g m : String) :
    Settles True id (fun g' m' => trimSpace m ≠ "" ∧ g' = g ∧ m' = trimSpace m) index
      (enterModel channels id g index m) := by
  intro g' m' x
  unfold enterModel
  by_cases hm : trimSpace m = ""
  · simp [hm]
  · rw [if_neg hm, bucket_setBucket rfl]
    split
    · rename_i heq
      obtain ⟨rfl, rfl⟩ := heq
      have hids : (((index g').getD fun _ => none) (trimSpace m)).getD [] =
          bucket index g' (trimSpace m) := by
        unfold bucket
        cases index g' <;> rfl
      rw [mem_sortByPriority, hids]
      by_cases hx : x = id
      · subst hx
        split
        · rename_i hmem
          simp [hm, hmem]
        · simp [hm]
      · split <;> simp [hx]
    · rename_i hne
      simp [hne]

theorem Ordered.enterModel (h : Ordered channels index) (g m : String) :
    Ordered channels (enterModel channels id g index m) := by
  unfold Channels.enterModel
  dsimp only
  split
  · exact h
  · exact h.setBucket rfl (pairwise_insertionSort _ _)

theorem settles_enterGroup (models : List String) (index : Index) (g : String) :
    Settles True id
      (fun g' m' => g ≠ "" ∧ ∃ m ∈ models, trimSpace m ≠ "" ∧ g' = g ∧ m' = trimSpace m) index
      (enterGroup channels models id index g) := by
  unfold enterGroup
  by_cases hg : g = ""
  · intro g' m' x
    simp [hg]
  · rw [if_neg hg]
    intro g' m' x
    rw [Settles.foldl (fun i m => settles_enterModel i g m) models (ensureGroup index g) g' m' x,
      bucket_ensureGroup]
    simp only [ne_eq, hg, not_false_eq_true, true_and]

theorem Ordered.enterGroup (h : Ordered channels index) (models : List String) (g : String) :
    Ordered channels (enterGroup channels models id index g) := by
  unfold Channels.enterGroup
  split
  · exact h
  · refine Ordered.foldl (fun i m hi => hi.enterModel g m) models fun g' m' => ?_
    rw [bucket_ensureGroup]
    exact h g' m'

end

theorem settles_disable (id : Int) (c : Channel) (index : Index) :
    Settles False id (Serves codec c) index (c.getGroups.foldl (fun index g =>
      (c.getRoutingModels codec).foldl (fun index m => removeEntry id index g (trimSpace m)) index)
        index) := by
  have hgroup := fun (i : Index) (g : String) => Settles.foldl
    (fun i m => settles_removeEntry id i g (trimSpace m)) (c.getRoutingModels codec) i
  refine (Settles.foldl hgroup c.getGroups index).congr fun g m => ?_
  constructor
  · rintro ⟨_, hg, m', hm, rfl, rfl⟩
    rw [(Channel.clean_of_mem_getRoutingModels hm).2]
    exact ⟨hg, hm⟩
  · rintro ⟨hg, hm⟩
    exact ⟨g, hg, m, hm, rfl, (Channel.clean_of_mem_getRoutingModels hm).2.symm⟩

theorem settles_enable (channels : Int → Option Channel) (id : Int) (c : Channel) (index : Index) :
    Settles True id (Serves codec c) index
      (c.getGroups.foldl (enterGroup channels (c.getRoutingModels codec) id) index) := by
  refine (Settles.foldl (settles_enterGroup (c.getRoutingModels codec)) c.getGroups index).congr
    fun g m => ?_
  constructor
  · rintro ⟨_, hg, -, m', hm, -, rfl, rfl⟩
    rw [(Channel.clean_of_mem_getRoutingModels hm).2]
    exact ⟨hg, hm⟩
  · rintro ⟨hg, hm⟩
    have hclean := Channel.clean_of_mem_getRoutingModels hm
    have hne : trimSpace m ≠ "" := hclean.2.symm ▸ hclean.1
    exact ⟨g, hg, (Channel.clean_of_mem_getGroups hg).1, m, hm, hne, rfl, hclean.2.symm⟩

/-! ## Status changes of the table -/

theorem setStatus_of_none (h : table.find? id = none) (status : Int) :
    setStatus table id status = table := by
  apply ext_rows
  show table.rows.map (fun c => if (c.id == id) = true then _ else c) = table.rows
  rw [map_congr_left (g := fun c => c), map_id']
  intro c hc
  have hne : c.id ≠ id := fun heq => by
    have hfind := find?_of_mem hc
    rw [key_channel, heq, h] at hfind
    cases hfind
  simp [hne]

theorem lists_setStatus (h : table.find? id = some c) (status : Int) (g m : String) (x : Int) :
    Lists codec (setStatus table id status) g m x ↔
      (x = id ∧ Serves codec c g m ∧ status = channelStatusEnabled) ∨
      (x ≠ id ∧ Lists codec table g m x) := by
  constructor
  · rintro ⟨c', hc', rfl, hstatus, hg, hm⟩
    obtain ⟨row, hrow, rfl⟩ := mem_updateWhere hc'
    by_cases hid : row.id = id
    · obtain rfl := eq_of_find? h hrow hid
      simp only [hid, beq_self_eq_true, if_true] at hstatus hg hm ⊢
      exact Or.inl ⟨trivial, ⟨hg, hm⟩, hstatus⟩
    · simp only [beq_iff_eq, hid, if_false] at hstatus hg hm ⊢
      exact Or.inr ⟨hid, row, hrow, rfl, hstatus, hg, hm⟩
  · rintro (⟨rfl, ⟨hg, hm⟩, hstatus⟩ | ⟨hne, c', hc', rfl, hstatus, hg, hm⟩)
    · have hid : c.id = x := key_of_find? h
      refine ⟨{ c with status := status }, ?_, hid, hstatus, hg, hm⟩
      refine mem_map.mpr ⟨c, mem_of_find? h, ?_⟩
      simp [hid]
    · refine ⟨c', mem_map.mpr ⟨c', hc', ?_⟩, rfl, hstatus, hg, hm⟩
      simp [hne]

/-- A rebuild looks at the cached channels only for their `channel_info`. -/
theorem loadChannels_congr {old old' : Int → Option Channel} (table : Table Channel)
    (h : ∀ k, (old' k).map Channel.channelInfo = (old k).map Channel.channelInfo) :
    loadChannels codec old' table = loadChannels codec old table := by
  funext k
  unfold loadChannels
  congr 1
  funext c
  have hc := h c.id
  unfold cacheChannel
  cases hold : old c.id with
  | none =>
    rw [hold] at hc
    rw [Option.map_eq_none_iff.mp hc]
  | some o =>
    rw [hold] at hc
    obtain ⟨o', ho', hinfo⟩ := Option.map_eq_some_iff.mp hc
    rw [ho']
    simp only [hinfo]

theorem loadChannels_setStatus (old : Int → Option Channel) (h : table.find? id = some c)
    (status : Int) : loadChannels codec old (setStatus table id status) =
      update (loadChannels codec old table) id
        (some { cacheChannel codec old c with status := status }) := by
  funext k
  simp only [loadChannels, setStatus, find?_updateWhere, beq_iff_eq]
  by_cases hk : k = id
  · subst hk
    have hid : c.id = k := key_of_find? h
    rw [update_self, h, Option.map_some, Option.map_some, if_pos hid, cacheChannel_setStatus]
  · rw [update_of_ne hk, loadChannels]
    cases hfind : table.find? k with
    | none => rfl
    | some row =>
      have hid : row.id = k := key_of_find? hfind
      rw [Option.map_some, if_neg (hid ▸ hk)]

/-! ## Updates keep the mirror -/

/-- An update of a channel that nobody knows changes no membership. -/
theorem Mirrors.update_unknown (h : Mirrors codec table cache) (hnone : cache.channelsIDM id = none)
    (status : Int) :
    Mirrors codec (setStatus table id status) (cacheUpdateChannelStatus codec cache id status) := by
  have hfind : table.find? id = none := by
    have hload := congrFun h.channels id
    rw [hnone, loadChannels] at hload
    exact Option.map_eq_none_iff.mp hload.symm
  rw [setStatus_of_none hfind, cacheUpdateChannelStatus, hnone]
  dsimp only
  split
  · refine ⟨fun g m x => ?_, fun g m => ?_, h.channels⟩
    · show x ∈ bucket (removeEverywhere id cache.group2model2channels) g m ↔ _
      rw [bucket_removeEverywhere, mem_filter, ← h.mem_bucket]
      refine ⟨fun hx => hx.1, fun hx => ⟨hx, ?_⟩⟩
      -- a listed id has a row, and `id` has none
      obtain ⟨c, hc, rfl, -⟩ := (h.mem_bucket g m x).mp hx
      have hrow : table.find? c.id = some c := find?_of_mem hc
      simp only [ne_eq, decide_not, Bool.not_eq_eq_eq_not, Bool.not_true, decide_eq_false_iff_not]
      rintro rfl
      rw [hrow] at hfind
      cases hfind
    · show (bucket (removeEverywhere id cache.group2model2channels) g m).Pairwise _
      rw [bucket_removeEverywhere]
      exact (h.ordered g m).filter _
  · exact h

/-- **One update keeps the mirror**, for every channel, status and group text. -/
theorem Mirrors.update (h : Mirrors codec table cache) (id status : Int) :
    Mirrors codec (setStatus table id status) (cacheUpdateChannelStatus codec cache id status) := by
  cases hcached : cache.channelsIDM id with
  | none => exact h.update_unknown hcached status
  | some cached =>
    -- the cached channel is a row with the same groups and models
    have hload := congrFun h.channels id
    rw [hcached, loadChannels] at hload
    obtain ⟨c, hfind, rfl⟩ := Option.map_eq_some_iff.mp hload.symm
    obtain ⟨keys, idx, heq⟩ := cacheChannel_eq codec cache.channelsIDM c
    obtain ⟨new, hnew⟩ : ∃ new : Channel, new = { cacheChannel codec cache.channelsIDM c with
      status := status } := ⟨_, rfl⟩
    have hgroups : new.getGroups = c.getGroups := by
      rw [hnew, heq]
      rfl
    have hmodels : new.getRoutingModels codec = c.getRoutingModels codec := by
      rw [hnew, heq]
      rfl
    -- the channels differ in the status of one of them only
    have hkeep : ∀ {β : Type} (f : Channel → β), f new = f (cacheChannel codec cache.channelsIDM c) →
        ∀ k, (Function.update cache.channelsIDM id (some new) k).map f = (cache.channelsIDM k).map f := by
      intro β f hf k
      by_cases hk : k = id
      · subst hk
        rw [update_self, hcached, Option.map_some, Option.map_some, hf]
      · rw [update_of_ne hk]
    -- the new channel map is the one a rebuild from the changed table would publish
    have hchannels : Function.update cache.channelsIDM id (some new) = loadChannels codec
        (Function.update cache.channelsIDM id (some new)) (setStatus table id status) := by
      rw [loadChannels_congr _ (hkeep _ (by rw [hnew])), hnew, loadChannels_setStatus _ hfind,
        ← h.channels]
    have hordered := h.ordered.of_rank (hkeep Channel.getPriority (by rw [hnew]; rfl))
    -- `id` is listed only where it serves, so the buckets it does not serve are right already
    have hserves : ∀ g m, id ∈ cache.bucket g m → Serves codec c g m := by
      intro g m hmem
      obtain ⟨row, hrow, hid, -, hg, hm⟩ := (h.mem_bucket g m id).mp hmem
      exact eq_of_find? hfind hrow hid ▸ ⟨hg, hm⟩
    have hlists : ∀ (present : Prop) (index : Index), (status = channelStatusEnabled ↔ present) →
        Settles present id (Serves codec c) cache.group2model2channels index →
          ∀ g m x, x ∈ bucket index g m ↔ Lists codec (setStatus table id status) g m x := by
      intro present index hpresent hsettles g m x
      rw [hsettles g m x, lists_setStatus hfind, hpresent, ← h.mem_bucket]
      constructor
      · rintro (hin | ⟨hnot, hmem⟩)
        · exact Or.inl hin
        · exact Or.inr ⟨fun hx => hnot ⟨hx, hserves g m (hx ▸ hmem)⟩, hmem⟩
      · rintro (hin | ⟨hne, hmem⟩)
        · exact Or.inl hin
        · exact Or.inr ⟨fun hx => hne hx.1, hmem⟩
    rw [cacheUpdateChannelStatus, hcached]
    dsimp only
    rw [← hnew, hgroups, hmodels]
    split
    · rename_i hstatus
      refine ⟨hlists False _ (by simpa using hstatus) (settles_disable id c _), ?_, hchannels⟩
      exact Ordered.foldl (fun i g hi => Ordered.foldl (fun i m hi => hi.removeEntry) _ hi) _ hordered
    · rename_i hstatus
      refine ⟨hlists True _ (by simpa using hstatus) (settles_enable _ id c _), ?_, hchannels⟩
      exact Ordered.foldl (fun i g hi => hi.enterGroup _ g) _ hordered

/-! ## Sequences of updates -/

/-- The cache after a sequence of calls of `CacheUpdateChannelStatus`, each a channel and a
status. -/
def updateAll (codec : Codec) (cache : RoutingCache) (calls : List (Int × Int)) : RoutingCache :=
  calls.foldl (fun cache call => cacheUpdateChannelStatus codec cache call.1 call.2) cache

/-- The table with the same status changes applied. -/
def setAll (table : Table Channel) (calls : List (Int × Int)) : Table Channel :=
  calls.foldl (fun table call => setStatus table call.1 call.2) table

theorem Mirrors.updateAll (h : Mirrors codec table cache) (calls : List (Int × Int)) :
    Mirrors codec (setAll table calls) (updateAll codec cache calls) := by
  induction calls generalizing table cache with
  | nil => exact h
  | cons call calls ih => exact ih (h.update call.1 call.2)

def CleanGroups (codec : Codec) (table : Table Channel) : Prop :=
  ∀ c ∈ table.rows, c.getRoutingModels codec ≠ [] → c.CleanGroups

theorem CleanGroups.setAll (h : CleanGroups codec table) (calls : List (Int × Int)) :
    CleanGroups codec (setAll table calls) := by
  induction calls generalizing table with
  | nil => exact h
  | cons call calls ih =>
    refine ih fun c hc => ?_
    obtain ⟨row, hrow, rfl⟩ := mem_updateWhere hc
    split
    · exact h row hrow
    · exact h row hrow

/-- Two caches that route alike: equal channel maps, and buckets equal as sets and in priority
order. -/
structure SameRouting (a b : RoutingCache) : Prop where
  mem_bucket : ∀ g m id, id ∈ a.bucket g m ↔ id ∈ b.bucket g m
  ordered : Ordered a.channelsIDM a.group2model2channels
  ordered' : Ordered b.channelsIDM b.group2model2channels
  channels : a.channelsIDM = b.channelsIDM

/-- **The routing index stays equal to a full rebuild**: a rebuild lists exactly the enabled
channels of each group and model, and after every sequence of updates another one would give the
same routing. -/
def StaysRebuilt (codec : Codec) (table : Table Channel) : Prop :=
  ∀ old, ∃ cache, rebuild codec old table = some cache ∧
    (∀ g m id, id ∈ cache.bucket g m ↔ Lists codec table g m id) ∧
    ∀ calls, ∃ fresh,
      rebuild codec (updateAll codec cache calls).channelsIDM (setAll table calls) = some fresh ∧
      SameRouting (updateAll codec cache calls) fresh

/-- **Exactly the tables with clean groups keep their index.** -/
theorem stays_rebuilt_iff (codec : Codec) (table : Table Channel) :
    StaysRebuilt codec table ↔ CleanGroups codec table := by
  constructor
  · intro h c hc hmodels
    -- enable the channel and rebuild
    obtain ⟨cache, -, -, hcalls⟩ := h fun _ => none
    obtain ⟨fresh, hfresh, -⟩ := hcalls [(c.id, channelStatusEnabled)]
    have hrow : { c with status := channelStatusEnabled } ∈
        (setAll table [(c.id, channelStatusEnabled)]).rows := by
      refine mem_map.mpr ⟨c, hc, ?_⟩
      simp
    have henabled := exists_rebuild_iff.mp ⟨fresh, hfresh⟩
    exact henabled { c with status := channelStatusEnabled } hrow rfl hmodels
  · intro hclean old
    obtain ⟨cache, hcache⟩ := exists_rebuild_iff.mpr fun c hc _ => hclean c hc
    have hmirrors := mirrors_rebuild hcache
    refine ⟨cache, hcache, hmirrors.mem_bucket, fun calls => ?_⟩
    obtain ⟨fresh, hfresh⟩ := exists_rebuild_iff.mpr fun c hc _ => hclean.setAll calls c hc
    have hupdated := hmirrors.updateAll calls
    have hrebuilt := mirrors_rebuild hfresh
    refine ⟨fresh, hfresh, fun g m id => (hupdated.mem_bucket g m id).trans
      (hrebuilt.mem_bucket g m id).symm, hupdated.ordered, hrebuilt.ordered, hupdated.channels.trans ?_⟩
    obtain ⟨index, -, rfl⟩ := rebuild_eq_some hfresh
    rfl

/-- A channel whose group text has a blank after the comma. -/
def spacedGroups : Table Channel where
  rows := [{ id := 1, group := "default, vip", models := "gpt-4o" }]
  nodup_keys := by decide

/-- The rebuild from that table faults. -/
theorem rebuild_spacedGroups_faults :
    rebuild Codec.plain (fun _ => none) spacedGroups = none ∧
      ¬StaysRebuilt Codec.plain spacedGroups := by
  have hfault : rebuild Codec.plain (fun _ => none) spacedGroups = none := rfl
  refine ⟨hfault, fun h => ?_⟩
  obtain ⟨cache, hcache, -⟩ := h fun _ => none
  cases hcache

end RenewApi.Channels
