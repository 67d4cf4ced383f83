import RenewApi.Channels.Support

/-! # Cache mode and database mode route alike

The candidates of both modes are brought down to the rows (`Usable`), and the tables for which the
two modes agree on every request are determined.

* **Uniform** tables: no ability row is lost to a clash of keys, channels of one level either all
  have weight or none has, and a normalised model name reaches no further channel. -/

namespace RenewApi.Channels

open Relational Text Draw List Table

variable {codec : Codec} {tables : RoutingTables} {now : Int} {q : DrawRequest} {g m : String}

/-- Abilities are as `buildAbilities` expands them, status rows as they are written. -/
structure Consistent (codec : Codec) (tables : RoutingTables) : Prop where
  abilities : tables.abilities = allAbilities codec tables.channels
  positive : ∀ c ∈ tables.channels.rows, 0 < c.id
  /-- Status rows are normalised, as every statement that writes them does. -/
  normalised : ∀ r ∈ tables.statuses.rows, 0 < r.channelId ∧ r.modelName ≠ "" ∧
    normalizeChannelModelStatusGroup r.group = r.group ∧ trimSpace r.modelName = r.modelName

theorem Consistent.id_ne (hc : Consistent codec tables) :
    ∀ c ∈ tables.channels.rows, c.id ≠ 0 := fun c hrow => (hc.positive c hrow).ne'

def StatusDisables (statuses : Table ChannelModelStatus) (now : Int) (g m : String) (id : Int) :
    Prop :=
  ∃ r ∈ statuses.rows, r.channelId = id ∧ r.group = normalizeChannelModelStatusGroup g ∧
    r.modelName = trimSpace m ∧ isChannelModelStatusDisabled r now = true

theorem normalizeChannelModelStatusGroup_idem (g : String) :
    normalizeChannelModelStatusGroup (normalizeChannelModelStatusGroup g) =
      normalizeChannelModelStatusGroup g := by
  unfold normalizeChannelModelStatusGroup
  by_cases h : trimSpace g = "" ∨ (trimSpace g).toList.map Char.toLower = "auto".toList
  · rw [if_pos h]
    decide
  · rw [if_neg h, trimSpace_trimSpace, if_neg h]

theorem isChannelModelStatusDisabled_normalize (r : ChannelModelStatus) :
    isChannelModelStatusDisabled (normalizeChannelModelStatusRecord r) now =
      isChannelModelStatusDisabled r now := by
  unfold isChannelModelStatusDisabled normalizeChannelModelStatusRecord
  by_cases hzero : r.status = 0
  · rw [hzero]
    rfl
  · rw [if_neg hzero]

theorem reloadChannelModelStatusCache_eq (hc : Consistent codec tables)
    (key : Int × String × String) :
    reloadChannelModelStatusCache tables.statuses key =
      (tables.statuses.find? key).map normalizeChannelModelStatusRecord := by
  -- a normalised row is found under the key made of its own columns
  have hkey : ∀ r ∈ tables.statuses.rows,
      storedUnder key (normalizeChannelModelStatusRecord r) = true ↔ Row.key r = key := by
    intro r hr
    obtain ⟨hid, hname, hgroup, htrim⟩ := hc.normalised r hr
    have hcolumns : channelModelStatusCacheKey (normalizeChannelModelStatusRecord r).channelId
        (normalizeChannelModelStatusRecord r).group
        (normalizeChannelModelStatusRecord r).modelName = Row.key r := by
      simp only [channelModelStatusCacheKey, normalizeChannelModelStatusRecord, hgroup, htrim,
        key_channelModelStatus]
    have hname' : (normalizeChannelModelStatusRecord r).modelName ≠ "" := by
      simpa only [normalizeChannelModelStatusRecord, htrim] using hname
    rw [storedUnder, decide_eq_true_eq, hcolumns]
    have hid' : 0 < (normalizeChannelModelStatusRecord r).channelId := by
      simpa only [normalizeChannelModelStatusRecord] using hid
    exact ⟨fun h => h.2.2, fun h => ⟨hid', hname', h⟩⟩
  unfold reloadChannelModelStatusCache
  cases hfind : tables.statuses.find? key with
  | none =>
    rw [Option.map_none, find?_eq_none]
    intro r' hr'
    obtain ⟨r, hr, rfl⟩ := mem_map.mp (mem_reverse.mp hr')
    exact fun h => find?_eq_none_iff.mp hfind r hr ((hkey r hr).mp h)
  | some r =>
    have hr := mem_of_find? hfind
    have hmatch := (hkey r hr).mpr (key_of_find? hfind)
    obtain ⟨r', hr'⟩ := Option.isSome_iff_exists.mp (find?_isSome.mpr
      ⟨_, mem_reverse.mpr (mem_map_of_mem hr), hmatch⟩)
    rw [hr', Option.map_some]
    obtain ⟨r₀, hr₀, rfl⟩ := mem_map.mp (mem_reverse.mp (mem_of_find?_eq_some hr'))
    have hkey₀ := (hkey r₀ hr₀).mp (find?_some hr')
    rw [eq_of_find? hfind hr₀ hkey₀]

theorem disabledByCacheKey_iff (hc : Consistent codec tables) (id : Int) :
    isChannelModelStatusDisabledByCacheKey tables.statuses now (channelModelStatusCacheKey id g m) =
      true ↔ StatusDisables tables.statuses now g m id := by
  rw [isChannelModelStatusDisabledByCacheKey, reloadChannelModelStatusCache_eq hc, Option.any_map]
  constructor
  · intro h
    obtain ⟨r, hfind, hdisabled⟩ := (Option.any_eq_true _ _).mp h
    have hkey := key_of_find? hfind
    simp only [key_channelModelStatus, channelModelStatusCacheKey, Prod.mk.injEq] at hkey
    refine ⟨r, mem_of_find? hfind, hkey.1, hkey.2.1, hkey.2.2, ?_⟩
    rwa [isChannelModelStatusDisabled_normalize] at hdisabled
  · rintro ⟨r, hr, rfl, hgroup, hname, hdisabled⟩
    have hfind := find?_of_mem hr
    rw [key_channelModelStatus, hgroup, hname] at hfind
    rw [channelModelStatusCacheKey, hfind, Option.any_some, isChannelModelStatusDisabled_normalize,
      hdisabled]

variable {id : Int} {ids : List Int}

/-- With the cache off, a status disables exactly when a row does. -/
theorem mem_filterChannelIDsByModelStatus (hc : Consistent codec tables) :
    id ∈ filterChannelIDsByModelStatus tables.statuses now ids (normalizeChannelModelStatusGroup g)
      (trimSpace m) ↔ id ∈ ids ∧ ¬StatusDisables tables.statuses now g m id := by
  have hstatus : ∀ r : ChannelModelStatus, isChannelModelStatusDisabled r now = true →
      r.status = channelStatusAutoDisabled ∨ r.status = channelStatusManuallyDisabled := by
    intro r h
    unfold isChannelModelStatusDisabled at h
    split at h
    · exact Or.inr ‹_›
    · split at h
      · exact Or.inl ‹_›
      · cases h
  unfold filterChannelIDsByModelStatus
  dsimp only
  rw [normalizeChannelModelStatusGroup_idem, trimSpace_trimSpace]
  split
  · -- no row has an empty model name
    rename_i hempty
    refine (and_iff_left_of_imp fun _ => ?_).symm
    rintro ⟨r, hr, -, -, hname, -⟩
    exact (hc.normalised r hr).2.1 (hname.trans hempty)
  · rw [mem_filter]
    refine and_congr_right fun hid => ?_
    rw [decide_eq_true_eq, mem_map]
    refine not_congr ⟨?_, ?_⟩
    · rintro ⟨r, hr, rfl⟩
      obtain ⟨hsel, hdisabled⟩ := mem_filter.mp hr
      obtain ⟨hrow, hcond⟩ := mem_filter.mp hsel
      simp only [Bool.and_eq_true, beq_iff_eq, decide_eq_true_eq] at hcond
      exact ⟨r, hrow, rfl, hcond.1.2, hcond.1.1.2, hdisabled⟩
    · rintro ⟨r, hr, rfl, hgroup, hname, hdisabled⟩
      refine ⟨r, mem_filter.mpr ⟨mem_filter.mpr ⟨hr, ?_⟩, hdisabled⟩, rfl⟩
      simp only [Bool.and_eq_true, Bool.or_eq_true, beq_iff_eq, decide_eq_true_eq]
      exact ⟨⟨⟨hid, hname⟩, hgroup⟩, hstatus r hdisabled⟩

/-! ## Candidates in terms of rows -/

/-- **A channel can serve a group and a model**: it is enabled, has both, is no mock and is not
disabled for the model. -/
def Usable (codec : Codec) (tables : RoutingTables) (now : Int) (g m : String) (c : Channel) : Prop :=
  c ∈ tables.channels.rows ∧ c.status = channelStatusEnabled ∧ Serves codec c g m ∧
    c.type ≠ channelTypeMock ∧ ¬StatusDisables tables.statuses now g m c.id

def DrawRequest.Accepts (q : DrawRequest) (c : Channel) : Prop :=
  c.id ∉ q.excluded ∧ policyMatches q.policy c = true

theorem profile_cacheChannel (codec : Codec) (old : Int → Option Channel) (c : Channel)
    (policy : Option ChannelRoutingPolicy) :
    (cacheChannel codec old c).profile policy = c.profile policy ∧
      (cacheChannel codec old c).id = c.id ∧ (cacheChannel codec old c).type = c.type ∧
      policyMatches policy (cacheChannel codec old c) = policyMatches policy c := by
  obtain ⟨keys, idx, heq⟩ := cacheChannel_eq codec old c
  rw [heq]
  exact ⟨rfl, rfl, rfl, rfl⟩

variable {x : Profile} {cache : RoutingCache}

/-- **The candidates in the cache** are the usable channels that the request accepts. -/
theorem mem_cacheProfiles_iff (hc : Consistent codec tables)
    (hmirrors : Mirrors codec tables.channels cache) :
    x ∈ cacheProfiles cache tables.statuses now q g m ↔
      ∃ c, Usable codec tables now g m c ∧ q.Accepts c ∧ c.profile q.policy = x := by
  have hselectable : ∀ c, selectable tables.statuses now q g m
        (cacheChannel codec cache.channelsIDM c) = true ↔
      c.type ≠ channelTypeMock ∧ ¬StatusDisables tables.statuses now g m c.id ∧ q.Accepts c := by
    intro c
    obtain ⟨-, hid, htype, hpolicy⟩ := profile_cacheChannel codec cache.channelsIDM c q.policy
    rw [selectable, hid, htype, hpolicy, ← disabledByCacheKey_iff hc]
    simp only [Bool.and_eq_true, Bool.not_eq_true', decide_eq_false_iff_not, bne_iff_ne,
      Bool.not_eq_true, DrawRequest.Accepts]
    tauto
  constructor
  · rintro ⟨cached, hcached, rfl⟩
    obtain ⟨hentry, hok⟩ := mem_filter.mp hcached
    rw [snapshotEntries, (perm_insertionSort _ _).mem_iff] at hentry
    obtain ⟨id, hid, hchannel⟩ := mem_filterMap.mp hentry
    obtain ⟨c, hrow, rfl, hstatus, hg, hm⟩ := (hmirrors.mem_bucket g m id).mp hid
    rw [hmirrors.channelsIDM_of_mem hrow] at hchannel
    cases hchannel
    obtain ⟨hmock, hdisabled, haccepts⟩ := (hselectable c).mp hok
    exact ⟨c, ⟨hrow, hstatus, ⟨hg, hm⟩, hmock, hdisabled⟩, haccepts,
      (profile_cacheChannel codec cache.channelsIDM c q.policy).1.symm⟩
  · rintro ⟨c, ⟨hrow, hstatus, ⟨hg, hm⟩, hmock, hdisabled⟩, haccepts, rfl⟩
    refine ⟨cacheChannel codec cache.channelsIDM c, mem_filter.mpr ⟨?_, ?_⟩,
      (profile_cacheChannel codec cache.channelsIDM c q.policy).1⟩
    · rw [snapshotEntries, (perm_insertionSort _ _).mem_iff]
      exact mem_filterMap.mpr ⟨c.id,
        (hmirrors.mem_bucket g m c.id).mpr ⟨c, hrow, rfl, hstatus, hg, hm⟩,
        hmirrors.channelsIDM_of_mem hrow⟩
    · exact (hselectable c).mpr ⟨hmock, hdisabled, haccepts⟩

/-- **The candidates in the database** are the usable channels that the request accepts and whose
ability row exists. -/
theorem mem_abilityProfiles_iff (hc : Consistent codec tables) :
    x ∈ abilityProfiles tables now q g m ↔
      ∃ c, Usable codec tables now g m c ∧ q.Accepts c ∧ c.ability (g, m) ∈ tables.abilities ∧
        c.profile q.policy = x := by
  have hprofile : ∀ c ∈ tables.channels.rows,
      (c.ability (g, m)).profile tables.channels q.policy = c.profile q.policy := by
    intro c hrow
    have hfind : tables.channels.find? c.id = some c := find?_of_mem hrow
    simp only [Ability.profile, routingRank, Channel.ability, hfind]
    rfl
  constructor
  · rintro ⟨a, ha, rfl⟩
    obtain ⟨⟨hmem, rfl, rfl, henabled⟩, hexcluded, hallowed, c', hfind, hmock, hpolicy⟩ :=
      mem_candidateAbilities.mp ha
    have hrow := hmem
    rw [hc.abilities] at hrow
    obtain ⟨c, hrow, hbuilt⟩ := mem_flatMap.mp hrow
    obtain ⟨hg, hm, heq⟩ := Channel.mem_of_mem_buildAbilities hbuilt
    -- the row names its channel by id, and ids are unique
    have hid : a.channelId = c.id := by rw [heq]; rfl
    obtain rfl : c = c' := eq_of_find? hfind hrow hid.symm
    have hstatus : c.status = channelStatusEnabled := by
      rw [heq] at henabled
      simpa [Channel.ability] using henabled
    have hdisabled := ((mem_filterChannelIDsByModelStatus hc).mp hallowed).2
    refine ⟨c, ⟨hrow, hstatus, ⟨hg, hm⟩, hmock, hid ▸ hdisabled⟩, ⟨hid ▸ hexcluded, hpolicy⟩,
      heq ▸ hmem, ?_⟩
    rw [← hprofile c hrow, ← heq]
  · rintro ⟨c, ⟨hrow, hstatus, -, hmock, hdisabled⟩, ⟨hexcluded, hpolicy⟩, hmem, rfl⟩
    refine ⟨c.ability (g, m), mem_candidateAbilities.mpr ⟨⟨hmem, rfl, rfl, ?_⟩, hexcluded, ?_,
      c, find?_of_mem hrow, hmock, hpolicy⟩, hprofile c hrow⟩
    · simpa [Channel.ability] using hstatus
    · refine (mem_filterChannelIDsByModelStatus hc).mpr ⟨?_, hdisabled⟩
      refine mem_map_of_mem (mem_filter.mpr ⟨mem_enabledAbilities.mpr
        ⟨hmem, rfl, rfl, ?_⟩, decide_eq_true hexcluded⟩)
      simpa [Channel.ability] using hstatus

/-! ## Uniform tables -/

/-- **Tables on which both modes route alike.** -/
structure Uniform (codec : Codec) (tables : RoutingTables) (now : Int) : Prop where
  rows : ∀ g m c, Usable codec tables now g m c → c.ability (g, m) ∈ tables.abilities
  /-- Usable channels of one group, model and priority all have weight or all have none. -/
  weights : ∀ g m c c', Usable codec tables now g m c → Usable codec tables now g m c' →
    c.getPriority = c'.getPriority → c.getWeight = 0 → c'.getWeight = 0
  /-- A channel that is usable under the normalised name is usable under the name itself. -/
  names : ∀ g m c, formatMatchingModelName m ≠ "" →
    Usable codec tables now g (formatMatchingModelName m) c → Usable codec tables now g m c

/-- What cache mode can return for a group and a model, the second attempt included. -/
theorem exists_drawFromCache_iff {statuses : Table ChannelModelStatus} :
    (∃ draw, drawFromCache cache statuses now q g m draw = .ok (some id)) ↔
      (∃ draw, selectRandomChannelFromSnapshot cache statuses now q g m draw = .ok (some id)) ∨
      cacheProfiles cache statuses now q g m = ∅ ∧
        (formatMatchingModelName m ≠ "" ∧ formatMatchingModelName m ≠ m) ∧
        ∃ draw, selectRandomChannelFromSnapshot cache statuses now q g (formatMatchingModelName m)
          draw = .ok (some id) := by
  have hempty : cacheProfiles cache statuses now q g m = ∅ ↔
      cacheCandidates cache statuses now q g m = [] := by
    rw [Set.eq_empty_iff_forall_notMem, eq_nil_iff_forall_not_mem]
    exact ⟨fun h c hc => h _ ⟨c, hc, rfl⟩, fun h x ⟨c, hc, _⟩ => h c hc⟩
  constructor
  · rintro ⟨draw, h⟩
    rw [drawFromCache] at h
    rcases selectRandom_cases draw with ⟨hnil, hnone⟩ | ⟨p, id', hlevel, hsome, -⟩
    · rw [hnone] at h
      dsimp only at h
      split at h
      · cases h
      · rename_i hname
        rw [not_or] at hname
        exact Or.inr ⟨hempty.mpr hnil, hname, draw, h⟩
    · rw [hsome] at h
      cases h
      exact Or.inl ⟨draw, hsome⟩
  · rintro (⟨draw, h⟩ | ⟨hnil, hname, draw, h⟩)
    · exact ⟨draw, by rw [drawFromCache, h]⟩
    · refine ⟨draw, ?_⟩
      rcases selectRandom_cases draw with ⟨-, hnone⟩ | ⟨p, id', hlevel, -, -⟩
      · rw [drawFromCache, hnone]
        rw [if_neg (not_or.mpr hname), h]
      · -- there is no level without candidates
        rw [hempty.mp hnil] at hlevel
        cases hlevel

/-! ## Requests that single channels out -/

/-- A request that excludes all channels but the given ones. -/
def only (tables : RoutingTables) (ids : List Int) : DrawRequest where
  retry := 0
  excluded := (tables.channels.rows.map Channel.id).filter (· ∉ ids)
  policy := none

variable {c : Channel}

theorem accepts_only (hrow : c ∈ tables.channels.rows) :
    (only tables ids).Accepts c ↔ c.id ∈ ids := by
  have hmem : c.id ∈ tables.channels.rows.map Channel.id := mem_map_of_mem hrow
  simp only [DrawRequest.Accepts, only, mem_filter, decide_eq_true_eq, not_and, not_not]
  exact ⟨fun h => h.1 hmem, fun h => ⟨fun _ => h, rfl⟩⟩

theorem chosen_of_level {S : Set Profile} {p r : Int} (h : ∀ y ∈ S, y.priority = p ∧ y.rank = r)
    {n : Nat} (hx : x ∈ S) : Chosen S n x := by
  refine ⟨hx, ⟨[p], fun k => ?_, ?_⟩, fun y hy _ => ?_⟩
  · rw [mem_singleton]
    constructor
    · rintro rfl
      exact ⟨x, hx, (h x hx).1⟩
    · rintro ⟨y, hy, rfl⟩
      exact (h y hy).1
  · rw [(h x hx).1]
    cases n with
    | zero => rfl
    | succ n => rfl
  · rw [(h x hx).2, (h y hy).2]

/-- A usable channel that is singled out is returned in cache mode. -/
theorem exists_selectRandom_only (hc : Consistent codec tables)
    (hmirrors : Mirrors codec tables.channels cache) (hc' : Usable codec tables now g m c) :
    ∃ draw, selectRandomChannelFromSnapshot cache tables.statuses now (only tables [c.id]) g m draw =
      .ok (some c.id) := by
  have hsingle : ∀ x, x ∈ cacheProfiles cache tables.statuses now (only tables [c.id]) g m ↔
      x = c.profile none := by
    intro x
    rw [mem_cacheProfiles_iff hc hmirrors]
    constructor
    · rintro ⟨c', husable, haccepts, rfl⟩
      rw [accepts_only husable.1, mem_singleton] at haccepts
      rw [eq_of_key husable.1 hc'.1 haccepts]
      rfl
    · rintro rfl
      exact ⟨c, hc', (accepts_only hc'.1).mpr mem_cons_self, rfl⟩
  have hchosen : ∀ n, Chosen (cacheProfiles cache tables.statuses now (only tables [c.id]) g m) n
      (c.profile none) := fun n =>
    chosen_of_level (p := c.getPriority) (r := 0)
      (fun y hy => by rw [(hsingle y).mp hy]; exact ⟨rfl, rfl⟩) ((hsingle _).mpr rfl)
  refine exists_selectRandom_iff.mpr ⟨c.profile none, hchosen _, rfl, ?_⟩
  rcases Nat.eq_zero_or_pos c.getWeight with hzero | hpos
  · exact Or.inr fun y hy => by
      rw [(hsingle y).mp hy.1]
      exact hzero
  · exact Or.inl hpos

/-! ## Agreement -/

/-- The two modes can return the same channels for every group, model and request. -/
def Agree (cache : RoutingCache) (tables : RoutingTables) (now : Int) : Prop :=
  ∀ g m q id, (∃ draw, drawFromCache cache tables.statuses now q g m draw = .ok (some id)) ↔
    ∃ draw, getChannelExcludingWithPolicy tables now q g m draw = .ok (some id)

section

variable {cache : RoutingCache} (hc : Consistent codec tables)
include hc

theorem Agree.usable (h : Agree cache tables now)
    (hdraw : ∃ draw, drawFromCache cache tables.statuses now q g m draw = .ok (some id)) :
    ∃ c, Usable codec tables now g m c ∧ c.ability (g, m) ∈ tables.abilities ∧ c.id = id := by
  obtain ⟨x, hx, rfl⟩ := (exists_getChannel_iff hc.id_ne).mp ((h g m q id).mp hdraw)
  obtain ⟨c, husable, -, hrow, rfl⟩ := (mem_abilityProfiles_iff hc).mp hx.1
  exact ⟨c, husable, hrow, rfl⟩

variable (hmirrors : Mirrors codec tables.channels cache)
include hmirrors

section

variable (h : Agree cache tables now)
include h

theorem Agree.rows
    (husable : Usable codec tables now g m c) : c.ability (g, m) ∈ tables.abilities := by
  have hdraw := exists_drawFromCache_iff.mpr (Or.inl (exists_selectRandom_only hc hmirrors husable))
  obtain ⟨c', husable', hrow, hsame⟩ := h.usable hc hdraw
  rwa [eq_of_key husable'.1 husable.1 hsame] at hrow

/-- Agreement needs even weights: of two channels singled out, only database mode returns one
without weight. -/
theorem Agree.weights {c' : Channel} (hu : Usable codec tables now g m c)
    (hu' : Usable codec tables now g m c') (hp : c.getPriority = c'.getPriority)
    (hzero : c.getWeight = 0) : c'.getWeight = 0 := by
  have ha : (only tables [c.id, c'.id]).Accepts c := (accepts_only hu.1).mpr (by simp)
  have ha' : (only tables [c.id, c'.id]).Accepts c' := (accepts_only hu'.1).mpr (by simp)
  -- both modes choose between the two channels
  have hlevel : ∀ c'', Usable codec tables now g m c'' → (only tables [c.id, c'.id]).Accepts c'' →
      (c''.profile none).priority = c.getPriority ∧ (c''.profile none).rank = 0 := by
    intro c'' hu'' ha''
    rw [accepts_only hu''.1, mem_pair] at ha''
    rcases ha'' with heq | heq
    · rw [eq_of_key hu''.1 hu.1 heq]
      exact ⟨rfl, rfl⟩
    · rw [eq_of_key hu''.1 hu'.1 heq]
      exact ⟨hp.symm, rfl⟩
  have hdb : ∀ y ∈ abilityProfiles tables now (only tables [c.id, c'.id]) g m,
      y.priority = c.getPriority ∧ y.rank = 0 := by
    intro y hy
    obtain ⟨c'', hu'', ha'', -, rfl⟩ := (mem_abilityProfiles_iff hc).mp hy
    exact hlevel c'' hu'' ha''
  have hca : ∀ y ∈ cacheProfiles cache tables.statuses now (only tables [c.id, c'.id]) g m,
      y.priority = c.getPriority ∧ y.rank = 0 := by
    intro y hy
    obtain ⟨c'', hu'', ha'', rfl⟩ := (mem_cacheProfiles_iff hc hmirrors).mp hy
    exact hlevel c'' hu'' ha''
  have hreturned := (h g m (only tables [c.id, c'.id]) c.id).mpr ((exists_getChannel_iff hc.id_ne).mpr
    ⟨_, chosen_of_level hdb ((mem_abilityProfiles_iff hc).mpr
      ⟨c, hu, ha, h.rows hc hmirrors hu, rfl⟩), rfl⟩)
  have hin : c.profile none ∈
      cacheProfiles cache tables.statuses now (only tables [c.id, c'.id]) g m :=
    (mem_cacheProfiles_iff hc hmirrors).mpr ⟨c, hu, ha, rfl⟩
  rcases exists_drawFromCache_iff.mp hreturned with hfirst | ⟨hempty, -⟩
  · obtain ⟨x, hx, hxid, hweight⟩ := exists_selectRandom_iff.mp hfirst
    obtain ⟨c'', hu'', -, rfl⟩ := (mem_cacheProfiles_iff hc hmirrors).mp hx.1
    have hsame : c'' = c := eq_of_key hu''.1 hu.1 hxid
    subst hsame
    have hall := hweight.resolve_left fun hpos => absurd hzero hpos.ne'
    exact hall _ (chosen_of_level hca ((mem_cacheProfiles_iff hc hmirrors).mpr ⟨c', hu', ha', rfl⟩))
  · rw [hempty] at hin
    exact absurd hin (Set.notMem_empty _)

/-- Agreement leaves nothing to the second attempt with the normalised name. -/
theorem Agree.names (hname : formatMatchingModelName m ≠ "")
    (hu : Usable codec tables now g (formatMatchingModelName m) c) : Usable codec tables now g m c := by
  by_cases hsame : formatMatchingModelName m = m
  · rwa [hsame] at hu
  · have hdraw : ∃ draw, drawFromCache cache tables.statuses now (only tables [c.id]) g m draw =
        .ok (some c.id) := by
      rw [exists_drawFromCache_iff]
      by_cases hempty : cacheProfiles cache tables.statuses now (only tables [c.id]) g m = ∅
      · exact Or.inr ⟨hempty, ⟨hname, hsame⟩, exists_selectRandom_only hc hmirrors hu⟩
      · -- somebody is usable under the name itself, and only `c` is accepted
        obtain ⟨x, hx⟩ := Set.nonempty_iff_ne_empty.mpr hempty
        obtain ⟨c', hu', ha', -⟩ := (mem_cacheProfiles_iff hc hmirrors).mp hx
        rw [accepts_only hu'.1, mem_singleton] at ha'
        rw [eq_of_key hu'.1 hu.1 ha'] at hu'
        exact Or.inl (exists_selectRandom_only hc hmirrors hu')
    obtain ⟨c', hu', -, hid⟩ := h.usable hc hdraw
    rwa [eq_of_key hu'.1 hu.1 hid] at hu'

end

theorem Uniform.agree (h : Uniform codec tables now) : Agree cache tables now := by
  intro g m q id
  have hsame : cacheProfiles cache tables.statuses now q g m = abilityProfiles tables now q g m := by
    ext x
    rw [mem_cacheProfiles_iff hc hmirrors, mem_abilityProfiles_iff hc]
    refine exists_congr fun c => and_congr_right fun hu => and_congr_right fun _ => ?_
    exact ⟨fun hx => ⟨h.rows g m c hu, hx⟩, fun hx => hx.2⟩
  rw [exists_drawFromCache_iff, exists_selectRandom_iff, exists_getChannel_iff hc.id_ne, ← hsame]
  constructor
  · rintro (⟨x, hx, hxid, -⟩ | ⟨hempty, ⟨hne, -⟩, hdraw⟩)
    · exact ⟨x, hx, hxid⟩
    · -- the second attempt has no candidate that the first did not have
      obtain ⟨x, hx, -⟩ := exists_selectRandom_iff.mp hdraw
      obtain ⟨c, hu, ha, -⟩ := (mem_cacheProfiles_iff hc hmirrors).mp hx.1
      have hin : c.profile q.policy ∈ cacheProfiles cache tables.statuses now q g m :=
        (mem_cacheProfiles_iff hc hmirrors).mpr ⟨c, h.names g m c hne hu, ha, rfl⟩
      rw [hempty] at hin
      exact absurd hin (Set.notMem_empty _)
  · rintro ⟨x, hx, hxid⟩
    refine Or.inl ⟨x, hx, hxid, ?_⟩
    rcases Nat.eq_zero_or_pos x.weight with hzero | hpos
    · refine Or.inr fun y hy => ?_
      have hp := hx.priority_eq hy
      obtain ⟨c, hu, -, rfl⟩ := (mem_cacheProfiles_iff hc hmirrors).mp hx.1
      obtain ⟨c', hu', -, rfl⟩ := (mem_cacheProfiles_iff hc hmirrors).mp hy.1
      exact h.weights g m c c' hu hu' hp hzero
    · exact Or.inl hpos

end

/-- **Cache mode and database mode route alike exactly on uniform tables**: with the cache freshly
reloaded from consistent tables, both can return the same channels for every request if and only if
the tables are uniform. -/
theorem routes_alike_iff {codec : Codec} {tables : RoutingTables} (hc : Consistent codec tables)
    {old : Int → Option Channel} {cache : RoutingCache}
    (hreload : reloadChannelCache codec old tables.channels tables.abilities = some cache)
    (now : Int) :
    (∀ g m q id, (∃ draw, drawFromCache cache tables.statuses now q g m draw = .ok (some id)) ↔
      ∃ draw, getChannelExcludingWithPolicy tables now q g m draw = .ok (some id)) ↔
    Uniform codec tables now := by
  have hmirrors : Mirrors codec tables.channels cache := by
    rw [hc.abilities] at hreload
    exact mirrors_rebuild hreload
  constructor
  · intro h
    have hagree : Agree cache tables now := h
    exact ⟨fun g m c hu => hagree.rows hc hmirrors hu,
      fun g m c c' hu hu' hp hzero => hagree.weights hc hmirrors hu hu' hp hzero,
      fun g m c hname hu => hagree.names hc hmirrors hname hu⟩
  · exact fun h => h.agree hc hmirrors

/-- Tables of two channels for one group and model, of equal priority, of which one has weight. -/
def mixedWeights : RoutingTables where
  channels :=
    { rows := [{ id := 1, group := "default", models := "gpt-4o" },
        { id := 2, group := "default", models := "gpt-4o", weight := some 5 }]
      nodup_keys := by decide }
  abilities := [⟨"default", "gpt-4o", 1, true, none, 0, none⟩,
    ⟨"default", "gpt-4o", 2, true, none, 5, none⟩]
  statuses := Table.empty

/-- The cache that is reloaded from these tables. -/
def mixedWeightsCache : RoutingCache :=
  (reloadChannelCache Codec.plain (fun _ => none) mixedWeights.channels mixedWeights.abilities).getD
    ⟨fun _ => none, fun _ => none⟩

theorem consistent_mixedWeights : Consistent Codec.plain mixedWeights where
  abilities := by decide
  positive := by decide
  normalised := by
    intro r hr
    exact absurd hr not_mem_nil

/-- A first attempt without exclusions and policy. -/
def plainRequest : DrawRequest := ⟨0, [], none⟩

/-- On these tables the database returns the channel without weight, and the cache never does. -/
theorem mixed_weights_route_apart :
    Consistent Codec.plain mixedWeights ∧
    reloadChannelCache Codec.plain (fun _ => none) mixedWeights.channels mixedWeights.abilities =
      some mixedWeightsCache ∧
    (∃ draw, getChannelExcludingWithPolicy mixedWeights 0 plainRequest "default" "gpt-4o" draw =
      .ok (some 1)) ∧
    ∀ draw, drawFromCache mixedWeightsCache mixedWeights.statuses 0 plainRequest "default" "gpt-4o"
      draw ≠ .ok (some 1) := by
  refine ⟨consistent_mixedWeights, rfl, ⟨16, rfl⟩, fun draw h => ?_⟩
  have hlevel : level (levels ((cacheCandidates mixedWeightsCache mixedWeights.statuses 0 plainRequest
      "default" "gpt-4o").map Channel.getPriority)) plainRequest.index = some 0 := by rfl
  rcases selectRandom_cases draw with ⟨hnil, -⟩ | ⟨p, id, hp, hsome, w, hw, hpos⟩
  · rw [hnil] at hlevel
    cases hlevel
  · rw [hlevel] at hp
    cases hp
    have hweights : (id, w) ∈ [((1 : Int), 0), (2, 500)] := hw
    rw [drawFromCache, hsome] at h
    cases h
    simp at hweights
    omega

theorem routes_alike_iff_mixedWeights :
    (∀ g m q id, (∃ draw, drawFromCache mixedWeightsCache mixedWeights.statuses 0 q g m draw =
        .ok (some id)) ↔
      ∃ draw, getChannelExcludingWithPolicy mixedWeights 0 q g m draw = .ok (some id)) ↔
    Uniform Codec.plain mixedWeights 0 :=
  routes_alike_iff consistent_mixedWeights
    (rfl : reloadChannelCache Codec.plain (fun _ => none) _ _ = some mixedWeightsCache) 0

end RenewApi.Channels
