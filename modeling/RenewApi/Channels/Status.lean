import RenewApi.Channels.Cache
import RenewApi.Channels.MultiKey

/-! # The status of a channel in its three places

With the memory cache on, `UpdateChannelStatus` writes the status of a channel to the cached
channel, to its row, and to its ability rows; each copy decides on its own whether there is anything
to do. -/

namespace RenewApi.Channels

open Relational Text Table Function

variable {id status : Int} {c row : Channel} {cache : RoutingCache}

/-- The three places where the status of a channel stands. -/
structure StatusStore where
  cache : RoutingCache
  channels : Table Channel
  abilities : List Ability

def updateAbilityStatus (abilities : List Ability) (channelId : Int) (enabled : Bool) : List Ability :=
  abilities.map fun a => if a.channelId = channelId then { a with enabled := enabled } else a

section

variable (codec : Codec) (note : Note)

/-- The part of `UpdateChannelStatus` that works on the database. -/
def updateDatabase (s : StatusStore) (call : StatusCall) : StatusStore × Bool :=
  match s.channels.find? call.channelId with
  | none => (s, false)
  | some row =>
    if row.status = call.status then
      ({ s with abilities :=
          updateAbilityStatus s.abilities call.channelId (call.status = channelStatusEnabled) }, false)
    else
      let saved := updatedRow codec note row call
      let shouldUpdateAbilities := !row.channelInfo.isMultiKey || row.status != saved.status
      ({ s with
        channels := s.channels.put saved
        abilities := if shouldUpdateAbilities then
          updateAbilityStatus s.abilities call.channelId (saved.status = channelStatusEnabled)
          else s.abilities }, true)

/-- The cache after the update of a cached channel with several keys: it is changed in place, and
its buckets follow its status. -/
def updateCached (cache : RoutingCache) (c : Channel) (call : StatusCall) : RoutingCache :=
  let updated := handlerMultiKeyUpdate codec note c call
  let cache :=
    { cache with channelsIDM := Function.update cache.channelsIDM call.channelId (some updated) }
  if c.status ≠ updated.status then
    cacheUpdateChannelStatus codec cache call.channelId updated.status
  else cache

/-- **`UpdateChannelStatus`** with the memory cache on. -/
def updateChannelStatus (s : StatusStore) (call : StatusCall) : StatusStore × Bool :=
  match s.cache.channelsIDM call.channelId with
  | none => (s, false)
  | some c =>
    if c.channelInfo.isMultiKey then
      updateDatabase codec note { s with cache := updateCached codec note s.cache c call } call
    else if c.status = call.status then
      ({ s with abilities :=
          updateAbilityStatus s.abilities call.channelId (call.status = channelStatusEnabled) }, false)
    else
      updateDatabase codec note
        { s with cache := cacheUpdateChannelStatus codec s.cache call.channelId call.status } call

end

/-! ## Agreement -/

structure SameStatus (codec : Codec) (c r : Channel) : Prop where
  keys : c.getKeys codec = r.getKeys codec
  multi : c.channelInfo.isMultiKey = r.channelInfo.isMultiKey
  status : c.status = r.status
  list : c.channelInfo.multiKeyStatusList = r.channelInfo.multiKeyStatusList

/-- A channel with several keys is only enabled with an enabled key. -/
def KeyBacked (codec : Codec) (r : Channel) : Prop :=
  r.channelInfo.isMultiKey = true → r.status = channelStatusEnabled →
    hasEnabledMultiKey (r.getKeys codec) r.channelInfo.multiKeyStatusList = true

section

variable (codec : Codec) (s : StatusStore)

/-- **The cache, the row and the ability rows agree** about one channel. -/
structure AgreeAt (id : Int) : Prop where
  present : s.cache.channelsIDM id = none ↔ s.channels.find? id = none
  same : ∀ c r, s.cache.channelsIDM id = some c → s.channels.find? id = some r → SameStatus codec c r
  abilities : ∀ r, s.channels.find? id = some r → ∀ a ∈ s.abilities, a.channelId = id →
    (a.enabled = true ↔ r.status = channelStatusEnabled)
  backed : ∀ r, s.channels.find? id = some r → KeyBacked codec r

/-- **They agree about every channel.** -/
def InAgreement : Prop := ∀ id, AgreeAt codec s id

/-- A call on a channel with several keys does not change one copy only, nor enable the channel
without an enabled key. -/
def HarmlessFor (keys : List String) (status : Int) (list : StatusList) (call : StatusCall) : Prop :=
  match keys.idxOf? call.usingKey with
  | some i =>
    status = call.status →
      if call.status = channelStatusEnabled then list.lookup i = none
      else list.lookup i = some call.status ∧
        (hasEnabledMultiKey keys list = true ∨ call.status = channelStatusAutoDisabled)
  | none =>
    call.status = channelStatusEnabled → status ≠ channelStatusEnabled →
      keys = [] ∨ call.usingKey = "" → hasEnabledMultiKey keys list = true

def Harmless (call : StatusCall) : Prop :=
  ∀ r, s.channels.find? call.channelId = some r → r.channelInfo.isMultiKey = true →
    HarmlessFor (r.getKeys codec) r.status r.channelInfo.multiKeyStatusList call

end

/-! ## What a call does -/

section

variable {codec : Codec} {note : Note} {s : StatusStore} {call : StatusCall}
  {abilities : List Ability} {enabled : Bool} {a : Ability}

theorem mem_updateAbilityStatus_of_ne (h : a.channelId ≠ id) :
    a ∈ updateAbilityStatus abilities id enabled ↔ a ∈ abilities := by
  rw [updateAbilityStatus, List.mem_map]
  constructor
  · rintro ⟨b, hb, rfl⟩
    split at h
    · exact absurd ‹b.channelId = id› h
    · rename_i hne
      rwa [if_neg hne]
  · intro ha
    exact ⟨a, ha, if_neg h⟩

theorem enabled_of_mem_updateAbilityStatus (ha : a ∈ updateAbilityStatus abilities id enabled)
    (h : a.channelId = id) : a.enabled = enabled := by
  obtain ⟨b, -, rfl⟩ := List.mem_map.mp ha
  split at h
  · rename_i hid
    rw [if_pos hid]
  · rename_i hne
    exact absurd h hne

theorem channelsIDM_cacheUpdateChannelStatus (h : cache.channelsIDM id = some c) :
    (cacheUpdateChannelStatus codec cache id status).channelsIDM =
      update cache.channelsIDM id (some { c with status := status }) := by
  rw [cacheUpdateChannelStatus, h]
  dsimp only
  split <;> rfl

theorem channelsIDM_updateCached (cache : RoutingCache) (c : Channel) :
    (updateCached codec note cache c call).channelsIDM =
      update cache.channelsIDM call.channelId
        (some (handlerMultiKeyUpdate codec note c call)) := by
  rw [updateCached]
  split
  · rw [channelsIDM_cacheUpdateChannelStatus (update_self _ _ _)]
    exact update_idem _ _ _
  · rfl

variable (codec note) in
/-- **What a call does in the database**: a row that has the status already is left alone, any other
is updated with the ability rows of its channel, and nothing else changes. -/
theorem updateDatabase_spec (h : s.channels.find? call.channelId = some row) :
    let s' := (updateDatabase codec note s call).1
    s'.cache = s.cache ∧ (∀ id, id ≠ call.channelId → s'.channels.find? id = s.channels.find? id) ∧
    (∀ a, a.channelId ≠ call.channelId → (a ∈ s'.abilities ↔ a ∈ s.abilities)) ∧
    ∃ saved, s'.channels.find? call.channelId = some saved ∧
      saved = (if row.status = call.status then row else updatedRow codec note row call) ∧
      ((∀ a ∈ s.abilities, a.channelId = call.channelId →
          (a.enabled = true ↔ row.status = channelStatusEnabled)) →
        ∀ a ∈ s'.abilities, a.channelId = call.channelId →
          (a.enabled = true ↔ saved.status = channelStatusEnabled)) := by
  rw [updateDatabase, h]
  dsimp only
  by_cases hstatus : row.status = call.status
  · rw [if_pos hstatus, if_pos hstatus]
    refine ⟨rfl, fun _ _ => rfl, fun a ha => mem_updateAbilityStatus_of_ne ha, row, h, rfl, ?_⟩
    intro _ a ha hid
    rw [enabled_of_mem_updateAbilityStatus ha hid, decide_eq_true_eq, hstatus]
  · rw [if_neg hstatus, if_neg hstatus]
    have hkey : (updatedRow codec note row call).id = call.channelId := by
      obtain ⟨_, _, _, _, _, heq⟩ := updatedRow_eq codec note row call
      rw [heq]
      exact key_of_find? h
    have hfind : (s.channels.put (updatedRow codec note row call)).find? call.channelId =
        some (updatedRow codec note row call) :=
      find?_put_of_key h (hkey.trans (key_of_find? h).symm)
    refine ⟨rfl, fun id hid => ?_, fun a ha => ?_, _, hfind, rfl, fun hbefore a ha hid => ?_⟩
    · exact find?_put_of_ne (by rw [key_channel, hkey]; exact hid)
    · split
      · exact mem_updateAbilityStatus_of_ne ha
      · rfl
    · split at ha
      · rw [enabled_of_mem_updateAbilityStatus ha hid, decide_eq_true_eq]
      · -- the flag is only skipped when the status stays what it was
        rename_i hskip
        simp only [Bool.or_eq_true, Bool.not_eq_true', bne_iff_ne, ne_eq, not_or, not_not] at hskip
        rw [hbefore a ha hid, hskip.2]

end

/-! ## One call -/

/-- **When the copies of a channel with several keys stay alike**: both are updated, or the update
of the cached one changes nothing; and the channel is not enabled without an enabled key. -/
theorem harmlessFor_iff {keys : List String} {list : StatusList} {call : StatusCall}
    (hbacked : status = channelStatusEnabled → hasEnabledMultiKey keys list = true) :
    HarmlessFor keys status list call ↔
      (status = call.status →
        nextStatus keys status list call = status ∧ nextStatusList keys list call = list) ∧
      (status ≠ call.status → nextStatus keys status list call = channelStatusEnabled →
        hasEnabledMultiKey keys (nextStatusList keys list call) = true) := by
  unfold HarmlessFor
  cases hidx : keys.idxOf? call.usingKey with
  | none =>
    -- no key is named: the status list stays, and at most the status of the channel changes
    dsimp only
    rw [nextStatus, nextStatusList_of_none hidx, hidx]
    dsimp only
    split_ifs with hwhole
    · constructor
      · intro h
        exact ⟨fun heq => ⟨heq.symm, rfl⟩, fun hne hcall => h hcall (hcall ▸ hne) hwhole⟩
      · intro h hcall hne _
        exact h.2 (hcall.symm ▸ hne) hcall
    · exact iff_of_true (fun _ _ hor => absurd hor hwhole)
        ⟨fun _ => ⟨rfl, rfl⟩, fun _ hstatus => hbacked hstatus⟩
  | some i =>
    dsimp only
    by_cases hcall : call.status = channelStatusEnabled
    · rw [if_pos hcall, nextStatus, nextStatusList_enable hidx hcall, hasEnabledMultiKey_erase hidx, hidx]
      dsimp only
      rw [if_neg Bool.false_ne_true.symm, if_pos hcall, erase_eq_self_iff]
      constructor
      · intro h
        exact ⟨fun heq => ⟨(heq.trans hcall).symm, h heq⟩, fun _ _ => rfl⟩
      · intro h heq
        exact (h.1 heq).2
    · rw [if_neg hcall, nextStatus, nextStatusList_disable hidx hcall, hidx]
      dsimp only
      rw [if_neg hcall]
      constructor
      · intro h
        refine ⟨fun heq => ?_, fun _ henabled => ?_⟩
        · obtain ⟨hlookup, hor⟩ := h heq
          have hlist := insert_eq_self_iff.mpr hlookup
          refine ⟨?_, hlist⟩
          rw [hlist]
          rcases hor with hsome | hauto
          · rw [hsome, if_neg Bool.false_ne_true.symm]
          · split
            · rw [heq, hauto]
            · rfl
        · by_contra hnone
          rw [Bool.not_eq_true] at hnone
          rw [if_pos hnone] at henabled
          exact absurd henabled (by decide)
      · rintro ⟨h, -⟩ heq
        obtain ⟨hstatus, hlist⟩ := h heq
        refine ⟨insert_eq_self_iff.mp hlist, ?_⟩
        rw [hlist] at hstatus
        by_cases hnone : hasEnabledMultiKey keys list = false
        · rw [if_pos hnone] at hstatus
          exact Or.inr (heq ▸ hstatus.symm)
        · exact Or.inl (by simpa using hnone)

section

variable {codec : Codec} {note : Note} {s : StatusStore} {call : StatusCall}

structure SameAt (s s' : StatusStore) (id : Int) : Prop where
  cached : s'.cache.channelsIDM id = s.cache.channelsIDM id
  row : s'.channels.find? id = s.channels.find? id
  abilities : ∀ a, a.channelId = id → (a ∈ s'.abilities ↔ a ∈ s.abilities)

theorem SameAt.agreeAt {s' : StatusStore} (h : SameAt s s' id) (hagree : AgreeAt codec s id) :
    AgreeAt codec s' id := by
  obtain ⟨hpresent, hsame, hflags, hbacked⟩ := hagree
  rw [← h.cached, ← h.row] at hpresent
  rw [← h.cached, ← h.row] at hsame
  rw [← h.row] at hflags hbacked
  exact ⟨hpresent, hsame, fun r hr a ha hid => hflags r hr a ((h.abilities a hid).mp ha) hid,
    hbacked⟩

variable (codec note) in
theorem sameAt_updateDatabase (hid : id ≠ call.channelId) :
    SameAt s (updateDatabase codec note s call).1 id := by
  cases hfind : s.channels.find? call.channelId with
  | none =>
    rw [updateDatabase, hfind]
    exact ⟨rfl, rfl, fun _ _ => Iff.rfl⟩
  | some row =>
    obtain ⟨hcache, hrows, habilities, -⟩ := updateDatabase_spec codec note hfind
    exact ⟨by rw [hcache], hrows id hid, fun a ha => habilities a (ha ▸ hid)⟩

/-- **A call leaves the other channels alone.** -/
theorem sameAt_updateChannelStatus (hid : id ≠ call.channelId) :
    SameAt s (updateChannelStatus codec note s call).1 id := by
  rw [updateChannelStatus]
  cases hcached : s.cache.channelsIDM call.channelId with
  | none => exact ⟨rfl, rfl, fun _ _ => Iff.rfl⟩
  | some c =>
    dsimp only
    split
    · obtain ⟨hcache, hrow, habilities⟩ := sameAt_updateDatabase codec note
        (s := { s with cache := updateCached codec note s.cache c call }) hid
      refine ⟨hcache.trans ?_, hrow, habilities⟩
      rw [channelsIDM_updateCached, update_of_ne hid]
    · split
      · exact ⟨rfl, rfl, fun a ha => mem_updateAbilityStatus_of_ne (ha ▸ hid)⟩
      · obtain ⟨hcache, hrow, habilities⟩ := sameAt_updateDatabase codec note
          (s := { s with cache := cacheUpdateChannelStatus codec s.cache call.channelId call.status })
          hid
        refine ⟨hcache.trans ?_, hrow, habilities⟩
        rw [channelsIDM_cacheUpdateChannelStatus hcached, update_of_ne hid]

/-- The agreement about the channel of a call depends on its cached copy and its row after the
call. -/
theorem agreeAt_updateDatabase_iff {saved : Channel}
    (hcached : cache.channelsIDM call.channelId = some c)
    (hrow : s.channels.find? call.channelId = some row)
    (hflags : ∀ a ∈ s.abilities, a.channelId = call.channelId →
      (a.enabled = true ↔ row.status = channelStatusEnabled))
    (hsaved : saved = if row.status = call.status then row else updatedRow codec note row call) :
    AgreeAt codec (updateDatabase codec note { s with cache := cache } call).1 call.channelId ↔
      SameStatus codec c saved ∧ KeyBacked codec saved := by
  obtain ⟨hcache, -, -, saved', hfind, rfl, hafter⟩ :=
    updateDatabase_spec codec note (s := { s with cache := cache }) hrow
  rw [← hsaved] at hfind hafter
  constructor
  · intro h
    exact ⟨h.same c saved (by rw [hcache, hcached]) hfind, h.backed saved hfind⟩
  · rintro ⟨hsame, hbacked⟩
    refine ⟨?_, ?_, ?_, ?_⟩
    · rw [hcache, hcached, hfind]
      exact iff_of_false (by simp) (by simp)
    · intro c' r' hc' hr'
      rw [hcache, hcached] at hc'
      rw [hfind] at hr'
      cases hc'
      cases hr'
      exact hsame
    · intro r' hr'
      rw [hfind] at hr'
      cases hr'
      exact hafter hflags
    · intro r' hr'
      rw [hfind] at hr'
      cases hr'
      exact hbacked

/-- The copies of a channel with several keys after a call. -/
theorem sameStatus_handler_iff {saved : Channel} (hsame : SameStatus codec c row)
    (hmulti : row.channelInfo.isMultiKey = true) (hbacked : KeyBacked codec row)
    (hsaved : saved = if row.status = call.status then row else updatedRow codec note row call) :
    SameStatus codec (handlerMultiKeyUpdate codec note c call) saved ∧ KeyBacked codec saved ↔
      HarmlessFor (row.getKeys codec) row.status row.channelInfo.multiKeyStatusList call := by
  -- the cached copy computes what the row would compute
  obtain ⟨_, _, _, hcached⟩ := handlerMultiKeyUpdate_eq codec note c call
  rw [hcached, hsame.keys, hsame.status, hsame.list, harmlessFor_iff (hbacked hmulti)]
  by_cases heq : row.status = call.status
  · -- the row is left alone, so the cached copy has to stay as it is
    rw [if_pos heq] at hsaved
    subst hsaved
    constructor
    · rintro ⟨hsame', -⟩
      exact ⟨fun _ => ⟨hsame'.status, hsame'.list⟩, fun hne => absurd heq hne⟩
    · rintro ⟨hcopy, -⟩
      obtain ⟨hstatus, hlist⟩ := hcopy heq
      exact ⟨⟨hsame.keys, hsame.multi, hstatus, hlist⟩, hbacked⟩
  · -- both copies are updated alike, and only the enabled keys are in question
    obtain ⟨_, _, _, hrow⟩ := handlerMultiKeyUpdate_eq codec note row call
    rw [if_neg heq, updatedRow, if_pos hmulti, hrow] at hsaved
    subst hsaved
    constructor
    · rintro ⟨-, hbacked'⟩
      exact ⟨fun h => absurd h heq, fun _ => hbacked' hmulti⟩
    · rintro ⟨-, hbacked'⟩
      exact ⟨⟨hsame.keys, hsame.multi, rfl, rfl⟩, fun _ => hbacked' heq⟩

/-- **One call**: it keeps the agreement about its channel exactly when it is harmless. -/
theorem agreeAt_updateChannelStatus_iff (h : AgreeAt codec s call.channelId) :
    AgreeAt codec (updateChannelStatus codec note s call).1 call.channelId ↔
      Harmless codec s call := by
  rw [updateChannelStatus]
  cases hcached : s.cache.channelsIDM call.channelId with
  | none =>
    -- there is no such channel, so there is nothing to update
    have hnone := h.present.mp hcached
    refine iff_of_true h fun r hr => ?_
    rw [hnone] at hr
    cases hr
  | some c =>
    obtain ⟨row, hrow⟩ : ∃ row, s.channels.find? call.channelId = some row := by
      refine Option.ne_none_iff_exists'.mp fun hnone => ?_
      rw [h.present.mpr hnone] at hcached
      cases hcached
    have hsame := h.same c row hcached hrow
    have hflags := h.abilities row hrow
    have hbacked := h.backed row hrow
    have hharmless : Harmless codec s call ↔ (row.channelInfo.isMultiKey = true →
        HarmlessFor (row.getKeys codec) row.status row.channelInfo.multiKeyStatusList call) := by
      constructor
      · exact fun hall => hall row hrow
      · intro hone r hr
        rw [hrow] at hr
        cases hr
        exact hone
    rw [hharmless]
    dsimp only
    by_cases hmulti : c.channelInfo.isMultiKey = true
    · have hmulti' : row.channelInfo.isMultiKey = true := hsame.multi ▸ hmulti
      rw [if_pos hmulti, agreeAt_updateDatabase_iff
        (c := handlerMultiKeyUpdate codec note c call)
        (by rw [channelsIDM_updateCached, update_self]) hrow hflags rfl,
        sameStatus_handler_iff hsame hmulti' hbacked rfl]
      exact ⟨fun hone _ => hone, fun hone => hone hmulti'⟩
    · have hmulti' : ¬row.channelInfo.isMultiKey = true := hsame.multi ▸ hmulti
      rw [if_neg hmulti]
      refine iff_of_true ?_ fun hm => absurd hm hmulti'
      by_cases hstatus : c.status = call.status
      · -- only the flags are written again
        rw [if_pos hstatus]
        refine ⟨h.present, h.same, fun r hr a ha hid => ?_, h.backed⟩
        rw [hrow] at hr
        cases hr
        rw [enabled_of_mem_updateAbilityStatus ha hid, decide_eq_true_eq, ← hstatus, hsame.status]
      · rw [if_neg hstatus, agreeAt_updateDatabase_iff (c := { c with status := call.status })
          (by rw [channelsIDM_cacheUpdateChannelStatus hcached, update_self]) hrow hflags rfl,
          if_neg (hsame.status ▸ hstatus), updatedRow, if_neg hmulti']
        exact ⟨⟨hsame.keys, hsame.multi, rfl, hsame.list⟩, fun hm => absurd hm hmulti'⟩

/-- **One call keeps the stores in agreement exactly when it is harmless.** -/
theorem inAgreement_updateChannelStatus_iff (h : InAgreement codec s) :
    InAgreement codec (updateChannelStatus codec note s call).1 ↔ Harmless codec s call := by
  constructor
  · intro hafter
    exact (agreeAt_updateChannelStatus_iff (h call.channelId)).mp (hafter call.channelId)
  · intro hharmless id
    by_cases hid : id = call.channelId
    · subst hid
      exact (agreeAt_updateChannelStatus_iff (h call.channelId)).mpr hharmless
    · exact (sameAt_updateChannelStatus hid).agreeAt (h id)

end

/-! ## Runs -/

def afterCall (codec : Codec) (note : Note) (s : StatusStore) (call : StatusCall) : StatusStore :=
  (updateChannelStatus codec note s call).1

/-- **Calls that are harmless where they are made keep the cache, the rows and the ability rows in
agreement**, and any other call ends the agreement. -/
theorem inAgreement_run {codec : Codec} {note : Note} {s : StatusStore} (h : InAgreement codec s) :
    (∀ calls, Along (afterCall codec note) (Harmless codec) s calls →
      InAgreement codec (run (afterCall codec note) s calls)) ∧
    ∀ call, InAgreement codec (afterCall codec note s call) ↔ Harmless codec s call := by
  constructor
  · intro calls hcalls
    have hstep : ∀ s call, Harmless codec s call → InAgreement codec s →
        InAgreement codec (afterCall codec note s call) :=
      fun s call hharmless hs => (inAgreement_updateChannelStatus_iff hs).mpr hharmless
    exact run_invariant hstep hcalls h
  · exact fun call => inAgreement_updateChannelStatus_iff h

theorem inAgreement_of_loaded {codec : Codec} {s : StatusStore}
    (hloaded : s.cache.channelsIDM = s.channels.find?)
    (hflags : ∀ r ∈ s.channels.rows, ∀ a ∈ s.abilities, a.channelId = r.id →
      (a.enabled = true ↔ r.status = channelStatusEnabled))
    (hbacked : ∀ r ∈ s.channels.rows, KeyBacked codec r) : InAgreement codec s := by
  intro id
  refine ⟨by rw [hloaded], fun c r hc hr => ?_, fun r hr a ha hid => ?_, fun r hr => ?_⟩
  · rw [hloaded, hr] at hc
    cases hc
    exact ⟨rfl, rfl, rfl, rfl⟩
  · have hkey : r.id = id := key_of_find? hr
    exact hflags r (mem_of_find? hr) a ha (hid.trans hkey.symm)
  · exact hbacked r (mem_of_find? hr)

def twoKeys : Channel where
  id := 1
  key := "a\nb"
  group := "default"
  models := "gpt-4o"
  channelInfo := { isMultiKey := true, multiKeySize := 2 }

/-- That channel and its ability row, freshly loaded. -/
def twoKeysStore : StatusStore :=
  let channels : Table Channel := { rows := [twoKeys], nodup_keys := by decide }
  ⟨⟨fun _ => none, channels.find?⟩, channels, [⟨"default", "gpt-4o", 1, true, none, 0, none⟩]⟩

theorem inAgreement_twoKeysStore : InAgreement Codec.plain twoKeysStore := by
  refine inAgreement_of_loaded rfl (by decide) fun r hr => ?_
  rw [List.mem_singleton.mp hr]
  exact fun _ _ => by decide

/-- Disabling a key of the enabled channel is harmless. -/
theorem inAgreement_run_twoKeys :
    InAgreement Codec.plain (run (afterCall Codec.plain fun _ _ _ => "") twoKeysStore
      [⟨1, "a", channelStatusAutoDisabled, "quota", 0⟩]) := by
  refine (inAgreement_run inAgreement_twoKeysStore).1 _ ⟨fun r hr _ => ?_, trivial⟩
  cases hr
  intro h
  exact absurd h (by decide)

/-- Both keys fail and are tested again: when the second one is enabled the channel is enabled
already, so only the cached list changes. -/
theorem second_key_is_enabled_in_cache_only :
    InAgreement Codec.plain twoKeysStore ∧
    ¬InAgreement Codec.plain (run (afterCall Codec.plain fun _ _ _ => "") twoKeysStore
      [⟨1, "a", channelStatusAutoDisabled, "quota", 0⟩, ⟨1, "b", channelStatusAutoDisabled, "quota", 0⟩,
        ⟨1, "a", channelStatusEnabled, "", 1⟩, ⟨1, "b", channelStatusEnabled, "", 1⟩]) := by
  refine ⟨inAgreement_twoKeysStore, fun h => ?_⟩
  generalize hfinal : run _ _ _ = final at h
  have hcached : (final.cache.channelsIDM 1).map (·.channelInfo.multiKeyStatusList) = some ∅ := by
    rw [← hfinal]
    decide
  have hrow : (final.channels.find? 1).map (·.channelInfo.multiKeyStatusList) =
      some (Finmap.singleton 1 channelStatusAutoDisabled) := by
    rw [← hfinal]
    decide
  obtain ⟨c, hc, hlist⟩ := Option.map_eq_some_iff.mp hcached
  obtain ⟨r, hr, hlist'⟩ := Option.map_eq_some_iff.mp hrow
  have hsame := ((h 1).same c r hc hr).list
  rw [hlist, hlist'] at hsame
  exact absurd hsame (by decide)

end RenewApi.Channels
