import Mathlib.Data.List.Perm.Basic
import Mathlib.Logic.Function.Basic
import RenewApi.Relational.Transaction

/-! # The hybrid cache: Redis with a local store in front

`pkg/cachex/hybrid_cache.go` with Redis enabled and `MemoryReadThrough` set: one process whose calls
run concurrently, cut at each Redis command and each access to the local store (L1).

Redis does not fail here, and nothing expires. Eviction from L1 may happen at any time. -/

namespace RenewApi.Cachex

open Relational List Function Option

variable {V Raw : Type} {k : String}

/-- What a cache is built with. -/
structure HybridCacheConfig (V Raw : Type) where
  /-- `RedisCodec.Encode` -/
  encode : V → Option Raw
  /-- `RedisCodec.Decode` -/
  decode : Raw → Option V
  /-- `Namespace.FullKey`, blank when there is no key -/
  fullKey : String → String
  memoryLockIndex : String → Nat
  /-- `MemoryReadThroughTTL`, in nanoseconds -/
  memoryReadThroughTTL : Int

def HybridCacheConfig.l1TTL (c : HybridCacheConfig V Raw) (redisTTL : Int) : Int :=
  if redisTTL ≤ 0 then c.memoryReadThroughTTL
  else if 0 < c.memoryReadThroughTTL ∧ redisTTL > c.memoryReadThroughTTL then
    c.memoryReadThroughTTL
  else redisTTL

/-- A call in flight. -/
inductive Frame (V : Type) where
  /-- `Get` has missed in L1 and holds its stripe; `GET` comes next -/
  | fetching (full : String)
  /-- `Get` has the value; the store into L1 comes next, the stripe is still held -/
  | fetched (full : String) (value : V)
  /-- a write has reached Redis; `storeL1` comes next -/
  | storing (full : String) (value : V)
  /-- Redis is done with; `deleteL1` comes next -/
  | deleting (fullKeys : List String)
  /-- `DeleteMany` has still to unlink `todo`; `deleteL1` of all keys follows -/
  | unlinking (fullKeys todo : List String)
  /-- `DeleteByPrefix` scans -/
  | scanning
  deriving DecidableEq

/-- The key whose stripe a call holds between two of its steps. -/
def Frame.locked? : Frame V → Option String
  | .fetching full => some full
  | .fetched full _ => some full
  | _ => none

/-- Redis, the local store and the calls in flight. -/
structure CacheState (V Raw : Type) where
  redis : String → Option Raw
  l1 : String → Option V
  frames : List (Frame V)

/-- An empty cache without calls. -/
def CacheState.start : CacheState V Raw := ⟨fun _ => none, fun _ => none, []⟩

variable (c : HybridCacheConfig V Raw)

/-- No call in the list holds the stripe of a key. -/
def lockFree (frames : List (Frame V)) (full : String) : Prop :=
  ∀ f ∈ frames, ∀ held ∈ f.locked?, c.memoryLockIndex held ≠ c.memoryLockIndex full
  deriving Decidable

/-- Redis, the local store and what is left of a call after one of its steps. -/
abbrev Outcome (V Raw : Type) :=
  (String → Option Raw) × (String → Option V) × Option (Frame V)

/-- What is left of a write after its Redis step: `storeL1`, unless the entry has no lifetime. -/
def storeFrame (full : String) (value : V) (ttl : Int) : Option (Frame V) :=
  if c.l1TTL ttl ≤ 0 then none else some (.storing full value)

/-- `DeleteMany` after its keys have been completed. -/
def unlinkFrame (keys : List String) : Option (Frame V) :=
  let fullKeys := (keys.map c.fullKey).filter (fun full => full ≠ "")
  if fullKeys = [] then none else some (.unlinking fullKeys fullKeys)

/-- Take keys out of a store. -/
def dropKeys {β : Type} (store : String → Option β) (keys : List String) : String → Option β :=
  fun k => if k ∈ keys then none else store k

/-- The next step of a call beside the calls `rest`; `none` while it waits for a lock. `pttl` is
what `PTTL` answers, `scanned` the keys a scan yields. -/
def frameStep (s : CacheState V Raw) (rest : List (Frame V)) (pttl : Int) (scanned : List String) :
    Frame V → Option (Outcome V Raw)
  | .fetching full =>
    match s.redis full with
    | none => some (s.redis, s.l1, none)
    | some raw => some (s.redis, s.l1, (c.decode raw).map (.fetched full))
  | .fetched full value =>
    if c.l1TTL pttl > 0 then some (s.redis, update s.l1 full (some value), none)
    else some (s.redis, s.l1, none)
  | .storing full value =>
    if lockFree c rest full then some (s.redis, update s.l1 full (some value), none)
    else none
  | .deleting fullKeys =>
    if ∀ full ∈ fullKeys, lockFree c rest full then
      some (s.redis, dropKeys s.l1 fullKeys, none)
    else none
  | .unlinking fullKeys todo =>
    match todo with
    | [] => some (s.redis, s.l1, some (.deleting fullKeys))
    | full :: todo =>
      some (update s.redis full none, s.l1, some (.unlinking fullKeys todo))
  | .scanning => some (s.redis, s.l1, unlinkFrame c scanned)

/-- The first step of `SetWithTTL`: the value is encoded and set in Redis. -/
def setStep (s : CacheState V Raw) (full : String) (value : V) (ttl : Int) : Outcome V Raw :=
  match c.encode value with
  | none => (s.redis, s.l1, none)
  | some raw => (update s.redis full (some raw), s.l1, storeFrame c full value ttl)

section

variable [DecidableEq Raw]

section

variable (s : CacheState V Raw)

/-- The first step of `CompareAndSwap`: one script. A swap that fails still drops the L1 entry. -/
def swapStep (full : String) (expected : Option V) (replacement : V) (ttl : Int) : Outcome V Raw :=
  match c.encode replacement with
  | none => (s.redis, s.l1, none)
  | some raw =>
    match expected with
    | none =>
      if (s.redis full).isSome then (s.redis, s.l1, some (.deleting [full]))
      else (update s.redis full (some raw), s.l1, storeFrame c full replacement ttl)
    | some value =>
      match c.encode value with
      | none => (s.redis, s.l1, none)
      | some expectedRaw =>
        if s.redis full ≠ some expectedRaw then (s.redis, s.l1, some (.deleting [full]))
        else (update s.redis full (some raw), s.l1, storeFrame c full replacement ttl)

def compareDeleteStep (full : String) (expected : V) : Outcome V Raw :=
  match c.encode expected with
  | none => (s.redis, s.l1, none)
  | some raw =>
    (if s.redis full = some raw then update s.redis full none else s.redis, s.l1,
      some (.deleting [full]))

/-- What can happen. -/
inductive CacheEvent (V : Type) where
  /-- `Get` locks its stripe and looks into L1 -/
  | get (key : String)
  /-- `SetWithTTL` writes to Redis -/
  | setWithTTL (key : String) (value : V) (ttl : Int)
  /-- `CompareAndSwap` runs its script -/
  | compareAndSwap (key : String) (expected : Option V) (replacement : V) (ttl : Int)
  /-- `CompareAndDelete` runs its script -/
  | compareAndDelete (key : String) (expected : V)
  /-- `DeleteMany` starts -/
  | deleteMany (keys : List String)
  /-- `DeleteByPrefix` starts -/
  | deleteByPrefix (key : String)
  | advance (i : Nat) (pttl : Int) (scanned : List String)
  | evict (full : String)
  deriving DecidableEq

/-- The state after a step, `rest` being the other calls in flight. -/
def commit (rest : List (Frame V)) (o : Outcome V Raw) : CacheState V Raw :=
  ⟨o.1, o.2.1, o.2.2.toList ++ rest⟩

/-- A call on one key starts, unless the key is blank. -/
def startOn (key : String) (first : String → Outcome V Raw) : CacheState V Raw :=
  if c.fullKey key = "" then s else commit s.frames (first (c.fullKey key))

/-- One step of the process. -/
def step : CacheEvent V → CacheState V Raw
  | .get key =>
    if c.fullKey key = "" ∨ ¬ lockFree c s.frames (c.fullKey key) ∨
        (s.l1 (c.fullKey key)).isSome then s
    else { s with frames := .fetching (c.fullKey key) :: s.frames }
  | .setWithTTL key value ttl => startOn c s key (fun full => setStep c s full value ttl)
  | .compareAndSwap key expected replacement ttl =>
    startOn c s key (fun full => swapStep c s full expected replacement ttl)
  | .compareAndDelete key expected =>
    startOn c s key (fun full => compareDeleteStep c s full expected)
  | .deleteMany keys => { s with frames := (unlinkFrame c keys).toList ++ s.frames }
  | .deleteByPrefix key =>
    if c.fullKey key = "" then s else { s with frames := .scanning :: s.frames }
  | .advance i pttl scanned =>
    match s.frames[i]? with
    | none => s
    | some f =>
      match frameStep c s (s.frames.eraseIdx i) pttl scanned f with
      | none => s
      | some o => commit (s.frames.eraseIdx i) o
  | .evict full => { s with l1 := dropKeys s.l1 [full] }

end

end

/-! ## Coherence -/

/-- Redis holds the value under a key: what it stores encodes the value or decodes to it. -/
def Holds (redis : String → Option Raw) (k : String) (v : V) : Prop :=
  ∃ raw, redis k = some raw ∧ (c.encode v = some raw ∨ c.decode raw = some v)

section

variable (s : CacheState V Raw)

/-- Every L1 entry holds the value Redis holds for its key. -/
def Coherent : Prop := ∀ k v, s.l1 k = some v → Holds c s.redis k v

/-- A call that has still to write or drop the L1 entry of a key. -/
def Frame.Repairs (k : String) : Frame V → Prop
  | .storing full _ => full = k
  | .deleting fullKeys => k ∈ fullKeys
  | .unlinking fullKeys _ => k ∈ fullKeys
  | _ => False

/-- Some call has still to write or drop the L1 entry of a key. -/
def Repaired (frames : List (Frame V)) (k : String) : Prop := ∃ f ∈ frames, f.Repairs k

/-- A value is what Redis holds for the key, or the key is still to be repaired. -/
def Fine (k : String) (v : V) : Prop :=
  Holds c s.redis k v ∨ Repaired s.frames k

def commandKey : CacheEvent V → Option String
  | .setWithTTL key _ _ => some (c.fullKey key)
  | .compareAndSwap key _ _ _ => some (c.fullKey key)
  | .compareAndDelete key _ => some (c.fullKey key)
  | .advance i _ _ =>
    match s.frames[i]? with
    | some (.unlinking _ (full :: _)) => some full
    | _ => none
  | _ => none

/-- The lifetime a step asks for. -/
def CacheEvent.ttl? : CacheEvent V → Option Int
  | .setWithTTL _ _ ttl => some ttl
  | .compareAndSwap _ _ _ ttl => some ttl
  | _ => none

/-- Some call has written the key to Redis and not yet to L1. -/
def Frame.stores (k : String) : Frame V → Bool
  | .storing full _ => full = k
  | _ => false

/-- **Serialised writers.** A write command for a key is sent only when no other call has written
that key to Redis and not yet to L1, and what is stored has a lifetime in L1. -/
def Serialised (e : CacheEvent V) : Prop :=
  (∀ k ∈ commandKey c s e, ∀ f ∈ s.frames, f.stores k = false) ∧
    ∀ ttl ∈ e.ttl?, 0 < c.l1TTL ttl
  deriving Decidable

/-- **The invariant**: what L1 holds or a `Get` is about to put there is fine; a value about to be
stored is what Redis holds. -/
structure Settling : Prop where
  l1 : ∀ k v, s.l1 k = some v → Fine c s k v
  /-- what a `Get` is about to store is fine -/
  fetched : ∀ k v, .fetched k v ∈ s.frames → Fine c s k v
  storing : ∀ k v, .storing k v ∈ s.frames → Holds c s.redis k v
  /-- `DeleteMany` unlinks keys it will drop from L1 -/
  unlinking : ∀ fullKeys todo, .unlinking fullKeys todo ∈ s.frames → todo ⊆ fullKeys

end

variable {c} {s : CacheState V Raw} {rest frames : List (Frame V)} {full : String} {f g : Frame V}
  {redis : String → Option Raw} {l1 : String → Option V} {value : V} {ttl : Int}

/-- **Without calls in flight the invariant is coherence.** -/
theorem Settling.coherent (h : Settling c s) (hquiet : s.frames = []) : Coherent c s := by
  intro k v hv
  refine (h.l1 k v hv).resolve_right ?_
  rintro ⟨f, hf, -⟩
  rw [hquiet] at hf
  exact not_mem_nil hf

theorem Fine.carry {s' : CacheState V Raw} {v : V} (h : Fine c s k v)
    (hcarry : Repaired s'.frames k ∨
      s'.redis k = s.redis k ∧ (Repaired s.frames k → Repaired s'.frames k)) :
    Fine c s' k v := by
  rcases hcarry with hrepaired | ⟨hredis, hframes⟩
  · exact .inr hrepaired
  · refine h.imp ?_ hframes
    rintro ⟨raw, hraw, hmatch⟩
    exact ⟨raw, hredis.trans hraw, hmatch⟩

theorem Repaired.mono {frames' : List (Frame V)} (h : Repaired frames k) (hsub : frames ⊆ frames') :
    Repaired frames' k := by
  obtain ⟨f, hf, hrep⟩ := h
  exact ⟨f, hsub hf, hrep⟩

/-! ## Calls that start -/

/-- **A call enters a frame**, perhaps with keys just written to Redis that it is to repair: no
other writer of these is between its two steps. -/
theorem Settling.enter (h : Settling c s)
    (hredis : ∀ k, redis k = s.redis k ∨ f.Repairs k ∧ ∀ g ∈ s.frames, g.stores k = false)
    (hstore : ∀ k v, f = .storing k v → Holds c redis k v)
    (hfetched : ∀ k v, f = .fetched k v → Holds c redis k v)
    (hunlink : ∀ ks todo, f = .unlinking ks todo → todo ⊆ ks) :
    Settling c ⟨redis, s.l1, f :: s.frames⟩ := by
  have hcarry : ∀ k v, Fine c s k v → Fine c ⟨redis, s.l1, f :: s.frames⟩ k v := by
    intro k v hfine
    refine hfine.carry ((hredis k).symm.imp ?_ ?_)
    · exact fun hwritten => ⟨f, mem_cons_self, hwritten.1⟩
    · exact fun hsame => ⟨hsame, fun hr => hr.mono (subset_cons_self f _)⟩
  refine ⟨fun k v hv => hcarry k v (h.l1 k v hv), ?_, ?_, ?_⟩
  · intro k v hmem
    rcases mem_cons.mp hmem with heq | hmem
    · exact .inl (hfetched k v heq.symm)
    · exact hcarry k v (h.fetched k v hmem)
  · intro k v hmem
    rcases mem_cons.mp hmem with heq | hmem
    · exact hstore k v heq.symm
    rcases hredis k with hsame | ⟨-, hfree⟩
    · obtain ⟨raw, hraw, hmatch⟩ := h.storing k v hmem
      exact ⟨raw, hsame.trans hraw, hmatch⟩
    · -- the key of a value about to be stored is not one that was written
      simpa [Frame.stores] using hfree _ hmem
  · intro ks todo hmem
    rcases mem_cons.mp hmem with heq | hmem
    · exact hunlink ks todo heq.symm
    · exact h.unlinking ks todo hmem

theorem update_redis {r : Option Raw} (hrep : f.Repairs k)
    (hfree : ∀ g ∈ s.frames, g.stores k = false) (k' : String) :
    update s.redis k r k' = s.redis k' ∨
      f.Repairs k' ∧ ∀ g ∈ s.frames, g.stores k' = false := by
  by_cases hk : k' = k
  · exact .inr (hk ▸ ⟨hrep, hfree⟩)
  · exact .inl (update_of_ne hk _ _)

/-- **A call leaves**: the keys it was to repair are repaired by another call, or L1 holds nothing
but what Redis holds and no `Get` is about to change that. -/
theorem Settling.finish (h : Settling c s) (hsplit : ∀ f ∈ s.frames, f = g ∨ f ∈ rest)
    (hsub : rest ⊆ s.frames) (hL1 : ∀ k v, l1 k = some v → Fine c s k v)
    (hdone : ∀ k, g.Repairs k → Repaired rest k ∨
      (∀ v, l1 k = some v → Holds c s.redis k v) ∧ ∀ v, .fetched k v ∉ rest) :
    Settling c ⟨s.redis, l1, rest⟩ := by
  -- a repair is lost only with the call itself
  have hcarry : ∀ k v, Fine c s k v → (g.Repairs k → ¬ Repaired rest k → Holds c s.redis k v) →
      Fine c ⟨s.redis, l1, rest⟩ k v := by
    intro k v hfine hlost
    rcases hfine with hholds | ⟨f, hf, hrep⟩
    · exact .inl hholds
    · rcases hsplit f hf with rfl | hrest
      · by_cases hother : Repaired rest k
        · exact .inr hother
        · exact .inl (hlost hrep hother)
      · exact .inr ⟨f, hrest, hrep⟩
  refine ⟨?_, ?_, fun k v hmem => h.storing k v (hsub hmem),
    fun ks todo hmem => h.unlinking ks todo (hsub hmem)⟩
  · intro k v hv
    exact hcarry k v (hL1 k v hv) fun hrep hother => ((hdone k hrep).resolve_left hother).1 v hv
  · intro k v hmem
    exact hcarry k v (h.fetched k v (hsub hmem)) fun hrep hother =>
      absurd hmem (((hdone k hrep).resolve_left hother).2 v)

/-- **A call goes on** to a frame that repairs all the keys that the frame before it was to
repair. -/
theorem Settling.goOn (h : Settling c ⟨redis, l1, f :: frames⟩)
    (hsplit : ∀ x ∈ frames, x = g ∨ x ∈ rest) (hsub : rest ⊆ frames)
    (hrep : ∀ k, g.Repairs k → f.Repairs k) : Settling c ⟨redis, l1, f :: rest⟩ := by
  refine h.finish (g := g) ?_ (cons_subset_cons _ hsub) h.l1 ?_
  · intro x hx
    rcases mem_cons.mp hx with rfl | hx
    · exact .inr mem_cons_self
    · exact (hsplit x hx).imp_right (mem_cons_of_mem _)
  · intro k hk
    exact .inl ⟨f, mem_cons_self, hrep k hk⟩

theorem fetched_not_mem_of_lockFree (hfree : lockFree c rest k) (v : V) : .fetched k v ∉ rest :=
  fun hmem => hfree _ hmem k rfl rfl

/-! ## Calls that go on -/

/-- `DeleteMany` starts. -/
theorem Settling.unlink (h : Settling c s) (keys : List String) :
    Settling c ⟨s.redis, s.l1, (unlinkFrame c keys).toList ++ s.frames⟩ := by
  rw [unlinkFrame]
  split
  · exact h
  · refine h.enter (fun _ => .inl rfl) nofun nofun ?_
    intro ks todo heq
    injection heq with hks htodo
    exact hks ▸ htodo ▸ Subset.refl _

theorem dropKeys_eq_some {keys : List String} {v : V} (h : dropKeys l1 keys k = some v) :
    k ∉ keys ∧ l1 k = some v := by
  rw [dropKeys] at h
  split at h
  · cases h
  · next hk => exact ⟨hk, h⟩

/-- **Every step of a call in flight keeps the invariant.** -/
theorem Settling.frameStep (h : Settling c s) (hsplit : ∀ f, f ∈ s.frames ↔ f = g ∨ f ∈ rest)
    {pttl : Int} {scanned : List String}
    (hserial : ∀ ks full todo, g = .unlinking ks (full :: todo) →
      ∀ f ∈ s.frames, f.stores full = false)
    {o : Outcome V Raw} (ho : frameStep c s rest pttl scanned g = some o) :
    Settling c (commit rest o) := by
  have hmem : g ∈ s.frames := (hsplit g).mpr (.inl rfl)
  have hsub : rest ⊆ s.frames := fun f hf => (hsplit f).mpr (.inr hf)
  have hcover := fun f hf => (hsplit f).mp hf
  cases g with
  | fetching full =>
    have hleave : Settling c ⟨s.redis, s.l1, rest⟩ := h.finish hcover hsub h.l1 nofun
    dsimp only [Cachex.frameStep] at ho
    cases hredis : s.redis full with
    | none =>
      rw [hredis] at ho
      cases ho
      exact hleave
    | some raw =>
      rw [hredis] at ho
      cases ho
      cases hdecode : c.decode raw with
      | none => exact hleave
      | some =>
        refine hleave.enter (fun _ => .inl rfl) nofun ?_ nofun
        intro full' v heq
        injection heq with hfull hvalue
        exact ⟨raw, hfull ▸ hredis, .inr (hvalue ▸ hdecode)⟩
  | fetched full value =>
    dsimp only [Cachex.frameStep] at ho
    split at ho
    · cases ho
      refine h.finish hcover hsub ?_ nofun
      intro k v hv
      dsimp only at hv
      by_cases hk : k = full
      · rw [hk, update_self] at hv
        rw [hk, ← some.inj hv]
        exact h.fetched full value hmem
      · rw [update_of_ne hk] at hv
        exact h.l1 k v hv
    · cases ho
      exact h.finish hcover hsub h.l1 nofun
  | storing full value =>
    dsimp only [Cachex.frameStep] at ho
    split at ho
    · next hfree =>
      cases ho
      have hself : ∀ v, update s.l1 full (some value) full = some v →
          Holds c s.redis full v := by
        intro v hv
        rw [update_self] at hv
        exact some.inj hv ▸ h.storing full value hmem
      refine h.finish hcover hsub ?_ ?_
      · intro k v hv
        dsimp only at hv
        by_cases hk : k = full
        · subst hk
          exact .inl (hself v hv)
        · rw [update_of_ne hk] at hv
          exact h.l1 k v hv
      · rintro k rfl
        exact .inr ⟨hself, fetched_not_mem_of_lockFree hfree⟩
    · exact absurd ho nofun
  | deleting fullKeys =>
    dsimp only [Cachex.frameStep] at ho
    split at ho
    · next hfree =>
      cases ho
      refine h.finish hcover hsub (fun k v hv => h.l1 k v (dropKeys_eq_some hv).2) ?_
      intro k (hk : k ∈ fullKeys)
      exact .inr ⟨fun v hv => absurd hk (dropKeys_eq_some hv).1,
        fetched_not_mem_of_lockFree (hfree k hk)⟩
    · exact absurd ho nofun
  | unlinking fullKeys todo =>
    have hkeys := h.unlinking fullKeys todo hmem
    cases todo with
    | nil =>
      cases ho
      exact (h.enter (f := .deleting fullKeys) (fun _ => .inl rfl) nofun nofun nofun).goOn hcover
        hsub fun _ hk => hk
    | cons full todo =>
      cases ho
      have hwritten := h.enter (f := .unlinking fullKeys todo)
        (update_redis (r := none) (hkeys mem_cons_self) (hserial fullKeys full todo rfl)) nofun nofun
        (fun ks todo' heq => by
          injection heq with hks htodo
          exact hks ▸ htodo ▸ fun k hk => hkeys (mem_cons_of_mem full hk))
      exact hwritten.goOn hcover hsub fun _ hk => hk
  | scanning =>
    cases ho
    exact (h.finish hcover hsub h.l1 nofun).unlink scanned

/-! ## The process -/

theorem storeFrame_eq (h : 0 < c.l1TTL ttl) :
    storeFrame c full value ttl = some (.storing full value) := if_neg (not_le.mpr h)

theorem Settling.set (h : Settling c s) {raw : Raw} (hfree : ∀ f ∈ s.frames, f.stores full = false)
    (hencode : c.encode value = some raw) :
    Settling c ⟨update s.redis full (some raw), s.l1, .storing full value :: s.frames⟩ := by
  refine h.enter (update_redis rfl hfree) ?_ nofun nofun
  intro full' v heq
  injection heq with hfull hvalue
  exact ⟨raw, hfull ▸ update_self .., .inl (hvalue ▸ hencode)⟩

theorem Settling.drop (h : Settling c s) (full : String) :
    Settling c ⟨s.redis, s.l1, .deleting [full] :: s.frames⟩ :=
  h.enter (fun _ => .inl rfl) nofun nofun nofun

theorem Settling.setStep (h : Settling c s) (hfree : ∀ f ∈ s.frames, f.stores full = false)
    (httl : 0 < c.l1TTL ttl) :
    Settling c (commit s.frames (Cachex.setStep c s full value ttl)) := by
  rw [Cachex.setStep]
  cases hencode : c.encode value with
  | none => exact h
  | some raw =>
    rw [storeFrame_eq httl]
    exact h.set hfree hencode

section

variable [DecidableEq Raw]

theorem Settling.swapStep (h : Settling c s) {expected : Option V} {replacement : V}
    (hfree : ∀ f ∈ s.frames, f.stores full = false) (httl : 0 < c.l1TTL ttl) :
    Settling c (commit s.frames (Cachex.swapStep c s full expected replacement ttl)) := by
  rw [Cachex.swapStep]
  cases hencode : c.encode replacement with
  | none => exact h
  | some raw =>
    rw [storeFrame_eq httl]
    cases expected with
    | none =>
      dsimp only
      split
      · exact h.drop full
      · exact h.set hfree hencode
    | some value =>
      dsimp only
      cases c.encode value with
      | none => exact h
      | some =>
        dsimp only
        split
        · exact h.drop full
        · exact h.set hfree hencode

theorem Settling.compareDeleteStep (h : Settling c s) {expected : V}
    (hfree : ∀ f ∈ s.frames, f.stores full = false) :
    Settling c (commit s.frames (Cachex.compareDeleteStep c s full expected)) := by
  rw [Cachex.compareDeleteStep]
  cases c.encode expected with
  | none => exact h
  | some raw =>
    dsimp only [commit]
    split
    · exact h.enter (update_redis (mem_singleton_self full) hfree) nofun nofun nofun
    · exact h.drop full

/-- **One serialised step keeps the invariant.** -/
theorem Settling.step (h : Settling c s) {e : CacheEvent V} (hserial : Serialised c s e) :
    Settling c (Cachex.step c s e) := by
  obtain ⟨hfree, httl⟩ := hserial
  cases e with
  | get | deleteByPrefix =>
    rw [Cachex.step]
    split
    · exact h
    · exact h.enter (fun _ => .inl rfl) nofun nofun nofun
  | setWithTTL _ _ ttl =>
    rw [Cachex.step, startOn]
    split
    · exact h
    · exact h.setStep (hfree _ rfl) (httl ttl rfl)
  | compareAndSwap _ _ _ ttl =>
    rw [Cachex.step, startOn]
    split
    · exact h
    · exact h.swapStep (hfree _ rfl) (httl ttl rfl)
  | compareAndDelete =>
    rw [Cachex.step, startOn]
    split
    · exact h
    · exact h.compareDeleteStep (hfree _ rfl)
  | deleteMany keys => exact h.unlink keys
  | advance i pttl scanned =>
    rw [Cachex.step]
    cases hframe : s.frames[i]? with
    | none => exact h
    | some g =>
      dsimp only
      cases hstep : Cachex.frameStep c s (s.frames.eraseIdx i) pttl scanned g with
      | none => exact h
      | some o =>
        obtain ⟨hlt, hget⟩ := List.getElem?_eq_some_iff.mp hframe
        -- the calls in flight are the one that moves and the others
        have hperm := getElem_cons_eraseIdx_perm hlt
        rw [hget] at hperm
        refine h.frameStep (fun f => ?_) ?_ hstep
        · rw [← hperm.mem_iff, mem_cons]
        · rintro ks full todo rfl
          exact hfree full (by rw [commandKey, hframe]; rfl)
  | evict full =>
    exact h.finish (g := .scanning) (fun f hf => .inr hf) (Subset.refl _)
      (fun k v hv => h.l1 k v (dropKeys_eq_some hv).2) nofun

/-- **Coherence at quiescence.** In every run whose steps are all serialised, whenever no call is in
flight every L1 entry holds the value Redis holds for its key. -/
theorem coherent_at_quiescence (c : HybridCacheConfig V Raw) (es : List (CacheEvent V))
    (hserial : Along (Cachex.step c) (Serialised c) .start es)
    (hquiet : (run (Cachex.step c) .start es).frames = []) :
    Coherent c (run (Cachex.step c) .start es) :=
  (run_invariant (fun _ _ hC hI => Settling.step hI hC) hserial ⟨nofun, nofun, nofun, nofun⟩).coherent
    hquiet

end

/-- A cache of texts without a namespace, with a minute of lifetime in L1. -/
def textCache : HybridCacheConfig String String where
  encode := some
  decode := some
  fullKey := id
  memoryLockIndex := fun _ => 0
  memoryReadThroughTTL := 60000000000

/-- Two writers of one key overtake each other: the first to reach Redis is the last to reach L1,
which then serves a value that Redis no longer holds. -/
theorem set_race_incoherent :
    let s := run (Cachex.step textCache) .start
      [.setWithTTL "k" "old" 60000000000, .setWithTTL "k" "new" 60000000000, .advance 0 0 [],
        .advance 0 0 []]
    s.frames = [] ∧ s.redis "k" = some "new" ∧ s.l1 "k" = some "old" ∧ ¬ Coherent textCache s := by
  refine ⟨by decide, by decide, by decide, ?_⟩
  intro h
  obtain ⟨raw, hraw, hmatch⟩ := h "k" "old" (by decide)
  have hnew : raw = "new" := (some.inj (hraw.symm.trans (by decide)))
  subst hnew
  exact absurd hmatch (by decide)

/-- A write after a read that filled L1, one after the other. -/
theorem coherent_at_quiescence_sequential :
    Coherent textCache (run (Cachex.step textCache) .start
      [.setWithTTL "k" "old" 60000000000, .advance 0 0 [], .deleteMany ["k"], .advance 0 0 [],
        .advance 0 0 [], .advance 0 0 [], .setWithTTL "k" "new" 0, .advance 0 0 [], .get "k"]) :=
  coherent_at_quiescence textCache _ (by decide) (by decide)

end RenewApi.Cachex
