import Mathlib.Data.List.Induction
import Mathlib.Data.List.Nodup
import RenewApi.Limits.RateLimit

/-! # The rate limiter is an exact sliding window

The buckets represent the units an observer counts (`Tracks`); no call panics or breaks that. -/

namespace RenewApi.Limits

open Window InMemoryRateLimiter List Function

variable {reservationID key : String} {stored : Option RateLimitBucket}

theorem admittedUnits_append (key : String) (trace : List Observation) (o : Observation) :
    admittedUnits key (trace ++ [o]) = countUnits key (admittedUnits key trace) o := by
  rw [admittedUnits, foldl_append]
  rfl

def Call.key? : Call → Option String
  | .requestN key _ _ _ => some key
  | .reserve key _ _ _ => some key
  | .cancel key _ => some key
  | .retryAfter key _ => some key
  | .deleteExpiredEntries => none

theorem countUnits_of_ne {o : Observation} (h : o.call.key? ≠ some key)
    (units : List RateLimitEntry) : countUnits key units o = units := by
  obtain ⟨now, call, answer⟩ := o
  have hne : ∀ {key' : String}, some key' ≠ some key → ¬ key' = key :=
    fun h heq => h (congrArg some heq)
  cases call with
  | retryAfter => rfl
  | deleteExpiredEntries => rfl
  | _ => exact if_neg fun hand => hne h hand.1

/-- The reservation a call asks for, unless it is blank. -/
def Call.reservation : Call → Option (String × String)
  | .reserve key _ _ reservationID =>
    if reservationID = "" then none else some (key, reservationID)
  | _ => none

/-- One observation adds a unit of a reservation only if its call asked for it. -/
theorem countP_countUnits_le (hid : reservationID ≠ "") (units : List RateLimitEntry)
    (o : Observation) :
    (countUnits key units o).countP (·.reservationID == reservationID) ≤
      units.countP (·.reservationID == reservationID) +
        o.call.reservation.toList.count (key, reservationID) := by
  obtain ⟨now, call, answer⟩ := o
  have hsame : units.countP (·.reservationID == reservationID) ≤
      units.countP (·.reservationID == reservationID) +
        call.reservation.toList.count (key, reservationID) := Nat.le_add_right _ _
  cases call with
  | requestN =>
    dsimp only [countUnits]
    split
    · -- the units of a plain request carry the blank reservation
      have hblank : ∀ n : Nat,
          (replicate n (⟨unix now, ""⟩ : RateLimitEntry)).countP
            (·.reservationID == reservationID) = 0 := by
        intro n
        rw [countP_replicate, if_neg]
        simpa using Ne.symm hid
      rw [countP_append, hblank]
      exact hsame
    · exact hsame
  | reserve _ _ _ id =>
    dsimp only [countUnits]
    split
    · next hand =>
      by_cases heq : id = reservationID
      · simp [Call.reservation, heq, hid, hand.1]
      · simp [heq]
    · exact hsame
  | cancel =>
    dsimp only [countUnits]
    split
    · exact (Sublist.countP_le filter_sublist).trans hsame
    · exact hsame
  | retryAfter => exact hsame
  | deleteExpiredEntries => exact hsame

theorem countP_admittedUnits_le (hid : reservationID ≠ "") (trace : List Observation) :
    (admittedUnits key trace).countP (·.reservationID == reservationID) ≤
      (trace.filterMap fun o => o.call.reservation).count (key, reservationID) := by
  induction trace using reverseRecOn with
  | nil => exact le_rfl
  | append_singleton trace o ih =>
    have hone : [o].filterMap (·.call.reservation) = o.call.reservation.toList := by
      cases h : o.call.reservation <;> simp [h]
    rw [admittedUnits_append, filterMap_append, count_append, hone]
    exact (countP_countUnits_le hid _ o).trans (Nat.add_le_add_right ih _)

theorem eraseP_eq_filter {units : List RateLimitEntry}
    (h : units.countP (·.reservationID == reservationID) ≤ 1) :
    units.eraseP (·.reservationID == reservationID) =
      units.filter (·.reservationID != reservationID) := by
  induction units with
  | nil => rfl
  | cons e units ih =>
    by_cases he : e.reservationID = reservationID
    · have hnone : units.countP (·.reservationID == reservationID) = 0 := by
        simpa [he] using h
      have hkeep : ∀ e ∈ units, (e.reservationID != reservationID) = true := by
        simpa using countP_eq_zero.mp hnone
      rw [eraseP_cons_of_pos (by simpa using he), filter_cons_of_neg (by simpa using he),
        filter_eq_self.mpr hkeep]
    · rw [eraseP_cons_of_neg (by simpa using he), filter_cons_of_pos (by simpa using he), ih]
      simpa [he] using h

/-! ## The list of last use -/

/-- The list of last use names every key that has a bucket, once. -/
structure Linked (l : InMemoryRateLimiter) : Prop where
  nodup : l.lru.Nodup
  mem_iff : ∀ key, key ∈ l.lru ↔ (l.store key).isSome

namespace Linked

variable {l : InMemoryRateLimiter}

section

variable (h : Linked l)
include h

theorem update {lru : List String} (hnodup : lru.Nodup) (hself : key ∈ lru ↔ stored.isSome)
    (hother : ∀ k, k ≠ key → (k ∈ lru ↔ k ∈ l.lru)) :
    Linked { l with lru := lru, store := update l.store key stored } where
  nodup := hnodup
  mem_iff := by
    intro k
    show k ∈ lru ↔ (Function.update l.store key stored k).isSome
    by_cases hk : k = key
    · rw [hk, update_self]
      exact hself
    · rw [update_of_ne hk]
      exact (hother k hk).trans (h.mem_iff k)

theorem removeBucket (key : String) : Linked (l.removeBucket key) :=
  h.update (h.nodup.erase key) (by simp [h.nodup.mem_erase_iff]) fun _ hk => mem_erase_of_ne hk

theorem setBucket {old : RateLimitBucket} (hold : l.store key = some old) (b : RateLimitBucket) :
    Linked (l.setBucket key b) :=
  h.update h.nodup (by rw [h.mem_iff, hold]; rfl) fun _ _ => .rfl

theorem touchList_eq (key : String) : l.touchList key = key :: l.lru.erase key := by
  rw [touchList]
  split
  · next hnone =>
    have hnot : key ∉ l.lru := by rw [h.mem_iff, hnone]; nofun
    rw [erase_of_not_mem hnot]
  · rfl

theorem touch (key : String) (b : RateLimitBucket) :
    Linked ({ l with lru := l.touchList key }.setBucket key b) := by
  rw [h.touchList_eq]
  refine h.update ?_ (by simp) fun k hk => ?_
  · exact nodup_cons.mpr ⟨h.nodup.not_mem_erase, h.nodup.erase key⟩
  · rw [mem_cons, mem_erase_of_ne hk, or_iff_right hk]

end

end Linked

/-! ## The buckets represent the counted units -/

/-- The limiter **tracks** the answers it gave up to time `now`. -/
structure Tracks (durationOf : String → Int) (now : Int) (l : InMemoryRateLimiter)
    (trace : List Observation) : Prop where
  linked : Linked l
  window : ∀ key bucket, l.store key = some bucket → bucket.window = durationOf key
  represents : ∀ key, Represents RateLimitEntry.timestamp (durationOf key) (unix now)
    (l.units key) (admittedUnits key trace)

namespace Tracks

variable {durationOf : String → Int} {now now' : Int} {l l' : InMemoryRateLimiter}
  {trace : List Observation} {o : Observation} {b : RateLimitBucket} {answer : Answer}

theorem init (expirationDuration : Int) : Tracks durationOf now (.init expirationDuration) [] where
  linked := ⟨nodup_nil, fun _ => ⟨fun h => absurd h not_mem_nil, nofun⟩⟩
  window := nofun
  represents := fun _ => Represents.nil

section

variable (h : Tracks durationOf now l trace)
include h

theorem later (hle : now ≤ now') : Tracks durationOf now' l trace where
  linked := h.linked
  window := h.window
  represents := fun key => (h.represents key).later (Int.ediv_le_ediv (by decide) hle)

/-- What is stored for one key, and what is counted for it, may change together. -/
theorem of_store {trace' : List Observation} (hlinked : Linked l')
    (hstore : l'.store = update l.store key stored)
    (hwindow : ∀ bucket, stored = some bucket → bucket.window = durationOf key)
    (hunits : Represents RateLimitEntry.timestamp (durationOf key) (unix now)
      ((stored.map RateLimitBucket.units).getD []) (admittedUnits key trace'))
    (hother : ∀ k, k ≠ key → admittedUnits k trace' = admittedUnits k trace) :
    Tracks durationOf now l' trace' where
  linked := hlinked
  window := by
    intro k bucket hk
    rw [hstore] at hk
    by_cases heq : k = key
    · rw [heq, update_self] at hk
      exact heq ▸ hwindow bucket hk
    · rw [update_of_ne heq] at hk
      exact h.window k bucket hk
  represents := by
    intro k
    rw [units, hstore]
    by_cases heq : k = key
    · rw [heq, update_self]
      exact hunits
    · rw [update_of_ne heq, hother k heq]
      exact h.represents k

section

variable (hcall : o.call.key? = some key) (hlinked : Linked l')
include hcall hlinked

theorem write (hstore : l'.store = update l.store key stored)
    (hwindow : ∀ bucket, stored = some bucket → bucket.window = durationOf key)
    (hunits : Represents RateLimitEntry.timestamp (durationOf key) (unix now)
      ((stored.map RateLimitBucket.units).getD []) (countUnits key (admittedUnits key trace) o)) :
    Tracks durationOf now l' (trace ++ [o]) := by
  refine h.of_store hlinked hstore hwindow (by rwa [admittedUnits_append]) fun k hk => ?_
  have hne : o.call.key? ≠ some k := by
    rw [hcall]
    exact fun hsome => hk (Option.some.inj hsome).symm
  rw [admittedUnits_append, countUnits_of_ne hne]

theorem writeBucket
    (hstore : l'.store = update l.store key (some b)) (hwindow : b.window = durationOf key)
    (hunits : Represents RateLimitEntry.timestamp (durationOf key) (unix now) b.units
      (countUnits key (admittedUnits key trace) o)) :
    Tracks durationOf now l' (trace ++ [o]) :=
  h.write hcall hlinked hstore (fun _ hb => Option.some.inj hb ▸ hwindow) hunits

end

theorem idle
    (hcount : ∀ key, countUnits key (admittedUnits key trace) o = admittedUnits key trace) :
    Tracks durationOf now l (trace ++ [o]) where
  linked := h.linked
  window := h.window
  represents := by
    intro key
    rw [admittedUnits_append, hcount]
    exact h.represents key

end

/-! ### Requests -/

section

variable (h : Tracks durationOf now l trace) {max : Int}

include h

theorem units_touchBucket (key : String) : (l.touchBucket now key (durationOf key)).units =
      liveUnits (durationOf key) now key trace := by
  rw [liveUnits, ← (h.represents key).expireFront_eq, touchBucket, units]
  cases l.store key with
  | none => rfl
  | some bucket => exact bucket.units_expire (unix now) (durationOf key)

/-- **A request is admitted exactly when it fits** beside the live units of its key. -/
theorem reserveN_snd (growslice : Nat → Nat → Nat) (hmax : 1 ≤ max) (weight : Int)
    (reservationID : String) :
    (l.reserveN growslice now key max (durationOf key) weight reservationID).2 =
      decide ((if weight ≤ 0 then 1 else weight) +
        ((liveUnits (durationOf key) now key trace).length : Int) ≤ max) := by
  have hsize : ((l.touchBucket now key (durationOf key)).size : Int) =
      (liveUnits (durationOf key) now key trace).length := by
    rw [← RateLimitBucket.length_units, h.units_touchBucket]
  generalize hw : (if weight ≤ 0 then 1 else weight) = w
  rcases l.reserveN_cases growslice now key hmax (durationOf key) weight reservationID hw with
    ⟨hbig, heq⟩ | ⟨hfull, heq⟩ | ⟨hfits, heq⟩
  · rw [heq, eq_comm, decide_eq_false_iff_not]
    omega
  · rw [heq, eq_comm, decide_eq_false_iff_not]
    omega
  · rw [heq, eq_comm, decide_eq_true_iff]
    omega

theorem touch (hcall : o.call.key? = some key) (hwindow : b.window = durationOf key)
    (hunits : Represents RateLimitEntry.timestamp (durationOf key) (unix now) b.units
      (countUnits key (admittedUnits key trace) o)) :
    Tracks durationOf now ({ l with lru := l.touchList key }.setBucket key b) (trace ++ [o]) :=
  h.writeBucket hcall (h.linked.touch key b) rfl hwindow hunits

/-- A request is tracked, provided the observation counts its units when it was admitted. -/
theorem reserveN (growslice : Nat → Nat → Nat) (hcall : o.call.key? = some key) (hmax : 1 ≤ max)
    (weight : Int) (reservationID : String)
    (hcount : countUnits key (admittedUnits key trace) o =
      if (l.reserveN growslice now key max (durationOf key) weight reservationID).2 then
        admittedUnits key trace ++
          replicate (if weight ≤ 0 then 1 else weight).toNat ⟨unix now, reservationID⟩
      else admittedUnits key trace) :
    Tracks durationOf now
      (l.reserveN growslice now key max (durationOf key) weight reservationID).1
      (trace ++ [o]) := by
  have hlive : Represents RateLimitEntry.timestamp (durationOf key) (unix now)
      (l.touchBucket now key (durationOf key)).units (admittedUnits key trace) := by
    rw [h.units_touchBucket, liveUnits, ← (h.represents key).expireFront_eq]
    exact (h.represents key).expire
  generalize hw : (if weight ≤ 0 then 1 else weight) = w at hcount
  rcases l.reserveN_cases growslice now key hmax (durationOf key) weight reservationID hw with
    ⟨-, heq⟩ | ⟨-, heq⟩ | ⟨-, heq⟩
  · rw [heq] at hcount ⊢
    refine h.write hcall h.linked (update_eq_self ..).symm (h.window key) ?_
    rw [hcount]
    exact h.represents key
  · rw [heq] at hcount ⊢
    refine h.touch hcall rfl ?_
    rw [hcount]
    exact hlive
  · rw [heq] at hcount ⊢
    refine h.touch hcall (RateLimitBucket.window_append ..) ?_
    rw [hcount, RateLimitBucket.units_append]
    exact hlive.push fun u hu => congrArg _ (eq_of_mem_replicate hu)

end

/-! ### Cancellations -/

/-- A cancellation is tracked when no reservation was given out twice. -/
theorem cancel (h : Tracks durationOf now l trace)
    (hunique : reservationID ≠ "" →
      (admittedUnits key trace).countP (·.reservationID == reservationID) ≤ 1) :
    Tracks durationOf now (l.cancel key reservationID)
      (trace ++ [⟨now, .cancel key reservationID, answer⟩]) := by
  by_cases hblank : reservationID = ""
  · rw [InMemoryRateLimiter.cancel, if_pos hblank]
    exact h.idle fun k => if_neg fun hand => hand.2 hblank
  · have hcount : ∀ units, countUnits key units ⟨now, .cancel key reservationID, answer⟩ =
        units.filter (·.reservationID != reservationID) :=
      fun _ => if_pos ⟨rfl, hblank⟩
    have hstruck := (h.represents key).withdraw (·.reservationID != reservationID)
    rw [InMemoryRateLimiter.cancel, if_neg hblank]
    have hkeep : ∀ stored, l.store key = stored → l.store = update l.store key stored :=
      fun _ hstored => hstored ▸ (update_eq_self ..).symm
    cases hstore : l.store key with
    | none =>
      rw [units_of_none hstore] at hstruck
      refine h.write rfl h.linked (hkeep _ hstore) nofun ?_
      rwa [hcount]
    | some bucket =>
      rw [units_of_some hstore] at hstruck
      dsimp only
      cases hremove : bucket.remove reservationID with
      | none =>
        -- no unit that counts carries the reservation, so striking it out changes nothing
        have hall : bucket.units.filter (·.reservationID != reservationID) =
            bucket.units :=
          filter_eq_self.mpr fun e he => by
            simpa using RateLimitBucket.remove_eq_none hremove e he
        refine h.writeBucket rfl h.linked (hkeep _ hstore) (h.window key bucket hstore) ?_
        rwa [hcount, ← hall]
      | some bucket' =>
        obtain ⟨hunits', hwindow'⟩ := RateLimitBucket.remove_eq_some hremove
        -- what the bucket holds was counted, so it holds the reservation at most once
        have hone := ((h.represents key).sub.countP_le
          (p := fun e => e.reservationID == reservationID)).trans (hunique hblank)
        rw [units_of_some hstore] at hone
        rw [eraseP_eq_filter hone] at hunits'
        rw [← hunits'] at hstruck
        dsimp only
        by_cases hsize : bucket'.size = 0
        · have hnil : bucket'.units = [] :=
            eq_nil_of_length_eq_zero (bucket'.length_units.trans hsize)
          rw [if_pos hsize]
          refine h.write rfl (h.linked.removeBucket key) rfl nofun ?_
          rw [hcount]
          exact hnil ▸ hstruck
        · rw [if_neg hsize]
          refine h.writeBucket rfl (h.linked.setBucket hstore bucket') rfl
            (hwindow'.trans (h.window key bucket hstore)) ?_
          rwa [hcount]

/-! ### Questions and sweeps -/

section

variable (h : Tracks durationOf now l trace)
include h

/-- Asking when to retry is tracked: it only expires the bucket, or drops it when empty. -/
theorem retryAfter : Tracks durationOf now (l.retryAfter now key (durationOf key)).1
      (trace ++ [⟨now, .retryAfter key (durationOf key), answer⟩]) := by
  have hidle := h.idle (o := ⟨now, .retryAfter key (durationOf key), answer⟩) fun _ => rfl
  rw [InMemoryRateLimiter.retryAfter]
  split
  · exact hidle
  · cases hstore : l.store key with
    | none => exact hidle
    | some bucket =>
      have hexpired := (h.represents key).expire
      rw [units_of_some hstore, ← RateLimitBucket.units_expire] at hexpired
      dsimp only
      split
      · next hnil =>
        exact h.write rfl (h.linked.removeBucket key) rfl nofun (hnil ▸ hexpired)
      · exact h.writeBucket rfl (h.linked.setBucket hstore _) rfl
          ((bucket.window_expire _ _).trans (h.window key bucket hstore)) hexpired

/-- **`RetryAfter` counts the seconds** until the oldest live unit leaves the window. -/
theorem retryAfter_snd (hduration : 1 ≤ durationOf key) :
    (l.retryAfter now key (durationOf key)).2 =
      match ((liveUnits (durationOf key) now key trace).map RateLimitEntry.timestamp).min? with
      | none => 1
      | some oldest => oldest + durationOf key - unix now := by
  have hlive := (h.represents key).expireFront_eq
  rw [InMemoryRateLimiter.retryAfter, if_neg (by omega), liveUnits, ← hlive]
  cases hstore : l.store key with
  | none =>
    rw [units_of_none hstore]
    rfl
  | some =>
    rw [units_of_some hstore, ← RateLimitBucket.units_expire] at hlive ⊢
    dsimp only
    split
    · next hnil => rw [hnil]; rfl
    · next oldest rest hcons =>
      have hord := (h.represents key).expire.ordered_held
      rw [units_of_some hstore, ← RateLimitBucket.units_expire, hcons] at hord
      rw [hcons, min?_time_of_ordered hord]
      -- a live unit has at least one second left, so the lower bound of one does not bite
      have hmem : oldest ∈ live RateLimitEntry.timestamp (durationOf key) (unix now)
          (admittedUnits key trace) := by
        rw [← hlive, hcons]
        exact mem_cons_self
      have := (mem_live.mp hmem).2
      show max 1 (durationOf key - (unix now - oldest.timestamp)) =
        oldest.timestamp + durationOf key - unix now
      omega

theorem removeBucket
    (hdead : live RateLimitEntry.timestamp (durationOf key) (unix now) (l.units key) = []) :
    Tracks durationOf now (l.removeBucket key) trace :=
  h.of_store (h.linked.removeBucket key) rfl nofun ((h.represents key).discard hdead) fun _ _ => rfl

end

/-- **The sweep forgets no live unit.** Over keys of the list, each once, it meets no missing bucket
and drops only buckets whose newest entry has left the window. -/
theorem sweep {keys : List String} (h : Tracks durationOf now l trace) (hnodup : keys.Nodup)
    (hmem : ∀ key ∈ keys, key ∈ l.lru) :
    ∃ l', InMemoryRateLimiter.sweep now keys l = some l' ∧ Tracks durationOf now l' trace := by
  induction keys generalizing l with
  | nil => exact ⟨l, rfl, h⟩
  | cons key keys ih =>
    obtain ⟨hfresh, hnodup⟩ := nodup_cons.mp hnodup
    have hrest : ∀ k ∈ keys, k ∈ l.lru := fun k hk => hmem k (mem_cons_of_mem key hk)
    have hrestRemoved : ∀ k ∈ keys, k ∈ (l.removeBucket key).lru := by
      intro k hk
      refine (mem_erase_of_ne ?_).mpr (hrest k hk)
      rintro rfl
      exact hfresh hk
    obtain ⟨bucket, hstore⟩ :=
      Option.isSome_iff_exists.mp ((h.linked.mem_iff key).mp (hmem key mem_cons_self))
    have hunits := units_of_some hstore
    rw [InMemoryRateLimiter.sweep, hstore]
    dsimp only
    by_cases hactive : now - bucket.lastActive ≤ l.expirationDuration
    · rw [if_pos hactive]
      exact ⟨l, rfl, h⟩
    · rw [if_neg hactive]
      by_cases hsize : bucket.size = 0
      · rw [if_pos hsize]
        have hnil : bucket.units = [] :=
          eq_nil_of_length_eq_zero (bucket.length_units.trans hsize)
        refine ih (h.removeBucket ?_) hnodup hrestRemoved
        rw [hunits, hnil]
        rfl
      · rw [if_neg hsize]
        have hlast := RateLimitBucket.getLast?_units hsize
        cases hget : bucket.entries.getLast? with
        | none =>
          -- a bucket whose size is not zero has a last entry
          have hempty := getLast?_eq_none_iff.mp hget
          rw [RateLimitBucket.size, hempty] at hsize
          exact absurd (Nat.zero_sub _) hsize
        | some last =>
          dsimp only
          rw [hget] at hlast
          split
          · next hold =>
            refine ih (h.removeBucket ?_) hnodup hrestRemoved
            refine (h.represents key).live_eq_nil_of_getLast (hunits ▸ hlast) ?_
            rw [← h.window key bucket hstore]
            exact hold
          · exact ih h hnodup hrest

theorem deleteExpiredEntries (h : Tracks durationOf now l trace) (answer : Answer) :
    ∃ l', l.deleteExpiredEntries now = some l' ∧
      Tracks durationOf now l' (trace ++ [⟨now, .deleteExpiredEntries, answer⟩]) := by
  rw [InMemoryRateLimiter.deleteExpiredEntries]
  split
  · exact ⟨l, rfl, h.idle fun _ => rfl⟩
  · obtain ⟨l', hl', h'⟩ := h.sweep (nodup_reverse.mpr h.linked.nodup)
      fun _ hkey => mem_reverse.mp hkey
    exact ⟨l', hl', h'.idle fun _ => rfl⟩

end Tracks

/-! ## Runs -/

/-- A call uses the limit and the window fixed for its key. -/
def Call.Fixed (maxOf durationOf : String → Int) : Call → Prop
  | .requestN key max duration _ => max = maxOf key ∧ duration = durationOf key
  | .reserve key max duration _ => max = maxOf key ∧ duration = durationOf key
  | .cancel _ _ => True
  | .retryAfter key duration => duration = durationOf key
  | .deleteExpiredEntries => True

/-- Timed calls as the limiter is meant to be used: the clock does not run backwards, each key has
one limit and one window, and no reservation is asked for twice. -/
structure Disciplined (maxOf durationOf : String → Int) (calls : List (Int × Call)) : Prop where
  max_pos : ∀ key, 1 ≤ maxOf key
  duration_pos : ∀ key, 1 ≤ durationOf key
  clock : calls.Pairwise (fun c c' => c.1 ≤ c'.1)
  fixed : ∀ c ∈ calls, c.2.Fixed maxOf durationOf
  distinct : (calls.filterMap fun c => c.2.reservation).Nodup

section

variable (growslice : Nat → Nat → Nat) {maxOf durationOf : String → Int} {now : Int}
  {l : InMemoryRateLimiter} {trace : List Observation}

/-- **Every call is tracked** and none panics. -/
theorem tracks_exec (h : Tracks durationOf now l trace) (hmax : ∀ key, 1 ≤ maxOf key) {c : Call}
    (hfixed : c.Fixed maxOf durationOf)
    (hdistinct : (trace.filterMap fun o => o.call.reservation).Nodup) :
    ∃ l' answer, exec growslice l now c = some (l', answer) ∧
      Tracks durationOf now l' (trace ++ [⟨now, c, answer⟩]) := by
  cases c with
  | requestN key _ _ weight =>
    obtain ⟨rfl, rfl⟩ := hfixed
    refine ⟨_, _, rfl, h.reserveN growslice rfl (hmax key) weight "" ?_⟩
    simp [countUnits, requestN]
  | reserve key _ _ reservationID =>
    obtain ⟨rfl, rfl⟩ := hfixed
    refine ⟨_, _, rfl, h.reserveN growslice rfl (hmax key) 1 reservationID ?_⟩
    simp [countUnits, reserve]
  | cancel =>
    refine ⟨_, _, rfl, h.cancel fun hid => ?_⟩
    exact (countP_admittedUnits_le hid trace).trans (nodup_iff_count_le_one.mp hdistinct _)
  | retryAfter =>
    obtain rfl := hfixed
    exact ⟨_, _, rfl, h.retryAfter⟩
  | deleteExpiredEntries =>
    obtain ⟨l', hl', h'⟩ := h.deleteExpiredEntries .done
    exact ⟨l', .done, by rw [exec, hl']; rfl, h'⟩

/-- **Every run is tracked** and none panics. -/
theorem tracks_run (expirationDuration : Int) {calls : List (Int × Call)}
    (h : Disciplined maxOf durationOf calls) (hnow : ∀ c ∈ calls, c.1 ≤ now) :
    ∃ l trace, run growslice (.init expirationDuration) calls = some (l, trace) ∧
      trace.map (fun o => (o.now, o.call)) = calls ∧ Tracks durationOf now l trace := by
  induction calls using reverseRecOn generalizing now with
  | nil => exact ⟨_, _, rfl, rfl, Tracks.init expirationDuration⟩
  | append_singleton calls c ih =>
    -- the calls before the last one are disciplined and none of them is later than it
    obtain ⟨hclock, -, hlast⟩ := pairwise_append.mp h.clock
    have hdistinct := h.distinct
    rw [filterMap_append] at hdistinct
    have hcalls : Disciplined maxOf durationOf calls :=
      { max_pos := h.max_pos
        duration_pos := h.duration_pos
        clock := hclock
        fixed := fun c' hc' => h.fixed c' (mem_append_left _ hc')
        distinct := (nodup_append.mp hdistinct).1 }
    obtain ⟨l, trace, hrun, htrace, htracks⟩ :=
      ih hcalls fun c' hc' => hlast c' hc' c (mem_singleton_self c)
    have hreservations : (trace.filterMap fun o => o.call.reservation).Nodup := by
      have := hcalls.distinct
      rw [← htrace, filterMap_map] at this
      exact this
    obtain ⟨l', answer, hexec, htracks'⟩ := tracks_exec growslice htracks h.max_pos
      (h.fixed c (mem_append_right _ (mem_singleton_self c))) hreservations
    refine ⟨l', trace ++ [⟨c.1, c.2, answer⟩], ?_, ?_, ?_⟩
    · rw [run, foldlM_append]
      rw [run] at hrun
      rw [hrun]
      show observe growslice (l, trace) c >>= pure = _
      rw [observe, hexec]
      rfl
    · rw [map_append, htrace]
      rfl
    · exact htracks'.later (hnow c (mem_append_right _ (mem_singleton_self c)))

/-- **The limiter is an exact sliding window.** After every disciplined run, at any later time, a
request of weight `w` within the limit is admitted exactly when `w` and the live units of its key
fit the limit, a reservation exactly when one more unit fits, and `RetryAfter` returns the seconds
until the oldest live unit leaves the window, one when there is none. -/
theorem exact_sliding_window (expirationDuration : Int) {calls : List (Int × Call)}
    (h : Disciplined maxOf durationOf calls) (now : Int) (hnow : ∀ c ∈ calls, c.1 ≤ now) :
    ∃ l trace, run growslice (.init expirationDuration) calls = some (l, trace) ∧
      trace.map (fun o => (o.now, o.call)) = calls ∧
      ∀ key,
        (∀ w, 1 ≤ w → w ≤ maxOf key →
          ((l.requestN growslice now key (maxOf key) (durationOf key) w).2 = true ↔
            w + ((liveUnits (durationOf key) now key trace).length : Int) ≤ maxOf key)) ∧
        (∀ reservationID,
          ((l.reserve growslice now key (maxOf key) (durationOf key) reservationID).2 = true ↔
            1 + ((liveUnits (durationOf key) now key trace).length : Int) ≤ maxOf key)) ∧
        (l.retryAfter now key (durationOf key)).2 =
          match ((liveUnits (durationOf key) now key trace).map
            RateLimitEntry.timestamp).min? with
          | none => 1
          | some oldest => oldest + durationOf key - unix now := by
  obtain ⟨l, trace, hrun, htrace, htracks⟩ := tracks_run growslice expirationDuration h hnow
  refine ⟨l, trace, hrun, htrace, fun key => ⟨?_, ?_, htracks.retryAfter_snd (h.duration_pos key)⟩⟩
  · intro w hw _
    rw [requestN, htracks.reserveN_snd growslice (h.max_pos key), decide_eq_true_iff,
      if_neg (by omega)]
  · intro reservationID
    rw [reserve, htracks.reserveN_snd growslice (h.max_pos key), decide_eq_true_iff]
    rfl

end

/-- A reservation fills the limit of two with a plain request, is taken back, and the sweep passes
while the other unit is live. -/
def sampleCalls : List (Int × Call) :=
  [(1000000000, .reserve "k" 2 60 "r"), (2000000000, .requestN "k" 2 60 1),
    (3000000000, .requestN "k" 2 60 1), (3000000000, .cancel "k" "r"),
    (9000000000, .deleteExpiredEntries), (10000000000, .retryAfter "k" 60)]

example :
    (run (fun cap len => max (2 * cap) len) (.init 1000000000) sampleCalls).map
        (·.2.map Observation.answer) =
      some [.admitted true, .admitted true, .admitted false, .done, .done, .seconds 52] := by
  decide +kernel

theorem exact_sliding_window_sample :
    ∃ l trace,
      run (fun cap len => max (2 * cap) len) (.init 1000000000) sampleCalls = some (l, trace) ∧
      ((l.requestN (fun cap len => max (2 * cap) len) 10000000000 "k" 2 60 1).2 = true ↔
        1 + ((liveUnits 60 10000000000 "k" trace).length : Int) ≤ 2) := by
  have hcalls : Disciplined (fun _ => 2) (fun _ => 60) sampleCalls :=
    ⟨fun _ => by decide, fun _ => by decide, by decide, by simp [sampleCalls, Call.Fixed], by decide⟩
  obtain ⟨l, trace, hrun, -, hexact⟩ := exact_sliding_window
    (fun cap len => max (2 * cap) len) 1000000000 hcalls 10000000000 (by decide)
  exact ⟨l, trace, hrun, (hexact "k").1 1 (by decide) (by decide)⟩

end RenewApi.Limits
