import Mathlib.Data.List.Count
import Mathlib.Logic.Function.Basic
import RenewApi.Limits.Window

/-! # The in-memory rate limiter

`common/rate-limit.go` keeps one bucket of dated entries per key. A bucket is a slice whose first
`head` entries are dead.

Times are nanoseconds, entries are dated in seconds. -/

namespace RenewApi.Limits

open Window List

/-- An entry of a bucket. The zero value is what dead slots are overwritten with. -/
structure RateLimitEntry where
  timestamp : Int := 0
  reservationID : String := ""
  deriving DecidableEq

/-- A bucket: a slice of entries with its capacity, of which those from `head` on count. -/
structure RateLimitBucket where
  entries : List RateLimitEntry := []
  cap : Nat := 0
  head : Nat := 0
  lastActive : Int := 0
  window : Int := 0
  head_le : head ≤ entries.length := by simp

/-- `time.Time.Unix` of a time in nanoseconds. -/
def unix (now : Int) : Int := now / 1000000000

variable {b : RateLimitBucket}

namespace RateLimitBucket

variable (b : RateLimitBucket)

/-- The number of entries that count. -/
def size : Nat := b.entries.length - b.head

/-- The entries that count. -/
def units : List RateLimitEntry := b.entries.drop b.head

theorem length_units : b.units.length = b.size := length_drop

/-- The loop of `expire`: overwrite the entry at the head and move on while it is old, at most
`size` times. -/
def expireLoop (now duration : Int) : Nat → RateLimitBucket → RateLimitBucket
  | 0, b => b
  | fuel + 1, b =>
    if h : b.head < b.entries.length then
      if now - b.entries[b.head].timestamp ≥ duration then
        expireLoop now duration fuel
          { b with
            entries := b.entries.set b.head {}
            head := b.head + 1
            head_le := by rw [List.length_set]; exact h }
      else b
    else b

/-- Drop the entries at the front that have left the window; an empty slice is reset. -/
def expire (now duration : Int) : RateLimitBucket :=
  let b := expireLoop now duration b.size b
  if b.head = b.entries.length then
    { b with entries := [], head := 0, head_le := Nat.le_refl 0 }
  else b

/-- Move the entries that count to the front of the slice, when it would have to grow or half of it
is dead. -/
def compact (weight : Nat) : RateLimitBucket :=
  if 0 < b.head ∧ (b.entries.length + weight > b.cap ∨ b.head ≥ b.entries.length / 2) then
    { b with entries := b.entries.drop b.head, head := 0, head_le := Nat.zero_le _ }
  else b

/-- The built-in `append` of one entry; `growslice cap len` is the capacity the runtime gives a
slice that has to grow. -/
def appendEntry (growslice : Nat → Nat → Nat) (e : RateLimitEntry) (b : RateLimitBucket) :
    RateLimitBucket :=
  { b with
    entries := b.entries ++ [e]
    cap :=
      if b.entries.length + 1 > b.cap then growslice b.cap (b.entries.length + 1) else b.cap
    head_le := by
      rw [List.length_append]
      exact b.head_le.trans (Nat.le_add_right _ _) }

def append (growslice : Nat → Nat → Nat) (b : RateLimitBucket) (now : Int) (weight : Nat)
    (reservationID : String) : RateLimitBucket :=
  (appendEntry growslice ⟨now, reservationID⟩)^[weight] (b.compact weight)

/-- Cut the `i`-th of the entries that count out of the slice. -/
def cut (i : Nat) : RateLimitBucket :=
  { b with
    entries := b.entries.eraseIdx (b.head + i)
    head_le := by
      have := b.head_le
      rw [List.length_eraseIdx]
      split <;> omega }

/-- The loop of `Cancel`: cut out the first entry that counts and carries the reservation. -/
def remove (reservationID : String) : Option RateLimitBucket :=
  (b.units.findIdx? (·.reservationID == reservationID)).map b.cut

/-! ### What the operations do to the entries that count -/

variable (growslice : Nat → Nat → Nat) (b : RateLimitBucket) (now duration : Int) (weight : Nat)
  (reservationID : String)

/-- The loop of `expire` drops old entries from the front of those that count. -/
theorem units_expireLoop (fuel : Nat) (b : RateLimitBucket) (hfuel : b.size ≤ fuel) :
    (expireLoop now duration fuel b).units =
      expireFront RateLimitEntry.timestamp duration now b.units := by
  induction fuel generalizing b with
  | zero =>
    have hnil : b.units = [] := eq_nil_of_length_eq_zero (by rw [length_units]; omega)
    rw [expireLoop, hnil]
    rfl
  | succ fuel ih =>
    rw [expireLoop]
    by_cases h : b.head < b.entries.length
    · rw [dif_pos h]
      have hcons : b.units = b.entries[b.head] :: b.entries.drop (b.head + 1) :=
        drop_eq_getElem_cons h
      split_ifs with hold
      · rw [ih]
        · rw [hcons, expireFront, expireFront, dropWhile_cons_of_pos (by simpa using hold)]
          -- overwriting the dead slot does not touch what lies behind it
          simp only [units, drop_set_of_lt (Nat.lt_succ_self _)]
        · simp only [size, length_set] at hfuel ⊢
          omega
      · rw [hcons, expireFront, dropWhile_cons_of_neg (by simpa using hold)]
    · rw [dif_neg h]
      have hnil : b.units = [] := drop_eq_nil_of_le (by omega)
      rw [hnil]
      rfl

theorem units_expire : (b.expire now duration).units =
      expireFront RateLimitEntry.timestamp duration now b.units := by
  rw [← units_expireLoop now duration b.size b le_rfl, expire]
  split
  · next h => rw [units, units, h, drop_length]; rfl
  · rfl

/-- `expire` leaves the window alone. -/
theorem window_expire : (b.expire now duration).window = b.window := by
  have hloop : ∀ (fuel : Nat) (c : RateLimitBucket),
      (expireLoop now duration fuel c).window = c.window := by
    intro fuel
    induction fuel with
    | zero => exact fun c => rfl
    | succ fuel ih =>
      intro c
      rw [expireLoop]
      split
      · split
        · exact ih _
        · rfl
      · rfl
  rw [expire, ← hloop b.size b]
  split
  · rfl
  · rfl

theorem units_compact : (b.compact weight).units = b.units := by
  rw [compact]
  split
  · rfl
  · rfl

theorem units_appendEntry (e : RateLimitEntry) (b : RateLimitBucket) :
    (appendEntry growslice e b).units = b.units ++ [e] :=
  drop_append_of_le_length b.head_le

/-- `append` adds `weight` entries behind those that count. -/
theorem units_append : (b.append growslice now weight reservationID).units =
      b.units ++ replicate weight ⟨now, reservationID⟩ := by
  have hiterate : ∀ (n : Nat) (c : RateLimitBucket),
      ((appendEntry growslice ⟨now, reservationID⟩)^[n] c).units =
        c.units ++ replicate n ⟨now, reservationID⟩ := by
    intro n
    induction n with
    | zero => exact fun c => (append_nil _).symm
    | succ n ih =>
      intro c
      rw [Function.iterate_succ_apply, ih, units_appendEntry, append_assoc]
      rfl
  rw [append, hiterate, units_compact]

/-- `append` leaves the window alone. -/
theorem window_append : (b.append growslice now weight reservationID).window = b.window := by
  have hiterate : ∀ (n : Nat) (c : RateLimitBucket),
      ((appendEntry growslice ⟨now, reservationID⟩)^[n] c).window = c.window := by
    intro n
    induction n with
    | zero => exact fun c => rfl
    | succ n ih =>
      intro c
      rw [Function.iterate_succ_apply, ih]
      rfl
  rw [append, hiterate, compact]
  split
  · rfl
  · rfl

theorem units_cut (i : Nat) : (b.cut i).units = b.units.eraseIdx i := by
  show (b.entries.eraseIdx (b.head + i)).drop b.head = (b.entries.drop b.head).eraseIdx i
  rw [eraseIdx_eq_take_drop_succ, eraseIdx_eq_take_drop_succ,
    drop_append_of_le_length, drop_take, drop_drop]
  · congr 2
    omega
  · have := b.head_le
    rw [length_take]
    omega

variable {b} {reservationID}

theorem remove_eq_none (h : b.remove reservationID = none) :
    ∀ e ∈ b.units, e.reservationID ≠ reservationID := by
  intro e he
  have hnone := Option.map_eq_none_iff.mp h
  simpa using findIdx?_eq_none_iff.mp hnone e he

theorem remove_eq_some {b' : RateLimitBucket} (h : b.remove reservationID = some b') :
    b'.units = b.units.eraseP (·.reservationID == reservationID) ∧
      b'.window = b.window := by
  obtain ⟨i, hi, rfl⟩ := Option.map_eq_some_iff.mp h
  refine ⟨?_, rfl⟩
  rw [eraseP_eq_eraseIdx, hi, units_cut]

theorem getLast?_units (h : b.size ≠ 0) : b.units.getLast? = b.entries.getLast? := by
  have hlt : ¬ b.entries.length ≤ b.head := by
    rw [size] at h
    omega
  rw [units, getLast?_drop, if_neg hlt]

end RateLimitBucket

/-! ## The limiter -/

/-- The limiter: the buckets by key, and the keys in the order of last use, front first. -/
structure InMemoryRateLimiter where
  store : String → Option RateLimitBucket
  lru : List String
  /-- how long a bucket may idle before the sweep looks at it, in nanoseconds -/
  expirationDuration : Int

namespace InMemoryRateLimiter

/-- `Init`: the map is empty. -/
def init (expirationDuration : Int) : InMemoryRateLimiter := ⟨fun _ => none, [], expirationDuration⟩

section

variable (l : InMemoryRateLimiter) (key : String)

def units : List RateLimitEntry :=
  ((l.store key).map RateLimitBucket.units).getD []

/-- Write a bucket. -/
def setBucket (b : RateLimitBucket) : InMemoryRateLimiter :=
  { l with store := Function.update l.store key (some b) }

/-- Drop a bucket and its list element. -/
def removeBucket : InMemoryRateLimiter :=
  { l with store := Function.update l.store key none, lru := l.lru.erase key }

end

section

variable {l : InMemoryRateLimiter} {key : String}

theorem units_of_some (h : l.store key = some b) : l.units key = b.units := by
  rw [units, h]
  rfl

theorem units_of_none (h : l.store key = none) : l.units key = [] := by
  rw [units, h]
  rfl

end

/-- The loop of `deleteExpiredEntries` over the keys from the back of the list. `none` is the
panic on a key without a bucket or on an empty slice. -/
def sweep (now : Int) : List String → InMemoryRateLimiter → Option InMemoryRateLimiter
  | [], l => some l
  | key :: keys, l =>
    match l.store key with
    | none => none
    | some bucket =>
      if now - bucket.lastActive ≤ l.expirationDuration then some l
      else if bucket.size = 0 then sweep now keys (l.removeBucket key)
      else
        match bucket.entries.getLast? with
        | none => none
        | some last =>
          if unix now - last.timestamp ≥ bucket.window then sweep now keys (l.removeBucket key)
          else sweep now keys l

section

variable (l : InMemoryRateLimiter)

/-- The sweep at a tick, over the keys of the list as it found it. -/
def deleteExpiredEntries (now : Int) : Option InMemoryRateLimiter :=
  if l.expirationDuration ≤ 0 then some l else sweep now l.lru.reverse l

/-- The bucket a request works on: a new one, or the old one expired. -/
def touchBucket (now : Int) (key : String) (duration : Int) : RateLimitBucket :=
  let bucket : RateLimitBucket :=
    match l.store key with
    | none => {}
    | some bucket => bucket.expire (unix now) duration
  { bucket with lastActive := now, window := duration }

/-- The list after the bucket was pushed or moved to the front. -/
def touchList (key : String) : List String :=
  match l.store key with
  | none => key :: l.lru
  | some _ => key :: l.lru.erase key

end

variable (growslice : Nat → Nat → Nat)

section

variable (l : InMemoryRateLimiter) (now : Int) (key : String)

/-- `reserveN`: admit `weight` entries if they fit beside the live ones. -/
def reserveN (maxRequestNum duration weight : Int) (reservationID : String) :
    InMemoryRateLimiter × Bool :=
  if maxRequestNum ≤ 0 then (l, true)
  else
    let weight := if weight ≤ 0 then 1 else weight
    if weight > maxRequestNum then (l, false)
    else
      let bucket := l.touchBucket now key duration
      let touched := { l with lru := l.touchList key }
      if weight > maxRequestNum - bucket.size then (touched.setBucket key bucket, false)
      else
        (touched.setBucket key
          (bucket.append growslice (unix now) weight.toNat reservationID), true)

/-- **What a request under a limit can do**: it is too heavy for the limit, too heavy for what is
left of it, or admitted. -/
theorem reserveN_cases {maxRequestNum : Int} (hmax : 1 ≤ maxRequestNum) (duration weight : Int)
    (reservationID : String) {w : Int} (hw : (if weight ≤ 0 then 1 else weight) = w) :
    (w > maxRequestNum ∧
      l.reserveN growslice now key maxRequestNum duration weight reservationID = (l, false)) ∨
    (w > maxRequestNum - (l.touchBucket now key duration).size ∧
      l.reserveN growslice now key maxRequestNum duration weight reservationID =
        ({ l with lru := l.touchList key }.setBucket key (l.touchBucket now key duration), false)) ∨
    (w ≤ maxRequestNum - (l.touchBucket now key duration).size ∧
      l.reserveN growslice now key maxRequestNum duration weight reservationID =
        ({ l with lru := l.touchList key }.setBucket key
          ((l.touchBucket now key duration).append growslice (unix now) w.toNat reservationID),
          true)) := by
  rw [reserveN, if_neg (by omega), hw]
  by_cases hbig : w > maxRequestNum
  · exact .inl ⟨hbig, if_pos hbig⟩
  · rw [if_neg hbig]
    by_cases hfull : w > maxRequestNum - (l.touchBucket now key duration).size
    · exact .inr (.inl ⟨hfull, if_pos hfull⟩)
    · exact .inr (.inr ⟨not_lt.mp hfull, if_neg hfull⟩)

/-- `RequestN`: entries without a reservation. -/
def requestN (maxRequestNum duration weight : Int) : InMemoryRateLimiter × Bool :=
  l.reserveN growslice now key maxRequestNum duration weight ""

/-- `Reserve`: one entry that can be cancelled. -/
def reserve (maxRequestNum duration : Int) (reservationID : String) : InMemoryRateLimiter × Bool :=
  l.reserveN growslice now key maxRequestNum duration 1 reservationID

end

/-- `Cancel`: take a reservation back. A blank one is ignored. -/
def cancel (l : InMemoryRateLimiter) (key reservationID : String) : InMemoryRateLimiter :=
  if reservationID = "" then l
  else
    match l.store key with
    | none => l
    | some bucket =>
      match bucket.remove reservationID with
      | none => l
      | some bucket =>
        if bucket.size = 0 then l.removeBucket key else l.setBucket key bucket

/-- `RetryAfter`: seconds until the oldest entry leaves the window. -/
def retryAfter (l : InMemoryRateLimiter) (now : Int) (key : String) (duration : Int) :
    InMemoryRateLimiter × Int :=
  if duration ≤ 0 then (l, 1)
  else
    match l.store key with
    | none => (l, 1)
    | some bucket =>
      let bucket := bucket.expire (unix now) duration
      match bucket.units with
      | [] => (l.removeBucket key, 1)
      | oldest :: _ => (l.setBucket key bucket, max 1 (duration - (unix now - oldest.timestamp)))

end InMemoryRateLimiter

/-! ## Runs and what they answer -/

/-- The calls of the limiter. -/
inductive Call where
  /-- `RequestN` -/
  | requestN (key : String) (maxRequestNum duration weight : Int)
  /-- `Reserve` -/
  | reserve (key : String) (maxRequestNum duration : Int) (reservationID : String)
  /-- `Cancel` -/
  | cancel (key reservationID : String)
  /-- `RetryAfter` -/
  | retryAfter (key : String) (duration : Int)
  | deleteExpiredEntries
  deriving DecidableEq

/-- What a call returns. -/
inductive Answer where
  | admitted (ok : Bool)
  | seconds (n : Int)
  | done
  deriving DecidableEq

/-- A call at a time, with its answer. -/
structure Observation where
  now : Int
  call : Call
  answer : Answer
  deriving DecidableEq

section

variable (growslice : Nat → Nat → Nat)

/-- One call at time `now`; `none` is a panic. -/
def exec (l : InMemoryRateLimiter) (now : Int) : Call → Option (InMemoryRateLimiter × Answer)
  | .requestN key maxRequestNum duration weight =>
    let r := l.requestN growslice now key maxRequestNum duration weight
    some (r.1, .admitted r.2)
  | .reserve key maxRequestNum duration reservationID =>
    let r := l.reserve growslice now key maxRequestNum duration reservationID
    some (r.1, .admitted r.2)
  | .cancel key reservationID => some (l.cancel key reservationID, .done)
  | .retryAfter key duration =>
    let r := l.retryAfter now key duration
    some (r.1, .seconds r.2)
  | .deleteExpiredEntries => (l.deleteExpiredEntries now).map fun l => (l, .done)

/-- One call that is also written down. -/
def observe (s : InMemoryRateLimiter × List Observation) (c : Int × Call) :
    Option (InMemoryRateLimiter × List Observation) :=
  (exec growslice s.1 c.1 c.2).map fun r => (r.1, s.2 ++ [⟨c.1, c.2, r.2⟩])

/-- A run of calls with their times, and everything that was answered. -/
def run (l : InMemoryRateLimiter) (calls : List (Int × Call)) :
    Option (InMemoryRateLimiter × List Observation) :=
  calls.foldlM (observe growslice) (l, [])

end

/-- What one observation does to the units of a key: an admitted request adds its entries, dated
with the second of the call, and a cancelled reservation is struck out. -/
def countUnits (key : String) (units : List RateLimitEntry) (o : Observation) :
    List RateLimitEntry :=
  match o.call with
  | .requestN key' _ _ weight =>
    if key' = key ∧ o.answer = .admitted true then
      units ++ List.replicate (if weight ≤ 0 then 1 else weight).toNat ⟨unix o.now, ""⟩
    else units
  | .reserve key' _ _ reservationID =>
    if key' = key ∧ o.answer = .admitted true then units ++ [⟨unix o.now, reservationID⟩]
    else units
  | .cancel key' reservationID =>
    if key' = key ∧ reservationID ≠ "" then
      units.filter (·.reservationID != reservationID)
    else units
  | .retryAfter _ _ => units
  | .deleteExpiredEntries => units

/-- **The units of a key**: those admitted and not cancelled, read off the answers alone. -/
def admittedUnits (key : String) (trace : List Observation) : List RateLimitEntry :=
  trace.foldl (countUnits key) []

/-- The units of a key in the window of `duration` seconds that ends with the second of `now`. -/
def liveUnits (duration now : Int) (key : String) (trace : List Observation) :
    List RateLimitEntry :=
  live RateLimitEntry.timestamp duration (unix now) (admittedUnits key trace)

end RenewApi.Limits
