import RenewApi.Relational.Transaction

/-! # Concurrency slots of a token and their leases

`service/token_limit.go` in its Redis mode: a sorted set whose scores are lease ends, any number of
slots, each with a goroutine that renews its lease, and the steps of all parties in any
interleaving.

Times are milliseconds, on one clock. -/

namespace RenewApi.Leases

open Relational List Table

/-- How long a lease lasts. -/
def tokenConcurrencyLeaseDuration : Int := 120000

/-- The interval of a slot's ticker. -/
def tokenConcurrencyRenewInterval : Int := 30000

/-! ## The sorted set -/

/-- A member of the sorted set: a slot and the end of its lease. -/
structure Lease where
  id : String
  score : Int
  deriving DecidableEq

instance : Row Lease String := ⟨Lease.id⟩

/-- The key of a token: its members, and when Redis drops the key as a whole. -/
structure ZSet where
  members : Table Lease
  /-- the time set by `PEXPIRE` -/
  expiresAt : Int

namespace ZSet

section

variable (z : ZSet) (now : Int)

/-- What a script finds under the key. -/
def read : Table Lease :=
  if now < z.expiresAt then z.members else Table.empty

/-- `tokenConcurrencyAcquireScript`: drop the expired leases, and add one if there is room. -/
def acquireScript (limit : Nat) (id : String) : ZSet × Bool :=
  let members := (z.read now).deleteWhere (·.score ≤ now)
  if members.rows.length ≥ limit then ({ z with members := members }, false)
  else
    ({ members := members.insert ⟨id, now + tokenConcurrencyLeaseDuration⟩
       expiresAt := now + tokenConcurrencyLeaseDuration * 2 }, true)

/-- `tokenConcurrencyRenewScript`: extend the lease if the member is there, expired or not. -/
def renewScript (id : String) : ZSet × Bool :=
  match (z.read now).find? id with
  | none => (z, false)
  | some _ =>
    ({ members := (z.read now).put ⟨id, now + tokenConcurrencyLeaseDuration⟩
       expiresAt := now + tokenConcurrencyLeaseDuration * 2 }, true)

/-- `tokenConcurrencyReleaseScript`: take the member out. -/
def releaseScript (id : String) : ZSet :=
  { z with members := (z.read now).deleteWhere (·.id = id) }

end

end ZSet

/-! ## Slots -/

/-- Where the loop of `startRenewal` stands. -/
inductive RenewalPhase where
  /-- in the `select` -/
  | waiting
  /-- in `renew`, with the answer of the script once it has run -/
  | calling (reply : Option Bool)
  deriving DecidableEq

/-- The goroutine of a slot. -/
structure Renewal where
  nextTick : Int
  lastRenewed : Int
  phase : RenewalPhase
  cancelled : Bool
  deriving DecidableEq

/-- A slot: granted by the script, and running once the reply has arrived. -/
inductive SlotPhase where
  | granted (time : Int)
  | running (renewal : Renewal)
  deriving DecidableEq

/-- A slot of the token under its unique id. -/
structure Slot where
  /-- `common.GetUUID()` -/
  id : String
  phase : SlotPhase
  deriving DecidableEq

instance : Row Slot String := ⟨Slot.id⟩

/-- What the deployment fixes: the limit of the token and `RedisOperationTimeout`. -/
structure LimitConfig where
  limit : Nat
  operationTimeout : Int

/-- The timeout of a renewal: the shorter of half an interval and `RedisOperationTimeout`. -/
def LimitConfig.renewTimeout (cfg : LimitConfig) : Int :=
  min (tokenConcurrencyRenewInterval / 2) cfg.operationTimeout

variable (cfg : LimitConfig)

/-- The latest time at which the goroutine has to move. -/
def Renewal.deadline (r : Renewal) : Int :=
  match r.phase with
  | .waiting => r.nextTick
  | .calling _ => r.nextTick - tokenConcurrencyRenewInterval + cfg.renewTimeout

/-- The goroutine of a slot whose context is not done. -/
def Slot.live? (slot : Slot) : Option Renewal :=
  match slot.phase with
  | .granted _ => none
  | .running r => if r.cancelled then none else some r

/-! ## The system -/

/-- The system at a time. -/
structure SlotState where
  now : Int
  redis : ZSet
  slots : Table Slot

/-- No slot, nothing stored. -/
def SlotState.start : SlotState := ⟨0, ⟨Table.empty, 0⟩, Table.empty⟩

/-- Time may pass to `t` without an event: no tick and no timeout is due before. -/
def CanWait (s : SlotState) (t : Int) : Prop :=
  s.now ≤ t ∧ ∀ slot ∈ s.slots.rows, ∀ r ∈ slot.live?, t ≤ r.deadline cfg
  deriving Decidable

/-- What can happen. -/
inductive SlotEvent where
  | acquire (id : String)
  /-- its reply arrives and `startRenewal` runs -/
  | launch (id : String)
  | tick (id : String)
  | process (id : String)
  | reply (id : String)
  | fail (id : String)
  | cancel (id : String)
  | release (id : String)
  deriving DecidableEq

def SlotEvent.id : SlotEvent → String
  | .acquire id | .launch id | .tick id | .process id => id
  | .reply id | .fail id | .cancel id | .release id => id

/-- The loop after an error: carry on while the last success is recent, else give up. -/
def Renewal.afterError (r : Renewal) (t : Int) : Renewal :=
  if t - r.lastRenewed < tokenConcurrencyLeaseDuration - tokenConcurrencyRenewInterval then
    { r with phase := .waiting }
  else { r with phase := .waiting, cancelled := true }

/-- The loop after an answer: a renewed lease is noted with the time of the answer. -/
def Renewal.afterReply (r : Renewal) (t : Int) (renewed : Bool) : Renewal :=
  if renewed then { r with phase := .waiting, lastRenewed := t }
  else { r with phase := .waiting, cancelled := true }

/-- What an event other than `acquire` does to its slot and the sorted set at time `t`; `none`
when it is not possible. -/
def slotStep (z : ZSet) (t : Int) (phase : SlotPhase) : SlotEvent → Option (ZSet × SlotPhase)
  | .acquire _ => none
  | .launch _ =>
    match phase with
    | .granted time =>
      if t - time ≤ cfg.operationTimeout then
        some (z, .running ⟨t + tokenConcurrencyRenewInterval, t, .waiting, false⟩)
      else none
    | .running _ => none
  | .tick _ =>
    match phase with
    | .granted _ => none
    | .running r =>
      if r.cancelled = false ∧ r.phase = .waiting ∧ t = r.nextTick then
        some (z, .running { r with
          nextTick := r.nextTick + tokenConcurrencyRenewInterval, phase := .calling none })
      else none
  | .process id =>
    match phase with
    | .granted _ => none
    | .running r =>
      if r.phase = .calling none then
        some ((z.renewScript t id).1,
          .running { r with phase := .calling (some (z.renewScript t id).2) })
      else none
  | .reply _ =>
    match phase with
    | .granted _ => none
    | .running r =>
      match r.phase with
      | .calling (some renewed) =>
        if r.cancelled then none else some (z, .running (r.afterReply t renewed))
      | _ => none
  | .fail _ =>
    match phase with
    | .granted _ => none
    | .running r =>
      match r.phase with
      | .calling _ => if r.cancelled then none else some (z, .running (r.afterError t))
      | .waiting => none
  | .cancel _ =>
    match phase with
    | .granted _ => none
    | .running r => some (z, .running { r with cancelled := true })
  | .release id =>
    match phase with
    | .granted _ => none
    | .running r => if r.cancelled then some (z.releaseScript t id, phase) else none

/-- The acquire script runs for a slot that does not exist yet. -/
def acquireStep (s : SlotState) (t : Int) (id : String) : SlotState :=
  match s.slots.find? id with
  | some _ => s
  | none =>
    { now := t
      redis := (s.redis.acquireScript t cfg.limit id).1
      slots :=
        if (s.redis.acquireScript t cfg.limit id).2 then s.slots.insert ⟨id, .granted t⟩
        else s.slots }

def moveStep (s : SlotState) (t : Int) (e : SlotEvent) : SlotState :=
  match s.slots.find? e.id with
  | none => s
  | some slot =>
    match slotStep cfg s.redis t slot.phase e with
    | none => s
    | some (z, phase) => ⟨t, z, s.slots.put ⟨slot.id, phase⟩⟩

/-- One event with its time. -/
def step (s : SlotState) (e : Int × SlotEvent) : SlotState :=
  if CanWait cfg s e.1 then
    match e.2 with
    | .acquire id => acquireStep cfg s e.1 id
    | event => moveStep cfg s e.1 event
  else s

/-! ## What the scripts do -/

/-- The sorted set is sound at a time: it has at most `limit` members, no lease is longer than a
lease, and the key outlives its leases. -/
structure ZSet.Sound (limit : Nat) (z : ZSet) (now : Int) : Prop where
  /-- at most `limit` members -/
  card : z.members.rows.length ≤ limit
  score_le : ∀ l ∈ z.members.rows, l.score ≤ now + tokenConcurrencyLeaseDuration
  expiry : ∀ l ∈ z.members.rows, l.score + tokenConcurrencyLeaseDuration ≤ z.expiresAt

/-- What a script that is run for `id` at time `t` may change: members are old ones or the lease
it writes, and unexpired leases of other slots stay. -/
structure ZSet.Touches (id : String) (t : Int) (z z' : ZSet) : Prop where
  old : ∀ l ∈ z'.members.rows, l ∈ z.members.rows ∨ l = ⟨id, t + tokenConcurrencyLeaseDuration⟩
  keep : ∀ l ∈ z.members.rows, t < l.score → l.id ≠ id → l ∈ z'.members.rows

namespace ZSet

variable {limit : Nat} {z z' : ZSet} {now t : Int} {id : String}

theorem Touches.refl (id : String) (t : Int) (z : ZSet) : Touches id t z z :=
  ⟨fun _ hl => .inl hl, fun _ hl _ _ => hl⟩

theorem read_sublist (z : ZSet) (t : Int) : (z.read t).rows.Sublist z.members.rows := by
  rw [read]
  split
  · exact Sublist.refl _
  · exact nil_sublist _

theorem Sound.mem_read (h : Sound limit z now) {l : Lease} (hl : l ∈ z.members.rows)
    (hlive : t < l.score) : l ∈ (z.read t).rows := by
  have : l.score + 120000 ≤ z.expiresAt := h.expiry l hl
  rw [read, if_pos (by omega)]
  exact hl

section

variable (h : Sound limit z now) (hle : now ≤ t)
include h hle

theorem Sound.later : Sound limit z t :=
  ⟨h.card, fun l hl => (h.score_le l hl).trans (by omega), h.expiry⟩

/-- A script that writes a lease at time `t` also renews the key, so every stored lease stays
inside it. -/
theorem Sound.write {members : Table Lease}
    (hcard : members.rows.length ≤ limit)
    (hold : ∀ l ∈ members.rows, l ∈ z.members.rows ∨ l = ⟨id, t + tokenConcurrencyLeaseDuration⟩) :
    Sound limit ⟨members, t + tokenConcurrencyLeaseDuration * 2⟩ t := by
  have hscore : ∀ l ∈ members.rows, l.score ≤ t + tokenConcurrencyLeaseDuration := by
    intro l hl
    rcases hold l hl with hl | rfl
    · exact (h.score_le l hl).trans (by omega)
    · exact le_rfl
  refine ⟨hcard, hscore, fun l hl => ?_⟩
  show l.score + tokenConcurrencyLeaseDuration ≤ t + tokenConcurrencyLeaseDuration * 2
  have := hscore l hl
  omega

/-- **The acquire script** keeps the set sound and the unexpired leases. A granted slot has a lease
then, a refused one gets none. -/
theorem acquireScript_spec (id : String) :
    Sound limit (z.acquireScript t limit id).1 t ∧
      Touches id t z (z.acquireScript t limit id).1 ∧
      ((z.acquireScript t limit id).2 = false →
        ∀ l ∈ (z.acquireScript t limit id).1.members.rows, l ∈ z.members.rows) ∧
      ((z.acquireScript t limit id).2 = true → (∀ l ∈ z.members.rows, l.id ≠ id) →
        ⟨id, t + tokenConcurrencyLeaseDuration⟩ ∈
          (z.acquireScript t limit id).1.members.rows) := by
  generalize hpurged : (z.read t).deleteWhere (·.score ≤ t) = purged
  have hsub : purged.rows.Sublist z.members.rows := by
    rw [← hpurged]
    exact filter_sublist.trans (z.read_sublist t)
  have hkeep : ∀ l ∈ z.members.rows, t < l.score → l ∈ purged.rows := by
    intro l hl hlive
    rw [← hpurged]
    refine mem_filter.mpr ⟨h.mem_read hl hlive, ?_⟩
    simpa using hlive
  rw [acquireScript, hpurged]
  split_ifs with hfull
  · refine ⟨⟨hsub.length_le.trans h.card, ?_, ?_⟩, ⟨?_, ?_⟩, ?_, nofun⟩
    · exact fun l hl => (h.later hle).score_le l (hsub.subset hl)
    · exact fun l hl => h.expiry l (hsub.subset hl)
    · exact fun l hl => .inl (hsub.subset hl)
    · exact fun l hl hlive _ => hkeep l hl hlive
    · exact fun _ l hl => hsub.subset hl
  · have hold : ∀ l ∈ (purged.insert ⟨id, t + tokenConcurrencyLeaseDuration⟩).rows,
        l ∈ z.members.rows ∨ l = ⟨id, t + tokenConcurrencyLeaseDuration⟩ := by
      intro l hl
      exact (mem_insert hl).symm.imp (fun hl => hsub.subset hl) fun hl => hl
    refine ⟨h.write hle ?_ hold, ⟨hold, ?_⟩, nofun, ?_⟩
    · -- an insertion adds at most one member to fewer than `limit`
      cases hfind : purged.find? id with
      | none =>
        rw [rows_insert hfind, length_append, length_singleton]
        omega
      | some old =>
        rw [insert_of_taken hfind]
        omega
    · exact fun l hl hlive _ => subset_insert _ (hkeep l hl hlive)
    · intro _ hfresh
      have hnone : purged.find? id = none :=
        find?_eq_none_iff.mpr fun l hl => hfresh l (hsub.subset hl)
      rw [rows_insert hnone]
      exact mem_append_right _ (mem_singleton_self _)

/-- **The renew script** keeps the set sound and the unexpired leases of the other slots, and it
extends an unexpired lease. -/
theorem renewScript_spec (id : String) :
    Sound limit (z.renewScript t id).1 t ∧ Touches id t z (z.renewScript t id).1 ∧
      ∀ l ∈ z.members.rows, l.id = id → t < l.score →
        (z.renewScript t id).2 = true ∧
          ⟨id, t + tokenConcurrencyLeaseDuration⟩ ∈ (z.renewScript t id).1.members.rows := by
  rw [renewScript]
  cases hfind : (z.read t).find? id with
  | none =>
    refine ⟨h.later hle, Touches.refl id t z, ?_⟩
    intro l hl hid hlive
    exact absurd hid (find?_eq_none_iff.mp hfind l (h.mem_read hl hlive))
  | some old =>
    have hold : ∀ l ∈ ((z.read t).put ⟨id, t + tokenConcurrencyLeaseDuration⟩).rows,
        l ∈ z.members.rows ∨ l = ⟨id, t + tokenConcurrencyLeaseDuration⟩ := by
      intro l hl
      exact (mem_put hl).symm.imp (fun hl => (z.read_sublist t).subset hl.1) fun hl => hl
    refine ⟨h.write hle ?_ hold, ⟨hold, ?_⟩, ?_⟩
    · rw [put, mapRows, length_map]
      exact (z.read_sublist t).length_le.trans h.card
    · exact fun l hl hlive hne => mem_put_of_ne (h.mem_read hl hlive) hne
    · intro l _ _ _
      exact ⟨rfl, mem_put_self (mem_of_find? hfind) (key_of_find? hfind).symm⟩

/-- **The release script** keeps the set sound and the leases of the other slots. -/
theorem releaseScript_spec (id : String) :
    Sound limit (z.releaseScript t id) t ∧ Touches id t z (z.releaseScript t id) := by
  have hsub : (z.releaseScript t id).members.rows.Sublist z.members.rows :=
    filter_sublist.trans (z.read_sublist t)
  refine ⟨⟨hsub.length_le.trans h.card, ?_, ?_⟩, ?_, ?_⟩
  · exact fun l hl => (h.later hle).score_le l (hsub.subset hl)
  · exact fun l hl => h.expiry l (hsub.subset hl)
  · exact fun l hl => .inl (hsub.subset hl)
  · intro l hl hlive hne
    exact mem_filter.mpr ⟨h.mem_read hl hlive, by simpa using hne⟩

end

end ZSet

end RenewApi.Leases
