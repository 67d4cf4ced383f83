import Mathlib.Data.List.Perm.Subperm
import RenewApi.Limits.TokenLease

/-! # Leases against the requests they stand for

A slot's goroutine should cancel the request before its lease can expire. It measures 90 seconds
from when the last successful call *returned*; the lease runs from when the script *ran*. -/

namespace RenewApi.Leases

open Relational List Table

variable {cfg : LimitConfig} {id : String} {z z' : ZSet} {s : SlotState} {t now : Int} {r : Renewal}
  {reply : Option Bool} {e : SlotEvent} {slot : Slot}

/-- A goroutine is **on time** for a lease that ends at `score`: the lease lasts past the third tick
after the last success and the timeout of a call made then, and the goroutine has not got past that
tick. -/
structure OnTimeAt (base k now score : Int) (r : Renewal) : Prop where
  base_le : base ≤ r.lastRenewed
  le_base : r.lastRenewed ≤ base + 15000
  /-- the ticker has fired `k - 1` times since -/
  nextTick_eq : r.nextTick = base + 30000 * k
  lt_score : base + 105000 < score
  waiting : r.phase = .waiting → 1 ≤ k ∧ k ≤ 3
  calling : ∀ reply, r.phase = .calling reply → 2 ≤ k ∧ k ≤ 4 ∧ r.nextTick - 30000 ≤ now
  reply : ∀ renewed, r.phase = .calling (some renewed) →
    renewed = true ∧ r.nextTick + 90000 ≤ score

/-- A goroutine is on time for a lease, for some tick of the last success. -/
def OnTime (now score : Int) (r : Renewal) : Prop := ∃ base k, OnTimeAt base k now score r

theorem renewTimeout_le (cfg : LimitConfig) : cfg.renewTimeout ≤ 15000 := min_le_left _ _

theorem le_timeout_of_calling (hphase : r.phase = .calling reply) (hwait : t ≤ r.deadline cfg) :
    t ≤ r.nextTick - 15000 := by
  rw [Renewal.deadline, hphase, tokenConcurrencyRenewInterval] at hwait
  have := renewTimeout_le cfg
  dsimp only at hwait
  omega

namespace OnTime

variable {now score time : Int}

theorem later (h : OnTime now score r) (hle : now ≤ t) : OnTime t score r := by
  obtain ⟨base, k, h⟩ := h
  refine ⟨base, k, { h with calling := fun reply hphase => ?_ }⟩
  obtain ⟨h2, h4, htick⟩ := h.calling reply hphase
  exact ⟨h2, h4, htick.trans hle⟩

/-- **A goroutine that is on time has an unexpired lease** for as long as it may wait. -/
theorem lt_score (h : OnTime now score r) (hwait : t ≤ r.deadline cfg) : t < score := by
  obtain ⟨base, k, h⟩ := h
  have hnext := h.nextTick_eq
  have hscore := h.lt_score
  cases hphase : r.phase with
  | waiting =>
    have hk := h.waiting hphase
    rw [Renewal.deadline, hphase] at hwait
    dsimp only at hwait
    omega
  | calling reply =>
    have hk := h.calling reply hphase
    have hwait := le_timeout_of_calling hphase hwait
    omega

theorem launch (hprompt : t - time < 15000) :
    OnTime t (time + tokenConcurrencyLeaseDuration)
      ⟨t + tokenConcurrencyRenewInterval, t, .waiting, false⟩ := by
  rw [tokenConcurrencyLeaseDuration, tokenConcurrencyRenewInterval]
  exact ⟨t, 1,
    { base_le := le_rfl
      le_base := Int.le_add_of_nonneg_right (by decide)
      nextTick_eq := rfl
      lt_score := by omega
      waiting := fun _ => by decide
      calling := nofun
      reply := nofun }⟩

section

variable (h : OnTime now score r)
include h

theorem tick (hphase : r.phase = .waiting) : OnTime r.nextTick score
      { r with nextTick := r.nextTick + tokenConcurrencyRenewInterval, phase := .calling none } := by
  obtain ⟨base, k, h⟩ := h
  have hk := h.waiting hphase
  have hnext := h.nextTick_eq
  rw [tokenConcurrencyRenewInterval]
  exact ⟨base, k + 1,
    { base_le := h.base_le
      le_base := h.le_base
      nextTick_eq := by dsimp only; omega
      lt_score := h.lt_score
      waiting := nofun
      calling := fun _ _ => by dsimp only; omega
      reply := nofun }⟩

theorem process (hphase : r.phase = .calling none) (hle : now ≤ t) :
    OnTime t (t + tokenConcurrencyLeaseDuration) { r with phase := .calling (some true) } := by
  obtain ⟨base, k, h⟩ := h
  have hk := h.calling none hphase
  have hnext := h.nextTick_eq
  rw [tokenConcurrencyLeaseDuration]
  exact ⟨base, k,
    { base_le := h.base_le
      le_base := h.le_base
      nextTick_eq := hnext
      lt_score := by omega
      waiting := nofun
      calling := fun _ _ => by dsimp only; omega
      reply := fun renewed hrenewed => by
        injection hrenewed with hrenewed
        exact ⟨(Option.some.inj hrenewed).symm, by dsimp only; omega⟩ }⟩

theorem afterReply {renewed : Bool} (hphase : r.phase = .calling (some renewed)) (hle : now ≤ t)
    (hwait : t ≤ r.deadline cfg) : OnTime t score (r.afterReply t renewed) := by
  obtain ⟨base, k, h⟩ := h
  obtain ⟨rfl, hlease⟩ := h.reply renewed hphase
  have hk := h.calling _ hphase
  have hwait := le_timeout_of_calling hphase hwait
  exact ⟨r.nextTick - 30000, 1,
    { base_le := by show _ ≤ t; omega
      le_base := by show t ≤ _; omega
      nextTick_eq := by show r.nextTick = _; omega
      lt_score := by omega
      waiting := fun _ => by decide
      calling := nofun
      reply := nofun }⟩

end

/-- **A failed call that is not hurried is survived only before the third tick**: it lasts as long
as the last successful one at least, so at the third tick the 90 seconds are over. -/
theorem afterError (h : OnTime now score r) (hphase : r.phase = .calling reply) (hle : now ≤ t)
    (hunhurried : (r.lastRenewed - r.nextTick) % 30000 ≤ (t - r.nextTick) % 30000)
    (hlive : (r.afterError t).cancelled = false) : OnTime t score (r.afterError t) := by
  obtain ⟨base, k, h⟩ := h
  have hk := h.calling _ hphase
  have hnext := h.nextTick_eq
  have hlo := h.base_le
  have hhi := h.le_base
  rw [Renewal.afterError, tokenConcurrencyLeaseDuration, tokenConcurrencyRenewInterval] at hlive ⊢
  by_cases hrecent : t - r.lastRenewed < 120000 - 30000
  · rw [if_pos hrecent]
    -- at the fourth place the call would be the one of the third tick, and 90 seconds over
    have hk3 : k ≤ 3 := by omega
    exact ⟨base, k,
      { base_le := hlo
        le_base := hhi
        nextTick_eq := hnext
        lt_score := h.lt_score
        waiting := fun _ => ⟨by omega, hk3⟩
        calling := nofun
        reply := nofun }⟩
  · rw [if_neg hrecent] at hlive
    exact absurd hlive nofun

end OnTime

/-- A call is not hurried: the reply to the acquire script arrives within 15 seconds, and a failing
renewal lasts, from the tick before it, at least as long as the last successful one. -/
def prompt (t : Int) (phase : SlotPhase) : SlotEvent → Bool
  | .launch _ =>
    match phase with
    | .granted time => t - time < 15000
    | .running _ => true
  | .fail _ =>
    match phase with
    | .granted _ => true
    | .running r => (r.lastRenewed - r.nextTick) % 30000 ≤ (t - r.nextTick) % 30000
  | _ => true

/-- An event is not hurried. -/
def Unhurried (s : SlotState) (e : Int × SlotEvent) : Prop :=
  ∀ slot ∈ s.slots.find? e.2.id, prompt e.1 slot.phase e.2 = true
  deriving Decidable

/-! ## The whole system -/

theorem mem_live? {r' : Renewal} :
    r' ∈ Slot.live? ⟨id, .running r⟩ ↔ r.cancelled = false ∧ r' = r := by
  cases hc : r.cancelled with
  | true => simp [Slot.live?, hc]
  | false => simp [Slot.live?, hc, eq_comm]

/-- What a slot is owed by the sorted set at time `now`: its lease as granted, and, once the request
runs, one its goroutine is on time for. -/
structure Covered (z : ZSet) (now : Int) (slot : Slot) : Prop where
  granted : ∀ time, slot.phase = .granted time → now < time + tokenConcurrencyLeaseDuration →
    ⟨slot.id, time + tokenConcurrencyLeaseDuration⟩ ∈ z.members.rows
  live : ∀ r ∈ slot.live?, ∃ score, ⟨slot.id, score⟩ ∈ z.members.rows ∧ OnTime now score r

theorem Covered.touches (h : Covered z now slot) (hle : now ≤ t)
    (hwait : ∀ r ∈ slot.live?, t ≤ r.deadline cfg) (htouch : z.Touches id t z')
    (hne : slot.id ≠ id) : Covered z' t slot where
  granted := fun time hphase hlive =>
    htouch.keep _ (h.granted time hphase (by omega)) hlive hne
  live := by
    intro r hr
    obtain ⟨score, hmem, htime⟩ := h.live r hr
    exact ⟨score, htouch.keep _ hmem (htime.lt_score (hwait r hr)) hne, htime.later hle⟩

theorem covered_running
    (h : r.cancelled = false → ∃ score, ⟨id, score⟩ ∈ z.members.rows ∧ OnTime now score r) :
    Covered z now ⟨id, .running r⟩ where
  granted := nofun
  live := by
    intro r' hr'
    obtain ⟨hlive, rfl⟩ := mem_live?.mp hr'
    exact h hlive

/-- **One event of a slot** keeps the sorted set sound, touches only its own lease, and leaves the
slot covered. -/
theorem slotStep_spec {phase phase' : SlotPhase} (hz : z.Sound cfg.limit now) (hle : now ≤ t)
    (hcovered : Covered z now ⟨id, phase⟩)
    (hwait : ∀ r ∈ Slot.live? ⟨id, phase⟩, t ≤ r.deadline cfg) (hprompt : prompt t phase e = true)
    (hid : e.id = id) (h : slotStep cfg z t phase e = some (z', phase')) :
    z'.Sound cfg.limit t ∧ z.Touches id t z' ∧ Covered z' t ⟨id, phase'⟩ := by
  have hsame := (⟨hz.later hle, ZSet.Touches.refl id t z⟩ :
    z.Sound cfg.limit t ∧ z.Touches id t z)
  subst hid
  cases phase with
  | granted time =>
    cases e with
    | launch id =>
      dsimp only [slotStep] at h
      split at h
      · cases h
        have hprompt : t - time < 15000 := of_decide_eq_true hprompt
        refine ⟨hsame.1, hsame.2, covered_running fun _ => ?_⟩
        refine ⟨_, hcovered.granted time rfl ?_, OnTime.launch hprompt⟩
        rw [tokenConcurrencyLeaseDuration]
        omega
      · exact absurd h nofun
    | _ => exact absurd h nofun
  | running r =>
    have hlease := fun hlive => hcovered.live r (mem_live?.mpr ⟨hlive, rfl⟩)
    have hdeadline := fun hlive => hwait r (mem_live?.mpr ⟨hlive, rfl⟩)
    cases e with
    | acquire id => exact absurd h nofun
    | launch id => exact absurd h nofun
    | tick id =>
      dsimp only [slotStep] at h
      split at h
      · next htick =>
        obtain ⟨hlive, hphase, rfl⟩ := htick
        cases h
        refine ⟨hsame.1, hsame.2, covered_running fun _ => ?_⟩
        obtain ⟨score, hmem, htime⟩ := hlease hlive
        exact ⟨score, hmem, htime.tick hphase⟩
      · exact absurd h nofun
    | process id =>
      dsimp only [slotStep] at h
      split at h
      · next hphase =>
        cases h
        obtain ⟨hsound, htouch, hrenew⟩ := ZSet.renewScript_spec hz hle id
        refine ⟨hsound, htouch, covered_running fun hlive => ?_⟩
        -- the goroutine was on time, so the script finds the lease and extends it
        obtain ⟨score, hmem, htime⟩ := hlease hlive
        obtain ⟨hok, hnew⟩ := hrenew _ hmem rfl (htime.lt_score (hdeadline hlive))
        rw [hok]
        exact ⟨_, hnew, htime.process hphase hle⟩
      · exact absurd h nofun
    | reply id =>
      dsimp only [slotStep] at h
      split at h
      · next renewed hphase =>
        split at h
        · exact absurd h nofun
        · next hnot =>
          have hlive := Bool.eq_false_iff.mpr hnot
          cases h
          refine ⟨hsame.1, hsame.2, covered_running fun _ => ?_⟩
          obtain ⟨score, hmem, htime⟩ := hlease hlive
          exact ⟨score, hmem, htime.afterReply hphase hle (hdeadline hlive)⟩
      · exact absurd h nofun
    | fail id =>
      dsimp only [slotStep] at h
      split at h
      · next reply hphase =>
        split at h
        · exact absurd h nofun
        · next hnot =>
          have hlive := Bool.eq_false_iff.mpr hnot
          cases h
          refine ⟨hsame.1, hsame.2, covered_running fun hlive' => ?_⟩
          obtain ⟨score, hmem, htime⟩ := hlease hlive
          exact ⟨score, hmem, htime.afterError hphase hle
            (of_decide_eq_true hprompt) hlive'⟩
      · exact absurd h nofun
    | cancel id =>
      cases h
      exact ⟨hsame.1, hsame.2, covered_running nofun⟩
    | release id =>
      dsimp only [slotStep] at h
      split at h
      · next hcancelled =>
        cases h
        obtain ⟨hsound, htouch⟩ := ZSet.releaseScript_spec hz hle id
        refine ⟨hsound, htouch, covered_running fun hlive => ?_⟩
        rw [hcancelled] at hlive
        exact absurd hlive nofun
      · exact absurd h nofun

/-- **The invariant of the system.** -/
structure Sound (cfg : LimitConfig) (s : SlotState) : Prop where
  redis : s.redis.Sound cfg.limit s.now
  known : ∀ l ∈ s.redis.members.rows, ∃ slot ∈ s.slots.rows, slot.id = l.id
  covered : ∀ slot ∈ s.slots.rows, Covered s.redis s.now slot

theorem sound_start (cfg : LimitConfig) : Sound cfg SlotState.start where
  redis := ⟨Nat.zero_le _, fun _ h => absurd h not_mem_nil, fun _ h => absurd h not_mem_nil⟩
  known := fun _ h => absurd h not_mem_nil
  covered := fun _ h => absurd h not_mem_nil

/-- The acquire script keeps the invariant. -/
theorem sound_acquireStep (h : Sound cfg s) (hwait : CanWait cfg s t) (id : String) :
    Sound cfg (acquireStep cfg s t id) := by
  rw [acquireStep]
  cases hfind : s.slots.find? id with
  | some slot => exact h
  | none =>
    have hfresh : ∀ slot ∈ s.slots.rows, slot.id ≠ id := find?_eq_none_iff.mp hfind
    obtain ⟨hsound, htouch, hrefused, hnew⟩ := ZSet.acquireScript_spec h.redis hwait.1 id
    have hother : ∀ slot ∈ s.slots.rows,
        Covered (s.redis.acquireScript t cfg.limit id).1 t slot := fun slot hslot =>
      (h.covered slot hslot).touches hwait.1 (hwait.2 slot hslot) htouch (hfresh slot hslot)
    cases hok : (s.redis.acquireScript t cfg.limit id).2 with
    | false =>
      exact ⟨hsound, fun l hl => h.known l (hrefused hok l hl), hother⟩
    | true =>
      have hslot : (⟨id, .granted t⟩ : Slot) ∈ (s.slots.insert ⟨id, .granted t⟩).rows := by
        rw [rows_insert hfind]
        exact mem_append_right _ (mem_singleton_self _)
      refine ⟨hsound, ?_, ?_⟩
      · intro l hl
        rcases htouch.old l hl with hold | rfl
        · obtain ⟨slot, hmem, hid⟩ := h.known l hold
          exact ⟨slot, subset_insert _ hmem, hid⟩
        · exact ⟨_, hslot, rfl⟩
      · intro slot hmem
        rcases mem_insert hmem with rfl | hmem
        · -- no slot has the id yet, so no lease has it either and the script adds one
          have hnone : ∀ l ∈ s.redis.members.rows, l.id ≠ id := by
            intro l hl hid
            obtain ⟨slot, hslot, hslotId⟩ := h.known l hl
            exact hfresh slot hslot (hslotId.trans hid)
          refine ⟨?_, nofun⟩
          intro time htime _
          injection htime with htime
          subst htime
          exact hnew hok hnone
        · exact hother slot hmem

/-- An unhurried event of a slot keeps the invariant. -/
theorem sound_moveStep (h : Sound cfg s) (hwait : CanWait cfg s t)
    (hunhurried : Unhurried s (t, e)) : Sound cfg (moveStep cfg s t e) := by
  rw [moveStep]
  cases hfind : s.slots.find? e.id with
  | none => exact h
  | some slot =>
    dsimp only
    cases hstep : slotStep cfg s.redis t slot.phase e with
    | none => exact h
    | some result =>
      obtain ⟨z, phase⟩ := result
      have hmem := mem_of_find? hfind
      have hid : slot.id = e.id := key_of_find? hfind
      obtain ⟨hsound, htouch, hcovered⟩ := slotStep_spec h.redis hwait.1 (h.covered slot hmem)
        (hwait.2 slot hmem) (hunhurried slot hfind) hid.symm hstep
      have hput : (⟨slot.id, phase⟩ : Slot) ∈ (s.slots.put ⟨slot.id, phase⟩).rows :=
        mem_put_self hmem rfl
      refine ⟨hsound, ?_, ?_⟩
      · intro l hl
        rcases htouch.old l hl with hold | rfl
        · obtain ⟨other, hother, hotherId⟩ := h.known l hold
          by_cases heq : other.id = slot.id
          · exact ⟨_, hput, heq.symm.trans hotherId⟩
          · exact ⟨other, mem_put_of_ne hother heq, hotherId⟩
        · exact ⟨_, hput, rfl⟩
      · intro other hother
        rcases mem_put hother with rfl | ⟨hother, hne⟩
        · exact hcovered
        · exact (h.covered other hother).touches hwait.1 (hwait.2 other hother) htouch hne

/-- **One unhurried step keeps the invariant.** -/
theorem sound_step {e : Int × SlotEvent} (h : Sound cfg s) (hunhurried : Unhurried s e) :
    Sound cfg (step cfg s e) := by
  obtain ⟨t, e⟩ := e
  rw [step]
  split_ifs with hwait
  · cases e with
    | acquire id => exact sound_acquireStep h hwait id
    | _ => exact sound_moveStep h hwait hunhurried
  · exact h

/-! ## Leases outlive requests -/

/-- A slot whose context is not done. -/
def Slot.isLive (slot : Slot) : Bool := slot.live?.isSome

theorem Sound.exists_lease (h : Sound cfg s) (hwait : CanWait cfg s t) (hslot : slot ∈ s.slots.rows)
    (hlive : slot.isLive = true) : ∃ l ∈ s.redis.members.rows, l.id = slot.id ∧ t < l.score := by
  obtain ⟨r, hr⟩ := Option.isSome_iff_exists.mp hlive
  obtain ⟨score, hmem, htime⟩ := (h.covered slot hslot).live r hr
  exact ⟨_, hmem, rfl, htime.lt_score (hwait.2 slot hslot r hr)⟩

theorem Sound.live_le (h : Sound cfg s) : (s.slots.select Slot.isLive).length ≤ cfg.limit := by
  have hnodup : ((s.slots.select Slot.isLive).map Slot.id).Nodup :=
    s.slots.nodup_keys.sublist (filter_sublist.map _)
  have hsub : (s.slots.select Slot.isLive).map Slot.id ⊆ s.redis.members.rows.map Lease.id := by
    intro id hid
    obtain ⟨slot, hslot, rfl⟩ := mem_map.mp hid
    obtain ⟨hmem, hlive⟩ := mem_filter.mp hslot
    obtain ⟨r, hr⟩ := Option.isSome_iff_exists.mp hlive
    obtain ⟨score, hlease, -⟩ := (h.covered slot hmem).live r hr
    exact mem_map.mpr ⟨_, hlease, rfl⟩
  calc (s.slots.select Slot.isLive).length
      = ((s.slots.select Slot.isLive).map Slot.id).length := (length_map _).symm
    _ ≤ (s.redis.members.rows.map Lease.id).length := (subperm_of_subset hnodup hsub).length_le
    _ = s.redis.members.rows.length := length_map _
    _ ≤ cfg.limit := h.redis.card

/-- **A lease outlives its request.** In every run whose calls are not hurried, at every instant
each slot whose context is not done has an unexpired lease, and at most `limit` contexts of the
token are not done. -/
theorem lease_outlives_request (cfg : LimitConfig) (es : List (Int × SlotEvent))
    (hunhurried : Along (step cfg) Unhurried SlotState.start es) (t : Int)
    (hwait : CanWait cfg (run (step cfg) SlotState.start es) t) :
    (∀ slot ∈ (run (step cfg) SlotState.start es).slots.rows, slot.isLive = true →
      ∃ l ∈ ((run (step cfg) SlotState.start es).redis.read t).rows,
        l.id = slot.id ∧ t < l.score) ∧
    ((run (step cfg) SlotState.start es).slots.select Slot.isLive).length ≤ cfg.limit := by
  have h : Sound cfg (run (step cfg) SlotState.start es) :=
    run_invariant (fun _ _ hC hI => sound_step hI hC) hunhurried (sound_start cfg)
  refine ⟨fun slot hslot hlive => ?_, h.live_le⟩
  obtain ⟨l, hl, hid, hscore⟩ := h.exists_lease hwait hslot hlive
  exact ⟨l, h.redis.mem_read hl hscore, hid, hscore⟩

/-- Redis answers the first renewal of slot `a` after one second and is down from then on. -/
def oneRenewal : List (Int × SlotEvent) :=
  [(0, .acquire "a"), (0, .launch "a"), (30000, .tick "a"), (30000, .process "a"),
    (31000, .reply "a"), (60000, .tick "a")]

/-- Calls fail at once, but that of the tick at 150 seconds hangs. -/
def outage : List (Int × SlotEvent) :=
  oneRenewal ++ [(60000, .fail "a"), (90000, .tick "a"), (90000, .fail "a"), (120000, .tick "a"),
    (120000, .fail "a"), (150000, .tick "a")]

/-- With the default timeout of two seconds, the lease of `a` ends at 150 seconds. At 151 seconds
its context is not done, and another request is given the slot: two contexts are live under a limit
of one. -/
theorem request_outlives_lease :
    (CanWait ⟨1, 2000⟩ (run (step ⟨1, 2000⟩) SlotState.start outage) 151000 ∧
      ∃ slot ∈ (run (step ⟨1, 2000⟩) SlotState.start outage).slots.rows, slot.isLive = true ∧
        ∀ l ∈ ((run (step ⟨1, 2000⟩) SlotState.start outage).redis.read 151000).rows,
          l.id = slot.id → l.score ≤ 151000) ∧
    ((run (step ⟨1, 2000⟩) SlotState.start
      (outage ++ [(151000, .acquire "b"), (151000, .launch "b")])).slots.select
        Slot.isLive).length = 2 := by
  decide +kernel

/-- The same outage with calls that fail as slowly as the renewal succeeded: the goroutine gives
up at 121 seconds. -/
def slowOutage : List (Int × SlotEvent) :=
  oneRenewal ++ [(61000, .fail "a"), (90000, .tick "a"), (91000, .fail "a"), (120000, .tick "a")]

theorem lease_outlives_request_slowOutage :
    (∀ slot ∈ (run (step ⟨1, 2000⟩) SlotState.start slowOutage).slots.rows, slot.isLive = true →
      ∃ l ∈ ((run (step ⟨1, 2000⟩) SlotState.start slowOutage).redis.read 121000).rows,
        l.id = slot.id ∧ 121000 < l.score) ∧
    ((run (step ⟨1, 2000⟩) SlotState.start slowOutage).slots.select Slot.isLive).length ≤ 1 :=
  lease_outlives_request ⟨1, 2000⟩ slowOutage (by decide +kernel) 121000 (by decide +kernel)

/-! ## Hurried runs -/

theorem redis_slotStep {phase : SlotPhase} {p : ZSet × SlotPhase} (h : z.Sound cfg.limit now)
    (hle : now ≤ t) (hstep : slotStep cfg z t phase e = some p) : p.1.Sound cfg.limit t := by
  have hsame := h.later hle
  have hrenew := fun id => (ZSet.renewScript_spec h hle id).1
  have hrelease := fun id => (ZSet.releaseScript_spec h hle id).1
  revert hstep
  fun_cases slotStep cfg z t phase e <;> rintro ⟨⟩
  all_goals first | exact hsame | exact hrenew _ | exact hrelease _

/-- **Every step keeps the sorted set sound**, hurried or not: what the scripts do is all that
reaches it. -/
theorem redis_step (s : SlotState) (e : Int × SlotEvent) (h : s.redis.Sound cfg.limit s.now) :
    (step cfg s e).redis.Sound cfg.limit (step cfg s e).now := by
  rw [step]
  split_ifs with hwait
  · split
    · rw [acquireStep]
      split
      · exact h
      · exact (ZSet.acquireScript_spec h hwait.1 _).1
    · rw [moveStep]
      split
      · exact h
      · split
        · exact h
        · next hstep => exact redis_slotStep h hwait.1 hstep
  · exact h

/-- **Limit and room.** In every run, hurried or not, at most `limit` leases are stored, and a slot
is granted exactly when fewer are unexpired. -/
theorem granted_iff_room (cfg : LimitConfig) (es : List (Int × SlotEvent)) (t : Int) (id : String) :
    let z := (run (step cfg) SlotState.start es).redis
    z.members.rows.length ≤ cfg.limit ∧ ((z.acquireScript t cfg.limit id).2 = true ↔
      z.members.rows.countP (fun l => t < l.score) < cfg.limit) := by
  intro z
  have h : z.Sound cfg.limit _ := run_invariant_all redis_step es (sound_start cfg).redis
  have hcount : z.members.rows.countP (fun l => t < l.score)
      = ((z.read t).deleteWhere fun l => l.score ≤ t).rows.length := by
    rw [deleteWhere, ZSet.read, countP_eq_length_filter]
    split_ifs with hkey
    · simp only [← decide_not, not_le]
    · -- a dropped key had only expired leases
      refine congrArg length (filter_eq_nil_iff.mpr fun l hl => ?_)
      have : l.score + 120000 ≤ z.expiresAt := h.expiry l hl
      simpa using by omega
  refine ⟨h.card, ?_⟩
  rw [hcount, ZSet.acquireScript]
  split_ifs with hfull <;> simpa using hfull

end RenewApi.Leases
