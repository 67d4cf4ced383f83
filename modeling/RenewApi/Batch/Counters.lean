import Mathlib.Algebra.BigOperators.Group.List.Basic
import Mathlib.Algebra.Group.Pi.Basic
import Mathlib.Tactic.Ring
import RenewApi.Concurrent.Flow

/-! # Batched counter updates

`model/utils.go` with `BatchUpdateEnabled`: calls record their increments in maps in memory, and
passes of `batchUpdate` take these maps and write the amounts to the database, where every statement
may fail.

* **Balance** (`balance_step`): what is stored, recorded or in the hands of a pass moves by what
  calls report as done and by what passes drop. -/

namespace RenewApi.Batch

open Relational Concurrent List Function

inductive BatchUpdateType
  | userQuota | tokenQuota | usedQuota | channelUsedQuota | requestCount
  deriving DecidableEq

/-- The types in the order in which a pass goes through them. -/
def batchUpdateTypes : List BatchUpdateType :=
  [.userQuota, .tokenQuota, .usedQuota, .channelUsedQuota, .requestCount]

/-- The columns that are counted in. -/
inductive Counter
  | userQuota | tokenRemainQuota | tokenUsedQuota | userUsedQuota | channelUsedQuota | userRequestCount
  deriving DecidableEq

def Counter.type : Counter → BatchUpdateType
  | .userQuota => .userQuota
  | .tokenRemainQuota | .tokenUsedQuota => .tokenQuota
  | .userUsedQuota => .usedQuota
  | .channelUsedQuota => .channelUsedQuota
  | .userRequestCount => .requestCount

/-- An increment is taken off the used quota of a token, and added everywhere else. -/
def Counter.sign : Counter → Int
  | .tokenUsedQuota => -1
  | _ => 1

/-- A store: the amount that is recorded for each id. -/
abbrev Records := List (Int × Int)

def addNewRecord (id value : Int) : Records → Records
  | [] => [(id, value)]
  | (key, old) :: records =>
    if key = id then (key, old + value) :: records else (key, old) :: addNewRecord id value records

/-- The part of an increment that is for one counter of one id. -/
def share (c : Counter) (k : Int) (type : BatchUpdateType) (record : Int × Int) : Int :=
  if c.type = type ∧ record.1 = k then c.sign * record.2 else 0

def shares (c : Counter) (k : Int) (type : BatchUpdateType) (records : Records) : Int :=
  (records.map (share c k type)).sum

variable (c : Counter) (k : Int) {i : Nat}

theorem shares_addNewRecord (type : BatchUpdateType) (id value : Int) (records : Records) :
    shares c k type (addNewRecord id value records)
      = shares c k type records + share c k type (id, value) := by
  induction records with
  | nil => simp [addNewRecord, shares]
  | cons r records ih =>
    rw [addNewRecord]
    split_ifs with h
    · subst h
      simp only [shares, map_cons, sum_cons, share]
      split_ifs <;> ring
    · simp only [shares, map_cons, sum_cons] at ih ⊢
      rw [ih, add_assoc]

theorem shares_eraseIdx (type : BatchUpdateType) {records : Records} {r : Int × Int}
    (h : records[i]? = some r) :
    shares c k type (records.eraseIdx i) = shares c k type records - share c k type r := by
  induction records generalizing i with
  | nil => cases h
  | cons r' records ih =>
    cases i with
    | zero =>
      cases h
      simp [shares]
    | succ i =>
      have := ih h
      simp only [shares, eraseIdx_cons_succ, map_cons, sum_cons] at this ⊢
      omega

/-! ## Calls and passes -/

/-- A call of `batchUpdate`: it takes the stores one after another and writes the records of the one
taken last. -/
inductive Pass
  | checking (types : List BatchUpdateType)
  | taking (types : List BatchUpdateType)
  | writing (type : BatchUpdateType) (store : Records) (types : List BatchUpdateType)
  deriving DecidableEq

structure State where
  stored : Counter → Int → Int
  stores : BatchUpdateType → Records
  passes : List Pass
  /-- Users whose `UpdateUserUsedQuotaAndRequestCount` has still to record the request. -/
  calls : List Int

/-- One atomic step: a section under a lock, or a statement, which `fails` or not. -/
inductive Event
  | increaseUserQuota (id quota : Int) (db fails : Bool)
  | increaseTokenQuota (id quota : Int)
  | updateUserUsedQuota (id quota : Int)
  | updateRequestCount (call : Nat)
  | updateChannelUsedQuota (id quota : Int)
  | batchUpdate
  /-- A pass goes on; `range` may give it any record of the store that it writes. -/
  | pass (i next : Nat) (fails : Bool)

namespace State

/-- Before the first call. -/
def start (stored : Counter → Int → Int) : State := ⟨stored, fun _ => [], [], []⟩

section

variable (s : State)

def record (type : BatchUpdateType) (id value : Int) : State :=
  { s with stores := update s.stores type (addNewRecord id value (s.stores type)) }

/-- `UPDATE … SET counter = counter + value WHERE id = …`. -/
def write (type : BatchUpdateType) (record : Int × Int) : State :=
  { s with stored := fun c k => s.stored c k + share c k type record }

/-- Whether the update of a record is left out or fails; the error is only logged. -/
def drops (fails : Bool) (type : BatchUpdateType) (record : Int × Int) : Bool :=
  ((type = .userQuota ∨ type = .tokenQuota) ∧ record.2 < 0) ∨ fails

/-- The next step of a pass. -/
@[simp] def passStep (next : Nat) (fails : Bool) : Pass → State × Pass
  | .checking [] => (s, .taking [])
  | .checking (type :: types) =>
    (s, if (s.stores type).isEmpty then .checking types else .taking batchUpdateTypes)
  | .taking [] => (s, .taking [])
  | .taking (type :: types) =>
    ({ s with stores := update s.stores type [] }, .writing type (s.stores type) types)
  | .writing type store types =>
    match store[next]? with
    | some record =>
      (if drops fails type record then s else s.write type record,
        .writing type (store.eraseIdx next) types)
    | none => (s, if store.isEmpty then .taking types else .writing type store types)

@[simp] def step : Event → State
  | .increaseUserQuota id quota db fails =>
    if quota < 0 then s
    else if !db then s.record .userQuota id quota
    else if fails then s else s.write .userQuota (id, quota)
  | .increaseTokenQuota id quota => if quota < 0 then s else s.record .tokenQuota id quota
  | .updateUserUsedQuota id quota => { s.record .usedQuota id quota with calls := s.calls ++ [id] }
  | .updateRequestCount call =>
    match s.calls[call]? with
    | some id => { s.record .requestCount id 1 with calls := s.calls.eraseIdx call }
    | none => s
  | .updateChannelUsedQuota id quota => s.record .channelUsedQuota id quota
  | .batchUpdate => { s with passes := s.passes ++ [.checking batchUpdateTypes] }
  | .pass i next fails =>
    match s.passes[i]? with
    | some p => { (s.passStep next fails p).1 with passes := s.passes.set i (s.passStep next fails p).2 }
    | none => s

/-- No call and no pass is in flight. -/
def Quiet : Prop := s.calls = [] ∧ ∀ p ∈ s.passes, p = .taking []

/-- The amount that is recorded for a counter. -/
def pending (c : Counter) (k : Int) : Int := shares c k c.type (s.stores c.type)

/-- The increment that a call reports as done. -/
@[simp] def reported : Event → Option (BatchUpdateType × Int × Int)
  | .increaseUserQuota id quota db fails =>
    if quota < 0 ∨ db ∧ fails then none else some (.userQuota, id, quota)
  | .increaseTokenQuota id quota => if quota < 0 then none else some (.tokenQuota, id, quota)
  | .updateUserUsedQuota id quota => some (.usedQuota, id, quota)
  | .updateRequestCount call => s.calls[call]?.map fun id => (.requestCount, id, 1)
  | .updateChannelUsedQuota id quota => some (.channelUsedQuota, id, quota)
  | .batchUpdate | .pass .. => none

end

end State

/-- The record that a pass drops with its next step. -/
@[simp] def Pass.dropped (next : Nat) (fails : Bool) : Pass → Option (BatchUpdateType × Int × Int)
  | .writing type store _ => (store[next]?.filter (State.drops fails type)).map (type, ·)
  | .checking _ | .taking _ => none

@[simp] def State.dropped (s : State) : Event → Option (BatchUpdateType × Int × Int)
  | .pass i next fails => s.passes[i]?.bind (Pass.dropped next fails)
  | _ => none

/-- What an increment adds to a counter. -/
@[simp] def added (c : Counter) (k : Int) : Option (BatchUpdateType × Int × Int) → Int
  | some (type, record) => share c k type record
  | none => 0

/-! ## The balance -/

/-- What a pass has taken and not written yet. -/
@[simp] def Pass.held (c : Counter) (k : Int) : Pass → Int
  | .writing type store _ => shares c k type store
  | .checking _ | .taking _ => 0

def State.balance (s : State) : Int :=
  s.stored c k + s.pending c k + (s.passes.map (Pass.held c k)).sum

variable {s : State}

theorem share_of_type_ne {type : BatchUpdateType} (h : c.type ≠ type) (record : Int × Int) :
    share c k type record = 0 := if_neg fun h' => h h'.1

theorem pending_record (type : BatchUpdateType) (id value : Int) :
    (s.record type id value).pending c k = s.pending c k + share c k type (id, value) := by
  unfold State.pending State.record
  by_cases h : c.type = type
  · subst h
    simp only [update_self, shares_addNewRecord]
  · simp only [update_of_ne h, share_of_type_ne c k h, add_zero]

theorem balance_record (type : BatchUpdateType) (id value : Int) :
    (s.record type id value).balance c k = s.balance c k + share c k type (id, value) := by
  simp only [State.balance, pending_record]
  simp only [State.record]
  ring

theorem balance_write (type : BatchUpdateType) (record : Int × Int) :
    (s.write type record).balance c k = s.balance c k + share c k type record := by
  simp only [State.balance, State.write, State.pending]
  ring

/-- **One step of a pass** moves records from a store to the pass and from the pass to the
database. -/
theorem balance_passStep (next : Nat) (fails : Bool) (p : Pass) :
    (s.passStep next fails p).1.balance c k + (s.passStep next fails p).2.held c k
      = s.balance c k + p.held c k - added c k (p.dropped next fails) := by
  cases p with
  | checking types =>
    rcases types with _ | ⟨type, types⟩
    · simp
    · cases h : (s.stores type).isEmpty <;> simp [h]
  | taking types =>
    rcases types with _ | ⟨type, types⟩
    · simp
    by_cases h : c.type = type
    · subst h
      simp [State.balance, State.pending, shares]
      ring
    · have hzero : shares c k type (s.stores type) = 0 := sum_eq_zero fun x hx => by
        obtain ⟨r, -, rfl⟩ := mem_map.mp hx
        exact share_of_type_ne c k h r
      simp [State.balance, State.pending, update_of_ne h, hzero]
  | writing type store =>
    cases hnext : store[next]? with
    | none => cases store <;> simp_all [shares]
    | some r =>
      have hheld := shares_eraseIdx c k type hnext
      cases hdrop : State.drops fails type r <;>
        simp [hnext, Option.filter, hdrop, balance_write, hheld, add_sub_assoc]

theorem passes_passStep (next : Nat) (fails : Bool) (p : Pass) :
    (s.passStep next fails p).1.passes = s.passes := by
  unfold State.passStep
  split
  case h_5 => split <;> [(split <;> rfl); rfl]
  all_goals rfl

theorem balance_setPass {p : Pass} (h : s.passes[i]? = some p) (p' : Pass) :
    { s with passes := s.passes.set i p' }.balance c k = s.balance c k + p'.held c k - p.held c k := by
  obtain ⟨hi, rfl⟩ := List.getElem?_eq_some_iff.mp h
  simp only [State.balance, State.pending, map_set, sum_set', length_map, hi, dif_pos, getElem_map]
  ring

/-- **One event** moves the balance by what is reported and by what is dropped. -/
theorem balance_step (s : State) (e : Event) :
    (s.step e).balance c k = s.balance c k + (added c k (s.reported e) - added c k (s.dropped e)) := by
  cases e with
  | increaseUserQuota id quota db fails =>
    by_cases hneg : quota < 0
    · simp [hneg]
    · cases db <;> cases fails <;> simp [hneg, balance_record, balance_write]
  | increaseTokenQuota id quota => by_cases hneg : quota < 0 <;> simp [hneg, balance_record]
  | updateUserUsedQuota id quota =>
    show (s.record .usedQuota id quota).balance c k = _
    simp [balance_record]
  | updateRequestCount call =>
    cases hcall : s.calls[call]? with
    | none => simp [hcall]
    | some id =>
      simp only [State.step, hcall]
      show (s.record .requestCount id 1).balance c k = _
      simp [balance_record, hcall]
  | updateChannelUsedQuota => simp [balance_record]
  | batchUpdate => simp [State.balance, State.pending]
  | pass i next fails =>
    cases hp : s.passes[i]? with
    | none => simp [hp]
    | some p =>
      have hmove := balance_passStep c k (s := s) next fails p
      have hset := balance_setPass c k (s := (s.passStep next fails p).1)
        (by rwa [passes_passStep]) (s.passStep next fails p).2
      rw [passes_passStep] at hset
      simp only [State.step, hp, State.dropped, Option.bind_some, State.reported]
      rw [show added c k none = 0 from rfl]
      omega

theorem balance_of_quiet (h : s.Quiet) : s.balance c k = s.stored c k + s.pending c k := by
  have hheld : (s.passes.map (Pass.held c k)).sum = 0 := sum_eq_zero fun x hx => by
    obtain ⟨p, hp, rfl⟩ := mem_map.mp hx
    rw [h.2 p hp, Pass.held]
  rw [State.balance, hheld, add_zero]

/-- **Increments are kept** exactly as far as passes drop none: whenever nothing is in flight, the
stored value and the pending amount of a counter are its initial value and the increments reported
as done, just if what passes dropped adds up to nothing. -/
theorem increments_kept_iff (stored : Counter → Int → Int) (es : List Event)
    (hquiet : (run State.step (.start stored) es).Quiet) (c : Counter) (k : Int) :
    let s := run State.step (.start stored) es
    s.stored c k + s.pending c k
        = stored c k + accrued State.step (fun s e => added c k (s.reported e)) (.start stored) es ↔
      accrued State.step (fun s e => added c k (s.dropped e)) (.start stored) es = 0 := by
  intro s
  have hstart : (State.start stored).balance c k = stored c k := by
    simp [State.balance, State.start, State.pending, shares]
  have hbalance := run_eq_add_accrued (I := fun _ => True) (fun _ _ _ => trivial)
    (fun s e _ => balance_step c k s e) (s := .start stored) trivial es
  rw [accrued_sub, balance_of_quiet c k hquiet] at hbalance
  rw [hbalance]
  omega

/-- A user's quota grows by five, and a pass runs until it has nothing left to do. -/
def oneIncrement (fails : Bool) : List Event :=
  [.increaseUserQuota 1 5 false false, .batchUpdate] ++ List.replicate 12 (.pass 0 0 fails)

theorem increments_kept_iff_oneIncrement :
    let s := run State.step (.start fun _ _ => 0) (oneIncrement false)
    s.stored .userQuota 1 + s.pending .userQuota 1 = 5 :=
  ((increments_kept_iff (fun _ _ => 0) (oneIncrement false) (by unfold State.Quiet; decide)
    .userQuota 1).mpr (by decide)).trans (by decide)

/-- The increment was reported as done, and after a failed update it is nowhere. -/
theorem failed_update_loses_increment :
    let s := run State.step (.start fun _ _ => 0) (oneIncrement true)
    s.Quiet ∧ s.stored .userQuota 1 + s.pending .userQuota 1 ≠ 0 + accrued State.step
      (fun s e => added .userQuota 1 (s.reported e)) (.start fun _ _ => 0) (oneIncrement true) := by
  unfold State.Quiet
  decide

end RenewApi.Batch
