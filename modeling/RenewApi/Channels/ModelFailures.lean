import RenewApi.Channels.Selection
import RenewApi.Relational.Assignments

/-! # Failures of a model on a channel

A failure is counted in the row of its channel, group and model, and the row is disabled once the
count has reached a threshold. One upsert does both. -/

namespace RenewApi.Channels

open Relational Text List Table

structure ChannelModelRecord extends ChannelModelStatus where
  failureCount : Int
  successCount : Int
  lastError : String
  lastStatusCode : Int
  lastRequestId : String
  lastEndpoint : String
  lastDisabledAt : Int
  lastDisabledBy : String
  createdTime : Int
  updatedTime : Int
  deriving DecidableEq

instance instRowChannelModelRecord : Row ChannelModelRecord (Int × String × String) :=
  ⟨fun r => (r.channelId, r.group, r.modelName)⟩

@[simp] theorem key_channelModelRecord (r : ChannelModelRecord) :
    Row.key r = (r.channelId, r.group, r.modelName) := rfl

/-- **`ChannelModelFailureUpdate`**, and the time of the call. -/
structure ChannelModelFailureUpdate where
  channelId : Int
  group : String
  modelName : String
  lastError : String
  lastStatusCode : Int
  lastRequestId : String
  lastEndpoint : String
  autoDisableEligible : Bool
  forceDisabled : Bool
  failureThreshold : Int
  cooldownSeconds : Int
  now : Int
  deriving DecidableEq

/-- **`ChannelModelSuccessUpdate`**, and the time of the call. -/
structure ChannelModelSuccessUpdate where
  channelId : Int
  group : String
  modelName : String
  lastRequestId : String
  lastEndpoint : String
  now : Int
  deriving DecidableEq

/-- The cooldown of a row that is disabled without one. -/
def defaultChannelModelCooldownSeconds : Int := 60

variable {r : ChannelModelRecord}

namespace ChannelModelFailureUpdate

variable (update : ChannelModelFailureUpdate)

/-- The row that a failure is counted in. -/
def key : Int × String × String :=
  channelModelStatusCacheKey update.channelId update.group update.modelName

/-- The threshold is at least one. -/
def threshold : Int := if update.failureThreshold < 1 then 1 else update.failureThreshold

/-- A failure that can disable the row has a positive cooldown. -/
def cooldown : Int :=
  if update.cooldownSeconds ≤ 0 ∧ (update.forceDisabled ∨ update.autoDisableEligible) then
    defaultChannelModelCooldownSeconds
  else update.cooldownSeconds

/-- The end of the cooldown. -/
def disabledUntil : Int := if 0 < update.cooldown then update.now + update.cooldown else 0

/-- The row of a first failure. -/
def record : ChannelModelRecord :=
  let disables : Bool :=
    update.forceDisabled || update.autoDisableEligible && decide (update.threshold ≤ 1)
  { channelId := update.channelId
    group := normalizeChannelModelStatusGroup update.group
    modelName := trimSpace update.modelName
    status := if disables then channelStatusAutoDisabled else channelStatusEnabled
    failureCount := 1
    successCount := 0
    lastError := trimSpace update.lastError
    lastStatusCode := update.lastStatusCode
    lastRequestId := trimSpace update.lastRequestId
    lastEndpoint := trimSpace update.lastEndpoint
    disabledUntil := update.disabledUntil
    lastDisabledAt := if disables then update.now else 0
    lastDisabledBy := if disables then "auto" else ""
    createdTime := update.now
    updatedTime := update.now }

theorem key_record : Row.key update.record = update.key := by
  rw [key_channelModelRecord, record, key, channelModelStatusCacheKey]

/-- `force OR (eligible AND failure_count + 1 >= threshold)` on the row that is read. -/
def disables (r : ChannelModelRecord) : Bool :=
  update.forceDisabled ||
    update.autoDisableEligible && decide (update.threshold ≤ r.failureCount + 1)

/-- The common `CASE` of the columns: a manually disabled row and one that is not to be disabled
keep their value. -/
def orKept {α : Type} (r : ChannelModelRecord) (kept new : α) : α :=
  if r.status = channelStatusManuallyDisabled then kept
  else if update.disables r then new else kept

/-- The assignments of `DO UPDATE`, as the source lists them. -/
def assignments : List (Assignment ChannelModelRecord) :=
  [⟨"failure_count", fun r t => { t with failureCount := r.failureCount + 1 }⟩,
   ⟨"last_error", fun _ t => { t with lastError := trimSpace update.lastError }⟩,
   ⟨"last_status_code", fun _ t => { t with lastStatusCode := update.lastStatusCode }⟩,
   ⟨"last_request_id", fun _ t => { t with lastRequestId := trimSpace update.lastRequestId }⟩,
   ⟨"last_endpoint", fun _ t => { t with lastEndpoint := trimSpace update.lastEndpoint }⟩,
   ⟨"updated_time", fun _ t => { t with updatedTime := update.now }⟩,
   ⟨"status", fun r t => { t with status := update.orKept r r.status channelStatusAutoDisabled }⟩,
   ⟨"disabled_until", fun r t =>
      { t with disabledUntil := update.orKept r r.disabledUntil update.disabledUntil }⟩,
   ⟨"last_disabled_at", fun r t =>
      { t with lastDisabledAt := update.orKept r r.lastDisabledAt update.now }⟩,
   ⟨"last_disabled_by", fun r t =>
      { t with lastDisabledBy := update.orKept r r.lastDisabledBy "auto" }⟩]

end ChannelModelFailureUpdate

/-- The row that a success is counted in. -/
def ChannelModelSuccessUpdate.key (update : ChannelModelSuccessUpdate) : Int × String × String :=
  channelModelStatusCacheKey update.channelId update.group update.modelName

/-- The `CASE` of a success: a row that was disabled for its failures gets the new value. -/
def clearedIfAuto {α : Type} (r : ChannelModelRecord) (kept new : α) : α :=
  if r.status = channelStatusAutoDisabled then new else kept

/-- The assignments of `RecordChannelModelSuccess`, as the source lists them. -/
def ChannelModelSuccessUpdate.assignments (update : ChannelModelSuccessUpdate) :
    List (Assignment ChannelModelRecord) :=
  [⟨"success_count", fun r t => { t with successCount := r.successCount + 1 }⟩,
   ⟨"failure_count", fun _ t => { t with failureCount := 0 }⟩,
   ⟨"last_request_id", fun _ t => { t with lastRequestId := trimSpace update.lastRequestId }⟩,
   ⟨"last_endpoint", fun _ t => { t with lastEndpoint := trimSpace update.lastEndpoint }⟩,
   ⟨"updated_time", fun _ t => { t with updatedTime := update.now }⟩,
   ⟨"status", fun r t => { t with status := clearedIfAuto r r.status channelStatusEnabled }⟩,
   ⟨"last_error", fun r t => { t with lastError := clearedIfAuto r r.lastError "" }⟩,
   ⟨"last_status_code", fun r t =>
      { t with lastStatusCode := clearedIfAuto r r.lastStatusCode 0 }⟩,
   ⟨"disabled_until", fun r t => { t with disabledUntil := clearedIfAuto r r.disabledUntil 0 }⟩,
   ⟨"last_disabled_by", fun r t =>
      { t with lastDisabledBy := clearedIfAuto r r.lastDisabledBy "" }⟩]

/-- The insert of a first row, or the assignments of `ON CONFLICT … DO UPDATE` in the alphabetical
order of the columns. -/
def upsertChannelModelFailure (d : Dialect) (table : Table ChannelModelRecord)
    (update : ChannelModelFailureUpdate) : Table ChannelModelRecord :=
  if update.channelId ≤ 0 ∨ trimSpace update.modelName = "" then table
  else
    match table.find? update.key with
    | none => table.insert update.record
    | some r => table.put (d.update (alphabetical update.assignments) r)

/-- **`RecordChannelModelSuccess`**: no row is made for a success. -/
def recordChannelModelSuccess (d : Dialect) (table : Table ChannelModelRecord)
    (update : ChannelModelSuccessUpdate) : Table ChannelModelRecord :=
  if update.channelId ≤ 0 ∨ trimSpace update.modelName = "" then table
  else
    match table.find? update.key with
    | none => table
    | some r => table.put (d.update (alphabetical update.assignments) r)

/-! ## What the updates do to a row -/

/-- The row as the columns after `failure_count` see it. -/
def raised : Dialect → ChannelModelRecord → ChannelModelRecord
  | .oldRow, r => r
  | .leftToRight, r => { r with failureCount := r.failureCount + 1 }

section

variable (d : Dialect) (r : ChannelModelRecord)

/-- **A failure in a row that exists**: `disabled_until` comes before `failure_count` and reads the
old count in every database, `status` comes after it. -/
theorem update_failure (update : ChannelModelFailureUpdate) :
    let r' := d.update (alphabetical update.assignments) r
    Row.key r' = Row.key r ∧ r'.failureCount = r.failureCount + 1 ∧
      r'.disabledUntil = update.orKept r r.disabledUntil update.disabledUntil ∧
      r'.status = update.orKept (raised d r) r.status channelStatusAutoDisabled := by
  have hsorted : (update.assignments.map Assignment.column).insertionSort (· ≤ ·) =
      ["disabled_until", "failure_count", "last_disabled_at", "last_disabled_by", "last_endpoint",
        "last_error", "last_request_id", "last_status_code", "status", "updated_time"] := by
    simp only [ChannelModelFailureUpdate.assignments, map_cons]
    decide
  rw [alphabetical, hsorted]
  cases d with
  | oldRow => exact ⟨rfl, rfl, rfl, rfl⟩
  | leftToRight => exact ⟨rfl, rfl, rfl, rfl⟩

/-- **A success in a row that exists**, in every database: no column is read after it was
written. -/
theorem update_success (update : ChannelModelSuccessUpdate) :
    let r' := d.update (alphabetical update.assignments) r
    Row.key r' = Row.key r ∧ r'.failureCount = 0 ∧
      r'.status = clearedIfAuto r r.status channelStatusEnabled := by
  have hsorted : (update.assignments.map Assignment.column).insertionSort (· ≤ ·) =
      ["disabled_until", "failure_count", "last_disabled_by", "last_endpoint", "last_error",
        "last_request_id", "last_status_code", "status", "success_count", "updated_time"] := by
    simp only [ChannelModelSuccessUpdate.assignments, map_cons]
    decide
  rw [alphabetical, hsorted]
  simp only [ChannelModelSuccessUpdate.assignments, find?_cons, filterMap_cons,
    filterMap_nil, String.reduceEq, decide_true, decide_false]
  cases d with
  | oldRow => exact ⟨rfl, rfl, rfl⟩
  | leftToRight =>
    rw [update_leftToRight]
    · exact ⟨rfl, rfl, rfl⟩
    · simp only [pairwise_cons, Blind, clearedIfAuto]
      simp

end

/-! ## Consecutive failures -/

structure CountsFor (T : Int) (key : Int × String × String) (update : ChannelModelFailureUpdate) :
    Prop where
  row : update.key = key
  channel : 0 < key.1
  model : key.2.2 ≠ ""
  eligible : update.autoDisableEligible = true
  notForced : update.forceDisabled = false
  threshold : update.failureThreshold = T
  cooldown : 0 < update.cooldownSeconds

/-- A table in which no failure of the row has been counted yet: there is no row, or a success was
recorded in it. -/
inductive Uncounted (d : Dialect) (key : Int × String × String) : Table ChannelModelRecord → Prop
  | absent {table} (h : table.find? key = none) : Uncounted d key table
  | reset {table r} {update : ChannelModelSuccessUpdate} (hkey : update.key = key)
      (hr : table.find? key = some r)
      (hmanual : r.status ≠ channelStatusManuallyDisabled) :
      Uncounted d key (recordChannelModelSuccess d table update)

/-- **The threshold is exact along a run of failures**: after the `n`-th one the row is disabled
just if `n` has reached the threshold, until the end of the cooldown of that failure. -/
def ThresholdExact (d : Dialect) (T : Int) (key : Int × String × String)
    (table : Table ChannelModelRecord) (calls : List ChannelModelFailureUpdate) : Prop :=
  ∀ before last after, calls = before ++ last :: after →
    ∃ r, (run (upsertChannelModelFailure d) table (before ++ [last])).find? key = some r ∧
      (r.status = channelStatusAutoDisabled ↔ T ≤ before.length + 1) ∧
      (T ≤ before.length + 1 → r.disabledUntil = last.now + last.cooldownSeconds)

/-- How many failures too early a row that exists is disabled. -/
def early : Dialect → Int
  | .oldRow => 0
  | .leftToRight => 1

structure After (T : Int) (n : Nat) (lead : Int) (last : ChannelModelFailureUpdate)
    (r : ChannelModelRecord) : Prop where
  count : r.failureCount = n
  notManual : r.status ≠ channelStatusManuallyDisabled
  auto : r.status = channelStatusAutoDisabled ↔ T ≤ n + lead
  until_ : T ≤ n → r.disabledUntil = last.now + last.cooldownSeconds

section

variable {d : Dialect} {T : Int} {key : Int × String × String} {table : Table ChannelModelRecord}
  {update : ChannelModelFailureUpdate}

theorem CountsFor.values (hT : 1 ≤ T) (h : CountsFor T key update) :
    update.threshold = T ∧ update.disabledUntil = update.now + update.cooldownSeconds := by
  have hcooldown : update.cooldown = update.cooldownSeconds := by
    rw [ChannelModelFailureUpdate.cooldown, if_neg]
    exact fun hle => absurd h.cooldown (not_lt.mpr hle.1)
  refine ⟨?_, ?_⟩
  · rw [ChannelModelFailureUpdate.threshold, h.threshold, if_neg (by omega)]
  · rw [ChannelModelFailureUpdate.disabledUntil, hcooldown, if_pos h.cooldown]

theorem accepted_of_key {id : Int} {g m : String} (hkey : channelModelStatusCacheKey id g m = key)
    (hchannel : 0 < key.1) (hmodel : key.2.2 ≠ "") : ¬(id ≤ 0 ∨ trimSpace m = "") := by
  subst hkey
  rintro (hid | hblank)
  · exact absurd hchannel (not_lt.mpr hid)
  · exact hmodel hblank

theorem CountsFor.accepted (h : CountsFor T key update) :
    ¬(update.channelId ≤ 0 ∨ trimSpace update.modelName = "") :=
  accepted_of_key h.row h.channel h.model

theorem CountsFor.disables_iff (hT : 1 ≤ T) (h : CountsFor T key update) (r : ChannelModelRecord) :
    update.disables r = true ↔ T ≤ r.failureCount + 1 := by
  rw [ChannelModelFailureUpdate.disables, h.notForced, h.eligible, (h.values hT).1, Bool.false_or,
    Bool.true_and, decide_eq_true_eq]

/-- **One more failure** in a row that is not disabled before its time. -/
theorem After.next (hT : 1 ≤ T) (h : CountsFor T key update) {n : Nat} (hcount : r.failureCount = n)
    (hmanual : r.status ≠ channelStatusManuallyDisabled)
    (hauto : r.status = channelStatusAutoDisabled → T ≤ (n : Int) + 1 + early d) :
    After T (n + 1) (early d) update (d.update (alphabetical update.assignments) r) := by
  obtain ⟨-, hcount', huntil', hstatus'⟩ := update_failure d r update
  -- the count that `status` reads
  have hraised : (raised d r).failureCount + 1 = (n : Int) + 1 + early d := by
    cases d with
    | oldRow => simp [raised, early, hcount]
    | leftToRight => simp [raised, early, hcount]
  have hmanual' : (raised d r).status ≠ channelStatusManuallyDisabled := by
    cases d with
    | oldRow => exact hmanual
    | leftToRight => exact hmanual
  rw [ChannelModelFailureUpdate.orKept, if_neg hmanual'] at hstatus'
  rw [ChannelModelFailureUpdate.orKept, if_neg hmanual] at huntil'
  have hdisables := h.disables_iff hT (raised d r)
  rw [hraised] at hdisables
  refine ⟨?_, ?_, ?_, ?_⟩
  · rw [hcount', hcount]
    rfl
  · rw [hstatus']
    split
    · decide
    · exact hmanual
  · rw [hstatus']
    split
    · next hyes => exact iff_of_true rfl (hdisables.mp hyes)
    · next hno =>
      refine iff_of_false (fun hsame => ?_) fun hle => hno (hdisables.mpr hle)
      exact hno (hdisables.mpr (hauto hsame))
  · intro hle
    rw [huntil', if_pos, (h.values hT).2]
    rw [h.disables_iff hT, hcount]
    exact hle

theorem find?_upsert_of_some (h : CountsFor T key update) (hr : table.find? key = some r) :
    (upsertChannelModelFailure d table update).find? key =
      some (d.update (alphabetical update.assignments) r) := by
  rw [upsertChannelModelFailure, if_neg h.accepted, h.row, hr]
  exact find?_put_of_key hr (update_failure d r update).1

theorem find?_upsert_of_none (h : CountsFor T key update) (hnone : table.find? key = none) :
    (upsertChannelModelFailure d table update).find? key = some update.record := by
  have hkey : Row.key update.record = key := update.key_record.trans h.row
  rw [upsertChannelModelFailure, if_neg h.accepted, h.row, hnone]
  rw [find?_insert (hkey ▸ hnone), if_pos hkey.symm]

theorem After.first (hT : 1 ≤ T) (h : CountsFor T key update) : After T 1 0 update update.record := by
  have hdisables : (update.forceDisabled || update.autoDisableEligible &&
      decide (update.threshold ≤ 1)) = decide (T ≤ 1) := by
    rw [h.notForced, h.eligible, (h.values hT).1, Bool.false_or, Bool.true_and]
  have hstatus : update.record.status =
      if T ≤ 1 then channelStatusAutoDisabled else channelStatusEnabled := by
    simp only [ChannelModelFailureUpdate.record, hdisables, decide_eq_true_eq]
  refine ⟨rfl, ?_, ?_, fun _ => (h.values hT).2⟩
  · rw [hstatus]
    split <;> decide
  · rw [hstatus]
    split
    · next hle => exact iff_of_true rfl (by simpa using hle)
    · next hlt => exact iff_of_false (by decide) (by simpa using hlt)

/-- A success leaves a row whose failures are counted from the start. -/
theorem find?_reset {success : ChannelModelSuccessUpdate} (hkey : success.key = key)
    (hchannel : 0 < key.1) (hmodel : key.2.2 ≠ "") (hr : table.find? key = some r)
    (hmanual : r.status ≠ channelStatusManuallyDisabled) :
    ∃ r', (recordChannelModelSuccess d table success).find? key = some r' ∧
      r'.failureCount = 0 ∧ r'.status ≠ channelStatusManuallyDisabled ∧
      r'.status ≠ channelStatusAutoDisabled := by
  obtain ⟨hkey', hcount, hstatus⟩ := update_success d r success
  refine ⟨d.update (alphabetical success.assignments) r, ?_, hcount, ?_, ?_⟩
  · rw [recordChannelModelSuccess, if_neg (accepted_of_key hkey hchannel hmodel), hkey, hr]
    exact find?_put_of_key hr hkey'
  · rw [hstatus, clearedIfAuto]
    split
    · decide
    · exact hmanual
  · rw [hstatus, clearedIfAuto]
    split
    · decide
    · next hne => exact hne

/-- How many failures too early a row is disabled after `n` failures, where the first one may have
been an insert. -/
def lead (d : Dialect) (fresh : Bool) (n : Nat) : Int := if fresh ∧ n = 1 then 0 else early d

/-- **The row after a run of failures.** -/
theorem after_run (hT : 1 ≤ T) (hstart : Uncounted d key table)
    (before : List ChannelModelFailureUpdate) (last : ChannelModelFailureUpdate)
    (hcalls : ∀ u ∈ before ++ [last], CountsFor T key u) :
    ∃ r, (run (upsertChannelModelFailure d) table (before ++ [last])).find? key = some r ∧
      After T (before.length + 1) (lead d (table.find? key).isNone (before.length + 1)) last r := by
  induction before using reverseRecOn generalizing last with
  | nil =>
    have hlast : CountsFor T key last := hcalls last (by simp)
    cases hstart with
    | absent hnone =>
      refine ⟨last.record, find?_upsert_of_none hlast hnone, ?_⟩
      rw [hnone]
      exact After.first hT hlast
    | reset hkey hr hmanual =>
      obtain ⟨r', hr', hcount, hmanual', hauto'⟩ :=
        find?_reset (d := d) hkey hlast.channel hlast.model hr hmanual
      refine ⟨_, find?_upsert_of_some hlast hr', ?_⟩
      rw [hr']
      exact After.next hT hlast (n := 0) hcount hmanual' fun h => absurd h hauto'
  | append_singleton before prev ih =>
    obtain ⟨r, hr, hafter⟩ := ih prev fun u hu => hcalls u (mem_append_left _ hu)
    have hlast : CountsFor T key last := hcalls last (by simp)
    rw [run_append, run_cons, run_nil, length_append, length_singleton]
    refine ⟨_, find?_upsert_of_some hlast hr, ?_⟩
    have hlead : lead d (table.find? key).isNone (before.length + 1 + 1) = early d := by
      simp [lead]
    rw [hlead]
    refine After.next hT hlast hafter.count hafter.notManual fun hauto => ?_
    have hle := hafter.auto.mp hauto
    -- what was disabled before stays disabled
    have hbound : lead d (table.find? key).isNone (before.length + 1) ≤ 1 + early d := by
      cases d with
      | oldRow => simp only [lead, early]; split <;> omega
      | leftToRight => simp only [lead, early]; split <;> omega
    omega

/-- A manually disabled row stays so in every database. -/
theorem manual_upsert (hr : table.find? key = some r)
    (hmanual : r.status = channelStatusManuallyDisabled) (update : ChannelModelFailureUpdate) :
    ∃ r', (upsertChannelModelFailure d table update).find? key = some r' ∧
      r'.status = channelStatusManuallyDisabled := by
  rw [upsertChannelModelFailure]
  split
  · exact ⟨r, hr, hmanual⟩
  · cases hfind : table.find? update.key with
    | none =>
      refine ⟨r, ?_, hmanual⟩
      have hne : key ≠ Row.key update.record := by
        rintro rfl
        cases hr.symm.trans hfind
      rw [find?_insert hfind, if_neg hne]
      exact hr
    | some old =>
      obtain ⟨hkey', -, -, hstatus'⟩ := update_failure d old update
      by_cases hsame : key = update.key
      · subst hsame
        cases hr.symm.trans hfind
        refine ⟨d.update (alphabetical update.assignments) r, find?_put_of_key hr hkey', ?_⟩
        have hraised : (raised d r).status = channelStatusManuallyDisabled := by
          cases d <;> exact hmanual
        rw [hstatus', ChannelModelFailureUpdate.orKept, if_pos hraised]
        exact hmanual
      · refine ⟨r, ?_, hmanual⟩
        rw [find?_put_of_ne, hr]
        rw [hkey'.trans (key_of_find? hfind)]
        exact hsame

end

/-! ## The threshold -/

/-- The threshold is exact along a run just if no row is disabled early in it. -/
theorem thresholdExact_iff_lead {d : Dialect} {T : Int} (hT : 1 ≤ T) {key : Int × String × String}
    {table : Table ChannelModelRecord} {calls : List ChannelModelFailureUpdate}
    (hcalls : ∀ u ∈ calls, CountsFor T key u) (hstart : Uncounted d key table) :
    ThresholdExact d T key table calls ↔ ∀ n, n < calls.length →
      (T ≤ ((n + 1 : Nat) : Int) + lead d (table.find? key).isNone (n + 1) ↔ T ≤ (n : Int) + 1) := by
  have hcounted : ∀ before last after, calls = before ++ last :: after →
      ∀ u ∈ before ++ [last], CountsFor T key u := by
    rintro before last after rfl u hu
    exact hcalls u (append_cons before last after ▸ mem_append_left after hu)
  constructor
  · intro hexact n hn
    have hsplit : calls = calls.take n ++ calls[n] :: calls.drop (n + 1) := by
      rw [cons_getElem_drop_succ, take_append_drop]
    obtain ⟨r, hr, hauto, -⟩ := hexact _ _ _ hsplit
    obtain ⟨r', hr', hafter⟩ := after_run hT hstart (calls.take n) calls[n] (hcounted _ _ _ hsplit)
    cases hr.symm.trans hr'
    have hlength : (calls.take n).length = n := length_take_of_le hn.le
    rw [hlength] at hauto hafter
    exact hafter.auto.symm.trans hauto
  · rintro hlead before last after rfl
    obtain ⟨r, hr, hafter⟩ := after_run hT hstart before last (hcounted _ _ _ rfl)
    refine ⟨r, hr, hafter.auto.trans (hlead before.length (by simp)), fun hle => ?_⟩
    exact hafter.until_ (by push_cast; exact hle)

/-- **The threshold of a model is exact in every run of failures when the assignments read the old
row.** Left to right it is exact only for a threshold of one, for a threshold of two without a row
to begin with, and while fewer failures than one before the threshold have come. A manually disabled
row keeps its status. -/
theorem thresholdExact_iff (d : Dialect) (T : Int) (hT : 1 ≤ T) (key : Int × String × String)
    (table : Table ChannelModelRecord) (calls : List ChannelModelFailureUpdate)
    (hcalls : ∀ u ∈ calls, CountsFor T key u) :
    (Uncounted d key table →
      (ThresholdExact d T key table calls ↔
        d = .oldRow ∨ T = 1 ∨ (T = 2 ∧ table.find? key = none) ∨ (calls.length : Int) + 1 < T)) ∧
    ∀ r, table.find? key = some r → r.status = channelStatusManuallyDisabled →
      ∃ r', (run (upsertChannelModelFailure d) table calls).find? key = some r' ∧
        r'.status = channelStatusManuallyDisabled := by
  refine ⟨fun hstart => ?_, fun r hr hmanual => ?_⟩
  · rw [thresholdExact_iff_lead hT hcalls hstart, ← Option.isNone_iff_eq_none]
    generalize (table.find? key).isNone = fresh
    cases d with
    | oldRow => simp [lead, early]
    | leftToRight =>
      constructor
      · intro hlead
        by_contra hnot
        simp only [reduceCtorEq, false_or, not_or, not_and, not_lt] at hnot
        obtain ⟨hone, htwo, hlong⟩ := hnot
        -- the failure before the one that reaches the threshold disables the row already
        have hearly := hlead (T - 2).toNat (by omega)
        rw [lead, if_neg (by rintro ⟨hfresh, hn⟩; exact htwo (by omega) hfresh), early] at hearly
        omega
      · rintro hcond n hn
        rw [lead]
        split
        · next hfirst =>
          omega
        · next hrest =>
          rw [early]
          simp only [reduceCtorEq, false_or] at hcond
          rcases hcond with hT1 | ⟨hT2, hfresh⟩ | hshort
          · omega
          · have hn0 : n + 1 ≠ 1 := fun h => hrest ⟨hfresh, h⟩
            omega
          · omega
  · exact run_invariant_all (I := fun t => ∃ r', Table.find? t key = some r' ∧
      r'.status = channelStatusManuallyDisabled)
      (fun t u ⟨r', hr', hm⟩ => manual_upsert hr' hm u) calls ⟨r, hr, hmanual⟩

/-- A failure with threshold three and a cooldown of a minute. -/
def modelFailure (now : Int) : ChannelModelFailureUpdate where
  channelId := 1
  group := "default"
  modelName := "gpt-4o"
  lastError := "upstream error"
  lastStatusCode := 500
  lastRequestId := ""
  lastEndpoint := ""
  autoDisableEligible := true
  forceDisabled := false
  failureThreshold := 3
  cooldownSeconds := 60
  now := now

theorem countsFor_modelFailure (now : Int) :
    CountsFor 3 (1, "default", "gpt-4o") (modelFailure now) where
  row := by
    show channelModelStatusCacheKey 1 "default" "gpt-4o" = _
    decide
  channel := by decide
  model := by decide
  eligible := rfl
  notForced := rfl
  threshold := rfl
  cooldown := show (0 : Int) < 60 by decide

/-- Three failures, and the row is disabled at the third one. -/
theorem thresholdExact_oldRow :
    ThresholdExact .oldRow 3 (1, "default", "gpt-4o") Table.empty
      [modelFailure 100, modelFailure 200, modelFailure 300] := by
  have hcalls : ∀ u ∈ [modelFailure 100, modelFailure 200, modelFailure 300],
      CountsFor 3 (1, "default", "gpt-4o") u := by
    intro u hu
    simp only [mem_cons, not_mem_nil, or_false] at hu
    rcases hu with rfl | rfl | rfl
    · exact countsFor_modelFailure 100
    · exact countsFor_modelFailure 200
    · exact countsFor_modelFailure 300
  exact ((thresholdExact_iff .oldRow 3 (by decide) (1, "default", "gpt-4o") empty _ hcalls).1
    (.absent rfl)).mpr (.inl rfl)

/-- **Left to right, two failures disable the row**, and only until the end of the cooldown of the
first. -/
theorem disabled_after_two_failures :
    ((run (upsertChannelModelFailure .leftToRight) Table.empty
      [modelFailure 100, modelFailure 200]).find? (1, "default", "gpt-4o")).map
        (fun r => (r.status, r.failureCount, r.disabledUntil)) =
      some (channelStatusAutoDisabled, 2, 160) ∧
    ¬ThresholdExact .leftToRight 3 (1, "default", "gpt-4o") Table.empty
      [modelFailure 100, modelFailure 200] := by
  have hrow : ((run (upsertChannelModelFailure .leftToRight) empty
      [modelFailure 100, modelFailure 200]).find? (1, "default", "gpt-4o")).map
        (fun r => (r.status, r.failureCount, r.disabledUntil)) =
      some (channelStatusAutoDisabled, 2, 160) := by
    decide +kernel
  refine ⟨hrow, fun hexact => ?_⟩
  obtain ⟨r, hr, hauto, -⟩ := hexact [modelFailure 100] (modelFailure 200) [] rfl
  rw [singleton_append] at hr
  rw [hr, Option.map_some, Option.some.injEq, Prod.mk.injEq] at hrow
  exact absurd (hauto.mp hrow.1) (by decide)

end RenewApi.Channels
