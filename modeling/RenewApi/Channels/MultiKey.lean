import RenewApi.Channels.Rows

/-! # Status updates of a channel

A status update names a channel and one of its keys. With several keys (`handlerMultiKeyUpdate`) it
sets the status of the key, and the status of the channel follows.

* **Key status**: a key without an entry in `multiKeyStatusList` is enabled.
* **What an update computes**: the new status and list depend on the keys, the status and the list
  only (`nextStatus`, `nextStatusList`). -/

namespace RenewApi.Channels

open Relational Text Finmap

variable {i : Nat}

/-- The status of the keys of a channel, by position. -/
abbrev StatusList := Finmap fun _ : Nat => Int

/-- A status update, with the time at which it notes its reason. -/
structure StatusCall where
  channelId : Int
  usingKey : String
  status : Int
  reason : String
  now : Int
  deriving DecidableEq

/-- The text of `other_info` after `status_reason` and `status_time` are set. -/
abbrev Note := String → String → Int → String

/-! ## Keys -/

def keyEnabled (list : StatusList) (i : Nat) : Bool :=
  match list.lookup i with
  | none => true
  | some status => status == channelStatusEnabled

def hasEnabledMultiKey (keys : List String) (list : StatusList) : Bool :=
  (List.range keys.length).any (keyEnabled list)

/-- Set the status of the key at a position; only a disabled key has a reason and a time noted. -/
def writeKeyStatus (info : ChannelInfo) (i : Nat) (call : StatusCall) : ChannelInfo :=
  if call.status = channelStatusEnabled then
    { info with multiKeyStatusList := info.multiKeyStatusList.erase i }
  else
    { info with
      multiKeyStatusList := info.multiKeyStatusList.insert i call.status
      multiKeyDisabledReason := info.multiKeyDisabledReason.insert i call.reason
      multiKeyDisabledTime := info.multiKeyDisabledTime.insert i call.now }

section Handler

variable (codec : Codec) (note : Note)

def handlerMultiKeyUpdate (c : Channel) (call : StatusCall) : Channel :=
  let keys := c.getKeys codec
  if keys = [] then { c with status := call.status }
  else
    match keys.idxOf? call.usingKey with
    | none =>
      if call.usingKey ≠ "" then c
      else { c with status := call.status, otherInfo := note c.otherInfo call.reason call.now }
    | some i =>
      let info := writeKeyStatus c.channelInfo i call
      if !hasEnabledMultiKey keys info.multiKeyStatusList then
        { c with
          channelInfo := info
          status := channelStatusAutoDisabled
          otherInfo := note c.otherInfo "All keys are disabled" call.now }
      else if call.status = channelStatusEnabled then
        { c with channelInfo := info, status := channelStatusEnabled }
      else { c with channelInfo := info }

def updatedRow (c : Channel) (call : StatusCall) : Channel :=
  if c.channelInfo.isMultiKey then handlerMultiKeyUpdate codec note c call
  else { c with status := call.status, otherInfo := note c.otherInfo call.reason call.now }

end Handler

/-! ## What an update computes -/

/-- The status list after an update. -/
def nextStatusList (keys : List String) (list : StatusList) (call : StatusCall) : StatusList :=
  match keys.idxOf? call.usingKey with
  | none => list
  | some i =>
    if call.status = channelStatusEnabled then list.erase i else list.insert i call.status

/-- The status of the channel after an update: all keys disabled disable the channel, and enabling a
key enables it. -/
def nextStatus (keys : List String) (status : Int) (list : StatusList) (call : StatusCall) : Int :=
  match keys.idxOf? call.usingKey with
  | none => if keys = [] ∨ call.usingKey = "" then call.status else status
  | some _ =>
    if hasEnabledMultiKey keys (nextStatusList keys list call) = false then channelStatusAutoDisabled
    else if call.status = channelStatusEnabled then channelStatusEnabled
    else status

section Handler

variable (codec : Codec) (note : Note) (c : Channel) (call : StatusCall)

/-- **What an update writes** to a channel with several keys: its status and its status list,
besides the notes. -/
theorem handlerMultiKeyUpdate_eq : ∃ otherInfo reasons times, handlerMultiKeyUpdate codec note c call =
    { c with
      status := nextStatus (c.getKeys codec) c.status c.channelInfo.multiKeyStatusList call
      otherInfo := otherInfo
      channelInfo := { c.channelInfo with
        multiKeyStatusList := nextStatusList (c.getKeys codec) c.channelInfo.multiKeyStatusList call
        multiKeyDisabledReason := reasons
        multiKeyDisabledTime := times } } := by
  unfold handlerMultiKeyUpdate nextStatus nextStatusList
  by_cases hnil : c.getKeys codec = []
  · rw [if_pos hnil, hnil]
    exact ⟨_, _, _, rfl⟩
  · rw [if_neg hnil]
    cases (c.getKeys codec).idxOf? call.usingKey with
    | none =>
      by_cases hblank : call.usingKey = ""
      · rw [if_neg (not_not.mpr hblank), if_pos (Or.inr hblank)]
        exact ⟨_, _, _, rfl⟩
      · rw [if_pos hblank, if_neg (not_or.mpr ⟨hnil, hblank⟩)]
        exact ⟨_, _, _, rfl⟩
    | some i =>
      obtain ⟨reasons, times, hinfo⟩ : ∃ reasons times, writeKeyStatus c.channelInfo i call =
          { c.channelInfo with
            multiKeyStatusList := if call.status = channelStatusEnabled
              then c.channelInfo.multiKeyStatusList.erase i
              else c.channelInfo.multiKeyStatusList.insert i call.status
            multiKeyDisabledReason := reasons
            multiKeyDisabledTime := times } := by
        unfold writeKeyStatus
        split <;> exact ⟨_, _, rfl⟩
      dsimp only
      rw [hinfo]
      cases hasEnabledMultiKey (c.getKeys codec) _ with
      | false => exact ⟨_, _, _, rfl⟩
      | true =>
        rw [Bool.not_true, if_neg Bool.false_ne_true, if_neg Bool.false_ne_true.symm]
        split <;> exact ⟨_, _, _, rfl⟩

/-- A status update of a channel touches the columns it is about only. -/
theorem updatedRow_eq : ∃ status otherInfo list reasons times, updatedRow codec note c call =
    { c with
      status := status
      otherInfo := otherInfo
      channelInfo := { c.channelInfo with
        multiKeyStatusList := list
        multiKeyDisabledReason := reasons
        multiKeyDisabledTime := times } } := by
  obtain ⟨_, _, _, heq⟩ := handlerMultiKeyUpdate_eq codec note c call
  unfold updatedRow
  split
  · exact ⟨_, _, _, _, _, heq⟩
  · exact ⟨_, _, _, _, _, rfl⟩

end Handler

variable {list : StatusList}

theorem hasEnabledMultiKey_erase {keys : List String} {key : String} (h : keys.idxOf? key = some i) :
    hasEnabledMultiKey keys (list.erase i) = true := by
  obtain ⟨hi, -⟩ := List.idxOf?_eq_some_iff.mp h
  rw [hasEnabledMultiKey, List.any_eq_true]
  refine ⟨i, List.mem_range.mpr hi, ?_⟩
  rw [keyEnabled, lookup_erase]

theorem erase_eq_self_iff : list.erase i = list ↔ list.lookup i = none := by
  constructor
  · intro h
    rw [← h, lookup_erase]
  · intro h
    refine ext_lookup fun j => ?_
    by_cases hj : j = i
    · rw [hj, lookup_erase, h]
    · rw [lookup_erase_ne hj]

theorem insert_eq_self_iff {status : Int} :
    list.insert i status = list ↔ list.lookup i = some status := by
  constructor
  · intro h
    rw [← h, lookup_insert]
  · intro h
    refine ext_lookup fun j => ?_
    by_cases hj : j = i
    · rw [hj, lookup_insert, h]
    · rw [lookup_insert_of_ne list hj]

section

variable {keys : List String} {call : StatusCall}

theorem nextStatusList_of_none (h : keys.idxOf? call.usingKey = none) :
    nextStatusList keys list call = list := by
  rw [nextStatusList, h]

theorem nextStatusList_enable (h : keys.idxOf? call.usingKey = some i)
    (hcall : call.status = channelStatusEnabled) : nextStatusList keys list call = list.erase i := by
  rw [nextStatusList, h]
  exact if_pos hcall

theorem nextStatusList_disable (h : keys.idxOf? call.usingKey = some i)
    (hcall : call.status ≠ channelStatusEnabled) :
    nextStatusList keys list call = list.insert i call.status := by
  rw [nextStatusList, h]
  exact if_neg hcall

end

end RenewApi.Channels
