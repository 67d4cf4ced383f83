import RenewApi.Channels.Writers

/-! # Polling and disabled keys

With the memory cache off, a request that polls and a status update store a `channel_info` they read
before. Either may write back a status list from before a key was disabled. -/

namespace RenewApi.Channels

open Relational Writers Finmap

def KeyDisabled (c : Channel) (i : Nat) : Prop :=
  keyEnabled c.channelInfo.multiKeyStatusList i = false
  deriving Decidable

def AboutKey (codec : Codec) (copy : Channel) (call : StatusCall) (i : Nat) : Prop :=
  copy.channelInfo.isMultiKey = true ∧ (copy.getKeys codec).idxOf? call.usingKey = some i

section

variable {codec : Codec} {note : Note} {copy : Channel} {call : StatusCall} {i : Nat}

theorem statusList_updatedRow (h : copy.channelInfo.isMultiKey = true) :
    (updatedRow codec note copy call).channelInfo.multiKeyStatusList =
      nextStatusList (copy.getKeys codec) copy.channelInfo.multiKeyStatusList call := by
  obtain ⟨_, _, _, heq⟩ := handlerMultiKeyUpdate_eq codec note copy call
  rw [updatedRow, if_pos h, heq]

theorem keyDisabled_updatedRow_of_about (h : AboutKey codec copy call i) :
    KeyDisabled (updatedRow codec note copy call) i ↔ call.status ≠ channelStatusEnabled := by
  unfold KeyDisabled keyEnabled
  rw [statusList_updatedRow h.1]
  by_cases hcall : call.status = channelStatusEnabled
  · rw [nextStatusList_enable h.2 hcall]
    simp [hcall]
  · rw [nextStatusList_disable h.2 hcall]
    simp

theorem keyDisabled_updatedRow_of_not_about (h : ¬AboutKey codec copy call i) :
    KeyDisabled (updatedRow codec note copy call) i ↔ KeyDisabled copy i := by
  unfold KeyDisabled keyEnabled
  by_cases hmulti : copy.channelInfo.isMultiKey = true
  · rw [statusList_updatedRow hmulti]
    cases hidx : (copy.getKeys codec).idxOf? call.usingKey with
    | none => rw [nextStatusList_of_none hidx]
    | some j =>
      have hne : i ≠ j := fun hij => h ⟨hmulti, hij ▸ hidx⟩
      by_cases hcall : call.status = channelStatusEnabled
      · rw [nextStatusList_enable hidx hcall, lookup_erase_ne hne]
      · rw [nextStatusList_disable hidx hcall, lookup_insert_of_ne _ hne]
  · rw [updatedRow, if_neg hmulti]

end

section

variable {ρ : Type*} (env : WriterEnv) {e : WriterEvent ρ}

/-- The steps of requests that poll and of status updates. -/
def WriterEvent.polls : WriterEvent ρ → Bool
  | .load _ | .next _ _ | .save _ | .read _ _ | .handle _ | .write _ => true
  | .edit _ _ | .check _ | .prepare _ | .commit _ => false

def Enables (i : Nat) (s : Writers ρ) (e : WriterEvent ρ) : Prop :=
  ∃ r call copy, e = .write r ∧ s.proc r = .writing call copy ∧ AboutKey env.codec copy call i ∧
    call.status = channelStatusEnabled

/-- **A write sees the disabled keys**: those of the row are disabled in its copy, apart from the
key that it is about. -/
def SeesDisabled (s : Writers ρ) (e : WriterEvent ρ) : Prop :=
  match e with
  | .save r => ∀ copy, s.proc r = .saving copy → ∀ i, KeyDisabled s.row i → KeyDisabled copy i
  | .write r => ∀ call copy, s.proc r = .writing call copy → ∀ i, KeyDisabled s.row i →
      KeyDisabled copy i ∨ AboutKey env.codec copy call i
  | _ => True

variable {env} in
theorem not_enables {s : Writers ρ} (h : ∀ r, e ≠ .write r) (i : Nat) : ¬Enables env i s e := by
  rintro ⟨r, call, copy, he, -⟩
  exact h r he

variable [DecidableEq ρ]

def RevivesNone (s : Writers ρ) (e : WriterEvent ρ) : Prop :=
  ∀ i, KeyDisabled s.row i → ¬Enables env i s e → KeyDisabled (s.step env e).row i

variable {env} {s : Writers ρ} {r : ρ}

theorem revivesNone_of_row (h : (s.step env e).row = s.row) : RevivesNone env s e := by
  intro i hi _
  rwa [h]

/-- **A request whose copy has the list of the row when it takes the lock** sees the disabled keys
at its save, if nothing is written in between. -/
theorem seesDisabled_save_of_next {copy : Channel} (hp : s.proc r = .loaded copy) (draw : Nat)
    (h : copy.channelInfo.multiKeyStatusList = s.row.channelInfo.multiKeyStatusList) :
    SeesDisabled env (s.step env (.next r draw)) (.save r) := by
  intro copy' hcopy' i hi
  change (s.next env r draw).proc r = _ at hcopy'
  rw [(writesOnly_step env).idle s (.next r draw) rfl] at hi
  have hlist : copy'.channelInfo.multiKeyStatusList = copy.channelInfo.multiKeyStatusList := by
    rw [next, hp] at hcopy'
    dsimp only at hcopy'
    split at hcopy'
    · -- the lock is taken: the request still waits
      rw [hp] at hcopy'
      cases hcopy'
    · split at hcopy'
      · simp only [goto, Function.update_self] at hcopy'
        cases hcopy'
        exact ColumnValue.statuses.inj (column_getNextEnabledKey _ _ _ _
          (show Column.multiKeyStatusList ≠ .multiKeyPollingIndex by decide))
      · simp only [goto, Function.update_self] at hcopy'
        cases hcopy'
  rwa [KeyDisabled, hlist, h]

theorem revivesNone_save_iff : RevivesNone env s (.save r) ↔ SeesDisabled env s (.save r) := by
  cases hp : s.proc r with
  | saving copy =>
    -- the stored list is that of the copy, whatever the row has by now
    have hrow : (s.step env (.save r)).row = { s.row with channelInfo := copy.channelInfo } :=
      row_save hp
    constructor
    · intro h copy' hcopy' i hi
      rw [hp] at hcopy'
      cases hcopy'
      have hafter := h i hi (not_enables (by simp) i)
      rw [hrow] at hafter
      exact hafter
    · intro h i hi _
      rw [hrow]
      exact h copy hp i hi
  | _ =>
    refine iff_of_true (revivesNone_of_row ?_) ?_
    · show (s.save r).row = _
      rw [save, hp]
    · intro copy hcopy
      rw [hp] at hcopy
      cases hcopy

/-- A status update revives no other key exactly when its copy sees the disabled keys. -/
theorem revivesNone_write_iff : RevivesNone env s (.write r) ↔ SeesDisabled env s (.write r) := by
  cases hp : s.proc r with
  | writing call copy =>
    have hrow : ∀ i, KeyDisabled (s.step env (.write r)).row i ↔
        KeyDisabled (updatedRow env.codec env.note copy call) i := by
      intro i
      show KeyDisabled (s.write env r).row i ↔ _
      rw [row_write env hp]
      rfl
    have henables : ∀ i, Enables env i s (.write r) ↔
        AboutKey env.codec copy call i ∧ call.status = channelStatusEnabled := by
      intro i
      constructor
      · rintro ⟨r', call', copy', hr, hp', habout⟩
        cases hr
        rw [hp] at hp'
        cases hp'
        exact habout
      · intro habout
        exact ⟨r, call, copy, rfl, hp, habout⟩
    constructor
    · intro h call' copy' hcopy' i hi
      rw [hp] at hcopy'
      cases hcopy'
      -- the key of the call gets the status of the call, any other key that of the copy
      by_cases habout : AboutKey env.codec copy call i
      · exact Or.inr habout
      · left
        have hafter := h i hi fun hen => habout ((henables i).mp hen).1
        rwa [hrow, keyDisabled_updatedRow_of_not_about habout] at hafter
    · intro h i hi hen
      rw [hrow]
      by_cases habout : AboutKey env.codec copy call i
      · rw [keyDisabled_updatedRow_of_about habout]
        exact fun hcall => hen ((henables i).mpr ⟨habout, hcall⟩)
      · rw [keyDisabled_updatedRow_of_not_about habout]
        exact (h call copy hp i hi).resolve_right habout
  | _ =>
    refine iff_of_true (revivesNone_of_row ?_) ?_
    · show (s.write env r).row = _
      rw [write, hp]
    · intro call copy hcopy
      rw [hp] at hcopy
      cases hcopy

theorem revivesNone_iff (he : e.polls = true) : RevivesNone env s e ↔ SeesDisabled env s e := by
  cases e with
  | load | next | read | handle =>
    exact iff_of_true (revivesNone_of_row ((writesOnly_step env).idle _ _ rfl)) trivial
  | save r => exact revivesNone_save_iff
  | write r => exact revivesNone_write_iff
  | edit r edit | check r | prepare r | commit r => cases he

variable (env s)

/-- **A disabled key stays disabled until a status update enables it**, in every run of requests
that poll and status updates in which each write sees the disabled keys; and a write that does not
see one of them revives it. -/
theorem disabled_key_stays_disabled :
    (∀ es, (∀ e ∈ es, WriterEvent.polls e = true) →
      Along (Writers.step env) (SeesDisabled env) s es →
      ∀ i, KeyDisabled s.row i → Along (Writers.step env) (fun t e => ¬Enables env i t e) s es →
        KeyDisabled (run (Writers.step env) s es).row i) ∧
    ∀ e, WriterEvent.polls e = true → (RevivesNone env s e ↔ SeesDisabled env s e) := by
  refine ⟨fun es hes hsees i hi hnot => ?_, fun e he => revivesNone_iff he⟩
  have hpolls : Along (step env) (fun _ e => WriterEvent.polls e = true) s es :=
    along_of_forall (fun e he _ => hes e he) s
  refine run_invariant (I := fun t => KeyDisabled t.row i) ?_ ((hsees.and hpolls).and hnot) hi
  -- one step: it sees the key and does not enable it
  rintro t e ⟨⟨hsees, hpoll⟩, hnot⟩ hi
  exact (revivesNone_iff hpoll).mpr hsees i hi hnot

end

/-! ## A revived key -/

/-- A service whose edits play no part here. -/
def pollingEnv : WriterEnv where
  codec := Codec.plain
  note _ _ _ := ""
  edits :=
    { accepts _ _ _ := false
      composeKey edit _ := edit.patch.key
      changed _ _ _ := false }

/-- A channel that polls its keys `a` and `b`, with the given status list. -/
def pollingRow (list : StatusList) : Writers Bool where
  row :=
    { id := 1
      key := "a\nb"
      channelInfo := { isMultiKey := true, multiKeyStatusList := list, multiKeyMode := .polling } }
  lock := none
  proc _ := .idle

/-- A request loads the channel, and before it goes on a status update disables the key `b`. -/
def keyDisabledMeanwhile : Writers Bool :=
  run (Writers.step pollingEnv) (pollingRow ∅)
    [.load false, .read true ⟨1, "b", channelStatusAutoDisabled, "quota", 0⟩, .handle true,
      .write true]

/-- A request that loads the channel after the key was disabled leaves it disabled. -/
theorem disabled_key_stays_disabled_alone :
    KeyDisabled (run (Writers.step pollingEnv)
      (pollingRow (Finmap.singleton 1 channelStatusAutoDisabled))
      [.load false, .next false 0, .save false]).row 1 := by
  have hsees : Along (step pollingEnv) (SeesDisabled pollingEnv)
      (pollingRow (singleton 1 channelStatusAutoDisabled))
      [.load false, .next false 0, .save false] :=
    ⟨trivial, trivial, seesDisabled_save_of_next rfl 0 rfl, trivial⟩
  refine (disabled_key_stays_disabled pollingEnv _).1 _ (by decide) hsees 1 (by decide) ?_
  exact ⟨not_enables (by simp) 1, not_enables (by simp) 1, not_enables (by simp) 1, trivial⟩

/-- Then the request stores the status list that it loaded: the key is enabled again, and no status
update enabled it. -/
theorem polling_revives_disabled_key :
    KeyDisabled keyDisabledMeanwhile.row 1 ∧
    ¬KeyDisabled (run (Writers.step pollingEnv) keyDisabledMeanwhile
      [.next false 0, .save false]).row 1 := by
  decide

end RenewApi.Channels
