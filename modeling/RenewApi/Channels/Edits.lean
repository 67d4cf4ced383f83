import RenewApi.Channels.Writers

/-! # Edits and status updates of one channel

An edit checks the version of the row, but a status update neither checks it nor raises it. So an
edit that merged with an older row restores the status of that row, and a status update that read an
older row restores its configuration, the version included. -/

namespace RenewApi.Channels

open Relational Writers

section

variable {ρ : Type*} [DecidableEq ρ] (env : WriterEnv) {e : WriterEvent ρ} {s : Writers ρ}

theorem configVersion_of_carried (h : Carried (writeOf env) .configVersion s e) :
    (s.step env e).row.configVersion = s.row.configVersion + 1 := by
  obtain ⟨w, hw, hcarries⟩ := h
  rw [((writesOnly_step env).stored s e w hw).1]
  rcases writeOf_eq_some env hw with ⟨r, copy, -, -, rfl⟩ | ⟨r, call, copy, -, -, rfl⟩ |
    ⟨r, edit, origin, keyCount, -, -, rfl⟩
  -- neither a request that polls nor a status update carries the version
  · cases hcarries
  · cases hcarries
  · rfl

theorem configVersion_le_step (h : UpToDate column row (writeOf env) s e) :
    s.row.configVersion ≤ (s.step env e).row.configVersion := by
  by_cases hcarried : Carried (writeOf env) .configVersion s e
  · rw [configVersion_of_carried env hcarried]
    omega
  · have hkept := (keepsOthers_iff (writesOnly_step env)).mpr h .configVersion hcarried
    have heq : (s.step env e).row.configVersion = s.row.configVersion := ColumnValue.int.inj hkept
    omega

/-- **Edits and status updates lose nothing as long as each write is up to date**: every column
keeps its value until a commit that carries it, and the version never goes down. A write that is not
up to date changes a column that it does not carry. -/
theorem edits_lose_nothing (s : Writers ρ) :
    (∀ es, Along (Writers.step env) (UpToDate column Writers.row (Writers.writeOf env)) s es →
      (∀ col, Along (Writers.step env) (fun s e => ¬Carried (Writers.writeOf env) col s e) s es →
        column col (run (Writers.step env) s es).row = column col s.row) ∧
      s.row.configVersion ≤ (run (Writers.step env) s es).row.configVersion) ∧
    ∀ e, KeepsOthers column Writers.row (Writers.step env) (Writers.writeOf env) s e ↔
      UpToDate column Writers.row (Writers.writeOf env) s e := by
  refine ⟨fun es hes => ⟨fun col hcol => ?_, ?_⟩, fun e => keepsOthers_iff (writesOnly_step env)⟩
  · exact column_run (writesOnly_step env) hes hcol
  · have hstep : ∀ (t : Writers ρ) e, UpToDate column row (writeOf env) t e →
        s.row.configVersion ≤ t.row.configVersion →
        s.row.configVersion ≤ (t.step env e).row.configVersion :=
      fun t e hfresh hle => hle.trans (configVersion_le_step env hfresh)
    exact run_invariant hstep hes le_rfl

end

/-! ## A lost update -/

/-- A service in which every request passes its checks. -/
def plainEnv : WriterEnv where
  codec := Codec.plain
  note _ _ _ := ""
  edits :=
    { accepts _ _ _ := true
      composeKey edit _ := edit.patch.key
      changed _ _ _ := true }

/-- A request that renames the channel and carries nothing else. -/
def rename : Edit where
  present col := col = .name
  patch := { id := 1, name := "new" }
  multiKeyMode := none
  clearKey := false
  expected := none

/-- An enabled channel, and no call at work on it. -/
def enabledRow : Writers Bool := ⟨{ id := 1, key := "a", name := "old" }, none, fun _ => .idle⟩

/-- An edit reads the row, and before it goes on a status update disables the channel. -/
def disabledMeanwhile : Writers Bool :=
  run (Writers.step plainEnv) enabledRow
    [.edit false rename, .read true ⟨1, "", channelStatusAutoDisabled, "quota", 0⟩, .handle true,
      .write true]

/-- The edit is committed on its own. -/
theorem edits_lose_nothing_alone :
    column .status (run (Writers.step plainEnv) enabledRow
      [.edit false rename, .check false, .prepare false, .commit false]).row =
    column .status enabledRow.row := by
  have hfresh : Along (step plainEnv) (UpToDate column row (writeOf plainEnv))
      enabledRow [.edit false rename, .check false, .prepare false, .commit false] := by
    refine ⟨upToDate_of_none rfl, upToDate_of_none rfl, upToDate_of_none rfl, ?_, trivial⟩
    exact upToDate_of_base rfl rfl
  exact ((edits_lose_nothing plainEnv enabledRow).1 _ hfresh).1 .status (by decide)

/-- Then the edit is committed: the channel is enabled again, by a request that only renames it. -/
theorem rename_enables_disabled_channel :
    disabledMeanwhile.row.status = channelStatusAutoDisabled ∧
    Along (Writers.step plainEnv) (fun s e => ¬Carried (Writers.writeOf plainEnv) .status s e)
      disabledMeanwhile [.check false, .prepare false, .commit false] ∧
    (run (Writers.step plainEnv) disabledMeanwhile
      [.check false, .prepare false, .commit false]).row.status = channelStatusEnabled := by
  decide

end RenewApi.Channels
