import RenewApi.Tasks.Effects

/-! # The other writers of the task table

What `UpdateWithStatus`, `TaskBulkUpdateByID` and `FinalizeTaskBillingTransition` do to task rows
and to the copies that their callers hold.

* The first two go past the ledger: they replace or fail rows and leave every ledger alone.
* The third is a call of `UpdateTaskWithBilling`, so `LedgerOp.exec_tasks` covers what it does to
  the database. -/

namespace RenewApi.Billing

open Relational Option LedgerOp

variable {now target : Int} {task current t' : Task} {fromStatus : TaskStatus} {db : Database}
  {desired : DesiredState}

/-- A row after `UpdateWithStatus`: as it was, or the copy in place of a row that had the expected
status. -/
theorem mem_updateWithStatus (h : t' ∈ (updateWithStatus now task fromStatus db).1.tasks.rows) :
    t' ∈ db.tasks.rows ∨ ∃ t ∈ db.tasks.rows, t.id = task.id ∧ t.status = fromStatus ∧
      t' = { task with id := t.id, updatedAt := now } := by
  obtain ⟨t, ht, rfl⟩ := List.mem_map.mp h
  by_cases hp : t.id = task.id ∧ t.status = fromStatus
  · rw [if_pos (by simpa using hp)]
    exact .inr ⟨t, ht, hp.1, hp.2, rfl⟩
  · rw [if_neg (by simpa using hp)]
    exact .inl ht

/-- A row after `TaskBulkUpdateByID`: as it was, or failed. -/
theorem mem_taskBulkUpdateByID {ids : List Int} {reason : Option String}
    (h : t' ∈ (taskBulkUpdateByID now ids reason db).tasks.rows) :
    ∃ t ∈ db.tasks.rows, t'.id = t.id ∧ t'.billing = t.billing ∧
      (t' = t ∨ t.id ∈ ids ∧ t'.status = .failure) := by
  obtain ⟨t, ht, rfl⟩ := List.mem_map.mp h
  refine ⟨t, ht, ?_⟩
  by_cases hp : t.id ∈ ids
  · rw [if_pos (by simpa using hp)]
    exact ⟨rfl, rfl, .inr ⟨hp, rfl⟩⟩
  · rw [if_neg (by simpa using hp)]
    exact ⟨rfl, rfl, .inl rfl⟩

/-! ## Finishing a task -/

theorem finalizeGoal_eq_some {quota : Int} (h : finalizeGoal task quota = some (desired, target)) :
    task.status = .failure ∧ desired = .refund ∨ task.status = .success ∧ desired = .settle := by
  unfold finalizeGoal at h
  by_cases hfail : task.status = .failure
  · rw [if_pos hfail] at h
    simp only [some.injEq, Prod.mk.injEq] at h
    exact .inl ⟨hfail, h.1.symm⟩
  rw [if_neg hfail] at h
  by_cases hsuccess : task.status ≠ .success
  · rw [if_pos hsuccess] at h
    cases h
  rw [if_neg hsuccess] at h
  split at h
  · cases h
  · simp only [some.injEq, Prod.mk.injEq] at h
    exact .inr ⟨not_not.mp hsuccess, h.1.symm⟩

/-- **`FinalizeTaskBillingTransition` is a call of `UpdateTaskWithBilling`** for the goal of the
copy's status, or nothing. -/
theorem finalizeTaskBillingTransition_db (cal : Calendar) (now : Int) (task : Task)
    (fromStatus : TaskStatus) (quota : Int) (reason : String) (db : Database) :
    (finalizeTaskBillingTransition now task fromStatus quota reason db).1 = db ∨
      ∃ desired target, finalizeGoal task quota = some (desired, target) ∧
        (finalizeTaskBillingTransition now task fromStatus quota reason db).1
          = (updateTask task fromStatus desired target reason).exec cal now db := by
  unfold finalizeTaskBillingTransition
  cases hgoal : finalizeGoal task quota with
  | none => exact .inl rfl
  | some goal =>
    obtain ⟨desired, target⟩ := goal
    refine .inr ⟨desired, target, rfl, ?_⟩
    dsimp only [exec]
    split
    · next heq => rw [heq]
    · next heq => rw [heq]

/-- A copy with the id and the channel of `task` and, if that is bound as its row is, with its
ledger. -/
structure Task.CopiedTo (db : Database) (task copy : Task) : Prop where
  id : copy.id = task.id
  channel : copy.channelId = task.channelId
  bound : ∀ current, db.tasks.find? task.id = some current →
    task.billingLedgerID = current.billingLedgerID → copy.billingLedgerID = task.billingLedgerID

theorem Task.CopiedTo.refl (db : Database) (task : Task) : task.CopiedTo db task :=
  ⟨rfl, rfl, fun _ _ _ => rfl⟩

/-- The binding that `UpdateTaskWithBilling` starts with. -/
theorem Task.copiedTo_bind (hcurrent : db.tasks.find? task.id = some current) :
    task.CopiedTo db (task.boundTo current) := by
  refine ⟨rfl, rfl, fun current' hcurrent' hbind => ?_⟩
  obtain rfl : current = current' := some.inj (hcurrent.symm.trans hcurrent')
  dsimp only
  rw [← hbind, ite_self]

/-- The copy that a caller is left with after a transition that went through. -/
theorem TaskTransition.copiedTo_finalCopy {reason : String} {db' : Database}
    {r : TaskTransition Task}
    (h : updateTaskWithBilling now task fromStatus desired target reason db = .ok (db', r)) :
    task.CopiedTo db (r.finalCopy desired) := by
  obtain ⟨current, bound, hcurrent, hbound, hcase⟩ := updateTaskWithBilling_eq_ok h
  obtain ⟨hid, hchannel, hledger⟩ := hbound ▸ Task.copiedTo_bind hcurrent
  rcases hcase with ⟨-, -, rfl⟩ | ⟨-, -, rfl⟩ | ⟨l, written, hlock, -, rfl, rfl, -⟩ |
    ⟨l, saved, hlock, -, rfl, hmutate⟩
  · exact .refl db task
  · exact ⟨hid, hchannel, hledger⟩
  · exact ⟨hid, hchannel, fun c hc hbind => (find?_of_lock hlock).1.trans (hledger c hc hbind)⟩
  · obtain ⟨hl, hfind⟩ := find?_of_lock hlock
    refine ⟨hid, hchannel, fun c hc hbind => Eq.trans ?_ (hl.trans (hledger c hc hbind))⟩
    rcases mutateLockedBillingLedgerTx_rewrite (frame_updateTaskHook ..) hfind hmutate with
      ⟨hc, -⟩ | ⟨-, hrewrite⟩
    · cases hc
    · exact id_of_terms hrewrite.terms

theorem Task.copiedTo_afterFailedTransition :
    task.CopiedTo db (task.afterFailedTransition now desired target db) := by
  unfold Task.afterFailedTransition
  cases hcurrent : db.tasks.find? task.id with
  | none => exact .refl db task
  | some current =>
    have hbind := Task.copiedTo_bind hcurrent
    dsimp only
    split
    · exact hbind
    · next l hlock =>
      split
      · exact hbind
      · exact ⟨hbind.id, hbind.channel, fun c hc h => (find?_of_lock hlock).1.trans (hbind.bound c hc h)⟩

/-- **The copy that `FinalizeTaskBillingTransition` leaves in memory.** -/
theorem copiedTo_finalizeTaskBillingTransition (now : Int) (task : Task) (fromStatus : TaskStatus)
    (quota : Int) (reason : String) (db : Database) :
    task.CopiedTo db (finalizeTaskBillingTransition now task fromStatus quota reason db).2.1 := by
  unfold finalizeTaskBillingTransition
  cases finalizeGoal task quota with
  | none => exact .refl db task
  | some goal =>
    obtain ⟨desired, target⟩ := goal
    dsimp only
    cases hupdate : updateTaskWithBilling now task fromStatus desired target reason db with
    | error e =>
      rw [transaction_error hupdate]
      exact Task.copiedTo_afterFailedTransition
    | ok r =>
      rw [transaction_ok hupdate]
      exact TaskTransition.copiedTo_finalCopy hupdate

/-- **A call of `UpdateTaskWithBilling` that does anything has written its row**: the row has the
status of the caller's task then. -/
theorem exec_updateTask_status (cal : Calendar) (now : Int) (db : Database) (task : Task)
    (fromStatus : TaskStatus) (desired : DesiredState) (target : Int) (reason : String) :
    (updateTask task fromStatus desired target reason).exec cal now db = db ∨
      ∀ t' ∈ ((updateTask task fromStatus desired target reason).exec cal now db).tasks.rows,
        t'.id = task.id → t'.status = task.status := by
  refine transaction_cases (P := fun d : Database => d = db ∨ ∀ t' ∈ d.tasks.rows,
    t'.id = task.id → t'.status = task.status) (.inl rfl) fun db' r hok => ?_
  obtain ⟨current, bound, -, hbound, hcase⟩ := updateTaskWithBilling_eq_ok hok
  -- whatever is written under the id of the task has its status
  have hrow : ∀ (d d' : Database) (written : Task), written.id = task.id →
      written.status = task.status → updateTaskRow now d written fromStatus = .ok d' →
      ∀ t' ∈ d'.tasks.rows, t'.id = task.id → t'.status = task.status := by
    intro d d' written hid hstatus hwrite t' ht' hid'
    obtain ⟨-, -, -, rfl⟩ := updateTaskRow_eq_ok.mp hwrite
    rcases Table.mem_put ht' with rfl | ⟨-, hne⟩
    · exact hstatus
    · exact absurd (hid'.trans hid.symm) hne
  have hid : bound.id = task.id := by rw [hbound]
  have hstatus : bound.status = task.status := by rw [hbound]
  rcases hcase with ⟨-, hdb, -⟩ | ⟨-, hwrite, -⟩ | ⟨l, written, -, -, -, hwritten, hwrite⟩ |
    ⟨l, saved, -, -, -, hmutate⟩
  · exact .inl hdb
  · exact .inr (hrow db db' bound hid hstatus hwrite)
  · exact .inr (hrow db db' written (by rw [hwritten]; exact hid) (by rw [hwritten]; exact hstatus)
      hwrite)
  · obtain ⟨db₁, l₁, db₂, l₂, -, -, hhook, htasks⟩ :=
      mutateLockedBillingLedgerTx_tasks (frame_updateTaskHook ..) hmutate
    obtain ⟨db₃, hwrite, hdb₂⟩ := bind_eq_ok.mp hhook
    obtain ⟨rfl, -⟩ := ok_inj hdb₂
    refine .inr fun t' ht' hid' => ?_
    rw [htasks] at ht'
    obtain ⟨t, ht, hsame, -, hkeep, -⟩ := mem_updateBoundTasks ht'
    rw [hkeep]
    exact hrow db₁ db₂ (bound.inTransition (l₁.withRefundReason desired reason) desired target) hid
      hstatus hwrite t ht (hsame.symm.trans hid')

/-! ## What a poller writes -/

/-- The events of pollers, realtime fetches and sweeps. -/
def TaskEvent.polling : TaskEvent → Bool
  | .ledger _ => false
  | .read _ | .poll _ _ | .bulkFail _ _ | .mark _ => true

abbrev PollerEvent := { e : TaskEvent // e.polling = true }

/-- **What an event of a poller does to the database.** -/
inductive PollerWrite (cal : Calendar) (a : PollingAdaptor) (now : Int) (s : TaskSystem)
    (db' : Database) : TaskEvent → Prop
  | quiet {e : TaskEvent} (same : db' = s.db) : PollerWrite cal a now s db' e
  | update (copy : Task) (answer : PollAnswer) (held : copy ∈ s.copies)
      (decision : (answer.apply a now s.db copy).2 = .update copy.status)
      (db : db' = (updateWithStatus now (answer.apply a now s.db copy).1 copy.status s.db).1) :
      PollerWrite cal a now s db' (.poll copy answer)
  | finish (copy : Task) (answer : PollAnswer) (held : copy ∈ s.copies) (quota target : Int)
      (reason : String) (desired : DesiredState)
      (decision : (answer.apply a now s.db copy).2 = .finalize copy.status quota reason)
      (goal : finalizeGoal (answer.apply a now s.db copy).1 quota = some (desired, target))
      (db : db' = (LedgerOp.updateTask (answer.apply a now s.db copy).1 copy.status desired target
        reason).exec cal now s.db) : PollerWrite cal a now s db' (.poll copy answer)
  | bulk (copies : List Task) (reason : Option String)
      (db : db' = taskBulkUpdateByID now (copies.map Task.id) reason s.db) :
      PollerWrite cal a now s db' (.bulkFail copies reason)
  | mark (m : PendingMark) (db : db' = m.op.exec cal now s.db) : PollerWrite cal a now s db' (.mark m)

/-- **Every event of a poller writes as described.** -/
theorem TaskSystem.pollerWrite (cal : Calendar) (a : PollingAdaptor) (now : Int) (s : TaskSystem)
    (e : PollerEvent) : PollerWrite cal a now s (s.step cal a ⟨now, e.1⟩).db e.1 := by
  obtain ⟨event, hpolling⟩ := e
  cases event with
  | ledger op => cases hpolling
  | read id =>
    rw [step]
    dsimp only
    cases s.db.tasks.find? id <;> exact .quiet rfl
  | poll copy answer =>
    rw [step]
    dsimp only
    split_ifs with hheld
    · rcases (answer.apply_spec a now s.db copy).decision with hnone | ⟨quota, reason, hfinal⟩ |
        ⟨hupdate, -⟩
      · rw [hnone]
        exact .quiet rfl
      · rw [hfinal]
        rcases finalizeTaskBillingTransition_db cal now (answer.apply a now s.db copy).1 copy.status
          quota reason s.db with hsame | ⟨desired, target, hgoal, hexec⟩
        · exact .quiet hsame
        · exact .finish copy answer hheld quota target reason desired hfinal hgoal hexec
      · rw [hupdate]
        exact .update copy answer hheld hupdate rfl
    · exact .quiet rfl
  | bulkFail copies reason =>
    rw [step]
    dsimp only
    split_ifs with hheld
    · exact .bulk copies reason rfl
    · exact .quiet rfl
  | mark m =>
    rw [step]
    dsimp only
    split_ifs with hdue
    · exact .mark m rfl
    · exact .quiet rfl

end RenewApi.Billing
