import RenewApi.Tasks.Writes

/-! # Task rows mirror their ledger

A task row repeats the state and the version of its ledger and, once the ledger is settled, its
quota. The ledger operations that rewrite a ledger copy it to its rows in the same transaction, with
two exceptions, and the pollers write whole rows back from memory. -/

namespace RenewApi.Billing

open Relational TaskBillingColumns TaskSystem

/-- **A row agrees with the ledger it is bound to.** -/
def Database.mirrored (db : Database) (t : Task) : Prop :=
  ∃ l, db.ledgers.find? t.billingLedgerID = some l ∧ t.mirrors l

theorem mirrored_of_billing {db db' : Database} {t t' : Task} (hbilling : t'.billing = t.billing)
    (hledger : ∀ l, db.ledgers.find? t.billingLedgerID = some l →
      db'.ledgers.find? t.billingLedgerID = some l) (h : db.mirrored t) : db'.mirrored t' := by
  obtain ⟨l, hfind, hmirrors⟩ := h
  have hid : t'.billingLedgerID = t.billingLedgerID := congrArg ledgerID hbilling
  exact ⟨l, by rw [hid]; exact hledger l hfind, mirrors_of_billing hbilling hmirrors⟩

/-- **A ledger operation that leaves no row behind keeps the rows in agreement.** -/
theorem mirrored_exec {cal : Calendar} {now : Int} {db : Database} {op : LedgerOp}
    (hop : ∀ t ∈ db.tasks.rows, op.leavesBehind db t = false)
    (h : ∀ t ∈ db.tasks.rows, t.billingLedgerID ≠ 0 → db.mirrored t) :
    ∀ t ∈ (op.exec cal now db).tasks.rows, t.billingLedgerID ≠ 0 → (op.exec cal now db).mirrored t := by
  intro t' ht' h0
  cases (op.exec_tasks cal now db).billing t' ht' with
  | synced l found mirrors => exact ⟨l, found, mirrors⟩
  | untouched t row billing ledger =>
    have hid : t'.billingLedgerID = t.billingLedgerID :=
      congrArg ledgerID billing
    exact mirrored_of_billing billing ledger (h t row (hid ▸ h0))
  | unbound hzero => exact absurd hzero h0
  | behind t row left =>
    rw [hop t row] at left
    cases left

/-! ## One step -/

/-- The row that a copy would replace has the billing columns of the copy. -/
def Database.current (db : Database) (copy : Task) : Prop :=
  ∀ t ∈ db.tasks.rows, t.id = copy.id → t.status = copy.status → t.billing = copy.billing

/-- The poll ends in a write of the whole copy. -/
def PollDecision.writesBack : PollDecision → Bool
  | .update _ => true
  | .nothing | .finalize _ _ _ => false

/-- **A step keeps rows and ledgers in agreement**: a ledger operation leaves no row behind, and a
copy that is written back is current. -/
def TimedTaskEvent.keepsMirror (a : PollingAdaptor) (s : TaskSystem) (e : TimedTaskEvent) : Prop :=
  match e.event with
  | .ledger op => ∀ t ∈ s.db.tasks.rows, op.leavesBehind s.db t = false
  | .poll copy answer => (answer.apply a e.now s.db copy).2.writesBack = true → s.db.current copy
  | .read _ | .bulkFail _ _ | .mark _ => True

instance (a : PollingAdaptor) (s : TaskSystem) : (e : TimedTaskEvent) → Decidable (e.keepsMirror a s)
  | ⟨_, .ledger _⟩ => inferInstanceAs (Decidable (∀ t ∈ s.db.tasks.rows, _))
  | ⟨_, .poll _ _⟩ => inferInstanceAs (Decidable (_ → ∀ t ∈ s.db.tasks.rows, _))
  | ⟨_, .read _⟩ | ⟨_, .bulkFail _ _⟩ | ⟨_, .mark _⟩ => inferInstanceAs (Decidable True)

/-- **One step of the system keeps rows and ledgers in agreement.** -/
theorem TaskSystem.mirrored_step {cal : Calendar} {a : PollingAdaptor} {s : TaskSystem}
    {e : TimedTaskEvent} (he : e.keepsMirror a s)
    (h : ∀ t ∈ s.db.tasks.rows, t.billingLedgerID ≠ 0 → s.db.mirrored t) :
    ∀ t ∈ (s.step cal a e).db.tasks.rows, t.billingLedgerID ≠ 0 → (s.step cal a e).db.mirrored t := by
  obtain ⟨now, event⟩ := e
  by_cases hpolling : event.polling = true
  · have hwrite := s.pollerWrite cal a now ⟨event, hpolling⟩
    generalize (s.step cal a ⟨now, event⟩).db = db' at hwrite ⊢
    -- a row with the billing columns of an old one
    have hkeep : ∀ t ∈ s.db.tasks.rows, ∀ t' : Task, t'.billing = t.billing →
        t'.billingLedgerID ≠ 0 → db'.ledgers = s.db.ledgers → db'.mirrored t' := by
      intro t ht t' hbilling h0 hledgers
      have hledger : t'.billingLedgerID = t.billingLedgerID := congrArg ledgerID hbilling
      exact mirrored_of_billing hbilling (fun l hl => hledgers ▸ hl) (h t ht (hledger ▸ h0))
    cases hwrite with
    | quiet same => rw [same]; exact h
    | update copy answer _ decision db =>
      subst db
      intro t' ht' h0
      rcases mem_updateWithStatus ht' with hold | ⟨t, ht, hid, hfrom, rfl⟩
      · exact hkeep t' hold t' rfl h0 rfl
      · have hspec := answer.apply_spec a now s.db copy
        have hcurrent : s.db.current copy := he (by rw [decision]; rfl)
        exact hkeep t ht _ (hspec.billing.trans (hcurrent t ht (hid.trans hspec.id) hfrom).symm) h0 rfl
    | finish _ _ _ _ _ _ _ _ _ db =>
      -- a task that is finished is written with its ledger, so no row is left behind
      rw [db]
      exact mirrored_exec (fun _ _ => rfl) h
    | bulk _ _ db =>
      subst db
      intro t' ht' h0
      obtain ⟨t, ht, -, hbilling, -⟩ := mem_taskBulkUpdateByID ht'
      exact hkeep t ht t' hbilling h0 rfl
    | mark m db =>
      rw [db]
      exact mirrored_exec (fun _ _ => rfl) h
  · cases event with
    | ledger op => exact mirrored_exec he h
    | _ => exact absurd rfl hpolling

/-! ## Runs -/

/-- **Task rows mirror their ledger** in runs that keep them in agreement. Over every interleaving
of ledger operations with pollers and realtime fetches in which no bound row is left behind, and
every copy that is written back has the billing columns of its row: every row bound to a ledger has
its state and version and, when it is settled, its applied quota. -/
theorem task_rows_mirror_ledger (cal : Calendar) (a : PollingAdaptor) (db : Database)
    (events : List TimedTaskEvent)
    (hinit : ∀ t ∈ db.tasks.rows, t.billingLedgerID ≠ 0 → db.mirrored t)
    (hkeeps : Along (TaskSystem.step cal a) (fun s e => e.keepsMirror a s) ⟨db, [], []⟩ events) :
    let s := run (TaskSystem.step cal a) ⟨db, [], []⟩ events
    ∀ t ∈ s.db.tasks.rows, t.billingLedgerID ≠ 0 →
      ∃ l, s.db.ledgers.find? t.billingLedgerID = some l ∧ t.billingState = some l.state ∧
        t.billingVersion = l.version ∧ (l.state = .settled → t.quota = l.appliedQuota) :=
  run_invariant
    (I := fun s : TaskSystem => ∀ t ∈ s.db.tasks.rows, t.billingLedgerID ≠ 0 → s.db.mirrored t)
    (fun _ _ hC hI => mirrored_step hC hI) hkeeps hinit

/-- The submitted task is read and polled twice; the second poll, with the old copy, finishes it and
so goes through the ledger. -/
theorem task_rows_mirror_ledger_sample :
    let s := sampleRun sampleDatabase
      [⟨2005, .poll submittedTask (.video "running")⟩, ⟨2006, .poll runningTask (.video "failed")⟩]
    ∃ t ∈ s.db.tasks.rows, t.status = .failure ∧
      ∃ l, s.db.ledgers.find? t.billingLedgerID = some l ∧ t.billingState = some l.state ∧
        t.billingVersion = l.version := by
  intro s
  obtain ⟨t, ht, hstatus, h0⟩ : ∃ t ∈ s.db.tasks.rows, t.status = .failure ∧ t.billingLedgerID ≠ 0 := by
    decide +kernel
  obtain ⟨l, hfind, hstate, hversion, -⟩ := task_rows_mirror_ledger sampleCalendar sampleAdaptor
    sampleDatabase _ (fun t ht => absurd ht List.not_mem_nil) (by decide +kernel) t ht h0
  exact ⟨t, ht, hstatus, l, hfind, hstate, hversion⟩

/-- **Rows that fall behind.** A reservation with a prepared task is raised: the ledger moves to
version three, the row stays at two. And a poller reads the prepared row, the task is acknowledged
and settled, and the poller writes its old copy back over it. -/
theorem stale_copy_written_back :
    let prepared : Task := { sampleTask with
      id := 1, createdAt := 2001, updatedAt := 2001, quota := 30, billingLedgerID := 1
      billingState := some .reserved, billingVersion := 2 }
    let step := TaskSystem.step sampleCalendar sampleAdaptor
    let columns := fun s : TaskSystem =>
      (s.db.tasks.rows.map fun t => (t.billingState, t.billingVersion),
        s.db.ledgers.rows.map fun l => (some l.state, l.version))
    columns (run step ⟨sampleDatabase, [], []⟩
        (sampleSubmission.take 2 ++ [⟨2002, .ledger (.reserveMore 1 40)⟩]))
      = ([(some .reserved, 2)], [(some .reserved, 3)]) ∧
    columns (run step ⟨sampleDatabase, [], []⟩
        (sampleSubmission.take 2 ++ [⟨2001, .read 1⟩] ++ sampleSubmission.drop 2 ++
          [⟨2004, .poll prepared (.video "running")⟩]))
      = ([(some .reserved, 2)], [(some .settled, 4)]) := by
  decide +kernel

end RenewApi.Billing
