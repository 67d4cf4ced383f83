import RenewApi.Tasks.Writes

/-! # Terminal tasks are billed

A task that has failed should have given its quota back, one that has succeeded should have been
charged. The status column has several writers and not all of them go through the ledger. -/

namespace RenewApi.Billing

open Relational Table BillingLedger Option TaskBillingColumns TaskSystem LedgerOp

variable {db db' : Database} {status : TaskStatus} {ledgerID : Nat} {op : LedgerOp} {cal : Calendar}
  {now id : Int} {task t' t : Task}

/-- A ledger has made the transition that a terminal status demands. -/
def BillingLedger.bills (l : BillingLedger) : TaskStatus → Bool
  | .failure => l.state = .refunded
  | .success => l.state = .settled || (l.state = .reconcileRequired && l.desiredState = .settle)
  | _ => true

/-- **A task in a given status is billed** by the ledger with a given id; tasks without a ledger and
tasks that are not finished need no billing. -/
def Database.billed (db : Database) (status : TaskStatus) (ledgerID : Nat) : Bool :=
  ledgerID = 0 || !status.terminal || (db.ledgers.find? ledgerID).any (·.bills status)

theorem billed_iff :
    db.billed status ledgerID = true ↔ (ledgerID ≠ 0 → status.terminal = true →
      ∃ l, db.ledgers.find? ledgerID = some l ∧ l.bills status = true) := by
  simp only [Database.billed, Bool.or_eq_true, any_eq_true]
  cases status.terminal <;> by_cases h0 : ledgerID = 0 <;> simp [h0]

theorem billed_of_open (h : status.terminal = false) (ledgerID : Nat) :
    db.billed status ledgerID = true :=
  billed_iff.mpr fun _ hterminal => by rw [h] at hterminal; cases hterminal

theorem terminal_iff : status.terminal = true ↔ status = .failure ∨ status = .success := by
  cases status <;> simp [TaskStatus.terminal]

/-! ## Ledger operations -/

/-- The calls that ask their ledger for something other than a settlement, from any state. -/
def LedgerOp.asksRefund : LedgerOp → Bool
  | .refund _ _ => true
  | .markForReconcile _ desired _ _ _ | .updateTask _ _ desired _ _
  | .updateMidjourney _ _ desired _ _ => desired ≠ .settle
  | _ => false

/-- The task that a call writes together with its ledger, and what it asks of the ledger. -/
def LedgerOp.finished? : LedgerOp → Option (Task × DesiredState)
  | .updateTask task _ desired _ _ => some (task, desired)
  | _ => none

/-- A call that does not ask for a refund keeps a successful task billed: from a settlement, done or
due, the life cycle leads only to a settlement. -/
theorem bills_success_of_leads {l l' : BillingLedger} (hasks : op.asksRefund = false)
    (hleads : op.leads l l') (h : l.bills .success = true) : l'.bills .success = true := by
  have hbills : l.state = .settled ∨ l.state = .reconcileRequired ∧ l.desiredState = .settle := by
    simpa [bills] using h
  have hsettled : l'.state = .settled → l'.bills .success = true := fun hs => by
    simp [bills, hs]
  have hdue : l'.state = .reconcileRequired ∧ l'.desiredState = .settle → l'.bills .success = true :=
    fun hs => by simp [bills, hs]
  -- a ledger that bills a success is not a reservation
  have hreserved : l.state ≠ .reserved := by
    rcases hbills with hs | ⟨hs, -⟩ <;> rw [hs] <;> decide
  have hdesired : ∀ d, l.state = .reconcileRequired → l.desiredState = d → d = .settle := by
    intro d hstate hd
    rcases hbills with hs | ⟨-, hs⟩
    · rw [hs] at hstate; cases hstate
    · exact hd.symm.trans hs
  cases op with
  | reserve => exact hleads.elim
  | acknowledge => exact hdue hleads
  | settle | settleWithTask | settleWithMidjourney => exact hsettled hleads
  | refund => cases hasks
  | replay _ _ desired =>
    obtain rfl := hdesired desired hleads.1 hleads.2.1
    exact hsettled hleads.2.2
  | markReconcileRetry _ _ desired =>
    obtain rfl := hdesired desired hleads.1 hleads.2.1
    exact hdue hleads.2.2
  | markForReconcile _ desired =>
    obtain rfl : desired = .settle := by simpa [asksRefund] using hasks
    exact hdue hleads
  | updateTask _ _ desired =>
    obtain rfl : desired = .settle := by simpa [asksRefund] using hasks
    exact hsettled hleads.2
  | updateMidjourney _ _ desired =>
    obtain rfl : desired = .settle := by simpa [asksRefund] using hasks
    exact hsettled hleads.2
  | _ => exact absurd hleads.1 hreserved

/-- **A status that is billed stays billed**, unless a refund is asked of the ledger of a successful
task. -/
theorem billed_exec (h : db.billed status ledgerID = true)
    (hspares : op.asksRefund = true → status = .success → op.ledger? db ≠ some ledgerID) :
    (op.exec cal now db).billed status ledgerID = true := by
  refine billed_iff.mpr fun h0 hterminal => ?_
  obtain ⟨l, hfind, hbills⟩ := billed_iff.mp h h0 hterminal
  cases op.exec_outcome cal now db with
  | quiet ledgers _ => exact ⟨l, by rw [ledgers]; exact hfind, hbills⟩
  | create input m _ _ _ hcreate =>
    refine ⟨l, ?_, hbills⟩
    have hne : ledgerID ≠ m.id := by
      rintro rfl
      rw [hcreate.fresh] at hfind
      cases hfind
    rw [hcreate.ledgers, find?_insert hcreate.fresh, key_ledger, if_neg hne]
    exact hfind
  | rewrite m m' target leads hrewrite =>
    rw [hrewrite.find?_eq]
    by_cases hid : ledgerID = m.id
    · subst hid
      obtain rfl : m = l := some.inj (hrewrite.found.symm.trans hfind)
      rw [if_pos rfl]
      refine ⟨m', rfl, ?_⟩
      rcases terminal_iff.mp hterminal with rfl | rfl
      · exact absurd (by simpa [bills] using hbills) hrewrite.live
      · refine bills_success_of_leads ?_ leads hbills
        by_contra hasks
        exact hspares (by simpa using hasks) rfl target
    · rw [if_neg hid]
      exact ⟨l, hfind, hbills⟩

/-- The task that a call is handed to persist or to merge. -/
def LedgerOp.handedTask? : LedgerOp → Option Task
  | .bind _ task | .settleWithTask _ _ task | .acknowledge _ _ task => task
  | _ => none

/-- A task that is written with its ledger has the status that the transition stands for, and is
bound as its row is. -/
def LedgerOp.agrees (db : Database) (op : LedgerOp) : Prop :=
  ∀ p ∈ op.finished?, (p.1.status = .failure → p.2 = .refund) ∧ (p.1.status = .success → p.2 = .settle) ∧
    ∀ t ∈ db.tasks.rows, t.id = p.1.id →
      p.1.billingLedgerID = 0 ∨ p.1.billingLedgerID = t.billingLedgerID
  deriving Decidable

/-- **A ledger operation respects the billing of terminal tasks**: it is handed unfinished tasks,
writes statuses that agree with the ledger, and refunds no ledger of another successful task. -/
def LedgerOp.respects (db : Database) (op : LedgerOp) : Prop :=
  (∀ task ∈ op.handedTask?, task.status.terminal = false) ∧ op.agrees db ∧
    (op.asksRefund = true → ∀ t ∈ db.tasks.rows, t.status = .success → t.billingLedgerID ≠ 0 →
      op.ledger? db = some t.billingLedgerID → op.finished?.any (·.1.id = t.id) = true)
  deriving Decidable

theorem finished_spec (hagrees : op.agrees db) (hasks : op.asksRefund = true)
    (hfinished : op.finished?.any (·.1.id = t'.id) = true)
    (ht' : t' ∈ (op.exec cal now db).tasks.rows) :
    op.exec cal now db = db ∨ t'.status ≠ .success := by
  cases op with
  | updateTask task fromStatus desired target reason =>
    have hid : task.id = t'.id := by simpa [finished?] using hfinished
    refine (exec_updateTask_status cal now db task fromStatus desired target reason).imp_right
      fun hwritten hsuccess => ?_
    have hsettle : desired = .settle :=
      (hagrees (task, desired) rfl).2.1 ((hwritten t' ht' hid.symm).symm.trans hsuccess)
    simp [asksRefund, hsettle] at hasks
  | _ => cases hfinished

/-- **A ledger operation that respects the billing of terminal tasks keeps them billed.** -/
theorem billed_rows_exec (hop : op.respects db)
    (h : ∀ t ∈ db.tasks.rows, db.billed t.status t.billingLedgerID = true) :
    ∀ t ∈ (op.exec cal now db).tasks.rows,
      (op.exec cal now db).billed t.status t.billingLedgerID = true := by
  intro t' ht'
  obtain ⟨hhanded, hagrees, hspares⟩ := hop
  -- a row that keeps its status stays billed: its own writer would have changed the status
  have hkeep : ∀ t ∈ db.tasks.rows, t'.id = t.id → t'.billingLedgerID = t.billingLedgerID →
      t'.status = t.status → (op.exec cal now db).billed t'.status t'.billingLedgerID = true := by
    intro t ht hid hbound hstatus
    by_cases hsame : op.exec cal now db = db
    · rw [hsame, hstatus, hbound]
      exact h t ht
    rw [hstatus, hbound]
    by_cases h0 : t.billingLedgerID = 0
    · exact billed_iff.mpr fun hne => absurd h0 hne
    refine billed_exec (h t ht) fun hasks hsuccess htarget => ?_
    have hfinished := hspares hasks t ht hsuccess h0 htarget
    rcases finished_spec hagrees hasks (hid ▸ hfinished) ht' with hdb | hne
    · exact hsame hdb
    · exact hne (hstatus.trans hsuccess)
  cases (op.exec_tasks cal now db).origin t' ht' with
  | kept t row id bound status => exact hkeep t row id bound status
  | failed _ _ _ _ status refunded =>
    obtain ⟨l, hfind, hstate⟩ := refunded
    rw [status]
    exact billed_iff.mpr fun _ _ => ⟨l, hfind, by simp [bills, hstate]⟩
  | created task new fresh status =>
    rw [status]
    refine billed_of_open (hhanded task ?_) _
    cases op <;> first | exact new | cases new
  | acknowledged _ _ task t call row id bound status =>
    split_ifs at status with hnone
    · rw [status]
      exact billed_of_open (hhanded task (by rw [call]; rfl)) _
    · exact hkeep t row id bound status
  | finished task _ desired _ _ _ call _ _ _ status reached =>
    subst call
    refine billed_iff.mpr fun h0 hterminal => ?_
    obtain ⟨-, l, hfind, hstate⟩ := reached h0
    refine ⟨l, hfind, ?_⟩
    rw [status] at hterminal ⊢
    obtain ⟨hfailure, hsuccess, -⟩ := hagrees (task, desired) rfl
    rcases terminal_iff.mp hterminal with hs | hs
    · obtain rfl : desired = .refund := hfailure hs
      rw [hs]
      simp [bills, hstate, DesiredState.reached]
    · obtain rfl : desired = .settle := hsuccess hs
      rw [hs]
      simp [bills, hstate, DesiredState.reached]

/-! ## Bindings -/

/-- The row with a given id is bound to a given ledger. -/
def Database.bound (db : Database) (id : Int) (ledgerID : Nat) : Prop :=
  ∃ t, db.tasks.find? id = some t ∧ t.billingLedgerID = ledgerID

theorem bound_of_find? (h : db.tasks.find? id = some t) : db.bound t.id t.billingLedgerID := by
  have hid : t.id = id := key_of_find? h
  exact ⟨t, hid ▸ h, rfl⟩

theorem bound_unique (ht : t ∈ db.tasks.rows) (h : db.bound t.id ledgerID) :
    t.billingLedgerID = ledgerID := by
  obtain ⟨t', hfind, hbound⟩ := h
  obtain rfl : t = t' := some.inj ((find?_of_mem ht).symm.trans hfind)
  exact hbound

theorem bound_of_rows (hkeeps : (db.tasks.find? id).isSome → (db'.tasks.find? id).isSome)
    (hrows : ∀ t' ∈ db'.tasks.rows, t'.id = id → (db.tasks.find? id).isSome →
      ∃ t ∈ db.tasks.rows, t.id = id ∧ t'.billingLedgerID = t.billingLedgerID)
    (h : db.bound id ledgerID) : db'.bound id ledgerID := by
  obtain ⟨t, hfind, hbound⟩ := h
  have hsome : (db.tasks.find? id).isSome := by rw [hfind]; rfl
  obtain ⟨t', hfind'⟩ := isSome_iff_exists.mp (hkeeps hsome)
  refine ⟨t', hfind', ?_⟩
  obtain ⟨s, hs, hid, hbound'⟩ := hrows t' (mem_of_find? hfind') (key_of_find? hfind') hsome
  obtain rfl : s = t := some.inj
    ((find?_of_mem hs).symm.trans (by rw [key_task, hid]; exact hfind))
  exact hbound'.trans hbound

/-- **No row is created and no row is bound anew.** -/
structure SameBindings (db db' : Database) : Prop where
  rows : ∀ t' ∈ db'.tasks.rows, ∃ t ∈ db.tasks.rows, t'.id = t.id ∧
    t'.billingLedgerID = t.billingLedgerID
  keeps : ∀ id, (db.tasks.find? id).isSome → (db'.tasks.find? id).isSome

theorem SameBindings.refl (db : Database) : SameBindings db db :=
  ⟨fun t ht => ⟨t, ht, rfl, rfl⟩, fun _ h => h⟩

theorem SameBindings.bound (h : SameBindings db db') (hbound : db.bound id ledgerID) :
    db'.bound id ledgerID := by
  refine bound_of_rows (h.keeps id) (fun t' ht' hid' _ => ?_) hbound
  obtain ⟨t, ht, hid, hledger⟩ := h.rows t' ht'
  exact ⟨t, ht, hid.symm.trans hid', hledger⟩

/-- **Rows after a ledger operation**: new ones with new ids, and old ones bound as before. -/
theorem origin_exec (hagrees : op.agrees db) (ht' : t' ∈ (op.exec cal now db).tasks.rows) :
    op.newTask? ≠ none ∧ db.tasks.find? t'.id = none ∨
      ∃ t ∈ db.tasks.rows, t'.id = t.id ∧ t'.billingLedgerID = t.billingLedgerID := by
  cases (op.exec_tasks cal now db).origin t' ht' with
  | kept t row hid hbound _ => exact .inr ⟨t, row, hid, hbound⟩
  | failed t row hid hbound _ _ => exact .inr ⟨t, row, hid, hbound⟩
  | created task new fresh _ => exact .inl ⟨by simp [new], fresh⟩
  | acknowledged _ _ task t _ row hid hbound _ => exact .inr ⟨t, row, hid, hbound⟩
  | finished task _ desired _ _ t call row hid hbound =>
    subst call
    refine .inr ⟨t, row, hid.1, hbound.trans ?_⟩
    obtain h0 | heq : task.billingLedgerID = 0 ∨ task.billingLedgerID = t.billingLedgerID :=
      (hagrees (task, desired) rfl).2.2 t row hid.2
    · exact if_pos h0
    · dsimp only
      rw [heq, ite_self]

/-- **Ledger operations keep the bindings of rows.** -/
theorem bound_exec (hagrees : op.agrees db) (h : db.bound id ledgerID) :
    (op.exec cal now db).bound id ledgerID := by
  refine bound_of_rows ((op.exec_tasks cal now db).keeps id) (fun t' ht' hid' hsome => ?_) h
  rcases origin_exec hagrees ht' with ⟨-, hfresh⟩ | ⟨t, ht, hid, hledger⟩
  · rw [← hid', hfresh] at hsome
    cases hsome
  · exact ⟨t, ht, hid.symm.trans hid', hledger⟩

theorem sameBindings_exec (hnew : op.newTask? = none) (hagrees : op.agrees db) :
    SameBindings db (op.exec cal now db) :=
  ⟨fun _ ht' => (origin_exec hagrees ht').resolve_left fun h => h.1 hnew,
    (op.exec_tasks cal now db).keeps⟩

theorem sameBindings_updateWithStatus {fromStatus : TaskStatus}
    (htask : db.bound task.id task.billingLedgerID) :
    SameBindings db (updateWithStatus now task fromStatus db).1 := by
  refine ⟨fun t' ht' => ?_, fun _ => isSome_find?_updateWhere (by intro; rfl)⟩
  rcases mem_updateWithStatus ht' with hold | ⟨t, ht, hid, -, rfl⟩
  · exact ⟨t', hold, rfl, rfl⟩
  · exact ⟨t, ht, rfl, (bound_unique ht (hid.symm ▸ htask)).symm⟩

theorem sameBindings_taskBulkUpdateByID {ids : List Int} {reason : Option String} :
    SameBindings db (taskBulkUpdateByID now ids reason db) := by
  refine ⟨fun t' ht' => ?_, fun _ => isSome_find?_updateWhere (by intro; rfl)⟩
  obtain ⟨t, ht, hid, hbilling, -⟩ := mem_taskBulkUpdateByID ht'
  exact ⟨t, ht, hid, congrArg TaskBillingColumns.ledgerID hbilling⟩

variable {s : TaskSystem}

/-- The copies in memory after a decision was carried out are bound as their rows were before. -/
theorem TaskSystem.bound_carryOut {decision : PollDecision}
    (htask : s.db.bound task.id task.billingLedgerID)
    (hcopies : ∀ c ∈ s.copies, s.db.bound c.id c.billingLedgerID) :
    ∀ c ∈ (s.carryOut now task decision).copies, s.db.bound c.id c.billingLedgerID := by
  intro c hc
  cases decision with
  | nothing | update =>
    rcases List.mem_cons.mp hc with rfl | hold
    · exact htask
    · exact hcopies c hold
  | finalize fromStatus quota reason =>
    have hc : c = (finalizeTaskBillingTransition now task fromStatus quota reason s.db).2.1 ∨
      c ∈ s.copies := List.mem_cons.mp hc
    rcases hc with heq | hold
    · obtain ⟨current, hfind, hcurrent⟩ := htask
      have hcopy := copiedTo_finalizeTaskBillingTransition now task fromStatus quota reason s.db
      rw [heq, hcopy.id, hcopy.bound current hfind hcurrent.symm]
      exact ⟨current, hfind, hcurrent⟩
    · exact hcopies c hold

/-! ## One step -/

/-- No successful task other than `copy` shares its ledger. -/
def Database.alone (db : Database) (copy : Task) : Prop :=
  ∀ t ∈ db.tasks.rows, t.status = .success → t.billingLedgerID ≠ 0 →
    t.billingLedgerID = copy.billingLedgerID → t.id = copy.id
  deriving Decidable

/-- **A poll respects the billing of terminal tasks**: a new status that it writes past the ledger
is billed already, and no other successful task shares the ledger of its copy. -/
def PollAnswer.respects (db : Database) (copy : Task) (answer : PollAnswer) : Prop :=
  (∀ status ∈ answer.unbilledStatus copy, ∀ t ∈ db.tasks.rows, t.id = copy.id →
    t.status = copy.status → status ≠ copy.status → db.billed status t.billingLedgerID = true) ∧
  db.alone copy
  deriving Decidable

def TimedTaskEvent.respects (s : TaskSystem) (e : TimedTaskEvent) : Prop :=
  match e.event with
  | .ledger op => op.respects s.db
  | .read _ => True
  | .poll copy answer => answer.respects s.db copy
  | .bulkFail copies _ => ∀ c ∈ copies, ∀ t ∈ s.db.tasks.rows, t.id = c.id →
      s.db.billed .failure t.billingLedgerID = true
  | .mark m => m.op.respects s.db

instance (s : TaskSystem) : (e : TimedTaskEvent) → Decidable (e.respects s)
  | ⟨_, .ledger op⟩ => inferInstanceAs (Decidable (op.respects s.db))
  | ⟨_, .read _⟩ => inferInstanceAs (Decidable True)
  | ⟨_, .poll copy answer⟩ => inferInstanceAs (Decidable (answer.respects s.db copy))
  | ⟨_, .bulkFail copies _⟩ => inferInstanceAs (Decidable (∀ c ∈ copies, _))
  | ⟨_, .mark m⟩ => inferInstanceAs (Decidable (m.op.respects s.db))

/-- **The invariant of the system**: rows are billed, copies are bound as their rows. -/
structure TaskSystem.Billed (s : TaskSystem) : Prop where
  rows : ∀ t ∈ s.db.tasks.rows, s.db.billed t.status t.billingLedgerID = true
  copies : ∀ c ∈ s.copies, s.db.bound c.id c.billingLedgerID

variable {quota target : Int} {desired : DesiredState} (fromStatus : TaskStatus) (reason : String)

section

variable (hgoal : finalizeGoal task quota = some (desired, target))
include hgoal

theorem agrees_finalize (hbound : db.bound task.id task.billingLedgerID) :
    (updateTask task fromStatus desired target reason).agrees db := by
  intro p hp
  obtain rfl : (task, desired) = p := some.inj hp
  refine ⟨fun hs => ?_, fun hs => ?_, fun t ht hid => .inr (bound_unique ht (hid ▸ hbound)).symm⟩
  · rcases finalizeGoal_eq_some hgoal with ⟨-, hd⟩ | ⟨hs', -⟩
    · exact hd
    · cases hs.symm.trans hs'
  · rcases finalizeGoal_eq_some hgoal with ⟨hs', -⟩ | ⟨-, hd⟩
    · cases hs.symm.trans hs'
    · exact hd

theorem respects_finalize (hbound : db.bound task.id task.billingLedgerID)
    (halone : db.alone task) : (updateTask task fromStatus desired target reason).respects db := by
  refine ⟨fun _ hnone => (nomatch hnone), agrees_finalize fromStatus reason hgoal hbound,
    fun _ t ht hsuccess h0 htarget => ?_⟩
  · -- the ledger that the call addresses is the one the copy is bound to
    obtain ⟨current, hfind, hcurrent⟩ := hbound
    have hledger : (updateTask task fromStatus desired target reason).ledger? db
        = some task.billingLedgerID := by
      rw [ledger?, hfind, map_some, hcurrent, ite_self]
    rw [hledger] at htarget
    simpa [finished?] using
      (halone t ht hsuccess h0 (some.inj htarget).symm).symm

end

section

variable {a : PollingAdaptor} {db' : Database} {e : TaskEvent}

section

variable (hcopies : ∀ c ∈ s.copies, s.db.bound c.id c.billingLedgerID)
include hcopies

theorem bound_of_held (a : PollingAdaptor) (now : Int) {copy : Task} (held : copy ∈ s.copies)
    (answer : PollAnswer) :
    s.db.bound (answer.apply a now s.db copy).1.id
      (answer.apply a now s.db copy).1.billingLedgerID := by
  have hspec := answer.apply_spec a now s.db copy
  rw [hspec.id, hspec.ledgerID]
  exact hcopies copy held

/-- **The copies in memory after an event of a poller**: held before, or bound as their rows are. -/
theorem TaskSystem.mem_copies_poller (e : PollerEvent) :
    ∀ c ∈ (s.step cal a ⟨now, e.1⟩).copies, s.db.bound c.id c.billingLedgerID := by
  obtain ⟨event, hpolling⟩ := e
  intro c hc
  cases event with
  | ledger op => cases hpolling
  | read id =>
    rw [step] at hc
    dsimp only at hc
    cases hfind : s.db.tasks.find? id with
    | none => rw [hfind] at hc; exact hcopies c hc
    | some task =>
      rw [hfind] at hc
      rcases List.mem_cons.mp hc with rfl | hold
      · exact bound_of_find? hfind
      · exact hcopies c hold
  | poll copy answer =>
    rw [step] at hc
    dsimp only at hc
    split_ifs at hc with hheld
    · exact bound_carryOut (bound_of_held hcopies a now hheld answer) hcopies c hc
    · exact hcopies c hc
  | bulkFail copies =>
    rw [step] at hc
    dsimp only at hc
    split_ifs at hc <;> exact hcopies c hc
  | mark m =>
    rw [step] at hc
    dsimp only at hc
    split_ifs at hc <;> exact hcopies c hc

/-- **Pollers create no rows and bind none anew.** -/
theorem PollerWrite.bindings (h : PollerWrite cal a now s db' e) : SameBindings s.db db' := by
  cases h with
  | quiet same => rw [same]; exact .refl s.db
  | update _ answer held _ db =>
    rw [db]
    exact sameBindings_updateWithStatus (bound_of_held hcopies a now held answer)
  | finish copy answer held _ _ reason _ _ goal db =>
    rw [db]
    exact sameBindings_exec rfl (agrees_finalize copy.status reason goal
      (bound_of_held hcopies a now held answer))
  | bulk _ _ db =>
    rw [db]
    exact sameBindings_taskBulkUpdateByID
  | mark m db =>
    rw [db]
    exact sameBindings_exec rfl fun p hp => (nomatch hp)

end

/-- **What a poller writes is billed**, when the event respects the billing of terminal tasks. -/
theorem PollerWrite.billed_rows (hwrite : PollerWrite cal a now s db' e)
    (he : TimedTaskEvent.respects s ⟨now, e⟩) (h : s.Billed) :
    ∀ t ∈ db'.tasks.rows, db'.billed t.status t.billingLedgerID = true := by
  cases hwrite with
  | quiet same => rw [same]; exact h.rows
  | update copy answer held decision db =>
    subst db
    intro t' ht'
    show s.db.billed _ _ = true
    rcases mem_updateWithStatus ht' with hold | ⟨t, ht, hid, hfrom, rfl⟩
    · exact h.rows t' hold
    have hspec := answer.apply_spec a now s.db copy
    have hsame : t.billingLedgerID = (answer.apply a now s.db copy).1.billingLedgerID :=
      bound_unique ht (hid.symm ▸ bound_of_held h.copies a now held answer)
    dsimp only
    rw [← hsame]
    by_cases hkept : (answer.apply a now s.db copy).1.status = copy.status
    · rw [hkept, ← hfrom]
      exact h.rows t ht
    cases hterminal : (answer.apply a now s.db copy).1.status.terminal with
    | false => exact billed_of_open hterminal _
    | true =>
      exact he.1 _ ((hspec.of_update decision hterminal).resolve_left hkept) t ht (hid.trans hspec.id)
        hfrom hkept
  | finish copy answer held _ _ reason _ _ goal db =>
    have hspec := answer.apply_spec a now s.db copy
    have halone : s.db.alone (answer.apply a now s.db copy).1 := by
      rw [Database.alone, hspec.ledgerID, hspec.id]
      exact he.2
    rw [db]
    exact billed_rows_exec (respects_finalize copy.status reason goal
      (bound_of_held h.copies a now held answer) halone) h.rows
  | bulk copies _ db =>
    subst db
    intro t' ht'
    obtain ⟨t, ht, -, hbilling, rfl | ⟨hlisted, hfailed⟩⟩ := mem_taskBulkUpdateByID ht'
    · exact h.rows t' ht
    · obtain ⟨c, hc, hid⟩ := List.mem_map.mp hlisted
      have hledger : t'.billingLedgerID = t.billingLedgerID :=
        congrArg ledgerID hbilling
      rw [hfailed, hledger]
      exact he c hc t ht hid.symm
  | mark m db =>
    rw [db]
    exact billed_rows_exec he h.rows

end

theorem TaskSystem.billed_step {a : PollingAdaptor} {e : TimedTaskEvent} (he : e.respects s)
    (h : s.Billed) : (s.step cal a e).Billed := by
  obtain ⟨now, event⟩ := e
  by_cases hpolling : event.polling = true
  · have hwrite := s.pollerWrite cal a now ⟨event, hpolling⟩
    exact ⟨hwrite.billed_rows he h, fun c hc =>
      (hwrite.bindings h.copies).bound (mem_copies_poller h.copies ⟨event, hpolling⟩ c hc)⟩
  · cases event with
    | ledger op =>
      have hop : op.respects s.db := he
      exact ⟨billed_rows_exec hop h.rows, fun c hc => bound_exec hop.2.1 (h.copies c hc)⟩
    | _ => exact absurd rfl hpolling

/-! ## Runs -/

/-- **Terminal tasks are billed** in runs that respect their billing. Over every interleaving of
ledger operations, reads, polls, realtime fetches, bulk failures and marks in which a status goes
past the ledger only when the ledger bills it already, and no refund is asked of the ledger of
another successful task: every failed task has a refunded ledger or one that waits for its refund,
every successful one a settled ledger or one that waits for its settlement. -/
theorem terminal_tasks_billed (cal : Calendar) (a : PollingAdaptor) (db : Database)
    (events : List TimedTaskEvent)
    (hinit : ∀ t ∈ db.tasks.rows, db.billed t.status t.billingLedgerID = true)
    (hrespects : Along (TaskSystem.step cal a) (fun s e => e.respects s) ⟨db, [], []⟩ events) :
    let s := run (TaskSystem.step cal a) ⟨db, [], []⟩ events
    ∀ t ∈ s.db.tasks.rows, t.billingLedgerID ≠ 0 →
      (t.status = .failure → ∃ l, s.db.ledgers.find? t.billingLedgerID = some l ∧
        (l.state = .refunded ∨ l.state = .reconcileRequired ∧ l.desiredState = .refund)) ∧
      (t.status = .success → ∃ l, s.db.ledgers.find? t.billingLedgerID = some l ∧
        (l.state = .settled ∨ l.state = .reconcileRequired ∧ l.desiredState = .settle)) := by
  intro s t ht h0
  have hstart : Billed ⟨db, [], []⟩ := ⟨hinit, fun c hc => absurd hc List.not_mem_nil⟩
  have hreached : s.Billed :=
    run_invariant (fun _ _ hC hI => billed_step hC hI) hrespects hstart
  have hbilled := billed_iff.mp (hreached.rows t ht) h0
  refine ⟨fun hs => ?_, fun hs => ?_⟩
  · rw [hs] at hbilled
    obtain ⟨l, hfind, hbills⟩ := hbilled rfl
    exact ⟨l, hfind, .inl (by simpa [bills] using hbills)⟩
  · rw [hs] at hbilled
    obtain ⟨l, hfind, hbills⟩ := hbilled rfl
    exact ⟨l, hfind, by simpa [bills] using hbills⟩

/-- Two pollers read the submitted task. The first sees it running, then done; the second, with its
old copy, sees it fail and loses. -/
theorem terminal_tasks_billed_sample :
    let s := sampleRun sampleDatabase
      [⟨2005, .poll submittedTask (.video "running")⟩, ⟨2006, .poll runningTask (.video "done")⟩,
       ⟨2007, .poll submittedTask (.video "failed")⟩]
    ∃ t ∈ s.db.tasks.rows, t.status = .success ∧
      ∃ l, s.db.ledgers.find? t.billingLedgerID = some l ∧
        (l.state = .settled ∨ l.state = .reconcileRequired ∧ l.desiredState = .settle) := by
  intro s
  obtain ⟨t, ht, hstatus, h0⟩ : ∃ t ∈ s.db.tasks.rows, t.status = .success ∧ t.billingLedgerID ≠ 0 := by
    decide +kernel
  have h := terminal_tasks_billed sampleCalendar sampleAdaptor sampleDatabase _ (by decide)
    (by decide +kernel) t ht h0
  exact ⟨t, ht, hstatus, h.2 hstatus⟩

/-- **Tasks fail past their ledger.** The channel of a submitted task cannot be loaded, so the
poller fails the task in bulk; or a realtime fetch of a Gemini channel is answered that the task has
failed. Either way its ledger stays settled. -/
theorem failed_task_keeps_charge :
    let channel : Channel :=
      { id := 1, type := 24, key := "k1", baseURL := none, usedQuota := 0 }
    let gemini : Database := { sampleDatabase with channels := ⟨[channel], by decide⟩ }
    let bulk := sampleRun sampleDatabase
      [⟨2005, .bulkFail [submittedTask] (some "Failed to get channel info, channel ID: 1")⟩]
    let realtime := sampleRun gemini
      [⟨2005, .poll submittedTask (.realtime (failTaskInfo "rejected"))⟩]
    (bulk.db.tasks.rows.map fun t => (t.status, t.billingLedgerID)) = [(.failure, 1)] ∧
    (bulk.db.ledgers.rows.map fun l => (l.id, l.state)) = [(1, .settled)] ∧
    (realtime.db.tasks.rows.map fun t => (t.status, t.billingLedgerID)) = [(.failure, 1)] ∧
    (realtime.db.ledgers.rows.map fun l => (l.id, l.state)) = [(1, .settled)] := by
  decide +kernel

end RenewApi.Billing
