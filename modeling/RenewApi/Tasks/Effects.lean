import RenewApi.Tasks.Polling

/-! # What happens to task rows

What a ledger operation does to the tasks, row by row (`LedgerOp.exec_tasks`).

* Rows are never deleted and keep their ids (`LedgerTaskEffect.keeps`). -/

namespace RenewApi.Billing

open Relational Table TaskBillingColumns

variable {t' t : Task} {l l' : BillingLedger} {op : LedgerOp} {id : Nat} {version target : Int}
  {quota : Option Int} {db₂ : Database} {desired : DesiredState} {hook : BeforeSave}
  {db db' : Database} {now : Int}

/-- **A row mirrors a ledger**: its state and version and, once it is settled, its quota. -/
def Task.mirrors (t : Task) (l : BillingLedger) : Prop :=
  t.billingState = some l.state ∧ t.billingVersion = l.version ∧
    (l.state = .settled → t.quota = l.appliedQuota)
  deriving Decidable

theorem mirrors_of_billing (h : t'.billing = t.billing) (hm : t.mirrors l) : t'.mirrors l := by
  have hstate : t'.billingState = t.billingState := congrArg state h
  have hversion : t'.billingVersion = t.billingVersion := congrArg version h
  have hquota : t'.quota = t.quota := congrArg quota h
  rw [Task.mirrors, hstate, hversion, hquota]
  exact hm

def Database.ledgerIn (db : Database) (id : Nat) (state : LedgerState) : Prop :=
  ∃ l, db.ledgers.find? id = some l ∧ l.state = state

/-- The task that a call persists when it creates a row. -/
def LedgerOp.newTask? : LedgerOp → Option Task
  | .bind _ task | .settleWithTask _ _ task => task
  | _ => none

/-- **The calls that leave a row behind its ledger**: a reservation is raised, or the ledger of
another row than the acknowledged one is opened. -/
def LedgerOp.leavesBehind (db : Database) (t : Task) : LedgerOp → Bool
  | .reserveMore id target =>
    t.billingLedgerID = id &&
      (db.ledgers.find? id).any (fun l => l.state = .reserved && l.appliedQuota < target)
  | .acknowledge id target (some task) =>
    t.billingLedgerID = id && t.id ≠ task.id &&
      (db.ledgers.find? id).any (fun l => !(l.state = .settled && l.appliedQuota = target))
  | _ => false

/-- **Where a row comes from**, and who decided its status. -/
inductive TaskOrigin (db db' : Database) (op : LedgerOp) (t' : Task) : Prop
  | kept (t : Task) (row : t ∈ db.tasks.rows) (id : t'.id = t.id)
      (bound : t'.billingLedgerID = t.billingLedgerID) (status : t'.status = t.status)
  | failed (t : Task) (row : t ∈ db.tasks.rows) (id : t'.id = t.id)
      (bound : t'.billingLedgerID = t.billingLedgerID) (status : t'.status = .failure)
      (refunded : db'.ledgerIn t'.billingLedgerID .refunded)
  | created (task : Task) (new : op.newTask? = some task) (fresh : db.tasks.find? t'.id = none)
      (status : t'.status = task.status)
  | acknowledged (ledgerID : Nat) (target : Int) (task t : Task)
      (call : op = .acknowledge ledgerID target (some task)) (row : t ∈ db.tasks.rows)
      (id : t'.id = t.id) (bound : t'.billingLedgerID = t.billingLedgerID)
      (status : t'.status = if task.status ≠ .none then task.status else t.status)
  | finished (task : Task) (fromStatus : TaskStatus) (desired : DesiredState) (target : Int)
      (reason : String) (t : Task) (call : op = .updateTask task fromStatus desired target reason)
      (row : t ∈ db.tasks.rows) (id : t'.id = t.id ∧ t.id = task.id)
      (bound : t'.billingLedgerID = (task.boundTo t).billingLedgerID)
      (status : t'.status = task.status)
      (reached : t'.billingLedgerID ≠ 0 → (desired = .settle ∨ desired = .refund) ∧
        db'.ledgerIn t'.billingLedgerID desired.reached)

/-- The origin of a row is a matter of its id, its binding and its status. -/
theorem TaskOrigin.congr (h : TaskOrigin db db' op t) (hid : t'.id = t.id)
    (hbound : t'.billingLedgerID = t.billingLedgerID) (hstatus : t'.status = t.status) :
    TaskOrigin db db' op t' := by
  cases h with
  | kept s row id bound status =>
    exact .kept s row (hid.trans id) (hbound.trans bound) (hstatus.trans status)
  | failed s row id bound status refunded =>
    exact .failed s row (hid.trans id) (hbound.trans bound) (hstatus.trans status)
      (hbound ▸ refunded)
  | created task new fresh status => exact .created task new (hid ▸ fresh) (hstatus.trans status)
  | acknowledged ledgerID target task s call row id bound status =>
    exact .acknowledged ledgerID target task s call row (hid.trans id) (hbound.trans bound)
      (hstatus.trans status)
  | finished task fromStatus desired target reason s call row id bound status reached =>
    exact .finished task fromStatus desired target reason s call row ⟨hid.trans id.1, id.2⟩
      (hbound.trans bound) (hstatus.trans status) (hbound ▸ reached)

/-- **Whether a row has the billing columns of its ledger** after a call. -/
inductive TaskBilling (db db' : Database) (op : LedgerOp) (t' : Task) : Prop
  | synced (l : BillingLedger) (found : db'.ledgers.find? t'.billingLedgerID = some l)
      (mirrors : t'.mirrors l)
  | untouched (t : Task) (row : t ∈ db.tasks.rows) (billing : t'.billing = t.billing)
      (ledger : ∀ l, db.ledgers.find? t.billingLedgerID = some l →
        db'.ledgers.find? t.billingLedgerID = some l)
  | unbound (h : t'.billingLedgerID = 0)
  | behind (t : Task) (row : t ∈ db.tasks.rows) (left : op.leavesBehind db t = true)

structure LedgerTaskEffect (db db' : Database) (op : LedgerOp) : Prop where
  origin : ∀ t' ∈ db'.tasks.rows, TaskOrigin db db' op t'
  billing : ∀ t' ∈ db'.tasks.rows, TaskBilling db db' op t'
  keeps : ∀ id, (db.tasks.find? id).isSome → (db'.tasks.find? id).isSome

theorem LedgerTaskEffect.of_tasks_eq (htasks : db'.tasks = db.tasks)
    (hledgers : ∀ t ∈ db.tasks.rows, ∀ l, db.ledgers.find? t.billingLedgerID = some l →
      db'.ledgers.find? t.billingLedgerID = some l) : LedgerTaskEffect db db' op where
  origin t ht := .kept t (htasks ▸ ht) rfl rfl rfl
  billing t ht := .untouched t (htasks ▸ ht) rfl (hledgers t (htasks ▸ ht))
  keeps id h := by rw [htasks]; exact h

theorem LedgerTaskEffect.refl (db : Database) (op : LedgerOp) : LedgerTaskEffect db db op :=
  .of_tasks_eq rfl fun _ _ _ hl => hl

/-! ## Copying a ledger to its rows -/

/-- A row as `updateBoundTasks` rewrites it: only the billing columns change. -/
theorem mem_updateBoundTasks {state : LedgerState}
    (h : t' ∈ (updateBoundTasks now db id state version quota).tasks.rows) :
    ∃ t ∈ db.tasks.rows, t'.id = t.id ∧ t'.billingLedgerID = t.billingLedgerID ∧
      t'.status = t.status ∧
      (t.billingLedgerID ≠ id ∧ t' = t ∨
        t.billingLedgerID = id ∧ t'.billingState = some state ∧ t'.billingVersion = version ∧
          t'.quota = quota.getD t.quota) := by
  obtain ⟨t, ht, rfl⟩ := List.mem_map.mp h
  refine ⟨t, ht, ?_⟩
  by_cases hid : t.billingLedgerID = id
  · rw [if_pos (by simpa using hid)]
    exact ⟨rfl, rfl, rfl, .inr ⟨hid, rfl, rfl, rfl⟩⟩
  · rw [if_neg (by simpa using hid)]
    exact ⟨rfl, rfl, rfl, .inl ⟨hid, rfl⟩⟩

/-- **What the rows look like before a ledger is copied to them**: they have an origin in `db`, and
one that is not bound to the ledger `id` is a row of `db`. -/
structure Staged (db db' : Database) (op : LedgerOp) (id : Nat) (tasks : Table Task) : Prop where
  origin : ∀ t ∈ tasks.rows, TaskOrigin db db' op t
  foreign : ∀ t ∈ tasks.rows, t.billingLedgerID ≠ id → t ∈ db.tasks.rows
  keeps : ∀ k, (db.tasks.find? k).isSome → (tasks.find? k).isSome

theorem Staged.refl (db db' : Database) (op : LedgerOp) (id : Nat) : Staged db db' op id db.tasks :=
  ⟨fun t ht => .kept t ht rfl rfl rfl, fun _ ht _ => ht, fun _ h => h⟩

/-- **Copying a rewritten ledger to staged rows.** -/
theorem Staged.sync {q : Int} (hstaged : Staged db db' op l.id db₂.tasks)
    (hrewrite : LedgerRewrite db db' l l' q)
    (htasks : db'.tasks = (updateBoundTasks now db₂ l.id l'.state l'.version quota).tasks)
    (hquota : l'.state = .settled → quota = some l'.appliedQuota) : LedgerTaskEffect db db' op where
  origin t' ht' := by
    rw [htasks] at ht'
    obtain ⟨t, ht, hid, hbound, hstatus, -⟩ := mem_updateBoundTasks ht'
    exact (hstaged.origin t ht).congr hid hbound hstatus
  billing t' ht' := by
    rw [htasks] at ht'
    obtain ⟨t, ht, -, hbound, -, ⟨hne, rfl⟩ | ⟨heq, hstate, hversion, hq⟩⟩ := mem_updateBoundTasks ht'
    · refine .untouched t' (hstaged.foreign t' ht hne) rfl fun m hm => ?_
      rw [hrewrite.find?_eq, if_neg hne]
      exact hm
    · refine .synced l' ?_ ⟨hstate, hversion, fun hsettled => ?_⟩
      · rw [hrewrite.find?_eq, if_pos (hbound.trans heq)]
      · rw [hq, hquota hsettled]; rfl
  keeps k hk := by
    rw [htasks]
    exact isSome_find?_updateWhere (by intro; rfl) (hstaged.keeps k hk)

/-! ## Transitions -/

/-- The task table after a transition: what the hook leaves, with the ledger copied to it. -/
theorem mutateLockedBillingLedgerTx_tasks (hframe : hook.Frame)
    (h : mutateLockedBillingLedgerTx now db l desired target hook = .ok (db', l', true)) :
    ∃ db₁ l₁ db₂ l₂, db₁.tasks = db.tasks ∧ l₁.id = l.id ∧ hook db₁ l₁ = .ok (db₂, l₂) ∧
      db'.tasks = (updateBoundTasks now db₂ l.id l'.state l'.version
        (if desired = .settle then some target else none)).tasks := by
  obtain ⟨-, ⟨hc, -⟩ |
    ⟨-, -, db₁, l₁, db₂, l₂, db₃, l₃, hbalances, hhook, hcounters, hl', hdb'⟩⟩ :=
    mutateLockedBillingLedgerTx_cases h
  · cases hc
  obtain ⟨⟨_, _, _, hl₁⟩, hleg⟩ := applyTransitionBalances_eq_ok hbalances
  obtain ⟨-, ⟨_, _, hl₂⟩, -⟩ := hframe hhook
  obtain ⟨⟨_, _, _, hl₃⟩, hmove, -, -⟩ := applyTransitionCounters_eq_ok hcounters
  have hid : l'.id = l.id := by rw [hl', hl₃, hl₂, hl₁]; rfl
  refine ⟨db₁, l₁, db₂, l₂, hleg.move.tasks, by rw [hl₁]; rfl, hhook, ?_⟩
  -- the counters and the pre-consume record leave the tasks of the hook alone
  have htasks : (if desired = .refund ∧ l₃.fundingSource = .subscription then
      markSubscriptionPreConsumeRefundedTx now db₃ l₃.requestID else db₃).tasks = db₂.tasks := by
    obtain ⟨records, hmark⟩ := markSubscriptionPreConsumeRefundedTx_eq now db₃ l₃.requestID
    rw [hmark]
    split <;> exact hmove.tasks
  rw [hdb', ← hid]
  simp only [saveTransition, enqueueBillingOutboxTx, updateBoundTasks, saveLedger, htasks]

section

variable {cal : Calendar} {changed : Bool} {tasks : Table Task} {db₁ : Database}
  {l₁ l₂ : BillingLedger} {reason : String} {task current task' : Task} {fromStatus : TaskStatus}
  {cause : Option String} {k : Int}

theorem staged_of_tasks_eq (h : tasks = db.tasks) : Staged db db' op id tasks := by
  subst h
  exact Staged.refl db db' op id

theorem mem_failPendingTasks (h : t' ∈ (failPendingTasks now db id reason).tasks.rows) :
    t' ∈ db.tasks.rows ∨ ∃ t ∈ db.tasks.rows, t.billingLedgerID = id ∧ t'.id = t.id ∧
      t'.billingLedgerID = t.billingLedgerID ∧ t'.status = .failure := by
  obtain ⟨t, ht, rfl⟩ := List.mem_map.mp h
  by_cases hp : t.billingLedgerID = id ∧ t.status = .notStart
  · rw [if_pos (by simpa using hp)]
    exact .inr ⟨t, ht, hp.1, rfl, rfl, rfl⟩
  · rw [if_neg (by simpa using hp)]
    exact .inl ht

theorem staged_refundHook (htasks : db₁.tasks = db.tasks) (hid : l₁.id = id)
    (h : refundHook now reason db₁ l₁ = .ok (db₂, l₂)) (hreached : db'.ledgerIn id .refunded) :
    Staged db db' op id db₂.tasks := by
  obtain ⟨message, hhook⟩ := refundHook_eq now reason db₁ l₁
  rw [hhook] at h
  cases h
  rw [hid]
  refine ⟨fun t' ht' => ?_, fun t' ht' hne => ?_, fun k hk => ?_⟩
  · rcases mem_failPendingTasks ht' with hold | ⟨t, ht, hbound, hid', hbound', hstatus⟩
    · exact .kept t' (htasks ▸ hold) rfl rfl rfl
    · exact .failed t (htasks ▸ ht) hid' hbound' hstatus (hbound'.trans hbound ▸ hreached)
  · rcases mem_failPendingTasks ht' with hold | ⟨t, -, hbound, -, hbound', -⟩
    · exact htasks ▸ hold
    · exact absurd (hbound'.trans hbound) hne
  · rw [← htasks] at hk
    exact isSome_find?_updateWhere (by intro; rfl) hk

theorem isSome_find?_insert (hfresh : tasks.find? task.id = none) (hk : (tasks.find? k).isSome) :
    ((tasks.insert task).find? k).isSome := by
  rw [find?_insert hfresh]
  split
  · rfl
  · exact hk

theorem isSome_find?_put (hk : (tasks.find? k).isSome) : ((tasks.put task).find? k).isSome := by
  rw [find?_put]
  split
  · rw [Option.isSome_map]; exact hk
  · exact hk

/-- The hook of `SettleBillingLedgerWithTask`. -/
theorem staged_createTaskHook (htasks : db₁.tasks = db.tasks) (hid : l₁.id = id)
    (h : createTaskHook now target task db₁ l₁ = .ok (db₂, l₂)) :
    Staged db db' (.settleWithTask id target (some task)) id db₂.tasks := by
  obtain ⟨⟨db₃, t⟩, hcreate, h⟩ := bind_eq_ok.mp h
  cases h
  obtain ⟨hfresh, rfl, _, _, _, ht⟩ := createTask_eq_ok hcreate
  have hstatus : t.status = task.status := by rw [ht]
  have hbound : t.billingLedgerID = id := by rw [ht]; exact hid
  rw [htasks] at hfresh
  rw [htasks]
  refine ⟨fun t' ht' => ?_, fun t' ht' hne => ?_, fun k hk => isSome_find?_insert hfresh hk⟩
  · rcases mem_insert ht' with rfl | hold
    · exact .created task rfl hfresh hstatus
    · exact .kept t' hold rfl rfl rfl
  · rcases mem_insert ht' with rfl | hold
    · exact absurd hbound hne
    · exact hold

theorem staged_updateTaskHook {bound : Task} (hcurrent : db.tasks.find? task.id = some current)
    (hbound : bound = task.boundTo current)
    (hid : id = bound.billingLedgerID) (htasks : db₁.tasks = db.tasks) (hid₁ : l₁.id = id)
    (h : updateTaskHook now bound fromStatus desired target reason db₁ l₁ = .ok (db₂, l₂))
    (hdesired : desired = .settle ∨ desired = .refund)
    (hreached : db'.ledgerIn id desired.reached) :
    Staged db db' (.updateTask task fromStatus desired target reason) id db₂.tasks := by
  obtain ⟨db₃, hrow, h⟩ := bind_eq_ok.mp h
  cases h
  obtain ⟨-, -, -, rfl⟩ := updateTaskRow_eq_ok.mp hrow
  obtain ⟨message, hreason⟩ := withRefundReason_eq l₁ desired reason
  have hcurrentID : current.id = task.id := key_of_find? hcurrent
  rw [hreason]
  rw [htasks]
  refine ⟨fun t' ht' => ?_, fun t' ht' hne => ?_, fun k hk => isSome_find?_put hk⟩
  · rcases mem_put ht' with rfl | ⟨hold, -⟩
    · refine .finished task fromStatus desired target reason current rfl
        (mem_of_find? hcurrent) ⟨?_, hcurrentID⟩ ?_ ?_ fun _ => ⟨hdesired, ?_⟩
      · rw [hcurrentID, hbound]; rfl
      · show l₁.id = _
        rw [hid₁, hid, hbound]
      · rw [hbound]; rfl
      · show db'.ledgerIn l₁.id _
        rw [hid₁]
        exact hreached
    · exact .kept t' hold rfl rfl rfl
  · rcases mem_put ht' with rfl | ⟨hold, -⟩
    · exact absurd hid₁ hne
    · exact hold

/-! ## The operations one by one -/

theorem taskEffect_reserve {input : BillingReservation} {result : BillingReservationResult}
    (h : reserveBillingLedger cal now input db = .ok (db', result)) :
    LedgerTaskEffect db db' (.reserve input) := by
  rcases reserveBillingLedger_eq_ok h with ⟨-, rfl, -⟩ | ⟨-, -, hcreate⟩
  · exact .refl db' _
  refine .of_tasks_eq hcreate.tasks fun t _ l hl => ?_
  -- the new ledger has an id that no ledger had
  have hne : t.billingLedgerID ≠ result.ledger.id := by
    rintro heq
    rw [heq, hcreate.fresh] at hl
    cases hl
  rw [hcreate.ledgers, find?_insert hcreate.fresh, key_ledger, if_neg hne]
  exact hl

theorem taskEffect_reserveMore (h : reserveMoreBillingLedger now id target db = .ok (db', l')) :
    LedgerTaskEffect db db' (.reserveMore id target) := by
  obtain ⟨-, l, hlock, hstate, ⟨-, rfl⟩ | ⟨hraise, db₁, _, _, _, hleg, hl', hdb'⟩⟩ :=
    reserveMoreBillingLedger_eq_ok h
  · exact .refl db' _
  obtain ⟨hid, hfind⟩ := find?_of_lock hlock
  have hid' : l'.id = id := by rw [hl']; exact hid
  have htasks : db'.tasks = db.tasks := by rw [hdb']; exact hleg.move.tasks
  have hledgers : db'.ledgers = db.ledgers.put l' := by rw [hdb', ← hleg.move.ledgers]; rfl
  refine ⟨fun t ht => .kept t (htasks ▸ ht) rfl rfl rfl, fun t ht => ?_, fun k hk => htasks ▸ hk⟩
  rw [htasks] at ht
  by_cases hbound : t.billingLedgerID = id
  · refine .behind t ht ?_
    rw [hid] at hfind
    simp [LedgerOp.leavesBehind, hbound, hfind, hstate, hraise]
  · refine .untouched t ht rfl fun m hm => ?_
    rw [hledgers, find?_put_of_ne (by rw [key_ledger, hid']; exact hbound)]
    exact hm

theorem taskEffect_bind {task : Option Task}
    (h : bindBillingLedgerTask now id task db = .ok (db', task')) :
    LedgerTaskEffect db db' (.bind id task) := by
  obtain ⟨t, l, rfl, hlock, -, ⟨-, -, rfl, -⟩ | ⟨hnone, db₁, hcreate, rfl⟩⟩ :=
    bindBillingLedgerTask_eq_ok h
  · exact .refl db' _
  obtain ⟨hid, hfind⟩ := find?_of_lock hlock
  obtain ⟨hfresh, rfl, _, _, _, ht'⟩ := createTask_eq_ok hcreate
  -- a ledger that is bound had no task before
  have hforeign : ∀ s ∈ db.tasks.rows, s.billingLedgerID ≠ id := by
    simpa using List.find?_eq_none.mp hnone
  refine ⟨fun s hs => ?_, fun s hs => ?_, fun k hk => isSome_find?_insert hfresh hk⟩
  · rcases mem_insert hs with rfl | hold
    · exact .created t rfl hfresh (by rw [ht'])
    · exact .kept s hold rfl rfl rfl
  · rcases mem_insert hs with rfl | hold
    · refine .synced { l with kind := .task, version := l.version + 1, updatedAt := now } ?_ ?_
      · rw [ht']
        exact find?_put_self hfind
      · rw [ht']
        exact ⟨rfl, rfl, fun _ => rfl⟩
    · refine .untouched s hold rfl fun m hm => ?_
      show (db.ledgers.put _).find? _ = _
      rw [find?_put_of_ne (by rw [key_ledger, hid]; exact hforeign s hold)]
      exact hm

theorem taskEffect_acknowledge {task : Option Task}
    (h : acknowledgeBillingLedgerTask now id target task db = .ok (db', l', task')) :
    LedgerTaskEffect db db' (.acknowledge id target task) := by
  obtain ⟨t, l, current, rfl, hlock, -, hcurrent, hbound, htask', hcase⟩ :=
    acknowledgeBillingLedgerTask_eq_ok h
  obtain ⟨hid, hfind⟩ := find?_of_lock hlock
  have hcurrentID : current.id = t.id := key_of_find? hcurrent
  have hrow := mem_of_find? hcurrent
  have hid' : l'.id = id := by
    rcases hcase with ⟨-, -, rfl, -⟩ | ⟨-, rfl, -⟩ <;> exact hid
  have htasks : db'.tasks = db.tasks.put task' := by
    rcases hcase with ⟨-, -, -, rfl⟩ | ⟨-, -, rfl⟩ <;> rfl
  have hfind' : db'.ledgers.find? id = some l' := by
    rcases hcase with ⟨-, -, rfl, rfl⟩ | ⟨-, rfl, rfl⟩
    · rw [← hid]; exact hfind
    · rw [← hid]; exact find?_put_self hfind
  have hmirrors : task'.mirrors l' := by
    rw [htask']
    refine ⟨rfl, rfl, fun hsettled => ?_⟩
    rcases hcase with ⟨-, happlied, rfl, -⟩ | ⟨-, rfl, -⟩
    · exact happlied.symm
    · cases hsettled
  have hbound' : task'.billingLedgerID = id := by rw [htask']; exact hid
  refine ⟨fun s hs => ?_, fun s hs => ?_, fun k hk => by rw [htasks]; exact isSome_find?_put hk⟩
  · rw [htasks] at hs
    rcases mem_put hs with rfl | ⟨hold, -⟩
    · exact .acknowledged id target t current rfl hrow (by rw [htask']; rfl)
        (hbound'.trans hbound.symm) (by rw [htask']; rfl)
    · exact .kept s hold rfl rfl rfl
  · rw [htasks] at hs
    rcases mem_put hs with rfl | ⟨hold, hne⟩
    · exact .synced l' (hbound' ▸ hfind') hmirrors
    have hne' : s.id ≠ t.id := by
      rw [← hcurrentID]
      intro heq
      exact hne (by rw [key_task, key_task, heq, htask']; rfl)
    rcases hcase with ⟨-, -, -, rfl⟩ | ⟨hopen, rfl, rfl⟩
    · exact .untouched s hold rfl fun m hm => hm
    by_cases hs' : s.billingLedgerID = id
    · refine .behind s hold ?_
      rw [hid] at hfind
      simpa [LedgerOp.leavesBehind, hs', hne', hfind, imp_iff_not_or] using hopen
    · refine .untouched s hold rfl fun m hm => ?_
      show (db.ledgers.put _).find? _ = _
      rw [find?_put_of_ne (by rw [key_ledger, hid']; exact hs')]
      exact hm

/-- The row that `UpdateTaskWithBilling` writes when the ledger need not move. -/
theorem taskEffect_updateTaskRow {written : Task}
    (hcurrent : db.tasks.find? task.id = some current) (hid : written.id = task.id)
    (hbound : written.billingLedgerID = (task.boundTo current).billingLedgerID)
    (hstatus : written.status = task.status)
    (hrow : updateTaskRow now db written fromStatus = .ok db')
    (hreached : written.billingLedgerID ≠ 0 → (desired = .settle ∨ desired = .refund) ∧
      ∃ l, db.ledgers.find? written.billingLedgerID = some l ∧ l.state = desired.reached ∧
        written.mirrors l) :
    LedgerTaskEffect db db' (.updateTask task fromStatus desired target reason) := by
  obtain ⟨-, -, -, rfl⟩ := updateTaskRow_eq_ok.mp hrow
  have hcurrentID : current.id = task.id := key_of_find? hcurrent
  refine ⟨fun t' ht' => ?_, fun t' ht' => ?_, fun k hk => isSome_find?_put hk⟩
  · rcases mem_put ht' with rfl | ⟨hold, -⟩
    · refine .finished task fromStatus desired target reason current rfl
        (mem_of_find? hcurrent) ⟨hid.trans hcurrentID.symm, hcurrentID⟩ hbound hstatus
        fun hne => ?_
      obtain ⟨hdesired, l, hfind, hstate, -⟩ := hreached hne
      exact ⟨hdesired, l, hfind, hstate⟩
    · exact .kept t' hold rfl rfl rfl
  · rcases mem_put ht' with rfl | ⟨hold, -⟩
    · by_cases h0 : written.billingLedgerID = 0
      · exact .unbound h0
      · obtain ⟨-, l, hfind, -, hmirrors⟩ := hreached h0
        exact .synced l hfind hmirrors
    · exact .untouched t' hold rfl fun _ hm => hm

/-- What the hook of a transition leaves for its ledger to be copied to. -/
theorem LedgerOp.Transits.staged (h : op.Transits now db l desired target hook)
    (htasks : db₁.tasks = db.tasks) (hid : l₁.id = l.id) (hhook : hook db₁ l₁ = .ok (db₂, l₂))
    (hdesired : desired = .settle ∨ desired = .refund)
    (hreached : db'.ledgerIn l.id desired.reached) : Staged db db' op l.id db₂.tasks := by
  cases h with
  | settle =>
    obtain ⟨_, -, hhook⟩ := bind_eq_ok.mp hhook
    cases hhook
    exact staged_of_tasks_eq htasks
  | settleWithTask => exact staged_createTaskHook htasks hid hhook
  | settleWithMidjourney =>
    -- Midjourney tasks have a table of their own
    obtain ⟨⟨db₃, t⟩, hcreate, hhook⟩ := bind_eq_ok.mp hhook
    cases hhook
    unfold createMidjourney at hcreate
    rw [guard_eq_ok] at hcreate
    obtain ⟨rfl, -⟩ := ok_inj hcreate.2
    exact staged_of_tasks_eq htasks
  | refund | refundStaleReserved => exact staged_refundHook htasks hid hhook hreached
  | replay =>
    split_ifs at hhook with hrefund
    · subst hrefund
      exact staged_refundHook htasks hid hhook hreached
    · cases hhook
      exact staged_of_tasks_eq htasks
  | updateTask _ _ _ _ found bound_eq ledger =>
    exact staged_updateTaskHook found bound_eq ledger htasks hid hhook hdesired hreached
  | updateMidjourney =>
    obtain ⟨db₃, hrow, hhook⟩ := bind_eq_ok.mp hhook
    cases hhook
    obtain ⟨_, rfl⟩ := updateMidjourneyRow_eq_ok hrow
    exact staged_of_tasks_eq htasks

/-- A transition copies its ledger to the rows that its hook leaves. -/
theorem taskEffect_transition (kind : op.Transits now db l desired target hook)
    (hfind : db.ledgers.find? l.id = some l)
    (h : mutateLockedBillingLedgerTx now db l desired target hook = .ok (db', l', changed)) :
    LedgerTaskEffect db db' op := by
  rcases mutateLockedBillingLedgerTx_rewrite kind.frame hfind h with ⟨-, rfl⟩ | ⟨hc, hrewrite⟩
  · exact .refl db' op
  subst hc
  obtain ⟨hdesired, hstate, happlied⟩ := mutateLockedBillingLedgerTx_reached h
  obtain ⟨db₁, l₁, db₂, l₂, htasks₁, hid₁, hhook, htasks⟩ :=
    mutateLockedBillingLedgerTx_tasks kind.frame h
  have hreached : db'.ledgerIn l.id desired.reached :=
    ⟨l', by rw [hrewrite.find?_eq, if_pos rfl], hstate⟩
  refine (kind.staged htasks₁ hid₁ hhook hdesired hreached).sync hrewrite htasks ?_
  intro hsettled
  rcases hdesired with rfl | rfl
  · rw [if_pos rfl, happlied]
  · rw [hstate] at hsettled; cases hsettled

end

/-- **Every ledger operation accounts for every task row**: for its status and for its billing
columns. -/
theorem LedgerOp.exec_tasks (cal : Calendar) (now : Int) (db : Database) (op : LedgerOp) :
    LedgerTaskEffect db (op.exec cal now db) op := by
  have h := op.exec_work cal now db
  generalize op.exec cal now db = db' at h ⊢
  cases h with
  | nothing => exact .refl db op
  | reserve h => exact taskEffect_reserve h
  | reserveMore h => exact taskEffect_reserveMore h
  | bind h => exact taskEffect_bind h
  | acknowledge h => exact taskEffect_acknowledge h
  | transition kind locked h => exact taskEffect_transition kind (find?_of_lock locked).2 h
  | @mark _ l _ _ _ _ _ found live hchannel =>
    exact (Staged.refl db _ op l.id).sync (rewrite_mark found live hchannel 0) rfl
      fun hsettled => by cases hsettled
  | taskRow found bound_eq written_eq row =>
    rcases written_eq with ⟨rfl, h0⟩ | ⟨l, hlock, hmatch, rfl⟩
    · exact taskEffect_updateTaskRow found (by rw [bound_eq]) (by rw [bound_eq]) (by rw [bound_eq]) row
        fun hne => absurd h0 hne
    · obtain ⟨hid, hfind⟩ := find?_of_lock hlock
      refine taskEffect_updateTaskRow found (by rw [bound_eq]) (by rw [bound_eq] at hid; exact hid)
        (by rw [bound_eq]) row fun _ => ?_
      rcases hmatch with ⟨rfl, hstate, happlied⟩ | ⟨rfl, hstate⟩
      · exact ⟨.inl rfl, l, hfind, hstate, rfl, rfl, fun _ => happlied.symm⟩
      · refine ⟨.inr rfl, l, hfind, hstate, rfl, rfl, fun hsettled => ?_⟩
        rw [hstate] at hsettled
        cases hsettled
  | midjourneys => exact .of_tasks_eq rfl fun _ _ _ hl => hl

end RenewApi.Billing
