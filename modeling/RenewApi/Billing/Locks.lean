import RenewApi.Billing.Outcome

/-! # The rows a ledger transaction locks

The transactions of `model/billing_ledger.go` as sequences of row locks, statement by statement,
with the rows the transaction reads in `db`; a statement that fails ends its sequence. -/

namespace RenewApi.Billing

open Relational

/-- A row of one of the tables that the ledger transactions write. -/
inductive LockRow
  | ledger (id : Nat)
  | task (id : Int)
  | midjourney (id : Int)
  | user (id : Int)
  | token (id : Int)
  | subscription (id : Int)
  | channel (id : Int)
  | preConsume (requestID : String)
  deriving DecidableEq

def onSuccess {α : Type} (statement : Except DbError α) (rows : α → List LockRow) : List LockRow :=
  match statement with
  | .ok a => rows a
  | .error _ => []

@[simp] theorem onSuccess_ok {α : Type} (a : α) (rows : α → List LockRow) :
    onSuccess (.ok a) rows = rows a := rfl

/-! ## Balances and counters -/

/-- `adjustTokenQuotaTx`. -/
def tokenLocks (ledger : BillingLedger) (delta : Int) : List LockRow :=
  if delta = 0 ∨ ledger.playground ∨ ledger.tokenID ≤ 0 then [] else [.token ledger.tokenID]

section

variable (now : Int) (db : Database) (ledger : BillingLedger)

/-- `adjustLedgerBalancesTx`: the row of the funding source, then the token. -/
def balanceLocks (delta : Int) : List LockRow :=
  if delta = 0 then []
  else if ledger.fundingSource = .subscription then
    if ledger.subscriptionID ≤ 0 then []
    else .subscription ledger.subscriptionID ::
      onSuccess (adjustSubscriptionQuotaTx now db ledger.subscriptionID delta)
        fun _ => tokenLocks ledger delta
  else
    .user ledger.userID ::
      onSuccess (adjustWalletQuotaTx db ledger.userID delta) fun _ => tokenLocks ledger delta

def transitionBalanceLocks (targetQuota : Int) : List LockRow :=
  if ledger.mode.appliesBalances then
    balanceLocks now db ledger (targetQuota - ledger.appliedQuota)
  else []

end

section

variable (db : Database)

/-- `updateBillingCountersTx`: the user, then the channel. -/
def counterLocks (ledger : BillingLedger) (targetQuota : Int) : List LockRow :=
  let delta := targetQuota - ledger.countedQuota
  let countDelta := ledger.countDelta targetQuota
  (if delta ≠ 0 ∨ countDelta ≠ 0 then [.user ledger.userID] else []) ++
    onSuccess (countUserUsageTx db ledger.userID delta countDelta) fun _ =>
      if 0 < ledger.channelID ∧ delta ≠ 0 then [.channel ledger.channelID] else []

/-- The statistics leg of a transition. -/
def transitionCounterLocks (ledger : BillingLedger) (targetQuota : Int) : List LockRow :=
  if ledger.mode = .enforce then counterLocks db ledger targetQuota else []

/-- `markSubscriptionPreConsumeRefundedTx`. -/
def preConsumeLocks (requestID : String) : List LockRow :=
  if trimSpace requestID = "" then []
  else match db.preConsumeRecords.find? requestID with
    | none => []
    | some record => if record.status = .refunded then [] else [.preConsume requestID]

/-- The rows of the `UPDATE`s on everything that is bound to a ledger. -/
def boundLocks (id : Nat) : List LockRow :=
  (db.tasks.select fun t => t.billingLedgerID = id).map (fun t => .task t.id) ++
    (db.midjourneys.select fun m => m.billingLedgerID = id).map fun m => .midjourney m.id

/-- The rows of the `UPDATE` that a refund makes on the tasks that have not started. -/
def pendingTaskLocks (ledger : BillingLedger) : List LockRow :=
  (db.tasks.select fun t => t.billingLedgerID = ledger.id && t.status = .notStart).map
    fun t => .task t.id

end

/-- `mutateLockedBillingLedgerTx`, with the rows of its hook: balances, hook, counters, the
pre-consume record of a refunded subscription, the ledger and its tasks. -/
def transitionLocks (now : Int) (db : Database) (ledger : BillingLedger) (desired : DesiredState)
    (targetQuota : Int) (beforeSave : BeforeSave)
    (hookLocks : Database → BillingLedger → List LockRow) : List LockRow :=
  if desired ≠ .settle ∧ desired ≠ .refund then []
  else if ledger.state = .refunded then []
  else if desired = .settle ∧ ledger.state = .settled ∧ ledger.appliedQuota = targetQuota then []
  else
    let ledger := ledger.open desired targetQuota
    transitionBalanceLocks now db ledger targetQuota ++
      onSuccess (applyTransitionBalances now db ledger targetQuota) fun (db, ledger) =>
    hookLocks db ledger ++
      onSuccess (beforeSave db ledger) fun (db, ledger) =>
    transitionCounterLocks db ledger targetQuota ++
      onSuccess (applyTransitionCounters db ledger targetQuota) fun (db, ledger) =>
    (if desired = .refund ∧ ledger.fundingSource = .subscription then
      preConsumeLocks db ledger.requestID else []) ++
    .ledger ledger.id :: boundLocks db ledger.id

/-! ## The calls -/

/-- The transactions that move a ledger or a task bound to one. -/
inductive BillingCall
  | acknowledge (id : Nat) (targetQuota : Int) (task : Option Task)
  | settle (id : Nat) (targetQuota : Int) (selected : List Int)
  | refund (id : Nat) (reason : String)
  | markForReconcile (id : Nat) (desired : DesiredState) (quota : Int) (cause : Option String)
      (selected : List Int)
  | replay (id : Nat) (expectedVersion : Int) (desired : DesiredState) (targetQuota : Int)
      (reason : String)
  | updateTask (task : Task) (fromStatus : TaskStatus) (desired : DesiredState)
      (targetQuota : Int) (reason : String)
  deriving DecidableEq

def BillingCall.op : BillingCall → LedgerOp
  | .acknowledge id target task => .acknowledge id target task
  | .settle id target selected => .settle id target selected
  | .refund id reason => .refund id reason
  | .markForReconcile id desired quota cause selected =>
    .markForReconcile id desired quota cause selected
  | .replay id version desired target reason => .replay id version desired target reason
  | .updateTask task fromStatus desired target reason =>
    .updateTask task fromStatus desired target reason

/-- A transaction body that starts with `lockBillingLedgerTx`. -/
def ledgerLocks (db : Database) (id : Nat) (rows : BillingLedger → List LockRow) : List LockRow :=
  onSuccess (lockBillingLedgerTx db id) fun ledger => .ledger id :: rows ledger

/-- `AcknowledgeBillingLedgerTask` after its guards. -/
def acknowledgeLocks (db : Database) (id : Nat) (targetQuota : Int) (task : Task) : List LockRow :=
  ledgerLocks db id fun ledger =>
    if ledger.state = .refunded then []
    else match db.tasks.find? task.id with
      | none => []
      | some current =>
        if current.billingLedgerID ≠ id then []
        else if ledger.state = .settled ∧ ledger.appliedQuota = targetQuota then [.task task.id]
        else [.task task.id, .ledger ledger.id]

section

variable (now : Int) (db : Database) (task : Task) (fromStatus : TaskStatus)
  (desired : DesiredState) (targetQuota : Int) (reason : String)

/-- `UpdateTaskWithBilling` once it has found the task in the expected status and knows its
ledger. -/
def boundTaskLocks : List LockRow :=
  if task.billingLedgerID = 0 then []
  else ledgerLocks db task.billingLedgerID fun ledger =>
    if terminalLedgerMatches ledger desired targetQuota then [.task task.id]
    else transitionLocks now db ledger desired targetQuota
      (updateTaskHook now task fromStatus desired targetQuota reason) fun _ _ => [.task task.id]

/-- `UpdateTaskWithBilling` after its guard: the task comes first. -/
def updateTaskLocks : List LockRow :=
  match db.tasks.find? task.id with
  | none => []
  | some current =>
    .task task.id ::
      if current.status ≠ fromStatus then []
      else boundTaskLocks now db (task.boundTo current) fromStatus desired targetQuota reason

end

/-- The sequence of locks of each call. -/
def BillingCall.locks (now : Int) (db : Database) : BillingCall → List LockRow
  | .acknowledge _ _ none => []
  | .acknowledge id target (some task) =>
    if task.id ≤ 0 then [] else if target < 0 then [] else acknowledgeLocks db id target task
  | .settle id target selected =>
    if target < 0 then []
    else ledgerLocks db id fun ledger =>
      transitionLocks now db ledger .settle target (assignChannelHook selected) fun _ _ => []
  | .refund id reason =>
    ledgerLocks db id fun ledger =>
      transitionLocks now db ledger .refund 0 (refundHook now reason) pendingTaskLocks
  | .markForReconcile id desired quota _ selected =>
    if id = 0 then []
    else ledgerLocks db id fun ledger =>
      if ledger.state = .refunded ∨
          (ledger.state = .settled ∧ desired = .settle ∧ ledger.appliedQuota = quota) then []
      else onSuccess
        (if desired = .settle then assignBillingSettlementChannel ledger selected else .ok ledger)
        fun ledger => .ledger ledger.id :: boundLocks db ledger.id
  | .replay id version desired target reason =>
    if target < 0 then []
    else ledgerLocks db id fun ledger =>
      if ¬ awaitsReconcile ledger version desired target then []
      else transitionLocks now db ledger desired target
        (if desired = .refund then refundHook now reason else fun db ledger => .ok (db, ledger))
        (if desired = .refund then pendingTaskLocks else fun _ _ => [])
  | .updateTask task fromStatus desired target reason =>
    if task.id ≤ 0 then []
    else updateTaskLocks now db task fromStatus desired target reason

end RenewApi.Billing
