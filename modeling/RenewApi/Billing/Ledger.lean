import RenewApi.Billing.Balances

/-! # The billing ledger

`model/billing_ledger.go`: every operation that reserves, settles, refunds or reconciles a billing
ledger, as the body of the transaction the code runs. A body takes the database and returns the new
one with its result, or the error that rolls the transaction back. `now` is the clock reading of the
call.

The centre is `mutateLockedBillingLedgerTx`, the one transition all settlements and refunds go
through; its callers differ only in the guard before it and in the hook it runs before it saves. -/

namespace RenewApi.Billing

open Relational

/-- The longest prefix of at most `n` bytes. -/
def takeBytes : Nat → List Char → List Char
  | _, [] => []
  | n, c :: cs => if c.utf8Size ≤ n then c :: takeBytes (n - c.utf8Size) cs else []

/-- `truncateBillingError`: at most 1024 bytes of a message are stored. -/
def truncateBillingError (message : String) : String :=
  if message.utf8ByteSize ≤ 1024 then message else String.ofList (takeBytes 1024 message.toList)

/-- `2 ^ attempt` seconds, with the attempt between 1 and 8. -/
def billingRetryDelay (attempt : Int) : Int :=
  let attempt := if attempt < 1 then 1 else attempt
  let attempt := if 8 < attempt then 8 else attempt
  2 ^ attempt.toNat

/-- `billingLedgerAppliesBalances`. -/
def LedgerMode.appliesBalances : LedgerMode → Bool
  | .off | .shadow | .enforce => true
  | .other _ => false

/-- The legs that the ledger has are applied. -/
def BillingLedger.markBalanceComponentsApplied (l : BillingLedger) : BillingLedger :=
  { l with
    fundingState := .applied
    subscriptionState := if l.fundingSource = .subscription then .applied else .notApplicable
    tokenState :=
      if l.playground ∨ l.tokenUnlimited ∨ l.tokenID ≤ 0 then .notApplicable else .applied }

/-- The audit view of a ledger. -/
def BillingLedger.eventPayload (l : BillingLedger) : BillingEventPayload :=
  { ledgerID := l.id, requestID := l.requestID, kind := l.kind, mode := l.mode, state := l.state,
    fundingSource := l.fundingSource, userID := l.userID, tokenID := l.tokenID,
    channelID := l.channelID, subscriptionID := l.subscriptionID, reservedQuota := l.reservedQuota,
    actualQuota := l.actualQuota, appliedQuota := l.appliedQuota, fundingState := l.fundingState,
    tokenState := l.tokenState, subscriptionState := l.subscriptionState,
    statisticsState := l.statisticsState, version := l.version }

/-- The unique key of an outbox event. -/
def eventKey (requestID : String) (event : OutboxEvent) (version : Int) : String :=
  requestID ++ ":" ++ event.text ++ ":" ++ toString version

/-- `enqueueBillingOutboxTx`: an event that is already queued is not queued again. -/
def enqueueBillingOutboxTx (now : Int) (db : Database) (ledger : BillingLedger)
    (event : OutboxEvent) : Database :=
  { db with
    outbox := db.outbox.insert
      { eventKey := eventKey ledger.requestID event ledger.version
        ledgerID := ledger.id, requestID := ledger.requestID, eventType := event
        payload := ledger.eventPayload, attempts := 0, availableAt := now, processedAt := 0
        lastError := "", createdAt := now, updatedAt := now } }

/-- Find and lock the row. -/
def lockBillingLedgerTx (db : Database) (id : Nat) : Except DbError BillingLedger :=
  if id = 0 then .error (.message "billing ledger id is empty")
  else match db.ledgers.find? id with
    | none => .error .recordNotFound
    | some ledger => .ok ledger

/-- Write the row back. -/
def saveLedger (db : Database) (ledger : BillingLedger) : Database :=
  { db with ledgers := db.ledgers.put ledger }

section

variable (now : Int) (db : Database)

/-- The `UPDATE`s that copy the state, the version and, when one is given, the quota of a ledger to
the tasks bound to it. -/
def updateBoundTasks (id : Nat) (state : LedgerState) (version : Int)
    (quota : Option Int) : Database :=
  { db with
    tasks := db.tasks.updateWhere (·.billingLedgerID = id) (fun t => { t with
      billingState := some state, billingVersion := version, quota := quota.getD t.quota
      updatedAt := now })
    midjourneys := db.midjourneys.updateWhere (·.billingLedgerID = id) (fun m => { m with
      billingState := some state, billingVersion := version, quota := quota.getD m.quota }) }

/-- The `UPDATE` of a refund: bound tasks that have not started fail. -/
def failPendingTasks (id : Nat) (reason : String) : Database :=
  { db with
    tasks := db.tasks.updateWhere (fun t => t.billingLedgerID = id && t.status = .notStart)
      (fun t => { t with
        status := .failure, progress := "100%", failReason := truncateBillingError reason
        updatedAt := now }) }

/-- `tx.Create(task)`: a task without an id gets the next one; the times GORM fills in are filled
in. -/
def createTask (task : Task) : Except DbError (Database × Task) :=
  let task := { task with
    id := if task.id = 0 then nextId (db.tasks.rows.map Task.id) else task.id
    createdAt := if task.createdAt = 0 then now else task.createdAt
    updatedAt := if task.updatedAt = 0 then now else task.updatedAt }
  if (db.tasks.find? task.id).isSome then .error .duplicateKey
  else .ok ({ db with tasks := db.tasks.insert task }, task)

end

/-- Insert the row; the database numbers it. -/
def createMidjourney (db : Database) (task : Midjourney) : Except DbError (Database × Midjourney) :=
  let task := { task with
    id := if task.id = 0 then nextId (db.midjourneys.rows.map Midjourney.id) else task.id }
  if (db.midjourneys.find? task.id).isSome then .error .duplicateKey
  else .ok ({ db with midjourneys := db.midjourneys.insert task }, task)

/-! ## The transition -/

section

variable (now : Int) (db : Database) (ledger : BillingLedger)

/-- `adjustLedgerBalancesTx`: the funding source first, then the token. -/
def adjustLedgerBalancesTx (delta : Int) : Except DbError Database :=
  if delta = 0 then .ok db
  else do
    let db ←
      if ledger.fundingSource = .subscription then
        adjustSubscriptionQuotaTx now db ledger.subscriptionID delta
      else adjustWalletQuotaTx db ledger.userID delta
    adjustTokenQuotaTx now db ledger delta

/-- What a caller of the transition runs before the ledger is saved. -/
abbrev BeforeSave := Database → BillingLedger → Except DbError (Database × BillingLedger)

/-- The balance leg of a transition of an opened ledger to `targetQuota`. -/
def applyTransitionBalances (targetQuota : Int) : Except DbError (Database × BillingLedger) :=
  let delta := targetQuota - ledger.appliedQuota
  if ledger.mode.appliesBalances then do
    let db ← if delta ≠ 0 then adjustLedgerBalancesTx now db ledger delta else .ok db
    .ok (db, ledger.markBalanceComponentsApplied)
  else .ok (db, ledger)

end

/-- The statistics leg: only an enforced ledger owns the usage counters. -/
def applyTransitionCounters (db : Database) (ledger : BillingLedger) (targetQuota : Int) :
    Except DbError (Database × BillingLedger) :=
  if ledger.mode = .enforce then do
    let (db, ledger) ← updateBillingCountersTx db ledger targetQuota
    .ok (db, { ledger with statisticsState := .applied })
  else .ok (db, ledger)

/-- The ledger when a transition starts on it. -/
def BillingLedger.open (l : BillingLedger) (desired : DesiredState) (targetQuota : Int) :
    BillingLedger :=
  { l with
    desiredState := desired, desiredQuota := targetQuota, attempts := l.attempts + 1
    state := if desired = .settle then .settling else .compensating }

/-- The ledger at its target. -/
def BillingLedger.complete (l : BillingLedger) (now : Int) (desired : DesiredState)
    (targetQuota : Int) : BillingLedger :=
  { l with
    appliedQuota := targetQuota, actualQuota := targetQuota, nextRetryAt := 0
    state := if desired = .settle then .settled else .refunded
    lastError := if desired = .settle then "" else l.lastError
    version := l.version + 1, updatedAt := now }

section

variable (now : Int) (db : Database) (ledger : BillingLedger) (desired : DesiredState)
  (targetQuota : Int)

/-- The writes that finish a transition: the ledger, its tasks, the outbox. -/
def saveTransition : Database :=
  let db := saveLedger db ledger
  let db := updateBoundTasks now db ledger.id ledger.state ledger.version
    (if desired = .settle then some targetQuota else none)
  enqueueBillingOutboxTx now db ledger (.state ledger.state)

/-- **`mutateLockedBillingLedgerTx`**: bring a locked ledger to `targetQuota` by a settlement or a
refund. The flag says whether anything was done: a refunded ledger and one already settled at the
target are left alone. -/
def mutateLockedBillingLedgerTx (beforeSave : BeforeSave) :
    Except DbError (Database × BillingLedger × Bool) :=
  if desired ≠ .settle ∧ desired ≠ .refund then
    .error (.message "unsupported billing ledger transition")
  else if ledger.state = .refunded then
    if desired = .refund then .ok (db, ledger, false)
    else .error (.message "refunded billing ledger cannot be settled")
  else if desired = .settle ∧ ledger.state = .settled ∧ ledger.appliedQuota = targetQuota then
    .ok (db, ledger, false)
  else do
    let (db, ledger) ←
      applyTransitionBalances now db (ledger.open desired targetQuota) targetQuota
    let (db, ledger) ← beforeSave db ledger
    let (db, ledger) ← applyTransitionCounters db ledger targetQuota
    let db :=
      if desired = .refund ∧ ledger.fundingSource = .subscription then
        markSubscriptionPreConsumeRefundedTx now db ledger.requestID
      else db
    let ledger := ledger.complete now desired targetQuota
    .ok (saveTransition now db ledger desired targetQuota, ledger, true)

end

/-- The transition of a ledger given by its id. -/
def mutateBillingLedger (now : Int) (id : Nat) (desired : DesiredState) (targetQuota : Int)
    (beforeSave : BeforeSave) (db : Database) : Except DbError (Database × BillingLedger) := do
  let ledger ← lockBillingLedgerTx db id
  let (db, ledger, _) ←
    mutateLockedBillingLedgerTx now db ledger desired targetQuota beforeSave
  .ok (db, ledger)

/-! ## Hooks -/

/-- `assignBillingSettlementChannel`: bind the channel that produced the response before the first
settlement. A counted ledger may not change its channel: a refund would be taken from another one's
usage. -/
def assignBillingSettlementChannel (ledger : BillingLedger) (selected : List Int) :
    Except DbError BillingLedger :=
  match selected with
  | [] => .ok ledger
  | channel :: _ =>
    if channel ≤ 0 ∨ ledger.channelID = channel then .ok ledger
    else if ledger.requestCounted ∨ ledger.countedQuota ≠ 0 then
      .error (.message "counted billing ledger cannot change channel")
    else .ok { ledger with channelID := channel }

/-- The hook of `SettleBillingLedger`. -/
def assignChannelHook (selected : List Int) : BeforeSave := fun db ledger => do
  let ledger ← assignBillingSettlementChannel ledger selected
  .ok (db, ledger)

/-- The hook of every refund: remember the reason, fail the tasks that have not started. -/
def refundHook (now : Int) (reason : String) : BeforeSave := fun db ledger =>
  let ledger :=
    if reason ≠ "" then { ledger with lastError := truncateBillingError reason } else ledger
  .ok (failPendingTasks now db ledger.id reason, ledger)

/-- The hook of `SettleBillingLedgerWithTask`: persist the task with the settled ledger. -/
def createTaskHook (now targetQuota : Int) (task : Task) : BeforeSave := fun db ledger => do
  let (db, _) ← createTask now db { task with
    billingLedgerID := ledger.id, billingState := some .settled
    billingVersion := ledger.version + 1, quota := targetQuota }
  .ok (db, ledger)

/-- The hook of `SettleBillingLedgerWithMidjourney`. -/
def createMidjourneyHook (targetQuota : Int) (task : Midjourney) : BeforeSave := fun db ledger => do
  let (db, _) ← createMidjourney db { task with
    billingLedgerID := ledger.id, billingState := some .settled
    billingVersion := ledger.version + 1, quota := targetQuota }
  .ok (db, ledger)

/-! ## Reservation -/

/-- What a caller asks to reserve. -/
structure BillingReservation where
  requestID : String
  kind : LedgerKind
  mode : LedgerMode
  fundingSource : FundingSource
  userID : Int
  tokenID : Int
  channelID : Int
  subscriptionID : Int
  quota : Int
  tokenUnlimited : Bool
  playground : Bool
  applyBalances : Bool
  deriving DecidableEq

/-- What the caller gets. -/
structure BillingReservationResult where
  ledger : BillingLedger
  subscription : Option UserSubscription
  alreadyReserved : Bool
  deriving DecidableEq

/-- The ledger row `tx.Create` inserts for a reservation. -/
def BillingReservation.newLedger (input : BillingReservation) (id : Nat) (now : Int) :
    BillingLedger :=
  { id := id, requestID := input.requestID, kind := input.kind, mode := input.mode
    state := .reserved, desiredState := .unset, fundingSource := input.fundingSource
    userID := input.userID, tokenID := input.tokenID, channelID := input.channelID
    subscriptionID := input.subscriptionID, reservedQuota := input.quota, actualQuota := 0
    appliedQuota := input.quota, desiredQuota := input.quota, countedQuota := 0
    requestCounted := false, tokenUnlimited := input.tokenUnlimited
    playground := input.playground, fundingState := .pending, tokenState := .pending
    subscriptionState := .pending
    statisticsState := if input.mode ≠ .enforce then .notApplicable else .pending
    version := 1, attempts := 0, nextRetryAt := 0, lastError := "", createdAt := now
    updatedAt := now }

section

variable (cal : Calendar) (now : Int)

/-- The balance legs of a reservation: the funding source, whose subscription becomes the ledger's,
then the token. -/
def reserveBalances (db : Database) (input : BillingReservation) (ledger : BillingLedger) :
    Except DbError (Database × BillingLedger × Option UserSubscription) := do
  let (db, ledger, sub) ←
    if input.fundingSource = .subscription then do
      let (db, sub) ← reserveSubscriptionQuotaTx cal now db input.requestID input.userID input.quota
      .ok (db, { ledger with subscriptionID := sub.id }, some sub)
    else do
      let db ← adjustWalletQuotaTx db input.userID input.quota
      .ok (db, ledger, none)
  let db ← adjustTokenQuotaTx now db ledger input.quota
  .ok (db, ledger.markBalanceComponentsApplied, sub)

/-- A reservation whose request id is taken: the same user, token and mode get the existing ledger
back. -/
def existingReservation (db : Database) (input : BillingReservation) (existing : BillingLedger) :
    Except DbError (Database × BillingReservationResult) :=
  if existing.userID ≠ input.userID ∨ existing.tokenID ≠ input.tokenID ∨
      existing.mode ≠ input.mode then
    .error (.message "billing request id already belongs to another reservation")
  else if 0 < existing.subscriptionID then
    match db.subscriptions.find? existing.subscriptionID with
    | none => .error .recordNotFound
    | some sub => .ok (db, ⟨existing, some sub, true⟩)
  else .ok (db, ⟨existing, none, true⟩)

/-- A reservation under a fresh request id: create the row, move the balances, write back what they
decided. -/
def createReservation (db : Database) (input : BillingReservation) :
    Except DbError (Database × BillingReservationResult) := do
  let ledger := input.newLedger (nextId (db.ledgers.rows.map BillingLedger.id)) now
  let db := { db with ledgers := db.ledgers.insert ledger }
  let (db, ledger, sub) ←
    if input.applyBalances then reserveBalances cal now db input ledger
    else .ok (db, ledger, none)
  let db := saveLedger db ledger
  .ok (enqueueBillingOutboxTx now db ledger (.state .reserved), ⟨ledger, sub, false⟩)

/-- Book a reservation, once for a request id. -/
def reserveBillingLedger (input : BillingReservation)
    (db : Database) : Except DbError (Database × BillingReservationResult) :=
  let input : BillingReservation := { input with requestID := trimSpace input.requestID }
  if input.requestID = "" ∨ 64 < input.requestID.utf8ByteSize then
    .error (.message "billing request id is invalid")
  else if input.userID ≤ 0 ∨ input.quota < 0 then
    .error (.message "billing reservation is invalid")
  else
    let input : BillingReservation :=
      { input with kind := if input.kind = .other "" then .request else input.kind }
    match input.fundingSource with
    | .other raw => .error (.message ("unsupported billing source \"" ++ raw ++ "\""))
    | _ =>
      match db.ledgers.rows.find? (·.requestID = input.requestID) with
      | some existing => existingReservation db input existing
      | none => createReservation cal now db input

end

/-- Raise a reservation to the target. -/
def reserveMoreBillingLedger (now : Int) (id : Nat) (targetQuota : Int) (db : Database) :
    Except DbError (Database × BillingLedger) :=
  if targetQuota < 0 then .error (.message "billing target quota cannot be negative")
  else do
    let ledger ← lockBillingLedgerTx db id
    if ledger.state ≠ .reserved then
      .error (.message "only reserved billing ledgers can reserve more quota")
    else if targetQuota ≤ ledger.appliedQuota then .ok (db, ledger)
    else do
      let (db, ledger) ←
        if ledger.mode.appliesBalances then do
          let db ← adjustLedgerBalancesTx now db ledger (targetQuota - ledger.appliedQuota)
          .ok (db, ledger.markBalanceComponentsApplied)
        else .ok (db, ledger)
      let ledger := { ledger with
        reservedQuota := targetQuota, appliedQuota := targetQuota, desiredQuota := targetQuota
        version := ledger.version + 1, updatedAt := now }
      .ok (enqueueBillingOutboxTx now (saveLedger db ledger) ledger (.state .reserved), ledger)

/-! ## Tasks -/

/-- **`BindBillingLedgerTask`**: persist a pending task with its reservation. A ledger that has a
task keeps it. -/
def bindBillingLedgerTask (now : Int) (id : Nat) (task : Option Task) (db : Database) :
    Except DbError (Database × Task) :=
  match task with
  | none => .error (.message "task is nil")
  | some task => do
    let ledger ← lockBillingLedgerTx db id
    if ledger.state ≠ .reserved then
      .error (.message ("billing ledger in state " ++ ledger.state.text ++
        " cannot bind a pending task"))
    else match db.tasks.rows.find? (·.billingLedgerID = id) with
      | some existing => .ok (db, { task with id := existing.id })
      | none => do
        let ledger := { ledger with
          kind := .task, version := ledger.version + 1, updatedAt := now }
        let (db, task) ← createTask now (saveLedger db ledger) { task with
          billingLedgerID := ledger.id, billingState := some ledger.state
          billingVersion := ledger.version, quota := ledger.appliedQuota }
        .ok (enqueueBillingOutboxTx now db ledger .taskBound, task)

/-- The merge of `AcknowledgeBillingLedgerTask`: only what the upstream produced on acceptance is
taken over; the rest stays that of the prepared row. -/
def mergeAcknowledgement (now targetQuota : Int) (ledgerID : Nat) (current task : Task) : Task :=
  { current with
    updatedAt := now
    status := if task.status ≠ .none then task.status else current.status
    failReason := if task.failReason ≠ "" then task.failReason else current.failReason
    startTime := if task.startTime ≠ 0 then task.startTime else current.startTime
    finishTime := if task.finishTime ≠ 0 then task.finishTime else current.finishTime
    progress := if task.progress ≠ "" then task.progress else current.progress
    privateData := { current.privateData with
      upstreamTaskID :=
        if task.privateData.upstreamTaskID ≠ "" then task.privateData.upstreamTaskID
        else current.privateData.upstreamTaskID
      resultURL :=
        if task.privateData.resultURL ≠ "" then task.privateData.resultURL
        else current.privateData.resultURL }
    data := if task.data ≠ "" then task.data else current.data
    billingLedgerID := ledgerID
    quota := targetQuota }

section

variable (now : Int) (id : Nat) (targetQuota : Int)

/-- **`AcknowledgeBillingLedgerTask`**: record that the upstream accepted the pending task. A ledger
that is already settled at the target is not opened again. -/
def acknowledgeBillingLedgerTask (task : Option Task)
    (db : Database) : Except DbError (Database × BillingLedger × Task) :=
  match task with
  | none => .error (.message "pending task is invalid")
  | some task =>
    if task.id ≤ 0 then .error (.message "pending task is invalid")
    else if targetQuota < 0 then .error (.message "billing target quota cannot be negative")
    else do
      let ledger ← lockBillingLedgerTx db id
      if ledger.state = .refunded then
        .error (.message "refunded billing ledger cannot acknowledge an upstream task")
      else match db.tasks.find? task.id with
        | none => .error .recordNotFound
        | some current =>
          if current.billingLedgerID ≠ id then .error .recordNotFound
          else
            let merged := mergeAcknowledgement now targetQuota ledger.id current task
            if ledger.state = .settled ∧ ledger.appliedQuota = targetQuota then
              let merged := { merged with
                billingState := some ledger.state, billingVersion := ledger.version }
              .ok ({ db with tasks := db.tasks.put merged }, ledger, merged)
            else
              let ledger := { ledger with
                kind := .task, state := .reconcileRequired, desiredState := .settle
                desiredQuota := targetQuota, nextRetryAt := now
                lastError := "upstream task accepted; settlement pending"
                version := ledger.version + 1, updatedAt := now }
              let merged := { merged with
                billingState := some ledger.state, billingVersion := ledger.version }
              .ok (saveLedger { db with tasks := db.tasks.put merged } ledger, ledger, merged)

/-! ## Settlement and refund -/

/-- Settle at the target; `selected` may name the channel. -/
def settleBillingLedger (selected : List Int)
    (db : Database) : Except DbError (Database × BillingLedger) :=
  if targetQuota < 0 then .error (.message "billing target quota cannot be negative")
  else mutateBillingLedger now id .settle targetQuota (assignChannelHook selected) db

/-- **`SettleBillingLedgerWithTask`**: that a task is bound is checked only after the transition has
committed. -/
def settleBillingLedgerWithTask (task : Option Task)
    (db : Database) : Database × Except DbError BillingLedger :=
  match task with
  | none => (db, .error (.message "task is nil"))
  | some task =>
    match transaction
        (mutateBillingLedger now id .settle targetQuota (createTaskHook now targetQuota task))
        db with
    | (db, .error e) => (db, .error e)
    | (db, .ok ledger) =>
      if db.tasks.count (·.billingLedgerID = id) = 0 then
        (db, .error (.message "billing ledger settled without a persisted task"))
      else (db, .ok ledger)

/-- Settle and create the Midjourney row. -/
def settleBillingLedgerWithMidjourney
    (task : Option Midjourney) (db : Database) : Database × Except DbError BillingLedger :=
  match task with
  | none => (db, .error (.message "midjourney task is nil"))
  | some task =>
    match transaction
        (mutateBillingLedger now id .settle targetQuota (createMidjourneyHook targetQuota task))
        db with
    | (db, .error e) => (db, .error e)
    | (db, .ok ledger) =>
      if db.midjourneys.count (·.billingLedgerID = id) = 0 then
        (db, .error (.message "billing ledger settled without a persisted midjourney task"))
      else (db, .ok ledger)

end

/-- Give everything back. -/
def refundBillingLedger (now : Int) (id : Nat) (reason : String) (db : Database) :
    Except DbError (Database × BillingLedger) :=
  mutateBillingLedger now id .refund 0 (refundHook now reason) db

/-! ## Reconciliation -/

/-- The fence of the stale-reservation functions: the ledger is still the reservation that was
listed. -/
def staleReservation (ledger : BillingLedger) (kind : LedgerKind) (expectedVersion cutoff : Int) :
    Prop :=
  ledger.kind = kind ∧ ledger.state = .reserved ∧ ledger.version = expectedVersion ∧
    ledger.updatedAt ≤ cutoff
  deriving Decidable

/-- Refund a reservation that is still as it was listed. -/
def refundStaleReservedBillingLedger (now : Int) (id : Nat) (kind : LedgerKind)
    (expectedVersion cutoff : Int) (reason : String) (db : Database) :
    Except DbError (Database × Bool) := do
  let ledger ← lockBillingLedgerTx db id
  if ¬ staleReservation ledger kind expectedVersion cutoff then .ok (db, false)
  else do
    let (db, _, changed) ←
      mutateLockedBillingLedgerTx now db ledger .refund 0 (refundHook now reason)
    .ok (db, changed)

/-- The error text that is stored. -/
def causeMessage : Option String → String
  | none => ""
  | some text => truncateBillingError text

/-- A ledger that has to be reconciled later: the common part of the `Mark…` functions. -/
def BillingLedger.requireReconcile (l : BillingLedger) (now : Int) (desired : DesiredState)
    (quota : Int) (message : String) : BillingLedger :=
  { l with
    state := .reconcileRequired, desiredState := desired, desiredQuota := quota
    lastError := message, attempts := l.attempts + 1
    nextRetryAt := now + billingRetryDelay (l.attempts + 1), updatedAt := now
    version := l.version + 1 }

/-- Save a ledger that has to be reconciled and copy its state to its tasks. -/
def saveReconcile (now : Int) (db : Database) (ledger : BillingLedger) : Database :=
  updateBoundTasks now (saveLedger db ledger) ledger.id .reconcileRequired ledger.version none

/-- Mark such a reservation instead. -/
def markStaleReservedBillingLedgerForReconcile (now : Int) (id : Nat) (kind : LedgerKind)
    (expectedVersion cutoff : Int) (cause : Option String) (db : Database) :
    Except DbError (Database × Unit) := do
  let ledger ← lockBillingLedgerTx db id
  if ¬ staleReservation ledger kind expectedVersion cutoff then .ok (db, ())
  else .ok (saveReconcile now db (ledger.requireReconcile now .refund 0 (causeMessage cause)), ())

/-- The fence of the replay functions: the ledger still waits for the transition that was listed. -/
def awaitsReconcile (ledger : BillingLedger) (expectedVersion : Int) (desired : DesiredState)
    (quota : Int) : Prop :=
  ledger.state = .reconcileRequired ∧ ledger.version = expectedVersion ∧
    ledger.desiredState = desired ∧ ledger.desiredQuota = quota
  deriving Decidable

section

variable (now : Int) (id : Nat) (expectedVersion : Int) (desired : DesiredState)

/-- Run the transition that a ledger waits for. -/
def replayBillingLedgerReconcile (targetQuota : Int) (reason : String) (db : Database) :
    Except DbError (Database × Bool) :=
  if targetQuota < 0 then .error (.message "billing target quota cannot be negative")
  else do
    let ledger ← lockBillingLedgerTx db id
    if ¬ awaitsReconcile ledger expectedVersion desired targetQuota then .ok (db, false)
    else do
      let hook : BeforeSave :=
        if desired = .refund then refundHook now reason else fun db ledger => .ok (db, ledger)
      let (db, _, changed) ← mutateLockedBillingLedgerTx now db ledger desired targetQuota hook
      .ok (db, changed)

/-- **`MarkBillingLedgerReconcileRetryContext`**: the transition and its target stay, the attempt is
counted. -/
def markBillingLedgerReconcileRetry (quota : Int) (cause : Option String) (db : Database) :
    Except DbError (Database × Bool) :=
  if id = 0 then .ok (db, false)
  else do
    let ledger ← lockBillingLedgerTx db id
    if ¬ awaitsReconcile ledger expectedVersion desired quota then .ok (db, false)
    else .ok (saveReconcile now db (ledger.requireReconcile now desired quota (causeMessage cause)),
      true)

end

/-- Mark a ledger to be reconciled later. -/
def markBillingLedgerForReconcile (now : Int) (id : Nat) (desired : DesiredState) (quota : Int)
    (cause : Option String) (selected : List Int) (db : Database) :
    Except DbError (Database × Unit) :=
  if id = 0 then .ok (db, ())
  else do
    let ledger ← lockBillingLedgerTx db id
    if ledger.state = .refunded ∨
        (ledger.state = .settled ∧ desired = .settle ∧ ledger.appliedQuota = quota) then
      .ok (db, ())
    else do
      let ledger ←
        if desired = .settle then assignBillingSettlementChannel ledger selected else .ok ledger
      .ok (saveReconcile now db (ledger.requireReconcile now desired quota (causeMessage cause)), ())

/-! ## Terminal task transitions -/

/-- `desired` as the billing state of a task row; the two words the transition supports. -/
def DesiredState.asState : DesiredState → Option LedgerState
  | .settle => some .settled
  | .refund => some .refunded
  | .unset | .other _ => none

/-- `terminalLedgerMatches`: the ledger already is where the caller wants it. -/
def terminalLedgerMatches (ledger : BillingLedger) (desired : DesiredState) (targetQuota : Int) :
    Prop :=
  (desired = .settle ∧ ledger.state = .settled ∧ ledger.appliedQuota = targetQuota) ∨
    (desired = .refund ∧ ledger.state = .refunded)
  deriving Decidable

/-- The compare-and-swap write of a whole task row, guarded by the status the caller read. -/
def updateTaskRow (now : Int) (db : Database) (task : Task) (fromStatus : TaskStatus) :
    Except DbError Database := do
  let tasks ← db.tasks.updateOne (fun t => t.id = task.id && t.status = fromStatus)
    (fun t => { task with id := t.id, updatedAt := now })
    (DbError.message "task billing status compare-and-swap lost")
  .ok { db with tasks := tasks }

/-- Write the task where the status is the expected one. -/
def updateMidjourneyRow (db : Database) (task : Midjourney) (fromStatus : String) :
    Except DbError Database := do
  let midjourneys ← db.midjourneys.updateOne (fun m => m.id = task.id && m.status = fromStatus)
    (fun m => { task with id := m.id })
    (DbError.message "midjourney billing status compare-and-swap lost")
  .ok { db with midjourneys := midjourneys }

/-- What a terminal task transition returns: whether the caller won, the ledger if any, and the
caller's task. -/
structure TaskTransition (α : Type) where
  won : Bool
  ledger : Option BillingLedger
  task : α
  deriving DecidableEq

/-- Note the reason of a refund, if one is given. -/
def BillingLedger.withRefundReason (l : BillingLedger) (desired : DesiredState) (reason : String) :
    BillingLedger :=
  if desired = .refund ∧ reason ≠ "" then { l with lastError := truncateBillingError reason } else l

/-- A task that names no ledger takes that of its row. -/
abbrev Task.boundTo (task current : Task) : Task :=
  { task with
    billingLedgerID :=
      if task.billingLedgerID = 0 then current.billingLedgerID else task.billingLedgerID }

/-- The task with the ledger of its row, unless it names one. -/
abbrev Midjourney.boundTo (task current : Midjourney) : Midjourney :=
  { task with
    billingLedgerID :=
      if task.billingLedgerID = 0 then current.billingLedgerID else task.billingLedgerID }

/-- A task that is written next to a ledger that need not move. -/
abbrev Task.besides (task : Task) (ledger : BillingLedger) (desired : DesiredState)
    (targetQuota : Int) : Task :=
  { task with
    billingLedgerID := ledger.id, billingState := some ledger.state, billingVersion := ledger.version
    quota := if desired = .settle then targetQuota else task.quota }

/-- The caller's task as `UpdateTaskWithBilling` binds it to a ledger in transition. -/
def Task.inTransition (task : Task) (ledger : BillingLedger) (desired : DesiredState)
    (targetQuota : Int) : Task :=
  { task with
    billingLedgerID := ledger.id, billingState := desired.asState
    billingVersion := ledger.version + 1, quota := targetQuota }

section

variable (now : Int) (task : Task) (fromStatus : TaskStatus) (desired : DesiredState)
  (targetQuota : Int) (reason : String)

/-- Write the task with its ledger. -/
def updateTaskHook : BeforeSave := fun db ledger => do
  let ledger := ledger.withRefundReason desired reason
  let db ← updateTaskRow now db (task.inTransition ledger desired targetQuota) fromStatus
  .ok (db, ledger)

/-- **`UpdateTaskWithBilling`**: move a task out of `fromStatus` and its ledger with it, in one
transaction. A caller that lost the race writes nothing. -/
def updateTaskWithBilling (db : Database) : Except DbError (Database × TaskTransition Task) :=
  if task.id ≤ 0 then .error (.message "task is invalid")
  else match db.tasks.find? task.id with
    | none => .error .recordNotFound
    | some current =>
      if current.status ≠ fromStatus then .ok (db, ⟨false, none, task⟩)
      else
        let task := task.boundTo current
        if task.billingLedgerID = 0 then do
          let db ← updateTaskRow now db task fromStatus
          .ok (db, ⟨true, none, task⟩)
        else do
          let ledger ← lockBillingLedgerTx db task.billingLedgerID
          if terminalLedgerMatches ledger desired targetQuota then do
            let task := task.besides ledger desired targetQuota
            let db ← updateTaskRow now db task fromStatus
            .ok (db, ⟨true, some ledger, task⟩)
          else do
            let (db, saved, changed) ← mutateLockedBillingLedgerTx now db ledger desired
              targetQuota (updateTaskHook now task fromStatus desired targetQuota reason)
            if ¬ changed then
              .error (.message "task billing ledger transition was already completed")
            else .ok (db, ⟨true, some saved, task.inTransition ledger desired targetQuota⟩)

end

/-- The caller's Midjourney task as `UpdateMidjourneyWithBilling` binds it to a ledger in
transition. -/
def Midjourney.inTransition (task : Midjourney) (ledger : BillingLedger) (desired : DesiredState)
    (targetQuota : Int) : Midjourney :=
  { task with
    billingLedgerID := ledger.id, billingState := some ledger.state
    billingVersion := ledger.version + 1
    quota := if desired = .settle then targetQuota else task.quota }

/-- Write the Midjourney task with its ledger. -/
def updateMidjourneyHook (task : Midjourney) (fromStatus : String) (desired : DesiredState)
    (targetQuota : Int) (reason : String) : BeforeSave := fun db ledger => do
  let ledger := ledger.withRefundReason desired reason
  let db ← updateMidjourneyRow db (task.inTransition ledger desired targetQuota) fromStatus
  .ok (db, ledger)

/-- Move a Midjourney task and its ledger together. -/
def updateMidjourneyWithBilling (now : Int) (task : Midjourney) (fromStatus : String)
    (desired : DesiredState) (targetQuota : Int) (reason : String) (db : Database) :
    Except DbError (Database × TaskTransition Midjourney) :=
  if task.id ≤ 0 then .error (.message "midjourney task is invalid")
  else match db.midjourneys.find? task.id with
    | none => .error .recordNotFound
    | some current =>
      if current.status ≠ fromStatus then .ok (db, ⟨false, none, task⟩)
      else
        let task := task.boundTo current
        if task.billingLedgerID = 0 then do
          let db ← updateMidjourneyRow db task fromStatus
          .ok (db, ⟨true, none, task⟩)
        else do
          let ledger ← lockBillingLedgerTx db task.billingLedgerID
          if terminalLedgerMatches ledger desired targetQuota then do
            let task := { task with
              billingLedgerID := ledger.id, billingState := some ledger.state
              billingVersion := ledger.version
              quota := if desired = .settle then targetQuota else task.quota }
            let db ← updateMidjourneyRow db task fromStatus
            .ok (db, ⟨true, some ledger, task⟩)
          else do
            let (db, saved, changed) ← mutateLockedBillingLedgerTx now db ledger desired
              targetQuota (updateMidjourneyHook task fromStatus desired targetQuota reason)
            if ¬ changed then
              .error (.message "midjourney billing ledger transition was already completed")
            else .ok (db, ⟨true, some saved, task.inTransition ledger desired targetQuota⟩)

/-! ## The operations as events -/

/-- The calls, with their arguments. -/
inductive LedgerOp
  | reserve (input : BillingReservation)
  | reserveMore (id : Nat) (targetQuota : Int)
  | bind (id : Nat) (task : Option Task)
  | acknowledge (id : Nat) (targetQuota : Int) (task : Option Task)
  | settle (id : Nat) (targetQuota : Int) (selected : List Int)
  | settleWithTask (id : Nat) (targetQuota : Int) (task : Option Task)
  | settleWithMidjourney (id : Nat) (targetQuota : Int) (task : Option Midjourney)
  | refund (id : Nat) (reason : String)
  | refundStaleReserved (id : Nat) (kind : LedgerKind) (expectedVersion cutoff : Int)
      (reason : String)
  | markStaleReserved (id : Nat) (kind : LedgerKind) (expectedVersion cutoff : Int)
      (cause : Option String)
  | replay (id : Nat) (expectedVersion : Int) (desired : DesiredState) (targetQuota : Int)
      (reason : String)
  | markReconcileRetry (id : Nat) (expectedVersion : Int) (desired : DesiredState) (quota : Int)
      (cause : Option String)
  | markForReconcile (id : Nat) (desired : DesiredState) (quota : Int) (cause : Option String)
      (selected : List Int)
  | updateTask (task : Task) (fromStatus : TaskStatus) (desired : DesiredState)
      (targetQuota : Int) (reason : String)
  | updateMidjourney (task : Midjourney) (fromStatus : String) (desired : DesiredState)
      (targetQuota : Int) (reason : String)
  deriving DecidableEq

/-- The database after a call at time `now`: committed, or untouched when the call failed. -/
def LedgerOp.exec (cal : Calendar) (now : Int) (db : Database) : LedgerOp → Database
  | .reserve input => (transaction (reserveBillingLedger cal now input) db).1
  | .reserveMore id target => (transaction (reserveMoreBillingLedger now id target) db).1
  | .bind id task => (transaction (bindBillingLedgerTask now id task) db).1
  | .acknowledge id target task =>
    (transaction (acknowledgeBillingLedgerTask now id target task) db).1
  | .settle id target selected => (transaction (settleBillingLedger now id target selected) db).1
  | .settleWithTask id target task => (settleBillingLedgerWithTask now id target task db).1
  | .settleWithMidjourney id target task =>
    (settleBillingLedgerWithMidjourney now id target task db).1
  | .refund id reason => (transaction (refundBillingLedger now id reason) db).1
  | .refundStaleReserved id kind version cutoff reason =>
    (transaction (refundStaleReservedBillingLedger now id kind version cutoff reason) db).1
  | .markStaleReserved id kind version cutoff cause =>
    (transaction (markStaleReservedBillingLedgerForReconcile now id kind version cutoff cause)
      db).1
  | .replay id version desired target reason =>
    (transaction (replayBillingLedgerReconcile now id version desired target reason) db).1
  | .markReconcileRetry id version desired quota cause =>
    (transaction (markBillingLedgerReconcileRetry now id version desired quota cause) db).1
  | .markForReconcile id desired quota cause selected =>
    (transaction (markBillingLedgerForReconcile now id desired quota cause selected) db).1
  | .updateTask task fromStatus desired target reason =>
    (transaction (updateTaskWithBilling now task fromStatus desired target reason) db).1
  | .updateMidjourney task fromStatus desired target reason =>
    (transaction (updateMidjourneyWithBilling now task fromStatus desired target reason) db).1

end RenewApi.Billing
