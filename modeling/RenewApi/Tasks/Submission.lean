import Mathlib
import RenewApi.Tasks.Effects

/-! # Submitting a task

`RelayTask` of `controller/relay.go` with `RelayTaskSubmit`, the billing session and `InitTask`. The
first attempt reserves the quota and persists a **prepared** row before the upstream is asked; the
accepted task is merged into that row. -/

namespace RenewApi.Billing

open Relational List Table Prod

variable {cal : Calendar} {now : Int} {db : Database} {task : Task}

/-- The channel of an attempt. -/
structure ChannelMeta where
  channelId : Int
  channelType : Int
  apiKey : String
  deriving DecidableEq

/-- `PriceData`: the fields a task is billed by. -/
structure PriceData where
  freeModel : Bool
  modelPrice : Rat
  modelRatio : Rat
  groupRatio : Rat
  otherRatios : List (String × Rat)
  usePrice : Bool
  quota : Int
  deriving DecidableEq

/-- Set a ratio, if it is positive. -/
def PriceData.addOtherRatio (p : PriceData) (r : String × Rat) : PriceData :=
  if 0 < r.2 then { p with otherRatios := r :: p.otherRatios.filter (·.1 ≠ r.1) } else p

def PriceData.replaceOtherRatios (p : PriceData) (ratios : List (String × Rat)) : PriceData :=
  ratios.foldl PriceData.addOtherRatio { p with otherRatios := [] }

/-- `BillingSession` of a persistent ledger. -/
structure BillingSession where
  ledgerID : Nat
  pendingTaskID : Int
  settled : Bool
  refunded : Bool
  deriving DecidableEq

/-- `RelayInfo`: what the attempts of a request share. -/
structure RelayInfo where
  userId : Int
  usingGroup : String
  tokenId : Int
  clientModelName : String
  billingModelName : String
  originModelName : String
  upstreamModelName : String
  publicTaskID : String
  action : String
  channel : Option ChannelMeta
  priceData : PriceData
  /-- `QuotaClamp` is set. -/
  quotaClamped : Bool
  billingSource : Option FundingSource
  subscriptionId : Int
  billing : Option BillingSession
  deriving DecidableEq

/-- The model the client asked for. -/
def RelayInfo.clientModel (info : RelayInfo) : String :=
  if trimSpace info.clientModelName ≠ "" then trimSpace info.clientModelName
  else trimSpace info.originModelName

/-- The model that is billed. -/
def RelayInfo.billingModel (info : RelayInfo) : String :=
  if trimSpace info.billingModelName ≠ "" then trimSpace info.billingModelName else info.clientModel

/-- `dto.TaskError`: what the retry decision looks at. -/
structure TaskError where
  code : String
  statusCode : Int
  localError : Bool
  deriving DecidableEq

/-- What a submission returns. -/
structure TaskSubmitResult where
  upstreamTaskID : String
  taskData : String
  platform : TaskPlatform
  quota : Int
  deriving DecidableEq

/-- The settings and the arithmetic of prices that a submission reads. -/
structure TaskSettings where
  /-- `constant.TaskPricePatches`. -/
  taskPricePatches : List String
  /-- `QuotaFromFloatChecked` of the quota with its other ratios; the flag says that it was
  clamped. -/
  applyOtherRatios : PriceData → Int × Bool
  /-- `recalcQuotaFromRatios`. -/
  recalcQuotaFromRatios : PriceData → List (String × Rat) → Int × Bool
  /-- `CoverTaskActionToModelName`. -/
  coverTaskActionToModelName : TaskPlatform → String → String
  /-- `common.RetryTimes`. -/
  retryTimes : Nat
  /-- `IsAlwaysSkipRetryStatusCode`. -/
  alwaysSkipRetry : Int → Bool

/-- **One attempt**, as far as it is decided outside. -/
structure Attempt where
  now : Int
  channelError : Option TaskError
  channel : ChannelMeta
  platform : TaskPlatform
  /-- `GetTaskAdaptor` knows the platform. -/
  supported : Bool
  /-- `ValidateRequestAndSetAction`. -/
  validate : Except TaskError String
  /-- `ModelMappedHelper`: the mapping of the channel. -/
  mapModel : String → Option String
  /-- `GenerateTaskID`. -/
  freshTaskID : String
  /-- `ModelPriceHelperPerCall` of the billing model. -/
  price : String → Option PriceData
  /-- `EstimateBilling`. -/
  estimateBilling : List (String × Rat)
  reservation : Int → BillingReservation
  /-- `BuildRequestBody` may settle the model name anew; it may fail. -/
  buildRequestBody : String → Except TaskError String
  /-- `DoRequest` and `DoResponse`: an error, or the upstream id and the data. -/
  answer : Except TaskError (String × String)
  /-- `AdjustBillingOnSubmit`. -/
  adjustBillingOnSubmit : List (String × Rat)
  /-- `ShouldSkipRetryAfterChannelAffinityFailure`, or the token asks for one channel. -/
  pinned : Bool

/-! ## Task rows of a submission -/

/-- `InitTask`. Keys are kept for the channels whose tasks are fetched with the submitting key. -/
def initTask (now : Int) (platform : TaskPlatform) (info : RelayInfo) : Task :=
  { id := 0, createdAt := 0, updatedAt := 0, taskID := info.publicTaskID, platform := platform
    userId := info.userId, group := info.usingGroup
    channelId := (info.channel.map ChannelMeta.channelId).getD 0, quota := 0, billingLedgerID := 0
    billingState := none, billingVersion := 0, action := "", status := .notStart, failReason := ""
    submitTime := now, startTime := 0, finishTime := 0, progress := "0%"
    properties :=
      { input := ""
        upstreamModelName := if info.channel.isSome then info.upstreamModelName else ""
        originModelName := if info.channel.isSome then info.originModelName else "" }
    privateData :=
      { key := match info.channel with
          | some ch => if ch.channelType = 24 ∨ ch.channelType = 41 then ch.apiKey else ""
          | none => ""
        upstreamTaskID := "", resultURL := "", billingSource := none, subscriptionId := 0, tokenId := 0
        billingContext := none }
    data := "" }

section

variable (cfg : TaskSettings)

/-- The `TaskBillingContext` of a request whose model is billed under a given name. -/
def RelayInfo.billingContext (info : RelayInfo) (model : String) : TaskBillingContext :=
  { modelPrice := info.priceData.modelPrice, groupRatio := info.priceData.groupRatio
    modelRatio := info.priceData.modelRatio, otherRatios := info.priceData.otherRatios
    originModelName := model
    perCallBilling := cfg.taskPricePatches.contains model || info.priceData.usePrice }

/-- The columns that both rows of a submission take from the request. -/
def Task.ofRequest (task : Task) (info : RelayInfo) (context : TaskBillingContext) (quota : Int) : Task :=
  { task with
    quota := quota, action := info.action
    privateData := { task.privateData with
      billingSource := info.billingSource, subscriptionId := info.subscriptionId
      tokenId := info.tokenId, billingContext := some context } }

/-- The task that `PrepareAsyncTaskBilling` persists before the upstream is asked. -/
def preparedTask (now : Int) (platform : TaskPlatform) (info : RelayInfo) : Task :=
  (initTask now platform info).ofRequest info (info.billingContext cfg info.billingModel)
    info.priceData.quota

/-- The task that `RelayTask` builds once the upstream has accepted it. -/
def relayedTask (now : Int) (result : TaskSubmitResult) (info : RelayInfo) : Task :=
  let task := (initTask now result.platform info).ofRequest info
    (info.billingContext cfg info.originModelName) result.quota
  { task with
    data := result.taskData
    privateData := { task.privateData with upstreamTaskID := result.upstreamTaskID } }

/-- **What decides how a task is polled and billed later**: the channel, the platform, the key, the
model that ran, and the prices. -/
structure TaskRouting where
  channelId : Int
  platform : TaskPlatform
  key : String
  upstreamModelName : String
  billingContext : Option TaskBillingContext
  deriving DecidableEq

/-- The routing columns of a row. -/
def Task.routing (t : Task) : TaskRouting :=
  { channelId := t.channelId, platform := t.platform, key := t.privateData.key
    upstreamModelName := t.properties.upstreamModelName
    billingContext := t.privateData.billingContext }

/-! ## One attempt -/

/-- A request with the database it works on. -/
structure Relay where
  db : Database
  info : RelayInfo

/-- The row that was prepared for the request; 0 before. -/
def Relay.pendingTaskID (r : Relay) : Int := (r.info.billing.map BillingSession.pendingTaskID).getD 0

/-- Steps 1 to 6 of `RelayTaskSubmit`: the channel, the action, the models and the price. -/
def Attempt.describe (att : Attempt) (info : RelayInfo) : RelayInfo × Option TaskError :=
  let info := { info with channel := some att.channel }
  if !att.supported then (info, some ⟨"invalid_api_platform", 400, true⟩)
  else match att.validate with
    | .error e => (info, some e)
    | .ok action =>
      let modelName :=
        if info.originModelName = "" then cfg.coverTaskActionToModelName att.platform action
        else info.originModelName
      let info := { info with
        action := action, originModelName := modelName, upstreamModelName := modelName }
      match att.mapModel modelName with
      | none => (info, some ⟨"model_mapping_failed", 400, true⟩)
      | some upstream =>
        let info := { info with
          upstreamModelName := upstream
          publicTaskID := if info.publicTaskID = "" then att.freshTaskID else info.publicTaskID }
        match att.price info.billingModel with
        | none => (info, some ⟨"model_price_error", 400, false⟩)
        | some price =>
          let price := att.estimateBilling.foldl PriceData.addOtherRatio price
          if cfg.taskPricePatches.contains modelName then ({ info with priceData := price }, none)
          else
            let (quota, clamped) := cfg.applyOtherRatios price
            ({ info with
              priceData := { price with quota := quota }
              quotaClamped := info.quotaClamped || clamped }, none)

end

/-- The error for a failed reservation. -/
def billingReservationError (e : DbError) : TaskError :=
  if e = .insufficientQuota ∨ "subscription quota insufficient".toList <:+: e.text.toList then
    ⟨"insufficient_user_quota", 403, false⟩
  else ⟨"update_data_error", 500, false⟩

/-- `PreConsumeBilling`: reserve the quota in a new ledger. -/
def preConsumeBilling (cal : Calendar) (att : Attempt) (r : Relay) : Relay × Option TaskError :=
  if r.info.quotaClamped then (r, some ⟨"invalid_request", 400, false⟩)
  else
    let input := att.reservation r.info.priceData.quota
    match transaction (reserveBillingLedger cal att.now input) r.db with
    | (db, .error e) => ({ r with db := db }, some (billingReservationError e))
    | (db, .ok result) =>
      if result.alreadyReserved then ({ r with db := db }, some ⟨"invalid_request", 409, false⟩)
      else ({ db := db, info := { r.info with
        billingSource := some input.fundingSource
        subscriptionId :=
          if input.fundingSource = .subscription then result.ledger.subscriptionID else 0
        billing := some ⟨result.ledger.id, 0, false, false⟩ } }, none)

section

variable (cfg : TaskSettings)

/-- Persist the task with its ledger before the upstream is asked. -/
def prepareAsyncTaskBilling (now : Int) (platform : TaskPlatform) (r : Relay) :
    Relay × Option TaskError :=
  match r.info.billing with
  | none => (r, none)
  | some session =>
    if session.ledgerID = 0 then (r, none)
    else if session.settled || session.refunded then
      (r, some ⟨"persist_pending_task_failed", 500, false⟩)
    else if 0 < session.pendingTaskID then (r, none)
    else
      match transaction (bindBillingLedgerTask now session.ledgerID
          (some (preparedTask cfg now platform r.info))) r.db with
      | (db, .error _) => ({ r with db := db }, some ⟨"persist_pending_task_failed", 500, false⟩)
      | (db, .ok task) => ({ db := db, info := { r.info with
          billing := some { session with pendingTaskID := task.id } } }, none)

/-- Steps 8 to 11 of `RelayTaskSubmit`: ask the upstream and adjust the price to its answer. -/
def Attempt.ask (att : Attempt) (info : RelayInfo) :
    RelayInfo × Except TaskError TaskSubmitResult :=
  match att.buildRequestBody info.upstreamModelName with
  | .error e => (info, .error e)
  | .ok model =>
    let info := { info with upstreamModelName := model }
    match att.answer with
    | .error e => (info, .error e)
    | .ok (upstreamTaskID, taskData) =>
      if att.adjustBillingOnSubmit = [] then
        (info, .ok ⟨upstreamTaskID, taskData, att.platform, info.priceData.quota⟩)
      else
        let (quota, clamped) := cfg.recalcQuotaFromRatios info.priceData att.adjustBillingOnSubmit
        ({ info with
            priceData := { info.priceData.replaceOtherRatios att.adjustBillingOnSubmit with
              quota := quota }
            quotaClamped := info.quotaClamped || clamped },
          .ok ⟨upstreamTaskID, taskData, att.platform, quota⟩)

/-- One attempt to submit the task. -/
def relayTaskSubmit (cal : Calendar) (r : Relay) (att : Attempt) :
    Relay × Except TaskError TaskSubmitResult :=
  match att.describe cfg r.info with
  | (info, some e) => ({ r with info := info }, .error e)
  | (info, none) =>
    let r := { r with info := info }
    let (r, failed) :=
      if info.billing.isNone && !info.priceData.freeModel then preConsumeBilling cal att r
      else (r, none)
    match failed with
    | some e => (r, .error e)
    | none =>
      match prepareAsyncTaskBilling cfg att.now att.platform r with
      | (r, some e) => (r, .error e)
      | (r, none) =>
        let (info, result) := att.ask cfg r.info
        ({ r with info := info }, result)

def Relay.afterAttempt (cal : Calendar) (r : Relay) (att : Attempt) : Relay :=
  (relayTaskSubmit cfg cal r att).1

/-! ## The request -/

end

/-- The clock readings of a settlement. -/
structure SettleTimes where
  acknowledge : Int
  settle : Int
  mark : Int

/-- `settleWithTask`: acknowledge the prepared row and settle its ledger; without one the task is
persisted with the settlement. A failure marks the ledger for reconciliation. -/
def settleWithTask (times : SettleTimes) (task : Task) (actualQuota : Int) (r : Relay) :
    Relay × Except DbError BillingLedger :=
  match r.info.billing with
  | none => (r, .error (.message "billing session does not use a persistent balance ledger"))
  | some session =>
    if session.settled || session.refunded then
      (r, .error (.message "billing session is already settled before task insertion"))
    else if session.ledgerID = 0 then
      (r, .error (.message "billing session does not use a persistent balance ledger"))
    else
      let (db, result) :=
        if 0 < session.pendingTaskID then
          match transaction (acknowledgeBillingLedgerTask times.acknowledge session.ledgerID actualQuota
              (some { task with id := session.pendingTaskID })) r.db with
          | (db, .error e) => (db, .error e)
          | (db, .ok _) =>
            transaction (settleBillingLedger times.settle session.ledgerID actualQuota []) db
        else settleBillingLedgerWithTask times.settle session.ledgerID actualQuota (some task) r.db
      match result with
      | .error e =>
        ({ r with db := (transaction (markBillingLedgerForReconcile times.mark session.ledgerID .settle
            actualQuota (some e.text) []) db).1 }, .error e)
      | .ok ledger =>
        ({ db := db, info := { r.info with billing := some { session with settled := true } } },
          .ok ledger)

/-- The routing columns of the row that an attempt would prepare. -/
def Attempt.routing (cfg : TaskSettings) (att : Attempt) (info : RelayInfo) : TaskRouting :=
  (preparedTask cfg att.now att.platform (att.describe cfg info).1).routing

/-- The request is billed through a ledger. -/
def Relay.usesLedger (r : Relay) : Bool := r.info.billing.any (·.ledgerID ≠ 0)

/-- Rows name ledgers that exist. -/
def Database.ledgersKnown (db : Database) : Prop :=
  ∀ t ∈ db.tasks.rows, t.billingLedgerID ≠ 0 → (db.ledgers.find? t.billingLedgerID).isSome
  deriving Decidable

variable {id : Nat}

theorem isSome_ledger_exec (op : LedgerOp) (h : (db.ledgers.find? id).isSome) :
    ((op.exec cal now db).ledgers.find? id).isSome := by
  cases op.exec_outcome cal now db with
  | quiet ledgers _ => rw [ledgers]; exact h
  | rewrite l l' _ _ hrewrite =>
    rw [hrewrite.find?_eq]
    split
    · rfl
    · exact h
  | create input l _ _ _ hcreate =>
    rw [hcreate.ledgers, find?_insert hcreate.fresh]
    split
    · rfl
    · exact h

/-- **No row is prepared yet**: rows name ledgers that exist, and none is bound to the ledger of the
request. -/
structure Relay.Open (r : Relay) : Prop where
  pending : r.pendingTaskID = 0
  known : r.db.ledgersKnown
  unbound : ∀ session, r.info.billing = some session → session.ledgerID ≠ 0 →
    ∀ t ∈ r.db.tasks.rows, t.billingLedgerID ≠ session.ledgerID

def Relay.Prepared (r : Relay) (routing : TaskRouting) : Prop :=
  0 < r.pendingTaskID ∧ ∃ row, r.db.tasks.find? r.pendingTaskID = some row ∧ row.routing = routing

theorem Attempt.describe_spec (cfg : TaskSettings) (att : Attempt) (info : RelayInfo) :
    (att.describe cfg info).1.channel = some att.channel ∧
      (att.describe cfg info).1.billing = info.billing := by
  unfold Attempt.describe
  dsimp only
  split
  · exact ⟨rfl, rfl⟩
  · split
    · exact ⟨rfl, rfl⟩
    · split
      · exact ⟨rfl, rfl⟩
      · split
        · exact ⟨rfl, rfl⟩
        · simp only [apply_ite fst, apply_ite RelayInfo.billing, apply_ite RelayInfo.channel,
            ite_self, and_self]

variable {cfg : TaskSettings} {info : RelayInfo}

/-- The key that `InitTask` keeps. -/
def ChannelMeta.taskKey (ch : ChannelMeta) : String :=
  if ch.channelType = 24 ∨ ch.channelType = 41 then ch.apiKey else ""

theorem Attempt.ask_billing (cfg : TaskSettings) (att : Attempt) (info : RelayInfo) :
    (att.ask cfg info).1.billing = info.billing := by
  unfold Attempt.ask
  split
  · rfl
  · split
    · rfl
    · split <;> rfl

variable {r r' : Relay}

theorem Relay.Open.congr (h : r.Open) (hdb : r'.db = r.db)
    (hbilling : r'.info.billing = r.info.billing) : r'.Open := by
  refine ⟨?_, hdb ▸ h.known, hdb ▸ hbilling ▸ h.unbound⟩
  rw [Relay.pendingTaskID, hbilling]
  exact h.pending

variable {routing : TaskRouting} {db' : Database} {r₀ : Relay}

theorem Relay.Prepared.congr (h : r.Prepared routing) (hdb : r'.db = r.db)
    (hbilling : r'.info.billing = r.info.billing) : r'.Prepared routing := by
  have hpending : r'.pendingTaskID = r.pendingTaskID := by
    rw [Relay.pendingTaskID, Relay.pendingTaskID, hbilling]
  rw [Relay.Prepared, hpending, hdb]
  exact h

/-- Reserving the quota prepares no row; the new ledger has none. -/
theorem Relay.Open.preConsume (h : r.Open) (cal : Calendar) (att : Attempt) :
    (preConsumeBilling cal att r).1.Open ∧
      ∀ cfg platform, (preparedTask cfg att.now platform (preConsumeBilling cal att r).1.info).routing
        = (preparedTask cfg att.now platform r.info).routing := by
  unfold preConsumeBilling
  split
  · exact ⟨h, fun _ _ => rfl⟩
  · dsimp only
    cases hreserve : reserveBillingLedger cal att.now (att.reservation r.info.priceData.quota) r.db with
    | error e =>
      rw [transaction_error hreserve]
      exact ⟨h, fun _ _ => rfl⟩
    | ok p =>
      obtain ⟨db, result⟩ := p
      rw [transaction_ok hreserve]
      dsimp only
      rcases reserveBillingLedger_eq_ok hreserve with ⟨htaken, rfl, -⟩ | ⟨hfresh, -, hcreate⟩
      · rw [if_pos htaken]
        exact ⟨h, fun _ _ => rfl⟩
      · rw [if_neg (by rw [hfresh]; decide)]
        refine ⟨⟨rfl, fun t ht h0 => ?_, fun session hsession _ t ht heq => ?_⟩, fun _ _ => rfl⟩
        · have ht : t ∈ r.db.tasks.rows := hcreate.tasks ▸ ht
          rw [hcreate.ledgers, find?_insert hcreate.fresh]
          split
          · rfl
          · exact h.known t ht h0
        · -- a row bound to the new ledger would name a ledger that did not exist
          have ht : t ∈ r.db.tasks.rows := hcreate.tasks ▸ ht
          have hid : session.ledgerID = result.ledger.id := by
            rw [← Option.some.inj hsession]
          rw [hid] at heq
          have hsome := h.known t ht (by rw [heq]; exact hcreate.positive.ne')
          rw [heq, hcreate.fresh] at hsome
          cases hsome

/-- **Binding a task to a ledger without one**: a new row is persisted under a new id and bound to
the ledger. -/
theorem bindBillingLedgerTask_creates {task' : Task} (hid : task.id = 0)
    (hunbound : ∀ t ∈ db.tasks.rows, t.billingLedgerID ≠ id)
    (h : bindBillingLedgerTask now id (some task) db = .ok (db', task')) :
    0 < task'.id ∧ db.tasks.find? task'.id = none ∧ db'.tasks = db.tasks.insert task' ∧
      task'.billingLedgerID = id ∧ task'.routing = task.routing := by
  obtain ⟨t, l, htask, hlock, -, ⟨existing, hexisting, -⟩ | ⟨-, db₁, hcreate, rfl⟩⟩ :=
    bindBillingLedgerTask_eq_ok h
  · have hbound : existing.billingLedgerID = id := by simpa using find?_some hexisting
    exact absurd hbound (hunbound existing (mem_of_find?_eq_some hexisting))
  · obtain rfl := Option.some.inj htask
    have hpos : 0 < task'.id := by
      unfold createTask at hcreate
      rw [guard_eq_ok] at hcreate
      obtain ⟨-, rfl⟩ := ok_inj hcreate.2
      rw [if_pos hid]
      exact nextId_pos _
    obtain ⟨hfresh, rfl, _, _, _, ht'⟩ := createTask_eq_ok hcreate
    refine ⟨hpos, hfresh, rfl, ?_, by rw [ht']; rfl⟩
    rw [ht']
    exact (find?_of_lock hlock).1

/-- **Preparing**: an open request that is billed through a ledger has a row afterwards, with its
routing columns as they are then; or preparing fails and it stays open. -/
theorem Relay.Open.prepare (h : r.Open) (cfg : TaskSettings) (now : Int) (platform : TaskPlatform) :
    ((prepareAsyncTaskBilling cfg now platform r).1.Open ∧
      ((prepareAsyncTaskBilling cfg now platform r).2 = none →
        (prepareAsyncTaskBilling cfg now platform r).1.usesLedger = false)) ∨
    (prepareAsyncTaskBilling cfg now platform r).1.Prepared
      (preparedTask cfg now platform r.info).routing := by
  unfold prepareAsyncTaskBilling
  cases hbilling : r.info.billing with
  | none => exact .inl ⟨h, fun _ => by simp [Relay.usesLedger, hbilling]⟩
  | some session =>
    dsimp only
    by_cases hledger : session.ledgerID = 0
    · rw [if_pos hledger]
      exact .inl ⟨h, fun _ => by simp [Relay.usesLedger, hbilling, hledger]⟩
    rw [if_neg hledger]
    by_cases hdone : (session.settled || session.refunded) = true
    · rw [if_pos hdone]
      exact .inl ⟨h, fun hnone => nomatch hnone⟩
    rw [if_neg hdone]
    have hpending : session.pendingTaskID = 0 := by
      have hpending := h.pending
      rw [Relay.pendingTaskID, hbilling] at hpending
      exact hpending
    rw [if_neg (by rw [hpending]; decide)]
    cases hbind : bindBillingLedgerTask now session.ledgerID
        (some (preparedTask cfg now platform r.info)) r.db with
    | error e =>
      rw [transaction_error hbind]
      exact .inl ⟨h, fun hnone => nomatch hnone⟩
    | ok p =>
      rw [transaction_ok hbind]
      obtain ⟨hpos, hfresh, htasks, -, hrouting⟩ :=
        bindBillingLedgerTask_creates rfl (h.unbound session hbilling hledger) hbind
      refine .inr ⟨hpos, p.2, ?_, hrouting⟩
      rw [htasks, find?_insert hfresh]
      exact if_pos rfl

/-- The quota is reserved, unless the request has a session or its model is free. -/
def Relay.reserve (cal : Calendar) (att : Attempt) (r : Relay) : Relay × Option TaskError :=
  if r.info.billing.isNone && !r.info.priceData.freeModel then preConsumeBilling cal att r else (r, none)

/-- **All that an attempt can do**: it stops with an error after describing, reserving or preparing,
or it asks the upstream. -/
theorem relayTaskSubmit_cases (cfg : TaskSettings) (cal : Calendar) (r : Relay) (att : Attempt) :
    let r₀ : Relay := { r with info := (att.describe cfg r.info).1 }
    let r₁ := (r₀.reserve cal att).1
    let p := prepareAsyncTaskBilling cfg att.now att.platform r₁
    (∃ e, ∃ r' ∈ [r₀, r₁, p.1], relayTaskSubmit cfg cal r att = (r', .error e)) ∨
      (p.2 = none ∧ relayTaskSubmit cfg cal r att
        = ({ p.1 with info := (att.ask cfg p.1.info).1 }, (att.ask cfg p.1.info).2)) := by
  unfold relayTaskSubmit Relay.reserve
  rcases att.describe cfg r.info with ⟨info, _ | e⟩
  · dsimp only
    rcases (if info.billing.isNone && !info.priceData.freeModel then
      preConsumeBilling cal att { r with info := info } else ({ r with info := info }, none)) with
      ⟨r₁, _ | e⟩
    · dsimp only
      rcases prepareAsyncTaskBilling cfg att.now att.platform r₁ with ⟨r₂, _ | e⟩
      · exact .inr ⟨rfl, rfl⟩
      · exact .inl ⟨e, r₂, by simp, rfl⟩
    · exact .inl ⟨e, r₁, by simp, rfl⟩
  · exact .inl ⟨e, _, mem_cons_self, rfl⟩

theorem Relay.Open.reserve (h : r.Open) (cal : Calendar) (att : Attempt) :
    (r.reserve cal att).1.Open ∧
      ∀ cfg platform, (preparedTask cfg att.now platform (r.reserve cal att).1.info).routing
        = (preparedTask cfg att.now platform r.info).routing := by
  unfold Relay.reserve
  split
  · exact h.preConsume cal att
  · exact ⟨h, fun _ _ => rfl⟩

/-- **An attempt of an open request** leaves it open, or prepares a row for the channel of this
attempt. -/
theorem Relay.Open.afterAttempt (h : r.Open) (cfg : TaskSettings) (cal : Calendar) (att : Attempt) :
    ((r.afterAttempt cfg cal att).Open ∧ ∀ result, (relayTaskSubmit cfg cal r att).2 = .ok result →
      (r.afterAttempt cfg cal att).usesLedger = false) ∨
    (r.afterAttempt cfg cal att).Prepared (att.routing cfg r.info) := by
  have hopen : Relay.Open { r with info := (att.describe cfg r.info).1 } :=
    h.congr rfl (att.describe_spec cfg r.info).2
  obtain ⟨hopen₁, hrouting⟩ := hopen.reserve cal att
  have hprepared := hopen₁.prepare cfg att.now att.platform
  rw [hrouting] at hprepared
  unfold Relay.afterAttempt
  rcases relayTaskSubmit_cases cfg cal r att with ⟨e, r', hr', heq⟩ | ⟨hnone, heq⟩
  · rw [heq]
    simp only [mem_cons, not_mem_nil, or_false] at hr'
    rcases hr' with rfl | rfl | rfl
    · exact .inl ⟨hopen, fun _ hok => nomatch hok⟩
    · exact .inl ⟨hopen₁, fun _ hok => nomatch hok⟩
    · exact hprepared.imp_left fun hstill => ⟨hstill.1, fun _ hok => nomatch hok⟩
  · rw [heq]
    have hask := att.ask_billing cfg
    refine hprepared.imp (fun hstill => ⟨hstill.1.congr rfl (hask _), fun _ _ => ?_⟩)
      fun hrow => hrow.congr rfl (hask _)
    have huses := hstill.2 hnone
    rw [Relay.usesLedger] at huses ⊢
    rw [hask]
    exact huses

/-- **A row that is prepared stays as it is**, whatever later attempts do. -/
theorem Relay.Prepared.afterAttempt (h : r.Prepared routing) (cfg : TaskSettings) (cal : Calendar)
    (att : Attempt) : (r.afterAttempt cfg cal att).Prepared routing := by
  have hcases := relayTaskSubmit_cases cfg cal r att
  have hprepared : Relay.Prepared { r with info := (att.describe cfg r.info).1 } routing :=
    h.congr rfl (att.describe_spec cfg r.info).2
  generalize { r with info := (att.describe cfg r.info).1 } = r₀ at hcases hprepared
  obtain ⟨session, hsession, hpending⟩ : ∃ session, r₀.info.billing = some session ∧
      0 < session.pendingTaskID := by
    have hpos := hprepared.1
    rw [Relay.pendingTaskID] at hpos
    cases hbilling : r₀.info.billing with
    | some session => exact ⟨session, rfl, by rw [hbilling] at hpos; exact hpos⟩
    | none => rw [hbilling] at hpos; cases hpos
  -- there is a session, so nothing is reserved; there is a row, so none is prepared
  have hreserve : (r₀.reserve cal att).1 = r₀ := by simp [Relay.reserve, hsession]
  have hprepare : (prepareAsyncTaskBilling cfg att.now att.platform r₀).1 = r₀ := by
    unfold prepareAsyncTaskBilling
    rw [hsession]
    dsimp only
    split
    · rfl
    · split <;> rfl
  dsimp only at hcases
  rw [hreserve, hprepare] at hcases
  unfold Relay.afterAttempt
  rcases hcases with ⟨e, r', hr', heq⟩ | ⟨-, heq⟩
  · rw [heq]
    obtain rfl : r' = r₀ := by simpa using hr'
    exact hprepared
  · rw [heq]
    exact hprepared.congr rfl (att.ask_billing cfg r₀.info)

/-! ## What a request leaves behind -/

variable {result : TaskSubmitResult}

variable {times : SettleTimes} {att : Attempt} {quota : Int} {ledger : BillingLedger}

/-- The other ratios of a task that the upstream has accepted. -/
def Attempt.adjustedRatios (att : Attempt) (p : PriceData) : List (String × Rat) :=
  if att.adjustBillingOnSubmit = [] then p.otherRatios
  else (p.replaceOtherRatios att.adjustBillingOnSubmit).otherRatios

/-- **The attempt that prepared the row agrees with the accepting one** in what is stored; `info`
and `info'` are the request as the two describe it. -/
structure SameRouting (cfg : TaskSettings) (first last : Attempt) (info info' : RelayInfo) : Prop where
  channelId : first.channel.channelId = last.channel.channelId
  platform : first.platform = last.platform
  key : first.channel.taskKey = last.channel.taskKey
  /-- Building the accepted request settles on the model of the row. -/
  model : last.buildRequestBody info'.upstreamModelName = .ok info.upstreamModelName
  modelPrice : info.priceData.modelPrice = info'.priceData.modelPrice
  groupRatio : info.priceData.groupRatio = info'.priceData.groupRatio
  modelRatio : info.priceData.modelRatio = info'.priceData.modelRatio
  /-- The ratios of the row are those after the upstream's answer. -/
  otherRatios : info.priceData.otherRatios = last.adjustedRatios info'.priceData
  /-- The name under which the row is billed is the requested one. -/
  billingModel : info.billingModel = info'.originModelName
  perCall : (cfg.taskPricePatches.contains info.billingModel || info.priceData.usePrice) =
    (cfg.taskPricePatches.contains info'.originModelName || info'.priceData.usePrice)

/-- Settings without price patches; ratios leave the quota alone. -/
def sampleSettings : TaskSettings :=
  { taskPricePatches := [], applyOtherRatios := fun p => (p.quota, false)
    recalcQuotaFromRatios := fun p _ => (p.quota, false)
    coverTaskActionToModelName := fun _ action => action, retryTimes := 3
    alwaysSkipRetry := fun _ => false }

/-- A new request of the sample user for a video. -/
def sampleRelay : Relay :=
  { db := sampleDatabase
    info :=
      { userId := 1, usingGroup := "default", tokenId := 1, clientModelName := ""
        billingModelName := "", originModelName := "video", upstreamModelName := ""
        publicTaskID := "", action := "", channel := none
        priceData :=
          { freeModel := false, modelPrice := 0, modelRatio := 0, groupRatio := 0, otherRatios := []
            usePrice := false, quota := 0 }
        quotaClamped := false, billingSource := none, subscriptionId := 0, billing := none } }

def sampleAttempt (channelId : Int) (key : String) (answer : Except TaskError (String × String)) :
    Attempt :=
  { now := 2001, channelError := none, channel := ⟨channelId, 24, key⟩, platform := .channelType "24"
    supported := true, validate := .ok "generate", mapModel := some, freshTaskID := "task_a"
    price := fun _ => some
      { freeModel := false, modelPrice := 1, modelRatio := 0, groupRatio := 1, otherRatios := []
        usePrice := true, quota := 30 }
    estimateBilling := [], reservation := fun quota => sampleReservation "r1" .wallet quota
    buildRequestBody := .ok, answer := answer, adjustBillingOnSubmit := [], pinned := false }

end RenewApi.Billing
