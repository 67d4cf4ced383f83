import RenewApi.Billing.Outcome

/-! # Polling asynchronous tasks

`service/task_polling.go` and `tryRealtimeFetch` of `relay/relay_task.go`. -/

namespace RenewApi.Billing

open Relational

/-- `GetUpstreamTaskID`: rows without an upstream id fall back to the public id. -/
def Task.getUpstreamTaskID (t : Task) : String :=
  if t.privateData.upstreamTaskID ≠ "" then t.privateData.upstreamTaskID else t.taskID

/-- The columns that tie a row to its ledger. -/
structure TaskBillingColumns where
  ledgerID : Nat
  state : Option LedgerState
  version : Int
  quota : Int
  deriving DecidableEq

def Task.billing (t : Task) : TaskBillingColumns :=
  { ledgerID := t.billingLedgerID, state := t.billingState, version := t.billingVersion
    quota := t.quota }

/-- `taskSnapshot`: the columns whose change makes a poll write. -/
structure TaskSnapshot where
  status : TaskStatus
  progress : String
  startTime : Int
  finishTime : Int
  failReason : String
  resultURL : String
  data : String
  deriving DecidableEq

def Task.snapshot (t : Task) : TaskSnapshot :=
  { status := t.status, progress := t.progress, startTime := t.startTime, finishTime := t.finishTime
    failReason := t.failReason, resultURL := t.privateData.resultURL, data := t.data }

/-- `UpdateWithStatus`: the whole copy replaces the row with its id, provided that still has the
status `fromStatus`. The flag says whether a row was written. -/
def updateWithStatus (now : Int) (task : Task) (fromStatus : TaskStatus) (db : Database) :
    Database × Bool :=
  ({ db with
      tasks := db.tasks.updateWhere (fun t => t.id = task.id && t.status = fromStatus)
        (fun t => { task with id := t.id, updatedAt := now }) fun t => (rfl : t.id = t.id) },
    0 < db.tasks.count (fun t => t.id = task.id && t.status = fromStatus))

/-- `TaskBulkUpdateByID` with the columns its callers set: the rows fail, whatever their status. -/
def taskBulkUpdateByID (now : Int) (ids : List Int) (failReason : Option String) (db : Database) :
    Database :=
  { db with
    tasks := db.tasks.updateWhere (fun t => ids.contains t.id) (fun t => { t with
      status := .failure, progress := "100%", failReason := failReason.getD t.failReason
      updatedAt := now }) }

/-- The rows that the poller and the sweep select. -/
def Task.unfinished (t : Task) : Bool := t.progress ≠ "100%" && !t.status.terminal

/-! ## Answers -/

/-- `TaskInfo`: an upstream answer as an adaptor reads it. -/
structure TaskInfo where
  status : TaskStatus
  reason : String
  url : String
  progress : String
  totalTokens : Int
  deriving DecidableEq

def failTaskInfo (reason : String) : TaskInfo :=
  { status := .failure, reason := reason, url := "", progress := "", totalTokens := 0 }

/-- A response body read as a `GeneralErrorResponse`. -/
inductive ErrorBody
  | unreadable
  /-- The body `null`, which leaves a nil pointer. -/
  | null
  | openAIError (code : String)
  | unrecognized
  deriving DecidableEq

/-- `TaskPollingAdaptor` and the configuration a poll reads: how bodies are parsed, and what a
finished task costs. -/
structure PollingAdaptor where
  /-- The body as a `TaskResponse[Task]` with code `success`. -/
  parseTaskResponse : String → Option TaskInfo
  /-- `ParseTaskResult`; `none` is an error. -/
  parseTaskResult : String → Option TaskInfo
  parseError : String → ErrorBody
  redactVideoResponseBody : String → String
  /-- `AdjustBillingOnComplete`. -/
  adjustBillingOnComplete : Task → TaskInfo → Int
  /-- `CalculateTaskQuotaByTokens`; `none` when it is not applicable. -/
  calculateTaskQuotaByTokens : Task → Int → Option (Int × String)
  /-- `BuildProxyURL`. -/
  buildProxyURL : String → String

/-- What a poll does with the copy it has changed. -/
inductive PollDecision
  | nothing
  /-- `FinalizeTaskBillingTransition`. -/
  | finalize (fromStatus : TaskStatus) (actualQuota : Int) (reason : String)
  /-- `UpdateWithStatus`. -/
  | update (fromStatus : TaskStatus)
  deriving DecidableEq

/-! ## Video tasks -/

section

variable (a : PollingAdaptor)

/-- `resolveTaskBillingOnComplete`: per-call tasks keep their quota, then the adaptor decides, then
the tokens. -/
def resolveTaskBillingOnComplete (task : Task) (result : TaskInfo) : Int × String :=
  if task.privateData.billingContext.any (·.perCallBilling) then (task.quota, "按次计费")
  else if 0 < a.adjustBillingOnComplete task result then
    (a.adjustBillingOnComplete task result, "adaptor计费调整")
  else if 0 < result.totalTokens then
    (a.calculateTaskQuotaByTokens task result.totalTokens).getD (task.quota, "保持预扣额度")
  else (task.quota, "保持预扣额度")

/-- The body as a task response, or else as the adaptor reads it. -/
def PollingAdaptor.parse (body : String) : Option TaskInfo :=
  (a.parseTaskResponse body).orElse fun _ => a.parseTaskResult body

/-- **A body that the poller does not survive**: it has no status, and the error it is read as is a
nil pointer. -/
def PollingAdaptor.nilError (body : String) : Bool :=
  (a.parse body).any fun parsed => parsed.status = .none && a.parseError body = .null

/-- An answer without a status is read as an error. Code 429 keeps the task as it is, any other
fails it; a nil pointer stops the poller. -/
def readEmptyStatus (body : String) (result : TaskInfo) : Option TaskInfo :=
  if result.status ≠ .none then some result
  else match a.parseError body with
    | .unreadable => some result
    | .null => none
    | .openAIError code =>
      if code = "429" then none else some (failTaskInfo "upstream returned error")
    | .unrecognized => some (failTaskInfo "upstream returned unrecognized message")

def isDataURL (url : String) : Bool := "data:".toList.isPrefixOf url.toList

/-- The `switch` over the status of the answer: the changed copy with the quota to settle and the
billing reason, `none` for a status the poller does not know. -/
def applyVideoResult (now : Int) (result : TaskInfo) (task : Task) : Option (Task × Int × String) :=
  match result.status with
  | .submitted => some ({ task with status := .submitted, progress := "10%" }, task.quota, "")
  | .queued => some ({ task with status := .queued, progress := "20%" }, task.quota, "")
  | .inProgress =>
    some ({ task with
      status := .inProgress, progress := "30%"
      startTime := if task.startTime = 0 then now else task.startTime }, task.quota, "")
  | .success =>
    let task := { task with
      status := .success, progress := "100%"
      finishTime := if task.finishTime = 0 then now else task.finishTime
      privateData := { task.privateData with
        resultURL :=
          if isDataURL result.url then a.buildProxyURL task.taskID
          else if result.url ≠ "" then result.url
          else a.buildProxyURL task.taskID } }
    let (quota, reason) := resolveTaskBillingOnComplete a task result
    some (task, quota, reason)
  | .failure =>
    some ({ task with
      status := .failure, progress := "100%"
      finishTime := if task.finishTime = 0 then now else task.finishTime
      failReason := result.reason }, task.quota, result.reason)
  | _ => none

/-- The progress an answer asks for; a failure asks for the end. -/
def TaskInfo.newProgress (result : TaskInfo) (task : Task) : String :=
  if result.status = .failure then "100%"
  else if result.progress ≠ "" then result.progress
  else task.progress

/-- **`updateVideoSingleTask`**, from the answer on. A copy that does not parse or has an unknown
status is not written. -/
def updateVideoSingleTask (now : Int) (body : String) (task : Task) : Task × PollDecision :=
  let snap := task.snapshot
  match a.parse body with
  | none => (task, .nothing)
  | some parsed =>
    let task := { task with data := a.redactVideoResponseBody body }
    match readEmptyStatus a body parsed with
    | none => (task, .nothing)
    | some result =>
      match applyVideoResult a now result task with
      | none => ({ task with status := result.status }, .nothing)
      | some (task, actualQuota, reason) =>
        let task := { task with progress := result.newProgress task }
        (task, if task.status.terminal && snap.status ≠ task.status then
            .finalize snap.status actualQuota reason
          else if snap ≠ task.snapshot then .update snap.status
          else .nothing)

/-! ## Suno tasks -/

/-- `SunoDataResponse`, one item of an answer. -/
structure SunoDataResponse where
  taskID : String
  status : TaskStatus
  failReason : String
  submitTime : Int
  startTime : Int
  finishTime : Int
  data : String
  deriving DecidableEq

/-- The bytes of a text in order: `taskNeedsUpdate` compares data up to the order of its bytes. -/
def sortedBytes (s : String) : List UInt8 := s.toByteArray.toList.mergeSort (fun x y => decide (x ≤ y))

def taskNeedsUpdate (oldTask : Task) (newTask : SunoDataResponse) : Bool :=
  oldTask.submitTime ≠ newTask.submitTime ||
  oldTask.startTime ≠ newTask.startTime ||
  oldTask.finishTime ≠ newTask.finishTime ||
  oldTask.status ≠ newTask.status ||
  oldTask.failReason ≠ newTask.failReason ||
  (oldTask.status.terminal && oldTask.progress ≠ "100%") ||
  sortedBytes oldTask.data ≠ sortedBytes newTask.data

/-- The fields an item changes in the copy of its task. -/
def applySunoItem (item : SunoDataResponse) (task : Task) : Task :=
  let status := if item.status ≠ .none then item.status else task.status
  { task with
    status := status
    failReason := if item.failReason ≠ "" then item.failReason else task.failReason
    submitTime := if item.submitTime ≠ 0 then item.submitTime else task.submitTime
    startTime := if item.startTime ≠ 0 then item.startTime else task.startTime
    finishTime := if item.finishTime ≠ 0 then item.finishTime else task.finishTime
    progress :=
      if item.failReason ≠ "" ∨ status = .failure ∨ item.status = .success then "100%"
      else task.progress
    data := item.data }

/-- **The body of the loop of `updateSunoTasks`**, for an item whose task was found. -/
def updateSunoTask (item : SunoDataResponse) (task : Task) : Task × PollDecision :=
  if !taskNeedsUpdate task item then (task, .nothing)
  else
    let fromStatus := task.status
    let task := applySunoItem item task
    (task, if task.status.terminal then .finalize fromStatus task.quota task.failReason
      else .update fromStatus)

/-! ## Realtime fetches and timeouts -/

/-- **`tryRealtimeFetch`**, from the parsed answer on. The copy is written back whatever its new
status is. -/
def tryRealtimeFetch (info : TaskInfo) (task : Task) : Task × PollDecision :=
  let snap := task.snapshot
  let status := if info.status ≠ .none then info.status else task.status
  let task := { task with
    status := status
    progress := if info.progress ≠ "" then info.progress else task.progress
    privateData := { task.privateData with
      resultURL :=
        if isDataURL info.url then task.privateData.resultURL
        else if info.url ≠ "" then info.url
        else if status = .success then a.buildProxyURL task.taskID
        else task.privateData.resultURL } }
  (task, if snap ≠ task.snapshot then .update snap.status else .nothing)

end

/-- The channel types a realtime fetch asks: Gemini and Vertex. -/
def Channel.realtime (c : Channel) : Bool := c.type = 24 || c.type = 41

/-- `legacyTaskCutoff`: tasks submitted before are timed out without a refund. -/
def legacyTaskCutoff : Int := 1740182400

/-- A task of the old system. -/
def Task.isLegacy (t : Task) : Bool := 0 < t.submitTime && t.submitTime < legacyTaskCutoff

/-- **The body of the loop of `sweepTimedOutTasks`.** -/
def sweepTask (now timeoutMinutes : Int) (task : Task) : Task × PollDecision :=
  let oldStatus := task.status
  let reason :=
    if task.isLegacy then "任务超时（旧系统遗留任务，不进行退款，请联系管理员）"
    else "任务超时（" ++ toString timeoutMinutes ++ "分钟）"
  ({ task with status := .failure, progress := "100%", finishTime := now, failReason := reason },
    if task.isLegacy then .update oldStatus else .finalize oldStatus 0 reason)

/-! ## Finishing a task -/

def DbError.text : DbError → String
  | .recordNotFound => "record not found"
  | .duplicateKey => "duplicated key not allowed"
  | .insufficientQuota => "insufficient quota"
  | .message text => text
  | .diverges => ""

/-- What `FinalizeTaskBillingTransition` asks of the ledger for a terminal copy: a failed task is
refunded, a successful one settled. -/
def finalizeGoal (task : Task) (actualQuota : Int) : Option (DesiredState × Int) :=
  if task.status = .failure then some (.refund, 0)
  else if task.status ≠ .success then none
  else if actualQuota < 0 then none
  else some (.settle, actualQuota)

/-- The caller's copy after `UpdateTaskWithBilling` failed: the transaction is rolled back, but not
the fields that the hook has assigned to the copy once the balances had moved. -/
def Task.afterFailedTransition (task : Task) (now : Int) (desired : DesiredState) (target : Int)
    (db : Database) : Task :=
  match db.tasks.find? task.id with
  | none => task
  | some current =>
    let task := task.boundTo current
    match lockBillingLedgerTx db task.billingLedgerID with
    | .error _ => task
    | .ok ledger =>
      match applyTransitionBalances now db (ledger.open desired target) target with
      | .error _ => task
      | .ok _ => task.inTransition ledger desired target

/-- The caller's copy after a transition that went through. -/
def TaskTransition.finalCopy (r : TaskTransition Task) (desired : DesiredState) : Task :=
  match r.ledger with
  | none => r.task
  | some l => { r.task with
      billingLedgerID := l.id, billingState := some l.state, billingVersion := l.version
      quota := if desired = .settle then l.appliedQuota else r.task.quota }

/-- A `MarkBillingLedgerForReconcile` that `FinalizeTaskBillingTransition` still has to run. -/
structure PendingMark where
  ledgerID : Nat
  desired : DesiredState
  target : Int
  cause : String
  deriving DecidableEq

/-- The operation that runs it. -/
def PendingMark.op (m : PendingMark) : LedgerOp :=
  .markForReconcile m.ledgerID m.desired m.target (some m.cause) []

/-- **`FinalizeTaskBillingTransition`** up to its first transaction: the database, the caller's
copy, and the mark for reconciliation that follows when it failed, in a transaction of its own. -/
def finalizeTaskBillingTransition (now : Int) (task : Task) (fromStatus : TaskStatus)
    (actualQuota : Int) (reason : String) (db : Database) : Database × Task × Option PendingMark :=
  match finalizeGoal task actualQuota with
  | none => (db, task, none)
  | some (desired, target) =>
    match transaction (updateTaskWithBilling now task fromStatus desired target reason) db with
    | (db', .ok r) => (db', r.finalCopy desired, none)
    | (db', .error e) =>
      let task := task.afterFailedTransition now desired target db
      (db', task,
        if 0 < task.billingLedgerID then some ⟨task.billingLedgerID, desired, target, e.text⟩
        else none)

/-- What a poll of one copy gets to see. -/
inductive PollAnswer
  | sweep (timeoutMinutes : Int)
  | video (body : String)
  | suno (item : SunoDataResponse)
  | realtime (info : TaskInfo)
  deriving DecidableEq

/-- What a poll makes of a copy. The sweep lists unfinished tasks only, a realtime fetch asks
channels of two types only. -/
def PollAnswer.apply (a : PollingAdaptor) (now : Int) (db : Database) (task : Task) :
    PollAnswer → Task × PollDecision
  | .sweep minutes => if task.unfinished then sweepTask now minutes task else (task, .nothing)
  | .video body => updateVideoSingleTask a now body task
  | .suno item => updateSunoTask item task
  | .realtime info =>
    match db.channels.find? task.channelId with
    | some channel => if channel.realtime then tryRealtimeFetch a info task else (task, .nothing)
    | none => (task, .nothing)

/-! ## What a poll leaves alone -/

theorem applyVideoResult_eq_some {a : PollingAdaptor} {now : Int} {result : TaskInfo}
    {task task' : Task} {quota : Int} {reason : String}
    (h : applyVideoResult a now result task = some (task', quota, reason)) :
    task'.id = task.id ∧ task'.channelId = task.channelId ∧ task'.billing = task.billing := by
  unfold applyVideoResult at h
  cases hstatus : result.status <;> rw [hstatus] at h <;>
    obtain ⟨rfl, -⟩ := h <;> exact ⟨rfl, rfl, rfl⟩

/-- **What a poll makes of a copy**, as far as the ledger is concerned: it keeps its id, channel and
billing columns, and only a status that `unbilled` allows is written as a new terminal one. -/
structure PollSpec (task : Task) (unbilled : Option TaskStatus) (r : Task × PollDecision) : Prop where
  id : r.1.id = task.id
  channel : r.1.channelId = task.channelId
  billing : r.1.billing = task.billing
  decision : r.2 = .nothing ∨ (∃ quota reason, r.2 = .finalize task.status quota reason) ∨
    r.2 = .update task.status ∧
      (r.1.status.terminal = true → r.1.status = task.status ∨ unbilled = some r.1.status)

variable {unbilled : Option TaskStatus} {r : Task × PollDecision} {copy : Task}

theorem PollSpec.ledgerID (h : PollSpec copy unbilled r) :
    r.1.billingLedgerID = copy.billingLedgerID :=
  congrArg TaskBillingColumns.ledgerID h.billing

/-- A copy that is written back has the status of the task, an unfinished one, or an unbilled
one. -/
theorem PollSpec.of_update (h : PollSpec copy unbilled r) (hupdate : r.2 = .update copy.status) :
    r.1.status.terminal = true → r.1.status = copy.status ∨ unbilled = some r.1.status := by
  rcases h.decision with hnone | ⟨quota, reason, hfinal⟩ | ⟨-, hstatus⟩
  · cases hupdate.symm.trans hnone
  · cases hupdate.symm.trans hfinal
  · exact hstatus

variable (a : PollingAdaptor) (now : Int) (task : Task)

theorem PollSpec.nothing (unbilled : Option TaskStatus) : PollSpec task unbilled (task, .nothing) :=
  ⟨rfl, rfl, rfl, .inl rfl⟩

/-- A video poll finalizes every status that is new and terminal. -/
theorem pollSpec_video (body : String) (task : Task) :
    PollSpec task none (updateVideoSingleTask a now body task) := by
  unfold updateVideoSingleTask
  cases a.parse body with
  | none => exact .nothing task none
  | some parsed =>
    dsimp only
    cases readEmptyStatus a body parsed with
    | none => exact ⟨rfl, rfl, rfl, .inl rfl⟩
    | some result =>
      dsimp only
      cases happly : applyVideoResult a now result
          { task with data := a.redactVideoResponseBody body } with
      | none => exact ⟨rfl, rfl, rfl, .inl rfl⟩
      | some r =>
        obtain ⟨t, quota, reason⟩ := r
        obtain ⟨hid, hchannel, hbilling⟩ := applyVideoResult_eq_some happly
        refine ⟨hid, hchannel, hbilling, ?_⟩
        dsimp only
        split
        · exact .inr (.inl ⟨quota, reason, rfl⟩)
        · next hsame =>
          split
          · refine .inr (.inr ⟨rfl, fun hterminal => .inl ?_⟩)
            by_contra hne
            exact hsame (by simp [Task.snapshot, hterminal, Ne.symm hne])
          · exact .inl rfl

theorem pollSpec_suno (item : SunoDataResponse) (task : Task) :
    PollSpec task none (updateSunoTask item task) := by
  unfold updateSunoTask
  split
  · exact .nothing task none
  · refine ⟨rfl, rfl, rfl, ?_⟩
    dsimp only
    split
    · exact .inr (.inl ⟨_, _, rfl⟩)
    · next hopen => exact .inr (.inr ⟨rfl, fun hterminal => absurd hterminal hopen⟩)

theorem pollSpec_realtime (info : TaskInfo) (task : Task) :
    PollSpec task (some info.status) (tryRealtimeFetch a info task) := by
  have hstatus : (if info.status ≠ .none then info.status else task.status) = task.status ∨
      some info.status = some (if info.status ≠ .none then info.status else task.status) := by
    by_cases hnew : info.status ≠ .none
    · exact .inr (by rw [if_pos hnew])
    · exact .inl (if_neg hnew)
  refine ⟨rfl, rfl, rfl, ?_⟩
  rcases ite_eq_or_eq (task.snapshot ≠ Task.snapshot _) (PollDecision.update task.status)
    PollDecision.nothing with hwrite | hkeep
  · exact .inr (.inr ⟨hwrite, fun _ => hstatus⟩)
  · exact .inl hkeep

theorem pollSpec_sweep (minutes : Int) (task : Task) :
    PollSpec task (if task.isLegacy then some .failure else none) (sweepTask now minutes task) := by
  unfold sweepTask
  refine ⟨rfl, rfl, rfl, ?_⟩
  split
  · exact .inr (.inr ⟨rfl, fun _ => .inr rfl⟩)
  · exact .inr (.inl ⟨_, _, rfl⟩)

/-- The status that a poll may write past the ledger: that of a realtime fetch, and the failure of a
timed-out old task. -/
def PollAnswer.unbilledStatus (task : Task) : PollAnswer → Option TaskStatus
  | .sweep _ => if task.isLegacy then some .failure else none
  | .video _ | .suno _ => none
  | .realtime info => some info.status

theorem PollAnswer.apply_spec (db : Database) (task : Task) (answer : PollAnswer) :
    PollSpec task (answer.unbilledStatus task) (answer.apply a now db task) := by
  cases answer with
  | sweep minutes =>
    rw [PollAnswer.apply]
    split
    · exact pollSpec_sweep now minutes task
    · exact .nothing task _
  | video body => exact pollSpec_video a now body task
  | suno item => exact pollSpec_suno item task
  | realtime info =>
    rw [PollAnswer.apply]
    split
    · split
      · exact pollSpec_realtime a info task
      · exact .nothing task _
    · exact .nothing task _

/-- **The database among its pollers**: the copies that pollers and fetches hold, and the marks
still to be written. -/
structure TaskSystem where
  db : Database
  copies : List Task
  pending : List PendingMark

/-- One atomic event of the system. -/
inductive TaskEvent
  | ledger (op : LedgerOp)
  | read (id : Int)
  | poll (copy : Task) (answer : PollAnswer)
  /-- The poller fails the tasks of copies it holds: their channel could not be loaded (a reason),
  or they have no upstream id (none). -/
  | bulkFail (copies : List Task) (reason : Option String)
  | mark (m : PendingMark)
  deriving DecidableEq

structure TimedTaskEvent where
  now : Int
  event : TaskEvent
  deriving DecidableEq

def TaskSystem.carryOut (now : Int) (s : TaskSystem) (task : Task) : PollDecision → TaskSystem
  | .nothing => { s with copies := task :: s.copies }
  | .update fromStatus =>
    { s with db := (updateWithStatus now task fromStatus s.db).1, copies := task :: s.copies }
  | .finalize fromStatus actualQuota reason =>
    let (db, task, mark) := finalizeTaskBillingTransition now task fromStatus actualQuota reason s.db
    { db := db, copies := task :: s.copies, pending := mark.toList ++ s.pending }

/-- **One step of the system.** A poll of a copy nobody holds and a mark nobody has to write do
nothing. -/
def TaskSystem.step (cal : Calendar) (a : PollingAdaptor) (s : TaskSystem) (e : TimedTaskEvent) :
    TaskSystem :=
  match e.event with
  | .ledger op => { s with db := op.exec cal e.now s.db }
  | .read id =>
    match s.db.tasks.find? id with
    | none => s
    | some task => { s with copies := task :: s.copies }
  | .poll copy answer =>
    if copy ∈ s.copies then
      let (task, decision) := answer.apply a e.now s.db copy
      s.carryOut e.now task decision
    else s
  | .bulkFail copies reason =>
    if ∀ c ∈ copies, c ∈ s.copies then
      { s with db := taskBulkUpdateByID e.now (copies.map Task.id) reason s.db }
    else s
  | .mark m =>
    if m ∈ s.pending then
      { s with db := m.op.exec cal e.now s.db, pending := s.pending.erase m }
    else s

/-! ## A sample adaptor -/

/-- An upstream that answers with the bare word of a status, and with an error to anything else. -/
def sampleAdaptor : PollingAdaptor :=
  { parseTaskResponse := fun _ => none
    parseTaskResult := fun body =>
      let status : TaskStatus :=
        if body = "running" then .inProgress
        else if body = "done" then .success
        else if body = "failed" then .failure
        else .none
      some { status := status, reason := "", url := "", progress := "", totalTokens := 0 }
    parseError := fun _ => .openAIError "task_not_exist"
    redactVideoResponseBody := fun body => body
    adjustBillingOnComplete := fun _ _ => 0
    calculateTaskQuotaByTokens := fun _ _ => none
    buildProxyURL := fun taskID => "/v1/videos/" ++ taskID ++ "/content" }

/-- A task of the sample user as it is prepared before its submission. -/
def sampleTask : Task :=
  { id := 0, createdAt := 0, updatedAt := 0, taskID := "task_a", platform := .channelType "24"
    userId := 1, group := "default", channelId := 1, quota := 0, billingLedgerID := 0
    billingState := none, billingVersion := 0, action := "generate", status := .notStart
    failReason := "", submitTime := 1800000000, startTime := 0, finishTime := 0, progress := "0%"
    properties := { input := "", upstreamModelName := "video", originModelName := "video" }
    privateData :=
      { key := "", upstreamTaskID := "", resultURL := "", billingSource := some .wallet
        subscriptionId := 0, tokenId := 1, billingContext := none }
    data := "" }

/-- The same task once the upstream has accepted it. -/
def acceptedTask : Task :=
  { sampleTask with
    id := 1, data := "accepted"
    privateData := { sampleTask.privateData with upstreamTaskID := "up_1" } }

/-- The submission of the sample task: reserved, bound, acknowledged and settled. -/
def sampleSubmission : List TimedTaskEvent :=
  [⟨2000, .ledger (.reserve (sampleReservation "r1" .wallet 30))⟩,
   ⟨2001, .ledger (.bind 1 (some sampleTask))⟩,
   ⟨2002, .ledger (.acknowledge 1 30 (some acceptedTask))⟩, ⟨2003, .ledger (.settle 1 30 [])⟩]

/-- The row of the submitted task. -/
def submittedTask : Task :=
  { acceptedTask with
    createdAt := 2001, updatedAt := 2003, quota := 30, billingLedgerID := 1
    billingState := some .settled, billingVersion := 4 }

/-- The same task after a poll that saw it running. -/
def runningTask : Task :=
  { submittedTask with
    status := .inProgress, progress := "30%", startTime := 2005, data := "running" }

/-- The events after the submission and a read of its row. -/
def sampleRun (db : Database) (es : List TimedTaskEvent) : TaskSystem :=
  run (TaskSystem.step sampleCalendar sampleAdaptor) ⟨db, [], []⟩
    (sampleSubmission ++ ⟨2004, .read 1⟩ :: es)

end RenewApi.Billing
