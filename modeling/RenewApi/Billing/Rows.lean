import RenewApi.Relational.Transaction
import Mathlib.Algebra.Order.Ring.Int
import Mathlib.Algebra.Order.Ring.Nat

/-! # The rows of the billing database

The tables of the billing ledger, its balances and its asynchronous tasks, column by column as the
files under `model/` declare them; columns that no modelled function uses are left out.

Columns that hold one of a fixed set of words are inductive types, with an `other` case where the
code stores a word it has not checked. Row ids and quotas are `Int`, ledger ids `Nat`. -/

namespace RenewApi.Billing

open Relational

/-- `BillingLedgerState*`: where a ledger is in its life cycle. -/
inductive LedgerState
  | reserved
  | settling
  | settled
  | compensating
  | refunded
  | reconcileRequired
  deriving DecidableEq

def LedgerState.text : LedgerState → String
  | .reserved => "reserved"
  | .settling => "settling"
  | .settled => "settled"
  | .compensating => "compensating"
  | .refunded => "refunded"
  | .reconcileRequired => "reconcile_required"

/-- `desired_state`: the transition a ledger is meant to complete. `unset` is the empty column,
`other` a word the transition code does not support. -/
inductive DesiredState
  | unset
  | settle
  | refund
  | other (raw : String)
  deriving DecidableEq

/-- `BillingComponentState*`: whether one leg of a ledger has been applied. -/
inductive ComponentState
  | pending
  | applied
  | notApplicable
  deriving DecidableEq

/-- `mode`: who owns the accounting of a ledger. -/
inductive LedgerMode
  | off
  | shadow
  | enforce
  | other (raw : String)
  deriving DecidableEq

/-- `funding_source`: what a ledger is charged to. -/
inductive FundingSource
  | wallet
  | subscription
  | other (raw : String)
  deriving DecidableEq

/-- `kind`: an ordinary request or an asynchronous task. -/
inductive LedgerKind
  | request
  | task
  | other (raw : String)
  deriving DecidableEq

/-- `TaskStatus`: `none` is the empty string, `other` any further word an upstream may answer. -/
inductive TaskStatus
  | none
  | notStart
  | submitted
  | queued
  | inProgress
  | failure
  | success
  | unknown
  | other (raw : String)
  deriving DecidableEq

/-- A status after which the poller never looks at a task again. -/
def TaskStatus.terminal : TaskStatus → Bool
  | .failure | .success => true
  | _ => false

/-- `constant.TaskPlatform`: the two named platforms, or the number of a channel type. -/
inductive TaskPlatform
  | suno
  | midjourney
  | channelType (raw : String)
  deriving DecidableEq

inductive SubscriptionStatus
  | active
  | expired
  | cancelled
  deriving DecidableEq

/-- `quota_reset_period` after `NormalizeResetPeriod`: any other text means `never`. -/
inductive ResetPeriod
  | never
  | daily
  | weekly
  | monthly
  | custom
  deriving DecidableEq

/-- `SubscriptionPreConsumeRecord.Status`. -/
inductive PreConsumeStatus
  | consumed
  | refunded
  deriving DecidableEq

/-- The event types written to the outbox: a ledger state, or the binding of a pending task. -/
inductive OutboxEvent
  | state (s : LedgerState)
  | taskBound
  deriving DecidableEq

def OutboxEvent.text : OutboxEvent → String
  | .state s => s.text
  | .taskBound => "task_bound"

/-! ## Rows -/

/-- `model.BillingLedger`. -/
structure BillingLedger where
  id : Nat
  requestID : String
  kind : LedgerKind
  mode : LedgerMode
  state : LedgerState
  desiredState : DesiredState
  fundingSource : FundingSource
  userID : Int
  tokenID : Int
  channelID : Int
  subscriptionID : Int
  reservedQuota : Int
  actualQuota : Int
  appliedQuota : Int
  desiredQuota : Int
  countedQuota : Int
  requestCounted : Bool
  tokenUnlimited : Bool
  playground : Bool
  fundingState : ComponentState
  tokenState : ComponentState
  subscriptionState : ComponentState
  statisticsState : ComponentState
  version : Int
  attempts : Int
  nextRetryAt : Int
  lastError : String
  createdAt : Int
  updatedAt : Int
  deriving DecidableEq

/-- `model.User`: the wallet and the usage counters, and the group a subscription may upgrade. -/
structure User where
  id : Int
  quota : Int
  usedQuota : Int
  requestCount : Int
  group : String
  /-- `deleted_at IS NOT NULL`: soft-deleted rows are invisible to `Model(&User{})`. -/
  deleted : Bool
  deriving DecidableEq

/-- `model.Token`. -/
structure Token where
  id : Int
  userId : Int
  accessedTime : Int
  remainQuota : Int
  unlimitedQuota : Bool
  usedQuota : Int
  /-- `deleted_at IS NOT NULL`: soft-deleted rows are invisible to `Model(&Token{})`. -/
  deleted : Bool
  deriving DecidableEq

/-- `model.Channel`: the usage counter and what the pollers read to reach the upstream. -/
structure Channel where
  id : Int
  type : Int
  key : String
  baseURL : Option String
  usedQuota : Int
  deriving DecidableEq

/-- `model.SubscriptionPlan`: the reset schedule. -/
structure SubscriptionPlan where
  id : Int
  quotaResetPeriod : ResetPeriod
  quotaResetCustomSeconds : Int
  deriving DecidableEq

/-- `model.UserSubscription`. -/
structure UserSubscription where
  id : Int
  userId : Int
  planId : Int
  amountTotal : Int
  amountUsed : Int
  startTime : Int
  endTime : Int
  status : SubscriptionStatus
  lastResetTime : Int
  nextResetTime : Int
  upgradeGroup : String
  prevUserGroup : String
  updatedAt : Int
  deriving DecidableEq

/-- `model.SubscriptionPreConsumeRecord`, keyed by its unique `request_id`. -/
structure SubscriptionPreConsumeRecord where
  requestId : String
  userId : Int
  userSubscriptionId : Int
  preConsumed : Int
  status : PreConsumeStatus
  createdAt : Int
  updatedAt : Int
  deriving DecidableEq

/-- `model.TaskBillingContext`: the prices a task was submitted under. -/
structure TaskBillingContext where
  modelPrice : Rat
  groupRatio : Rat
  modelRatio : Rat
  otherRatios : List (String × Rat)
  originModelName : String
  perCallBilling : Bool
  deriving DecidableEq

/-- `model.Properties`. -/
structure Properties where
  input : String
  upstreamModelName : String
  originModelName : String
  deriving DecidableEq

/-- `model.TaskPrivateData`. -/
structure TaskPrivateData where
  key : String
  upstreamTaskID : String
  resultURL : String
  billingSource : Option FundingSource
  subscriptionId : Int
  tokenId : Int
  billingContext : Option TaskBillingContext
  deriving DecidableEq

/-- `model.Task`. `billingState = none` is the empty column of a task without a ledger. -/
structure Task where
  id : Int
  createdAt : Int
  updatedAt : Int
  taskID : String
  platform : TaskPlatform
  userId : Int
  group : String
  channelId : Int
  quota : Int
  billingLedgerID : Nat
  billingState : Option LedgerState
  billingVersion : Int
  action : String
  status : TaskStatus
  failReason : String
  submitTime : Int
  startTime : Int
  finishTime : Int
  progress : String
  properties : Properties
  privateData : TaskPrivateData
  data : String
  deriving DecidableEq

/-- `model.Midjourney`: the columns the billing transitions read and write. Its status column is
plain text. -/
structure Midjourney where
  id : Int
  userId : Int
  mjId : String
  status : String
  progress : String
  failReason : String
  channelId : Int
  quota : Int
  billingLedgerID : Nat
  billingState : Option LedgerState
  billingVersion : Int
  deriving DecidableEq

/-- `billingEventPayload`, the ledger as an audit event shows it. -/
structure BillingEventPayload where
  ledgerID : Nat
  requestID : String
  kind : LedgerKind
  mode : LedgerMode
  state : LedgerState
  fundingSource : FundingSource
  userID : Int
  tokenID : Int
  channelID : Int
  subscriptionID : Int
  reservedQuota : Int
  actualQuota : Int
  appliedQuota : Int
  fundingState : ComponentState
  tokenState : ComponentState
  subscriptionState : ComponentState
  statisticsState : ComponentState
  version : Int
  deriving DecidableEq

/-- `model.BillingOutbox`, keyed by its unique `event_key`. -/
structure BillingOutbox where
  eventKey : String
  ledgerID : Nat
  requestID : String
  eventType : OutboxEvent
  payload : BillingEventPayload
  attempts : Int
  availableAt : Int
  processedAt : Int
  lastError : String
  createdAt : Int
  updatedAt : Int
  deriving DecidableEq

instance : Row BillingLedger Nat := ⟨BillingLedger.id⟩
instance : Row User Int := ⟨User.id⟩
instance : Row Token Int := ⟨Token.id⟩
instance : Row Channel Int := ⟨Channel.id⟩
instance : Row SubscriptionPlan Int := ⟨SubscriptionPlan.id⟩
instance : Row UserSubscription Int := ⟨UserSubscription.id⟩
instance : Row SubscriptionPreConsumeRecord String := ⟨SubscriptionPreConsumeRecord.requestId⟩
instance : Row Task Int := ⟨Task.id⟩
instance : Row Midjourney Int := ⟨Midjourney.id⟩
instance : Row BillingOutbox String := ⟨BillingOutbox.eventKey⟩

@[simp] theorem key_ledger (l : BillingLedger) : Row.key l = l.id := rfl
@[simp] theorem key_user (u : User) : Row.key u = u.id := rfl
@[simp] theorem key_token (t : Token) : Row.key t = t.id := rfl
@[simp] theorem key_channel (c : Channel) : Row.key c = c.id := rfl
@[simp] theorem key_subscription (s : UserSubscription) : Row.key s = s.id := rfl
@[simp] theorem key_task (t : Task) : Row.key t = t.id := rfl

/-- **The database**: one table per model. -/
structure Database where
  ledgers : Table BillingLedger
  users : Table User
  tokens : Table Token
  channels : Table Channel
  plans : Table SubscriptionPlan
  subscriptions : Table UserSubscription
  preConsumeRecords : Table SubscriptionPreConsumeRecord
  tasks : Table Task
  midjourneys : Table Midjourney
  outbox : Table BillingOutbox

/-- The database without rows. -/
def Database.empty : Database :=
  { ledgers := .empty, users := .empty, tokens := .empty, channels := .empty, plans := .empty
    subscriptions := .empty, preConsumeRecords := .empty, tasks := .empty, midjourneys := .empty
    outbox := .empty }

/-- What a statement or a transaction body can fail with. -/
inductive DbError
  /-- `gorm.ErrRecordNotFound`. -/
  | recordNotFound
  | duplicateKey
  /-- `ErrInsufficientQuota`. -/
  | insufficientQuota
  /-- `errors.New(text)`. -/
  | message (text : String)
  /-- Not an error of the code: the body runs a loop that never ends, so it never commits. -/
  | diverges
  deriving DecidableEq

/-- `AUTO_INCREMENT` of a table whose rows are never deleted: one more than the largest id. -/
def nextId {α : Type*} [Semiring α] [LinearOrder α] (ids : List α) : α := ids.foldr max 0 + 1

section

variable {α : Type*} [Semiring α] [LinearOrder α] [IsStrictOrderedRing α] {ids : List α} {i : α}

omit [IsStrictOrderedRing α] in
theorem le_foldr_max (h : i ∈ ids) : i ≤ ids.foldr max 0 := by
  induction ids with
  | nil => simp at h
  | cons x xs ih =>
    rcases List.mem_cons.mp h with rfl | h'
    · exact le_max_left _ _
    · exact (ih h').trans (le_max_right _ _)

theorem lt_nextId (h : i ∈ ids) : i < nextId ids :=
  lt_of_le_of_lt (le_foldr_max h) (lt_add_one _)

theorem nextId_pos (ids : List α) : 0 < nextId ids := by
  have h : 0 ≤ ids.foldr max 0 := by
    cases ids with
    | nil => exact le_rfl
    | cons x xs =>
      induction xs with
      | nil => exact le_max_right _ _
      | cons y ys ih => exact ih.trans (max_le_max_left x (le_max_right y _))
  exact lt_of_le_of_lt h (lt_add_one _)

end

end RenewApi.Billing
