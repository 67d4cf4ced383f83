import RenewApi.Billing.Subscription
import Mathlib.Data.Rat.Floor

/-! # Payment orders

The rows of `model/payment_snapshot.go`, `model/topup.go` and `model/subscription.go` that a payment
goes through, and the arithmetic of money.

* **Money** is `Rat`: the code computes with exact decimals. `IntPart` truncates, and the result
  wraps to 64 bits.
* **`PaymentStore`** is the database of `RenewApi.Billing` with the tables the ledger does not
  read. -/

namespace RenewApi.Payments

open Billing Relational

inductive OrderStatus
  | pending
  | success
  | expired
  | failed
  | other (raw : String)
  deriving DecidableEq

inductive PaymentProvider
  | epay
  | stripe
  | creem
  | waffo
  | waffoPancake
  | balance
  | other (raw : String)
  deriving DecidableEq

/-- `payment_state`: what is known about the payment of an order, independently of its status.
`none` is the empty column. -/
inductive PaymentState
  | none
  | unpaid
  | checkoutUnknown
  | paid
  | paidReview
  | manualOverride
  | other (raw : String)
  deriving DecidableEq

inductive DurationUnit
  | year
  | month
  | day
  | hour
  | custom
  | other (raw : String)
  deriving DecidableEq

/-! ## Rows -/

/-- `PaymentSnapshot`: the quote an order was made under and what became of its payment. -/
structure PaymentSnapshot where
  quoteVersion : Int
  currency : String
  expectedMinor : Int
  creditQuota : Int
  checkoutSessionID : String
  checkoutPriceID : String
  allowPromotionCodes : Bool
  paidMinor : Int
  paymentState : PaymentState
  fulfillmentError : String
  deriving DecidableEq

/-- The zero snapshot of an order that was not made under a quote. -/
def PaymentSnapshot.zero : PaymentSnapshot :=
  { quoteVersion := 0, currency := "", expectedMinor := 0, creditQuota := 0, checkoutSessionID := ""
    checkoutPriceID := "", allowPromotionCodes := false, paidMinor := 0, paymentState := .none
    fulfillmentError := "" }

/-- `model.TopUp`, with its embedded snapshot. -/
structure TopUp extends PaymentSnapshot where
  id : Int
  userId : Int
  amount : Int
  money : Rat
  tradeNo : String
  paymentMethod : String
  paymentProvider : PaymentProvider
  createTime : Int
  completeTime : Int
  status : OrderStatus
  deriving DecidableEq

/-- `model.SubscriptionPlan` as the purchase functions read it: the schedule of `RenewApi.Billing`
and what is sold. -/
structure Plan extends SubscriptionPlan where
  priceAmount : Rat
  currency : String
  durationUnit : DurationUnit
  durationValue : Int
  customSeconds : Int
  enabled : Bool
  stripePriceId : String
  maxPurchasePerUser : Int
  upgradeGroup : String
  totalAmount : Int
  deriving DecidableEq

/-- `plan_snapshot`: the text of a plan as `Insert` marshals it, the empty text of older orders, or
a text that does not parse. -/
inductive PlanSnapshot
  | empty
  | plan (p : Plan)
  | invalid
  deriving DecidableEq

/-- `model.SubscriptionOrder`, with its embedded snapshot. -/
structure SubscriptionOrder extends PaymentSnapshot where
  planSnapshot : PlanSnapshot
  id : Int
  userId : Int
  planId : Int
  money : Rat
  tradeNo : String
  paymentMethod : String
  paymentProvider : PaymentProvider
  status : OrderStatus
  createTime : Int
  completeTime : Int
  providerPayload : String
  deriving DecidableEq

/-- The columns of `model.User` that only payments touch. -/
structure UserContact where
  id : Int
  email : String
  stripeCustomer : String
  deriving DecidableEq

instance instRowTopUp : Row TopUp Int := ⟨TopUp.id⟩
instance instRowPlan : Row Plan Int := ⟨fun p => p.id⟩
instance instRowSubscriptionOrder : Row SubscriptionOrder Int := ⟨SubscriptionOrder.id⟩
instance instRowUserContact : Row UserContact Int := ⟨UserContact.id⟩

@[simp] theorem key_topUp (t : TopUp) : Row.key t = t.id := rfl
@[simp] theorem key_order (o : SubscriptionOrder) : Row.key o = o.id := rfl

/-- **The database as payments see it.** -/
structure PaymentStore where
  db : Database
  plans : Table Plan
  contacts : Table UserContact
  topUps : Table TopUp
  orders : Table SubscriptionOrder

/-- The store without rows. -/
def PaymentStore.empty : PaymentStore :=
  { db := .empty, plans := .empty, contacts := .empty, topUps := .empty, orders := .empty }

/-- What a payment function can fail with. -/
inductive PaymentError
  /-- An error of the database or of a function of `RenewApi.Billing`. -/
  | db (e : DbError)
  /-- `ErrPaymentMethodMismatch`. -/
  | paymentMethodMismatch
  /-- `ErrTopUpNotFound`. -/
  | topUpNotFound
  /-- `ErrTopUpStatusInvalid`. -/
  | topUpStatusInvalid
  /-- `ErrTopUpUnderpaid`, with the amounts its message shows. -/
  | topUpUnderpaid (paid expected : Rat)
  /-- `ErrSubscriptionPurchaseLimit`. -/
  | subscriptionPurchaseLimit
  /-- `ErrSubscriptionOrderNotFound`. -/
  | subscriptionOrderNotFound
  /-- `ErrSubscriptionOrderStatusInvalid`. -/
  | subscriptionOrderStatusInvalid
  /-- `errors.New(text)`. -/
  | message (text : String)
  deriving DecidableEq

/-- What a call returns: the store that it leaves, and its answer. -/
abbrev PaymentResponse (α : Type) := PaymentStore × Except PaymentError α

/-- `gorm.ErrRecordNotFound`. -/
def PaymentError.recordNotFound : PaymentError := .db .recordNotFound

/-- A failure of the billing database as a failure of a payment. -/
def liftDb {α : Type} : Except DbError α → Except PaymentError α
  | .ok a => .ok a
  | .error e => .error (.db e)

@[simp] theorem liftDb_eq_ok {α : Type} {x : Except DbError α} {a : α} :
    liftDb x = .ok a ↔ x = .ok a := by
  cases x <;> simp [liftDb]

/-! ## Money -/

/-- What payments read of the configuration and of the Unicode tables. -/
structure PaymentConfig where
  /-- `common.QuotaPerUnit`, as the decimal it is converted to. -/
  quotaPerUnit : Rat
  /-- A representative of the characters that `strings.EqualFold` identifies. -/
  foldCase : Char → Char
  /-- `unicode.ToLower`. -/
  toLower : Char → Char

/-- `decimal.IntPart`: truncation towards zero. -/
def intPart (q : Rat) : Int := q.num.tdiv q.den

/-- Conversion to a 64-bit integer: what does not fit wraps around. -/
def wrapInt64 (n : Int) : Int := n.bmod (2 ^ 64)

/-- `decimal.Round(0)`: to the nearest integer, halves away from zero. -/
def roundHalfAway (q : Rat) : Int := if q < 0 then -⌊-q + 1 / 2⌋ else ⌊q + 1 / 2⌋

variable (cfg : PaymentConfig)

def PaymentConfig.quotaOfAmount (amount : Int) : Int :=
  wrapInt64 (intPart (amount * cfg.quotaPerUnit))

def PaymentConfig.equalFold (a b : String) : Prop :=
  a.toList.map cfg.foldCase = b.toList.map cfg.foldCase
  deriving Decidable

/-- The currencies without a minor unit. -/
def zeroDecimalCurrencies : List String :=
  ["jpy", "krw", "vnd", "clp", "djf", "gnf", "kmf", "mga", "pyg", "rwf", "ugx", "vuv", "xaf", "xof",
    "xpf", "bif"]

/-- The currencies whose minor unit is a thousandth. -/
def threeDecimalCurrencies : List String := ["bhd", "jod", "kwd", "omr", "tnd"]

def PaymentConfig.minorExponent (currency : String) : Nat :=
  let lower := String.ofList (currency.toList.map cfg.toLower)
  if lower ∈ zeroDecimalCurrencies then 0 else if lower ∈ threeDecimalCurrencies then 3 else 2

def PaymentConfig.currencyMinorAmount (amount : Rat) (currency : String) :
    Option Int :=
  if amount < 0 then none
  else
    let value := roundHalfAway (amount * 10 ^ cfg.minorExponent currency)
    if value ≤ 0 ∨ 999999999999 < value then none else some value

/-- `paidAmountCoversOrder`: an order that costs nothing is covered, any other up to a millionth. -/
def paidAmountCoversOrder (paidAmount expectedAmount : Rat) : Prop :=
  expectedAmount ≤ 0 ∨ expectedAmount ≤ paidAmount + 1 / 1000000
  deriving Decidable

/-! ## Users -/

section

variable (db : Database)

/-- The live row of a user: `Model(&User{})` does not see soft-deleted ones. -/
def liveUser (userId : Int) : Option User :=
  (db.users.find? userId).filter fun u => !u.deleted

def quotaOf (userId : Int) : Int := db.users.read userId User.quota

/-- `UPDATE users SET quota = quota + ? WHERE id = ?`: a user that is missing or soft-deleted is not
matched. -/
def addUserQuota (userId quota : Int) : Database :=
  { db with
    users := db.users.updateWhere (fun u => !u.deleted && u.id = userId)
      (fun u => { u with quota := u.quota + quota }) }

/-- The rows that statement affects. -/
def usersAffected (userId : Int) : Nat :=
  db.users.count fun u => !u.deleted && u.id = userId

theorem quotaOf_addUserQuota (userId quota u : Int) :
    quotaOf (addUserQuota db userId quota) u
      = quotaOf db u + if u = userId ∧ (liveUser db userId).isSome then quota else 0 := by
  unfold quotaOf addUserQuota Table.read liveUser
  rw [Table.find?_updateWhere]
  cases hfind : db.users.find? u with
  | none =>
    have hnone : ¬ (u = userId ∧ ((db.users.find? userId).filter fun u => !u.deleted).isSome) := by
      rintro ⟨rfl, hsome⟩
      rw [hfind] at hsome
      cases hsome
    rw [if_neg hnone]
    rfl
  | some row =>
    have hid : row.id = u := Table.key_of_find? hfind
    by_cases hu : u = userId
    · subst hu
      rw [hfind]
      cases hdeleted : row.deleted <;> simp [hid, hdeleted]
    · simp [hid, hu]

theorem usersAffected_eq_one_iff (userId : Int) :
    usersAffected db userId = 1 ↔ (liveUser db userId).isSome := by
  unfold usersAffected liveUser
  rw [Table.count_key_eq_one_iff (k := userId) (by simp)]
  constructor
  · rintro ⟨u, hu, hp⟩
    simp only [Bool.and_eq_true] at hp
    rw [hu]
    simp [hp.1]
  · intro h
    cases hfind : db.users.find? userId with
    | none => rw [hfind] at h; cases h
    | some u =>
      rw [hfind] at h
      have hlive : u.deleted = false := by
        cases hdeleted : u.deleted with
        | false => rfl
        | true => simp [hdeleted] at h
      have hid : u.id = userId := Table.key_of_find? hfind
      exact ⟨u, rfl, by simp [hlive, hid]⟩

end

/-- Half a million quota to the unit, and letters without case. -/
def sampleConfig : PaymentConfig :=
  { quotaPerUnit := 500000, foldCase := id, toLower := id }

end RenewApi.Payments
