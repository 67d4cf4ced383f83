import RenewApi.Payments.TopUps

/-! # Buying subscriptions

`model/subscription.go`: how a subscription comes about. An order reserves a slot of its plan when
it is inserted and turns it into a subscription when it is paid; an administrator and a user with
enough quota get a subscription at once. All of them count the subscriptions and the pending orders
of the user before (`checkPurchaseCapacityTx`), under a lock on the user's row.

The ids that the database hands out to new rows are arguments (`FreshIds`); an id that is in use or
not positive is refused like a duplicate. -/

namespace RenewApi.Payments

open Billing Relational Prod

variable {o : SubscriptionOrder} {tradeNo : String}

/-- `time.AddDate` in the location of the process, on Unix times. -/
structure DateArithmetic where
  addYears : Int → Int → Int
  addMonths : Int → Int → Int

/-- What a call reads of the world: the calendar, the clock, and the configuration. -/
structure PaymentContext where
  cfg : PaymentConfig
  cal : Calendar
  dates : DateArithmetic
  now : Int

/-- The ids that the database hands out during a call. -/
structure FreshIds where
  subscription : Int
  order : Int
  topUp : Int
  deriving DecidableEq

/-- When a plan that starts at `start` ends. -/
def calcPlanEndTime (dates : DateArithmetic) (start : Int) (plan : Plan) : Except PaymentError Int :=
  if plan.durationValue ≤ 0 ∧ plan.durationUnit ≠ .custom then
    .error (.message "duration_value must be > 0")
  else match plan.durationUnit with
    | .year => .ok (dates.addYears start plan.durationValue)
    | .month => .ok (dates.addMonths start plan.durationValue)
    | .day => .ok (start + secondsOfDuration (plan.durationValue * 86400))
    | .hour => .ok (start + secondsOfDuration (plan.durationValue * 3600))
    | .custom =>
      if plan.customSeconds ≤ 0 then .error (.message "custom_seconds must be > 0")
      else .ok (start + secondsOfDuration plan.customSeconds)
    | .other raw => .error (.message ("invalid duration_unit: " ++ raw))

/-- The group leg of a new subscription: the user moves to the plan's group, and the group before is
returned to be stored. A user who is there already stays, and nothing is stored. -/
def upgradeUserGroup (db : Database) (userId : Int) (upgradeGroup : String) :
    Except DbError (Database × String) :=
  if upgradeGroup = "" then .ok (db, "")
  else do
    let currentGroup ← getUserGroupByIdTx db userId
    if currentGroup ≠ upgradeGroup then .ok (setUserGroup db userId upgradeGroup, currentGroup)
    else .ok (db, "")

/-- The row of a new subscription. -/
def newSubscription (cal : Calendar) (now : Int) (id userId : Int) (plan : Plan) (endUnix : Int)
    (prevGroup : String) : UserSubscription :=
  let nextReset := calcNextResetTime cal now plan.toSubscriptionPlan endUnix
  { id := id, userId := userId, planId := plan.id, amountTotal := plan.totalAmount, amountUsed := 0
    startTime := now, endTime := endUnix, status := .active
    lastResetTime := if 0 < nextReset then now else 0, nextResetTime := nextReset
    upgradeGroup := trimSpace plan.upgradeGroup, prevUserGroup := prevGroup, updatedAt := now }

/-- Insert it and upgrade the user's group. -/
def createUserSubscriptionFromPlanTx (ctx : PaymentContext) (id : Int) (db : Database)
    (userId : Int) (plan : Plan) : Except PaymentError (Database × UserSubscription) :=
  if plan.id = 0 then .error (.message "invalid plan")
  else if userId ≤ 0 then .error (.message "invalid user id")
  else do
    let endUnix ← calcPlanEndTime ctx.dates ctx.now plan
    let (db, prevGroup) ← liftDb (upgradeUserGroup db userId (trimSpace plan.upgradeGroup))
    let sub := newSubscription ctx.cal ctx.now id userId plan endUnix prevGroup
    if id ≤ 0 ∨ (db.subscriptions.find? id).isSome then .error (.db .duplicateKey)
    else .ok ({ db with subscriptions := db.subscriptions.insert sub }, sub)

/-- Lock the user's row. -/
def lockPurchaseUserTx (db : Database) (userId : Int) : Except PaymentError Unit :=
  if (liveUser db userId).isNone then .error .recordNotFound else .ok ()

/-- The subscriptions of a plan that a user has or had. -/
def purchased (db : Database) (userId planId : Int) : Nat :=
  db.subscriptions.count fun s => s.userId = userId && s.planId = planId

/-- The pending orders of a user for a plan, but one. -/
def pendingOrders (orders : Table SubscriptionOrder) (userId planId excludeOrderID : Int) : Nat :=
  orders.count fun o =>
    o.userId = userId && o.planId = planId && o.status = .pending && o.id ≠ excludeOrderID

/-- The plan has a slot left for the user. -/
def checkPurchaseCapacityTx (s : PaymentStore) (userId : Int) (plan : Plan) (excludeOrderID : Int) :
    Except PaymentError Unit :=
  if plan.maxPurchasePerUser ≤ 0 then .ok ()
  else if plan.maxPurchasePerUser
      ≤ purchased s.db userId plan.id + pendingOrders s.orders userId plan.id excludeOrderID then
    .error .subscriptionPurchaseLimit
  else .ok ()

/-! ## Orders -/

/-- `Where("trade_no = ?").First(&order)`. -/
def PaymentStore.order? (s : PaymentStore) (tradeNo : String) : Option SubscriptionOrder :=
  s.orders.rows.find? fun o => o.tradeNo = tradeNo

/-- `Save(order)` of a row that was read. -/
def PaymentStore.saveOrder (s : PaymentStore) (o : SubscriptionOrder) : PaymentStore :=
  { s with orders := s.orders.put o }

theorem mem_of_order? {s : PaymentStore} (h : s.order? tradeNo = some o) : o ∈ s.orders.rows :=
  List.mem_of_find?_eq_some h

/-- `Create(order)`: ids and trade numbers are unique. -/
def createOrder (s : PaymentStore) (o : SubscriptionOrder) :
    Except PaymentError (PaymentStore × SubscriptionOrder) :=
  if o.id ≤ 0 ∨ (s.orders.find? o.id).isSome ∨ (s.order? o.tradeNo).isSome then
    .error (.db .duplicateKey)
  else .ok ({ s with orders := s.orders.insert o }, o)

/-- The quote of a Stripe order that `Insert` compares with the plan. -/
def quoteCurrent (cfg : PaymentConfig) (o : SubscriptionOrder) (plan : Plan) : Prop :=
  cfg.currencyMinorAmount plan.priceAmount plan.currency = some o.expectedMinor ∧
    cfg.equalFold plan.currency o.currency ∧ plan.stripePriceId = o.checkoutPriceID
  deriving Decidable

section

variable (ctx : PaymentContext) (ids : FreshIds)

/-- **`SubscriptionOrder.Insert`**: reserve a slot of the plan. -/
def insertSubscriptionOrder (o : SubscriptionOrder)
    (s : PaymentStore) : Except PaymentError (PaymentStore × SubscriptionOrder) := do
  lockPurchaseUserTx s.db o.userId
  match s.plans.find? o.planId with
  | none => .error .recordNotFound
  | some plan =>
    if ¬ plan.enabled then .error (.message "套餐未启用")
    else if o.money ≠ plan.priceAmount then
      .error (.message "套餐价格已变更，请刷新后重试")
    else if o.paymentProvider = .stripe ∧ 0 < o.quoteVersion ∧ ¬ quoteCurrent ctx.cfg o plan then
      .error (.message "套餐报价已变更，请刷新后重试")
    else do
      checkPurchaseCapacityTx s o.userId plan 0
      createOrder s { o with
        id := ids.order, planSnapshot := .plan plan
        createTime := if o.createTime = 0 then ctx.now else o.createTime }

def upsertSubscriptionTopUpTx (now id : Int) (order : SubscriptionOrder) (s : PaymentStore) :
    Except PaymentError PaymentStore :=
  match s.topUp? order.tradeNo with
  | none =>
    if id ≤ 0 ∨ (s.topUps.find? id).isSome then .error (.db .duplicateKey)
    else .ok { s with
      topUps := s.topUps.insert
        { PaymentSnapshot.zero with
          id := id, userId := order.userId, amount := 0, money := order.money
          tradeNo := order.tradeNo, paymentMethod := order.paymentMethod
          paymentProvider := .other "", createTime := order.createTime, completeTime := now
          status := .success } }
  | some t =>
    if t.paymentMethod ≠ "" ∧ t.paymentMethod ≠ order.paymentMethod then
      .error .paymentMethodMismatch
    else .ok (s.saveTopUp { t with
      money := order.money
      paymentMethod := if t.paymentMethod = "" then order.paymentMethod else t.paymentMethod
      createTime := if t.createTime = 0 then order.createTime else t.createTime
      completeTime := now, status := .success })

/-- Fulfilling an order: the subscription, then the record among the top-ups. -/
def fulfillOrder (order : SubscriptionOrder) (plan : Plan)
    (s : PaymentStore) : Except PaymentError PaymentStore := do
  let (db, _) ← createUserSubscriptionFromPlanTx ctx ids.subscription s.db order.userId plan
  upsertSubscriptionTopUpTx ctx.now ids.topUp order { s with db := db }

/-- The plan that was ordered. -/
def planOfOrder (s : PaymentStore) (order : SubscriptionOrder) : Except PaymentError Plan :=
  match order.planSnapshot with
  | .plan p => .ok p
  | .invalid => .error (.message "invalid plan snapshot")
  | .empty =>
    if order.planId ≤ 0 then .error (.message "invalid plan id")
    else match s.plans.find? order.planId with
      | none => .error .recordNotFound
      | some p => .ok p

/-- The transaction of `CompleteSubscriptionOrderWithPaidAmount`. -/
def completeSubscriptionOrderTx (order : SubscriptionOrder) (providerPayload : String)
    (expectedPaymentProvider : PaymentProvider) (actualPaymentMethod : String) (paidAmount : Rat)
    (s : PaymentStore) : Except PaymentError (PaymentStore × Unit) := do
  lockPurchaseUserTx s.db order.userId
  if expectedPaymentProvider ≠ .other "" ∧ order.paymentProvider ≠ expectedPaymentProvider then
    .error .paymentMethodMismatch
  else if order.paymentProvider = .stripe then
    .error (.message "Stripe orders require verified Checkout fulfillment")
  else if order.status = .success then .ok (s, ())
  else if order.status ≠ .pending then .error .subscriptionOrderStatusInvalid
  else if 0 ≤ paidAmount ∧ ¬ paidAmountCoversOrder paidAmount order.money then
    .error (.topUpUnderpaid paidAmount order.money)
  else do
    let plan ← planOfOrder s order
    checkPurchaseCapacityTx s order.userId plan order.id
    let s ← fulfillOrder ctx ids order plan s
    .ok (s.saveOrder { order with
      status := .success, completeTime := ctx.now
      providerPayload := if providerPayload ≠ "" then providerPayload else order.providerPayload
      paymentMethod := if actualPaymentMethod ≠ "" then actualPaymentMethod else order.paymentMethod },
      ())

def completeSubscriptionOrderWithPaidAmount (tradeNo : String) (providerPayload : String)
    (expectedPaymentProvider : PaymentProvider) (actualPaymentMethod : String) (paidAmount : Rat)
    (s : PaymentStore) : PaymentResponse Unit :=
  if tradeNo = "" then (s, .error (.message "tradeNo is empty"))
  else match s.order? tradeNo with
    | none => (s, .error .subscriptionOrderNotFound)
    | some order =>
      transaction (completeSubscriptionOrderTx ctx ids order providerPayload
        expectedPaymentProvider actualPaymentMethod paidAmount) s

end

section

variable (now : Int) (tradeNo : String) (expectedPaymentProvider : PaymentProvider)
  (s : PaymentStore)

/-- The transaction of `ExpireSubscriptionOrder`. -/
def expireSubscriptionOrderTx : Except PaymentError (PaymentStore × Unit) :=
  match s.order? tradeNo with
  | none => .error .subscriptionOrderNotFound
  | some order =>
    if expectedPaymentProvider ≠ .other "" ∧ order.paymentProvider ≠ expectedPaymentProvider then
      .error .paymentMethodMismatch
    else if order.status ≠ .pending then .ok (s, ())
    else .ok (s.saveOrder { order with status := .expired, completeTime := now }, ())

def expireSubscriptionOrder : PaymentResponse Unit :=
  if tradeNo = "" then (s, .error (.message "tradeNo is empty"))
  else transaction (expireSubscriptionOrderTx now tradeNo expectedPaymentProvider) s

end

/-! ## Purchases without a payment -/

/-- `getSubscriptionPlanByIdTx` on the full plan row. -/
def getPlanByIdTx (s : PaymentStore) (planId : Int) : Except PaymentError Plan :=
  if planId ≤ 0 then .error (.message "invalid plan id")
  else match s.plans.find? planId with
    | none => .error .recordNotFound
    | some plan => .ok plan

section

variable (ctx : PaymentContext) (ids : FreshIds) (userId planId : Int) (s : PaymentStore)

/-- The transaction of `AdminBindSubscription`. -/
def adminBindSubscriptionTx : Except PaymentError (PaymentStore × Plan) := do
  lockPurchaseUserTx s.db userId
  let plan ← getPlanByIdTx s planId
  checkPurchaseCapacityTx s userId plan 0
  let (db, _) ← createUserSubscriptionFromPlanTx ctx ids.subscription s.db userId plan
  .ok ({ s with db := db }, plan)

/-- **`AdminBindSubscription`**, with the message it returns. -/
def adminBindSubscription : PaymentResponse String :=
  if userId ≤ 0 ∨ planId ≤ 0 then (s, .error (.message "invalid userId or planId"))
  else
    let r := transaction (adminBindSubscriptionTx ctx ids userId planId) s
    (r.1, match r.2 with
      | .error e => .error e
      | .ok plan =>
        .ok (if trimSpace plan.upgradeGroup ≠ "" then "用户分组将升级到 " ++ plan.upgradeGroup else ""))

end

/-- The price in quota, rounded up. -/
def calcSubscriptionBalanceQuota (cfg : PaymentConfig) (priceAmount : Rat) : Except PaymentError Int :=
  if priceAmount ≤ 0 then .ok 0
  else if cfg.quotaPerUnit ≤ 0 then .error (.message "额度单位配置错误")
  else .ok (wrapInt64 ⌈priceAmount * cfg.quotaPerUnit⌉)

section

variable (ctx : PaymentContext) (ids : FreshIds) (nonce : String) (userId planId : Int)
  (s : PaymentStore)

/-- The transaction of `PurchaseSubscriptionWithBalance`; `nonce` is the random part of the trade
number. -/
def purchaseSubscriptionWithBalanceTx : Except PaymentError (PaymentStore × SubscriptionOrder) := do
  lockPurchaseUserTx s.db userId
  let plan ← getPlanByIdTx s planId
  if ¬ plan.enabled then .error (.message "套餐未启用")
  else if plan.priceAmount < 0 then .error (.message "套餐价格不能为负数")
  else do
    let requiredQuota ← calcSubscriptionBalanceQuota ctx.cfg plan.priceAmount
    if 0 < requiredQuota ∧ quotaOf s.db userId < requiredQuota then .error (.message "余额不足")
    else do
      let s := if 0 < requiredQuota then s.addQuota userId (-requiredQuota) else s
      checkPurchaseCapacityTx s userId plan 0
      let (db, _) ← createUserSubscriptionFromPlanTx ctx ids.subscription s.db userId plan
      createOrder { s with db := db }
        { PaymentSnapshot.zero with
          planSnapshot := .empty, id := ids.order, userId := userId, planId := plan.id
          money := plan.priceAmount
          tradeNo := "SUBBALUSR" ++ toString userId ++ "NO" ++ nonce, paymentMethod := "balance"
          paymentProvider := .balance, status := .success, createTime := ctx.now
          completeTime := ctx.now
          providerPayload := "charged_quota=" ++ toString requiredQuota }

def purchaseSubscriptionWithBalance : PaymentResponse SubscriptionOrder :=
  if userId ≤ 0 ∨ planId ≤ 0 then (s, .error (.message "invalid userId or planId"))
  else transaction (purchaseSubscriptionWithBalanceTx ctx ids nonce userId planId) s

end

/-! ## When they succeed -/

section

variable {ctx : PaymentContext} {ids : FreshIds} {s s' : PaymentStore} {db db' : Database}
  {userId planId id : Int} {plan : Plan} {order : SubscriptionOrder} {group : String}
  {sub : UserSubscription} {now : Int} {o' : SubscriptionOrder} {prevGroup : String}
  {provider : PaymentProvider}

section

variable (h : upgradeUserGroup db userId group = .ok (db', prevGroup))
include h

/-- **The group leg of a purchase**: nothing to upgrade, in the group already, or moved. -/
theorem upgradeUserGroup_eq_ok :
    (db' = db ∧ prevGroup = "" ∧ (group = "" ∨ getUserGroupByIdTx db userId = .ok group)) ∨
      (group ≠ "" ∧ getUserGroupByIdTx db userId = .ok prevGroup ∧ prevGroup ≠ group ∧
        db' = setUserGroup db userId group) := by
  unfold upgradeUserGroup at h
  split_ifs at h with hgroup
  · cases h
    exact .inl ⟨rfl, rfl, .inl hgroup⟩
  obtain ⟨current, hcurrent, h⟩ := bind_eq_ok.mp h
  by_cases hsame : current = group
  · rw [if_neg (not_not.mpr hsame)] at h
    cases h
    exact .inl ⟨rfl, rfl, .inr (hsame ▸ hcurrent)⟩
  · rw [if_pos hsame] at h
    cases h
    exact .inr ⟨hgroup, hcurrent, hsame, rfl⟩

theorem subscriptions_upgradeUserGroup : db'.subscriptions = db.subscriptions := by
  obtain ⟨rfl, -⟩ | ⟨-, -, -, rfl⟩ := upgradeUserGroup_eq_ok h
  · rfl
  · rfl

end

section

variable (h : createUserSubscriptionFromPlanTx ctx id db userId plan = .ok (db', sub))
include h

/-- **A subscription that was created**: its row, under a fresh id, after the group leg. -/
theorem createUserSubscriptionFromPlanTx_eq_ok :
    ∃ endUnix prevGroup db₁, calcPlanEndTime ctx.dates ctx.now plan = .ok endUnix ∧
      upgradeUserGroup db userId (trimSpace plan.upgradeGroup) = .ok (db₁, prevGroup) ∧
      sub = newSubscription ctx.cal ctx.now id userId plan endUnix prevGroup ∧
      0 < userId ∧ db.subscriptions.find? id = none ∧
      db' = { db₁ with subscriptions := db.subscriptions.insert sub } := by
  unfold createUserSubscriptionFromPlanTx at h
  rw [guard_eq_ok, guard_eq_ok, bind_eq_ok] at h
  obtain ⟨-, huser, endUnix, hend, h⟩ := h
  obtain ⟨⟨db₁, prevGroup⟩, hgroup, h⟩ := bind_eq_ok.mp h
  rw [liftDb_eq_ok] at hgroup
  obtain ⟨hfresh, h⟩ := guard_eq_ok.mp h
  obtain ⟨hdb, hsub⟩ := mk.inj (Except.ok.inj h)
  have hsubs := subscriptions_upgradeUserGroup hgroup
  refine ⟨endUnix, prevGroup, db₁, hend, hgroup, hsub.symm, not_le.mp huser, ?_, ?_⟩
  · rw [not_or, hsubs] at hfresh
    exact Option.not_isSome_iff_eq_none.mp hfresh.2
  · rw [← hdb, hsub, hsubs]

theorem subscriptions_createUserSubscriptionFromPlanTx :
    db'.subscriptions = db.subscriptions.insert sub ∧ db.subscriptions.find? sub.id = none ∧
      sub.userId = userId ∧ sub.planId = plan.id := by
  obtain ⟨endUnix, prevGroup, db₁, -, -, rfl, -, hfresh, rfl⟩ :=
    createUserSubscriptionFromPlanTx_eq_ok h
  exact ⟨rfl, hfresh, rfl, rfl⟩

end

theorem upsertSubscriptionTopUpTx_eq_ok (h : upsertSubscriptionTopUpTx now id order s = .ok s') :
    ∃ topUps, s' = { s with topUps := topUps } := by
  unfold upsertSubscriptionTopUpTx at h
  cases hfind : s.topUp? order.tradeNo with
  | none =>
    rw [hfind] at h
    rw [guard_eq_ok] at h
    exact ⟨_, (Except.ok.inj h.2).symm⟩
  | some t =>
    rw [hfind] at h
    rw [guard_eq_ok] at h
    exact ⟨_, (Except.ok.inj h.2).symm⟩

theorem fulfillOrder_eq_ok (h : fulfillOrder ctx ids order plan s = .ok s') :
    ∃ db' sub topUps,
      createUserSubscriptionFromPlanTx ctx ids.subscription s.db order.userId plan = .ok (db', sub) ∧
      s' = { s with db := db', topUps := topUps } := by
  obtain ⟨⟨db', sub⟩, hcreate, h⟩ := bind_eq_ok.mp h
  obtain ⟨topUps, rfl⟩ := upsertSubscriptionTopUpTx_eq_ok h
  exact ⟨db', sub, topUps, hcreate, rfl⟩

theorem createOrder_eq_ok (h : createOrder s o = .ok (s', o')) :
    0 < o.id ∧ s.orders.find? o.id = none ∧ s' = { s with orders := s.orders.insert o } ∧ o' = o := by
  unfold createOrder at h
  rw [guard_eq_ok, not_or, not_or] at h
  obtain ⟨⟨hid, hfresh, -⟩, h⟩ := h
  obtain ⟨hs, ho⟩ := mk.inj (Except.ok.inj h)
  exact ⟨not_le.mp hid, Option.not_isSome_iff_eq_none.mp hfresh, hs.symm, ho.symm⟩

/-- **An order that was inserted** is for a plan with a free slot, whose snapshot it carries. -/
theorem insertSubscriptionOrder_eq_ok (h : insertSubscriptionOrder ctx ids o s = .ok (s', o')) :
    ∃ plan, s.plans.find? o.planId = some plan ∧
      checkPurchaseCapacityTx s o.userId plan 0 = .ok () ∧
      o'.userId = o.userId ∧ o'.planId = o.planId ∧ o'.planSnapshot = .plan plan ∧ 0 < o'.id ∧
      s.orders.find? o'.id = none ∧ s' = { s with orders := s.orders.insert o' } := by
  obtain ⟨-, -, h⟩ := bind_eq_ok.mp h
  cases hplan : s.plans.find? o.planId with
  | none => rw [hplan] at h; cases h
  | some plan =>
    rw [hplan] at h
    rw [guard_eq_ok, guard_eq_ok, guard_eq_ok, bind_eq_ok] at h
    obtain ⟨-, -, -, ⟨⟩, hcapacity, h⟩ := h
    obtain ⟨hid, hfresh, rfl, rfl⟩ := createOrder_eq_ok h
    exact ⟨plan, rfl, hcapacity, rfl, rfl, rfl, hid, hfresh, rfl⟩

/-- **A completion that commits** found the order complete, or converts its slot. -/
theorem completeSubscriptionOrderTx_eq_ok {payload method : String} {paid : Rat}
    (h : completeSubscriptionOrderTx ctx ids order payload provider method paid s = .ok (s', ())) :
    (order.status = .success ∧ s' = s) ∨
      (order.status = .pending ∧ ∃ plan db' sub topUps method' payload',
        planOfOrder s order = .ok plan ∧
        checkPurchaseCapacityTx s order.userId plan order.id = .ok () ∧
        createUserSubscriptionFromPlanTx ctx ids.subscription s.db order.userId plan = .ok (db', sub) ∧
        s' = { s with
          db := db', topUps := topUps
          orders := s.orders.put { order with
            status := .success, completeTime := ctx.now, providerPayload := payload'
            paymentMethod := method' } }) := by
  unfold completeSubscriptionOrderTx at h
  obtain ⟨-, -, h⟩ := bind_eq_ok.mp h
  rw [guard_eq_ok, guard_eq_ok] at h
  obtain ⟨-, -, h⟩ := h
  rcases skip_eq_ok.mp h with ⟨hdone, heq⟩ | ⟨-, h⟩
  · exact .inl ⟨hdone, (mk.inj heq).1⟩
  rw [guard_eq_ok, guard_eq_ok, bind_eq_ok] at h
  obtain ⟨hpending, -, plan, hplan, h⟩ := h
  obtain ⟨⟨⟩, hcapacity, h⟩ := bind_eq_ok.mp h
  obtain ⟨s₁, hfulfill, h⟩ := bind_eq_ok.mp h
  obtain ⟨db', sub, topUps, hcreate, rfl⟩ := fulfillOrder_eq_ok hfulfill
  exact .inr ⟨not_not.mp hpending, plan, db', sub, topUps, _, _, hplan, hcapacity, hcreate,
    (ok_inj h).1⟩

theorem expireSubscriptionOrderTx_eq_ok
    (h : expireSubscriptionOrderTx now tradeNo provider s = .ok (s', ())) :
    s' = s ∨ ∃ order, s.order? tradeNo = some order ∧ order.status = .pending ∧
      s' = s.saveOrder { order with status := .expired, completeTime := now } := by
  unfold expireSubscriptionOrderTx at h
  cases hfind : s.order? tradeNo with
  | none => rw [hfind] at h; cases h
  | some order =>
    rw [hfind] at h
    obtain ⟨-, h⟩ := guard_eq_ok.mp h
    rcases skip_eq_ok.mp h with ⟨-, heq⟩ | ⟨hpending, h⟩
    · exact .inl (mk.inj heq).1
    · exact .inr ⟨order, rfl, not_not.mp hpending, (ok_inj h).1⟩

theorem getPlanByIdTx_eq_ok (h : getPlanByIdTx s planId = .ok plan) :
    s.plans.find? planId = some plan := by
  obtain ⟨-, h⟩ := guard_eq_ok.mp h
  cases hfind : s.plans.find? planId with
  | none => rw [hfind] at h; cases h
  | some p => rw [hfind] at h; exact congrArg some (Except.ok.inj h)

/-- **A binding that commits** takes a free slot of the plan. -/
theorem adminBindSubscriptionTx_eq_ok
    (h : adminBindSubscriptionTx ctx ids userId planId s = .ok (s', plan)) :
    s.plans.find? planId = some plan ∧ checkPurchaseCapacityTx s userId plan 0 = .ok () ∧
      ∃ db' sub, createUserSubscriptionFromPlanTx ctx ids.subscription s.db userId plan = .ok (db', sub) ∧
        s' = { s with db := db' } := by
  unfold adminBindSubscriptionTx at h
  obtain ⟨-, -, h⟩ := bind_eq_ok.mp h
  obtain ⟨p, hplan, h⟩ := bind_eq_ok.mp h
  obtain ⟨⟨⟩, hcapacity, h⟩ := bind_eq_ok.mp h
  obtain ⟨⟨db', sub⟩, hcreate, h⟩ := bind_eq_ok.mp h
  cases h
  exact ⟨getPlanByIdTx_eq_ok hplan, hcapacity, db', sub, hcreate, rfl⟩

/-- **A purchase with balance that commits** takes a free slot of the plan and leaves a complete
order. -/
theorem purchaseSubscriptionWithBalanceTx_eq_ok {nonce : String}
    (h : purchaseSubscriptionWithBalanceTx ctx ids nonce userId planId s = .ok (s', order)) :
    ∃ plan db₁ db' sub, s.plans.find? planId = some plan ∧
      checkPurchaseCapacityTx s userId plan 0 = .ok () ∧ db₁.subscriptions = s.db.subscriptions ∧
      createUserSubscriptionFromPlanTx ctx ids.subscription db₁ userId plan = .ok (db', sub) ∧
      order.status = .success ∧ order.planSnapshot = .empty ∧ 0 < order.id ∧
      s.orders.find? order.id = none ∧
      s' = { s with db := db', orders := s.orders.insert order } := by
  unfold purchaseSubscriptionWithBalanceTx at h
  obtain ⟨-, -, h⟩ := bind_eq_ok.mp h
  obtain ⟨plan, hplan, h⟩ := bind_eq_ok.mp h
  rw [guard_eq_ok, guard_eq_ok, bind_eq_ok] at h
  obtain ⟨-, -, requiredQuota, -, h⟩ := h
  obtain ⟨-, h⟩ := guard_eq_ok.mp h
  -- The deduction changes the user's row only.
  generalize hs₁ : (if 0 < requiredQuota then s.addQuota userId (-requiredQuota) else s) = s₁ at h
  have hrest : ∃ db₁, db₁.subscriptions = s.db.subscriptions ∧ s₁ = { s with db := db₁ } := by
    split_ifs at hs₁ with hpos
    · exact ⟨addUserQuota s.db userId (-requiredQuota), rfl, hs₁.symm⟩
    · exact ⟨s.db, rfl, hs₁.symm⟩
  obtain ⟨db₁, hsubs, rfl⟩ := hrest
  obtain ⟨⟨⟩, hcapacity, h⟩ := bind_eq_ok.mp h
  obtain ⟨⟨db', sub⟩, hcreate, h⟩ := bind_eq_ok.mp h
  obtain ⟨hid, hfresh, rfl, rfl⟩ := createOrder_eq_ok h
  have hcapacity' : checkPurchaseCapacityTx s userId plan 0 = .ok () := by
    rw [← hcapacity, checkPurchaseCapacityTx, checkPurchaseCapacityTx, purchased, purchased, hsubs]
  exact ⟨plan, db₁, db', sub, getPlanByIdTx_eq_ok hplan, hcapacity', hsubs, hcreate, rfl, rfl, hid,
    hfresh, rfl⟩

end

/-- Universal time with months of thirty days and years of twelve of them. -/
def sampleContext : PaymentContext :=
  { cfg := sampleConfig
    cal := sampleCalendar
    dates := { addYears := fun t n => t + n * 31104000, addMonths := fun t n => t + n * 2592000 }
    now := 1000 }

end RenewApi.Payments
