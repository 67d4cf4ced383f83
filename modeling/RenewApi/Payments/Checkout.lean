import RenewApi.Payments.Purchase

/-! # Stripe Checkout

`model/payment_snapshot.go`: the life of an order that is paid through a Checkout session. An order
is bound to its session, then a receipt completes it or a terminal event releases it, in any order
and any number of times. A receipt that does not match the quote of the order is recorded for review
and never fulfils anything.

A trade number is looked up among the subscription orders first, then among the top-ups. -/

namespace RenewApi.Payments

open Billing Relational Prod

structure StripeReceipt where
  tradeNo : String
  sessionID : String
  customerID : String
  currency : String
  total : Int
  subtotal : Int
  discount : Int
  tax : Int
  shipping : Int
  deriving DecidableEq

inductive PaymentResult
  | fulfilled
  | alreadyProcessed
  | conflict
  deriving DecidableEq

section

variable (cfg : PaymentConfig) (snapshot : PaymentSnapshot) (receipt : StripeReceipt)

/-- **`PaymentSnapshot.validate`**: the first reason why a receipt does not match the quote. A sum
that wraps is negative and so matches no total. -/
def PaymentSnapshot.validate : Option String :=
  if snapshot.quoteVersion = 0 then
    some "legacy order requires payment reconciliation: historical quote missing"
  else if receipt.sessionID = "" ∨ snapshot.checkoutSessionID ≠ receipt.sessionID then
    some "checkout session mismatch or not yet bound"
  else if ¬ cfg.equalFold snapshot.currency receipt.currency then some "payment currency mismatch"
  else if receipt.subtotal ≠ snapshot.expectedMinor then some "checkout subtotal mismatch"
  else if receipt.shipping ≠ 0 then some "unsupported checkout shipping charge"
  else if receipt.total < 0 ∨ receipt.discount < 0 ∨ receipt.subtotal < receipt.discount ∨
      receipt.tax < 0 then some "invalid paid amount"
  else if 0 < receipt.discount ∧ ¬ snapshot.allowPromotionCodes then
    some "promotion not allowed for this order"
  else if receipt.total ≠ receipt.subtotal - receipt.discount + receipt.tax then
    some "checkout total mismatch"
  else none

/-- A receipt that matches: the session, the currency and the subtotal are those of the quote, and
the total is what they add up to. -/
structure PaymentSnapshot.Matches : Prop where
  session : receipt.sessionID = snapshot.checkoutSessionID
  bound : receipt.sessionID ≠ ""
  currency : cfg.equalFold snapshot.currency receipt.currency
  subtotal : receipt.subtotal = snapshot.expectedMinor
  total : receipt.total = receipt.subtotal - receipt.discount + receipt.tax

end

/-- **A receipt without a conflict matches the quote**, and the order was made under one. -/
theorem matches_of_validate {cfg : PaymentConfig} {snapshot : PaymentSnapshot}
    {receipt : StripeReceipt} (h : snapshot.validate cfg receipt = none) :
    snapshot.quoteVersion ≠ 0 ∧ snapshot.Matches cfg receipt := by
  unfold PaymentSnapshot.validate at h
  by_cases hlegacy : snapshot.quoteVersion = 0
  · rw [if_pos hlegacy] at h; cases h
  rw [if_neg hlegacy] at h
  by_cases hsession : receipt.sessionID = "" ∨ snapshot.checkoutSessionID ≠ receipt.sessionID
  · rw [if_pos hsession] at h; cases h
  rw [if_neg hsession] at h
  by_cases hcurrency : ¬ cfg.equalFold snapshot.currency receipt.currency
  · rw [if_pos hcurrency] at h; cases h
  rw [if_neg hcurrency] at h
  by_cases hsubtotal : receipt.subtotal ≠ snapshot.expectedMinor
  · rw [if_pos hsubtotal] at h; cases h
  rw [if_neg hsubtotal] at h
  rw [not_or, not_not] at hsession
  refine ⟨hlegacy, hsession.2.symm, hsession.1, not_not.mp hcurrency, not_not.mp hsubtotal, ?_⟩
  by_contra htotal
  split at h
  · cases h
  split at h
  · cases h
  split at h <;> cases h

/-! ## Terminal events -/

/-- An order that a terminal event may still release: pending, and no payment has been recorded. -/
def releasable (status : OrderStatus) (paymentState : PaymentState) : Prop :=
  status = .pending ∧
    (paymentState = .none ∨ paymentState = .unpaid ∨ paymentState = .checkoutUnknown)
  deriving Decidable

section

variable (now : Int) (tradeNo sessionID : String) (status : OrderStatus) (s : PaymentStore)

/-- The transaction of `EndStripeCheckout`. -/
def endStripeCheckoutTx : Except PaymentError (PaymentStore × Unit) :=
  match s.order? tradeNo with
  | some order => do
    lockPurchaseUserTx s.db order.userId
    if 0 < order.id ∧ order.paymentProvider ≠ .stripe then .error .paymentMethodMismatch
    else if order.checkoutSessionID ≠ "" ∧ order.checkoutSessionID ≠ sessionID then
      .error (.message "checkout session mismatch")
    else if releasable order.status order.paymentState then
      .ok (s.saveOrder { order with status := status, completeTime := now }, ())
    else .ok (s, ())
  | none =>
    match s.topUp? tradeNo with
    | none => .error .recordNotFound
    | some t =>
      if t.paymentProvider ≠ .stripe then .error .paymentMethodMismatch
      else if t.checkoutSessionID ≠ "" ∧ t.checkoutSessionID ≠ sessionID then
        .error (.message "checkout session mismatch")
      else if releasable t.status t.paymentState then
        .ok (s.saveTopUp { t with status := status, completeTime := now }, ())
      else .ok (s, ())

def endStripeCheckout : PaymentResponse Unit :=
  if tradeNo = "" ∨ sessionID = "" then
    (s, .error (.message "Stripe terminal event missing reference"))
  else transaction (endStripeCheckoutTx now tradeNo sessionID status) s

end

/-- A snapshot that may be bound to a session: unbound, or bound to it already. -/
def bindable (provider : PaymentProvider) (bound sessionID : String) : Prop :=
  provider = .stripe ∧ (bound = "" ∨ bound = sessionID)
  deriving Decidable

def bindStripeCheckout (tradeNo sessionID : String) (s : PaymentStore) :
    PaymentResponse Unit :=
  match s.order? tradeNo with
  | some order =>
    if bindable order.paymentProvider order.checkoutSessionID sessionID then
      (s.saveOrder { order with checkoutSessionID := sessionID }, .ok ())
    else (s, .error (.message "checkout binding conflict"))
  | none =>
    match s.topUp? tradeNo with
    | none => (s, .error .recordNotFound)
    | some t =>
      if bindable t.paymentProvider t.checkoutSessionID sessionID then
        (s.saveTopUp { t with checkoutSessionID := sessionID }, .ok ())
      else (s, .error (.message "checkout binding conflict"))

/-! ## Completion -/

/-- The text of `ErrSubscriptionPurchaseLimit`. -/
def purchaseLimitText : String := "已达到该套餐购买上限（含待支付订单）"

/-- The first reason why a receipt does not fulfil a subscription order, or the plan it fulfils. -/
def orderConflict (cfg : PaymentConfig) (s : PaymentStore) (order : SubscriptionOrder)
    (receipt : StripeReceipt) : String ⊕ Plan :=
  match order.toPaymentSnapshot.validate cfg receipt with
  | some text => .inl text
  | none =>
    match order.planSnapshot with
    | .empty | .invalid => .inl "subscription snapshot invalid"
    | .plan plan =>
      match checkPurchaseCapacityTx s order.userId plan order.id with
      | .error _ => .inl purchaseLimitText
      | .ok _ => .inr plan

def completeStripeOrderTx (ctx : PaymentContext) (ids : FreshIds) (receipt : StripeReceipt)
    (order : SubscriptionOrder) (s : PaymentStore) :
    Except PaymentError (PaymentStore × PaymentResult) := do
  lockPurchaseUserTx s.db order.userId
  if order.paymentProvider ≠ .stripe then .error .paymentMethodMismatch
  else if order.status = .success then .ok (s, .alreadyProcessed)
  else if 0 < order.quoteVersion ∧ order.checkoutSessionID = "" then
    .error (.message "checkout session binding is pending")
  else match orderConflict ctx.cfg s order receipt with
    | .inl text =>
      .ok (s.saveOrder { order with
        paidMinor := receipt.total, paymentState := .paidReview, fulfillmentError := text },
        .conflict)
    | .inr plan => do
      let s ← fulfillOrder ctx ids order plan s
      .ok (s.saveOrder { order with
        paidMinor := receipt.total, paymentState := .paid, status := .success
        completeTime := ctx.now, fulfillmentError := "" }, .fulfilled)

/-- The first reason why a receipt does not credit a top-up. -/
def topUpConflict (cfg : PaymentConfig) (t : TopUp) (receipt : StripeReceipt) : Option String :=
  match t.toPaymentSnapshot.validate cfg receipt with
  | some text => some text
  | none => if t.creditQuota ≤ 0 then some "invalid credit snapshot" else none

/-- The row of a top-up whose receipt needs a review. -/
def TopUp.review (t : TopUp) (receipt : StripeReceipt) (text : String) : TopUp :=
  { t with paidMinor := receipt.total, paymentState := .paidReview, fulfillmentError := text }

/-- The row of a top-up whose receipt was accepted. -/
def TopUp.paidBy (t : TopUp) (receipt : StripeReceipt) (now : Int) : TopUp :=
  { t with
    status := .success, completeTime := now, paidMinor := receipt.total, paymentState := .paid
    fulfillmentError := "" }

def completeStripeTopUpTx (cfg : PaymentConfig) (now : Int) (receipt : StripeReceipt) (t : TopUp)
    (s : PaymentStore) : Except PaymentError (PaymentStore × PaymentResult) :=
  if t.paymentProvider ≠ .stripe then .error .paymentMethodMismatch
  else if t.status = .success then .ok (s, .alreadyProcessed)
  else if 0 < t.quoteVersion ∧ t.checkoutSessionID = "" then
    .error (.message "checkout session binding is pending")
  else match topUpConflict cfg t receipt with
    | some text => .ok (s.saveTopUp (t.review receipt text), .conflict)
    | none =>
      if usersAffected s.db t.userId ≠ 1 then
        .error (.message ("payment user missing: " ++ toString t.userId))
      else .ok (((s.saveTopUp (t.paidBy receipt now)).addQuota t.userId t.creditQuota).updateContact
        t.userId (fun c => { c with stripeCustomer := receipt.customerID }) (fun _ => rfl),
        .fulfilled)

section

variable (ctx : PaymentContext) (ids : FreshIds) (receipt : StripeReceipt) (s : PaymentStore)

/-- The transaction of `CompleteStripeCheckout`. -/
def completeStripeCheckoutTx : Except PaymentError (PaymentStore × PaymentResult) :=
  match s.order? receipt.tradeNo with
  | some order => completeStripeOrderTx ctx ids receipt order s
  | none =>
    match s.topUp? receipt.tradeNo with
    | none => .error .recordNotFound
    | some t => completeStripeTopUpTx ctx.cfg ctx.now receipt t s

def completeStripeCheckout : PaymentResponse PaymentResult :=
  transaction (completeStripeCheckoutTx ctx ids receipt) s

end

/-! ## What they do to a top-up -/

section

variable {ctx : PaymentContext} {ids : FreshIds} {cfg : PaymentConfig} {now : Int}
  {receipt : StripeReceipt} {t : TopUp} {s s' : PaymentStore} {tradeNo sessionID : String}

theorem matches_of_topUpConflict (h : topUpConflict cfg t receipt = none) :
    t.toPaymentSnapshot.Matches cfg receipt := by
  unfold topUpConflict at h
  cases hvalid : t.toPaymentSnapshot.validate cfg receipt with
  | some text => rw [hvalid] at h; cases h
  | none => exact (matches_of_validate hvalid).2

/-- **A completion that commits** found the top-up complete, recorded a receipt for review, or
credited the quote. -/
theorem completeStripeTopUpTx_eq_ok {result : PaymentResult}
    (h : completeStripeTopUpTx cfg now receipt t s = .ok (s', result)) :
    t.paymentProvider = .stripe ∧
      ((t.status = .success ∧ result = .alreadyProcessed ∧ s' = s) ∨
       (t.status ≠ .success ∧ ¬ (0 < t.quoteVersion ∧ t.checkoutSessionID = "") ∧
        ((∃ text, topUpConflict cfg t receipt = some text ∧ result = .conflict ∧
            s' = s.saveTopUp (t.review receipt text)) ∨
         (topUpConflict cfg t receipt = none ∧ result = .fulfilled ∧
            (liveUser s.db t.userId).isSome ∧
            ∃ contacts, s' = { (s.saveTopUp (t.paidBy receipt now)).addQuota t.userId t.creditQuota
              with contacts := contacts })))) := by
  obtain ⟨hprovider, h⟩ := guard_eq_ok.mp h
  refine ⟨not_not.mp hprovider, ?_⟩
  rcases skip_eq_ok.mp h with ⟨hdone, heq⟩ | ⟨hdone, h⟩
  · obtain ⟨hs, hresult⟩ := mk.inj heq
    exact .inl ⟨hdone, hresult, hs⟩
  obtain ⟨hbound, h⟩ := guard_eq_ok.mp h
  refine .inr ⟨hdone, hbound, ?_⟩
  cases hconflict : topUpConflict cfg t receipt with
  | some text =>
    rw [hconflict] at h
    obtain ⟨hs, hresult⟩ := ok_inj h
    exact .inl ⟨text, rfl, hresult, hs⟩
  | none =>
    rw [hconflict] at h
    obtain ⟨huser, h⟩ := guard_eq_ok.mp h
    obtain ⟨hs, hresult⟩ := ok_inj h
    exact .inr ⟨rfl, hresult, (usersAffected_eq_one_iff _ _).mp (not_not.mp huser), _, hs⟩

variable {status : OrderStatus}

theorem endStripeCheckoutTx_topUp (horder : s.order? tradeNo = none)
    (h : endStripeCheckoutTx now tradeNo sessionID status s = .ok (s', ())) :
    s' = s ∨ ∃ t, s.topUp? tradeNo = some t ∧ releasable t.status t.paymentState ∧
      s' = s.saveTopUp { t with status := status, completeTime := now } := by
  rw [endStripeCheckoutTx, horder] at h
  cases hfind : s.topUp? tradeNo with
  | none => rw [hfind] at h; cases h
  | some t =>
    rw [hfind] at h
    rw [guard_eq_ok, guard_eq_ok] at h
    obtain ⟨-, -, h⟩ := h
    split_ifs at h with hfree
    · exact .inr ⟨t, rfl, hfree, (ok_inj h).1⟩
    · exact .inl (ok_inj h).1

theorem bindStripeCheckout_topUp (sessionID : String) (horder : s.order? tradeNo = none) :
    (bindStripeCheckout tradeNo sessionID s).1 = s ∨
      ∃ t, s.topUp? tradeNo = some t ∧
        (t.checkoutSessionID = "" ∨ t.checkoutSessionID = sessionID) ∧
        (bindStripeCheckout tradeNo sessionID s).1
          = s.saveTopUp { t with checkoutSessionID := sessionID } := by
  rw [bindStripeCheckout, horder]
  cases hfind : s.topUp? tradeNo with
  | none => exact .inl rfl
  | some t =>
    dsimp only
    split_ifs with hbind
    · exact .inr ⟨t, rfl, hbind.2, rfl⟩
    · exact .inl rfl

end

/-! ## What they do to a subscription order -/

section

variable {ctx : PaymentContext} {ids : FreshIds} {cfg : PaymentConfig} {now : Int}
  {receipt : StripeReceipt} {order : SubscriptionOrder} {s s' : PaymentStore} {plan : Plan}
  {tradeNo sessionID : String}

theorem orderConflict_eq_inr (h : orderConflict cfg s order receipt = .inr plan) :
    order.planSnapshot = .plan plan ∧
      checkPurchaseCapacityTx s order.userId plan order.id = .ok () := by
  unfold orderConflict at h
  cases hvalid : order.toPaymentSnapshot.validate cfg receipt with
  | some text => rw [hvalid] at h; cases h
  | none =>
    rw [hvalid] at h
    cases hsnapshot : order.planSnapshot with
    | empty | invalid => rw [hsnapshot] at h; cases h
    | plan p =>
      rw [hsnapshot] at h
      dsimp only at h
      cases hcapacity : checkPurchaseCapacityTx s order.userId p order.id with
      | error e => rw [hcapacity] at h; cases h
      | ok r =>
        rw [hcapacity] at h
        obtain rfl : p = plan := Sum.inr.inj h
        exact ⟨rfl, hcapacity⟩

/-- **A completion that commits** found the order complete, recorded a receipt for review, or turned
the order into a subscription. -/
theorem completeStripeOrderTx_eq_ok {result : PaymentResult}
    (h : completeStripeOrderTx ctx ids receipt order s = .ok (s', result)) :
    (result = .alreadyProcessed ∧ s' = s) ∨
      (∃ text, orderConflict ctx.cfg s order receipt = .inl text ∧ result = .conflict ∧
        s' = s.saveOrder { order with
          paidMinor := receipt.total, paymentState := .paidReview, fulfillmentError := text }) ∨
      (∃ plan db' sub topUps, orderConflict ctx.cfg s order receipt = .inr plan ∧
        result = .fulfilled ∧
        createUserSubscriptionFromPlanTx ctx ids.subscription s.db order.userId plan = .ok (db', sub) ∧
        s' = { s with
          db := db', topUps := topUps
          orders := s.orders.put { order with
            paidMinor := receipt.total, paymentState := .paid, status := .success
            completeTime := ctx.now, fulfillmentError := "" } }) := by
  obtain ⟨-, -, h⟩ := bind_eq_ok.mp h
  obtain ⟨-, h⟩ := guard_eq_ok.mp h
  rcases skip_eq_ok.mp h with ⟨-, heq⟩ | ⟨-, h⟩
  · obtain ⟨hs, hresult⟩ := mk.inj heq
    exact .inl ⟨hresult, hs⟩
  obtain ⟨-, h⟩ := guard_eq_ok.mp h
  cases hconflict : orderConflict ctx.cfg s order receipt with
  | inl text =>
    rw [hconflict] at h
    obtain ⟨hs, hresult⟩ := ok_inj h
    exact .inr (.inl ⟨text, rfl, hresult, hs⟩)
  | inr plan =>
    rw [hconflict] at h
    obtain ⟨s₁, hfulfill, h⟩ := bind_eq_ok.mp h
    obtain ⟨db', sub, topUps, hcreate, rfl⟩ := fulfillOrder_eq_ok hfulfill
    obtain ⟨hs, hresult⟩ := ok_inj h
    exact .inr (.inr ⟨plan, db', sub, topUps, rfl, hresult, hcreate, hs⟩)

theorem endStripeCheckoutTx_order (hfind : s.order? tradeNo = some order)
    (h : endStripeCheckoutTx now tradeNo sessionID status s = .ok (s', ())) :
    s' = s ∨ (releasable order.status order.paymentState ∧
      s' = s.saveOrder { order with status := status, completeTime := now }) := by
  rw [endStripeCheckoutTx, hfind] at h
  obtain ⟨-, -, h⟩ := bind_eq_ok.mp h
  rw [guard_eq_ok, guard_eq_ok] at h
  obtain ⟨-, -, h⟩ := h
  split_ifs at h with hfree
  · exact .inr ⟨hfree, (ok_inj h).1⟩
  · exact .inl (ok_inj h).1

end

end RenewApi.Payments
