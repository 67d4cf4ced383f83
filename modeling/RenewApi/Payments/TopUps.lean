import RenewApi.Payments.Rows

/-! # Completing top-up orders

`model/topup.go`: every function locks the order by its trade number, decides, and moves the order
and the user's quota in one transaction.

Epay, Waffo and Waffo Pancake are one definition, `AmountCompletion.complete`, with their own
values. Creem credits another number and refuses an order that is already complete, and the override
checks that the user is there; both have bodies of their own. -/

namespace RenewApi.Payments

open Billing Relational Prod

section

variable (s : PaymentStore)

/-- `Where("trade_no = ?").First(&topUp)`. -/
def PaymentStore.topUp? (tradeNo : String) : Option TopUp :=
  s.topUps.rows.find? fun t => t.tradeNo = tradeNo

/-- `Save(topUp)` of a row that was read. -/
def PaymentStore.saveTopUp (t : TopUp) : PaymentStore :=
  { s with topUps := s.topUps.put t }

def PaymentStore.addQuota (userId quota : Int) : PaymentStore :=
  { s with db := addUserQuota s.db userId quota }

def PaymentStore.updateContact (userId : Int) (f : UserContact → UserContact)
    (hf : ∀ c, (f c).id = c.id) : PaymentStore :=
  { s with
    contacts :=
      if (liveUser s.db userId).isSome then
        s.contacts.updateWhere (·.id = userId) f hf
      else s.contacts }

end

/-- What a caller of the Creem and Waffo functions sees of a failure. -/
def hideFailure {α : Type} (r : PaymentStore × Except PaymentError α) :
    PaymentStore × Except PaymentError α :=
  (r.1, match r.2 with
    | .ok a => .ok a
    | .error _ => .error (.message "充值失败，请稍后重试"))

/-- A call without a trade number does nothing. -/
def requireTradeNo {α : Type} (tradeNo : String) (s : PaymentStore)
    (call : PaymentStore × Except PaymentError α) : PaymentStore × Except PaymentError α :=
  if tradeNo = "" then (s, .error (.message "未提供支付单号")) else call

/-! ## Completion by amount -/

/-- What tells the completions by amount apart. -/
structure AmountCompletion where
  provider : PaymentProvider
  notFound : PaymentError
  statusInvalid : PaymentError
  underpaid : TopUp → Option PaymentError
  method : TopUp → String

/-- The row of a completed order. -/
def AmountCompletion.completed (c : AmountCompletion) (now : Int) (t : TopUp) : TopUp :=
  { t with paymentMethod := c.method t, completeTime := now, status := .success }

/-- **The transaction of a completion by amount.** The user's update is not checked for a row. -/
def AmountCompletion.complete (c : AmountCompletion) (cfg : PaymentConfig) (now : Int)
    (tradeNo : String) (s : PaymentStore) : Except PaymentError (PaymentStore × Unit) :=
  match s.topUp? tradeNo with
  | none => .error c.notFound
  | some t =>
    if t.paymentProvider ≠ c.provider then .error .paymentMethodMismatch
    else if t.status = .success then .ok (s, ())
    else if t.status ≠ .pending then .error c.statusInvalid
    else match c.underpaid t with
      | some e => .error e
      | none =>
        if cfg.quotaOfAmount t.amount ≤ 0 then .error (.message "无效的充值额度")
        else .ok ((s.saveTopUp (c.completed now t)).addQuota t.userId
          (cfg.quotaOfAmount t.amount), ())

/-- The check of Epay: every payment has an amount. -/
def requireCovered (paidAmount : Rat) (t : TopUp) : Option PaymentError :=
  if paidAmountCoversOrder paidAmount t.money then none
  else some (.topUpUnderpaid paidAmount t.money)

/-- The check of Creem and Waffo Pancake: a negative amount means that none was reported. -/
def requireCoveredIfReported (paidAmount : Rat) (t : TopUp) : Option PaymentError :=
  if 0 ≤ paidAmount then requireCovered paidAmount t else none

def epayCompletion (actualPaymentMethod : String) (paidAmount : Rat) : AmountCompletion :=
  { provider := .epay, notFound := .topUpNotFound, statusInvalid := .topUpStatusInvalid
    underpaid := requireCovered paidAmount
    method := fun t =>
      if actualPaymentMethod ≠ "" ∧ t.paymentMethod ≠ actualPaymentMethod then actualPaymentMethod
      else t.paymentMethod }

/-- `RechargeWaffo`. -/
def waffoCompletion : AmountCompletion :=
  { provider := .waffo, notFound := .message "充值订单不存在"
    statusInvalid := .message "充值订单状态错误", underpaid := fun _ => none
    method := TopUp.paymentMethod }

/-- `RechargeWaffoPancakeWithPaidAmount`. -/
def waffoPancakeCompletion (paidAmount : Rat) : AmountCompletion :=
  { provider := .waffoPancake, notFound := .message "充值订单不存在"
    statusInvalid := .message "充值订单状态错误"
    underpaid := requireCoveredIfReported paidAmount, method := TopUp.paymentMethod }

section

variable (cfg : PaymentConfig) (now : Int) (tradeNo : String)

def completeEpayTopUpWithPaidAmount (actualPaymentMethod : String) (paidAmount : Rat)
    (s : PaymentStore) : PaymentResponse Unit :=
  requireTradeNo tradeNo s
    (transaction ((epayCompletion actualPaymentMethod paidAmount).complete cfg now tradeNo) s)

def rechargeWaffo (s : PaymentStore) : PaymentResponse Unit :=
  requireTradeNo tradeNo s (hideFailure (transaction (waffoCompletion.complete cfg now tradeNo) s))

def rechargeWaffoPancakeWithPaidAmount
    (paidAmount : Rat) (s : PaymentStore) : PaymentResponse Unit :=
  requireTradeNo tradeNo s
    (hideFailure (transaction ((waffoPancakeCompletion paidAmount).complete cfg now tradeNo) s))

end

/-! ## Creem -/

/-- The row of a completed Creem or manual order. -/
def TopUp.completed (t : TopUp) (now : Int) : TopUp :=
  { t with completeTime := now, status := .success }

/-- The transaction of `RechargeCreemWithPaidAmount`: the amount of the order is the quota itself.
The customer's email goes to a user without one; only then is the user looked up. -/
def rechargeCreemTx (now : Int) (tradeNo : String) (customerEmail : String) (paidAmount : Rat)
    (s : PaymentStore) : Except PaymentError (PaymentStore × Unit) :=
  match s.topUp? tradeNo with
  | none => .error (.message "充值订单不存在")
  | some t =>
    if t.paymentProvider ≠ .creem then .error .paymentMethodMismatch
    else if t.status ≠ .pending then .error (.message "充值订单状态错误")
    else match requireCoveredIfReported paidAmount t with
      | some e => .error e
      | none =>
        let credited := (s.saveTopUp (t.completed now)).addQuota t.userId t.amount
        if customerEmail = "" then .ok (credited, ())
        else if (liveUser s.db t.userId).isNone then .error .recordNotFound
        else .ok (credited.updateContact t.userId
          (fun c => { c with email := if c.email = "" then customerEmail else c.email })
          (fun _ => rfl), ())

def rechargeCreemWithPaidAmount (now : Int) (referenceId : String) (customerEmail : String)
    (paidAmount : Rat) (s : PaymentStore) : PaymentResponse Unit :=
  requireTradeNo referenceId s
    (hideFailure (transaction (rechargeCreemTx now referenceId customerEmail paidAmount) s))

/-! ## The administrator -/

/-- The quota that `ManualCompleteTopUp` grants: the quoted credit of a Stripe order, the amount in
units of any other. -/
def PaymentConfig.manualQuota (cfg : PaymentConfig) (t : TopUp) : Int :=
  if t.paymentProvider = .stripe then t.creditQuota else cfg.quotaOfAmount t.amount

/-- The row of an order completed by the administrator. -/
def TopUp.overridden (t : TopUp) (now : Int) : TopUp :=
  if t.paymentProvider = .stripe then
    { t.completed now with paymentState := .manualOverride, fulfillmentError := "" }
  else t.completed now

section

variable (cfg : PaymentConfig) (now : Int) (tradeNo : String) (s : PaymentStore)

/-- The transaction of `ManualCompleteTopUp`. -/
def manualCompleteTopUpTx : Except PaymentError (PaymentStore × Unit) :=
  match s.topUp? tradeNo with
  | none => .error (.message "充值订单不存在")
  | some t =>
    if t.status = .success then .ok (s, ())
    else if t.status ≠ .pending then .error (.message "订单状态不是待支付，无法补单")
    else if t.paymentProvider = .stripe ∧ t.quoteVersion = 0 then
      .error (.message
        "legacy Stripe order requires verified historical credit and explicit compensation")
    else if cfg.manualQuota t ≤ 0 then .error (.message "无效的充值额度")
    else if usersAffected s.db t.userId ≠ 1 then .error (.message "payment user missing")
    else .ok ((s.saveTopUp (t.overridden now)).addQuota t.userId (cfg.manualQuota t), ())

def manualCompleteTopUp : PaymentResponse Unit :=
  if tradeNo = "" then (s, .error (.message "未提供订单号"))
  else transaction (manualCompleteTopUpTx cfg now tradeNo) s

end

section

variable (tradeNo : String) (expectedPaymentProvider : PaymentProvider) (targetStatus : OrderStatus)
  (s : PaymentStore)

/-- The transaction of `UpdatePendingTopUpStatus`. -/
def updatePendingTopUpStatusTx : Except PaymentError (PaymentStore × Unit) :=
  match s.topUp? tradeNo with
  | none => .error .topUpNotFound
  | some t =>
    if expectedPaymentProvider ≠ .other "" ∧ t.paymentProvider ≠ expectedPaymentProvider then
      .error .paymentMethodMismatch
    else if t.status ≠ .pending then .error .topUpStatusInvalid
    else .ok (s.saveTopUp { t with status := targetStatus }, ())

def updatePendingTopUpStatus : PaymentResponse Unit :=
  requireTradeNo tradeNo s
    (transaction (updatePendingTopUpStatusTx tradeNo expectedPaymentProvider targetStatus) s)

end

/-! ## When they succeed -/

section

variable {cfg : PaymentConfig} {now : Int} {tradeNo : String} {s s' : PaymentStore}

/-- **A completion by amount that succeeds** found the order complete, or completes it. -/
theorem AmountCompletion.complete_eq_ok {c : AmountCompletion}
    (h : c.complete cfg now tradeNo s = .ok (s', ())) :
    ∃ t, s.topUp? tradeNo = some t ∧ t.paymentProvider = c.provider ∧
      ((t.status = .success ∧ s' = s) ∨
       (t.status = .pending ∧ c.underpaid t = none ∧ 0 < cfg.quotaOfAmount t.amount ∧
        s' = (s.saveTopUp (c.completed now t)).addQuota t.userId (cfg.quotaOfAmount t.amount))) := by
  unfold AmountCompletion.complete at h
  cases hfind : s.topUp? tradeNo with
  | none => rw [hfind] at h; cases h
  | some t =>
    rw [hfind] at h
    obtain ⟨hprovider, h⟩ := guard_eq_ok.mp h
    refine ⟨t, rfl, not_not.mp hprovider, ?_⟩
    rcases skip_eq_ok.mp h with ⟨hdone, heq⟩ | ⟨-, h⟩
    · exact .inl ⟨hdone, (Prod.mk.inj heq).1⟩
    obtain ⟨hpending, h⟩ := guard_eq_ok.mp h
    cases hpaid : c.underpaid t with
    | some e => rw [hpaid] at h; cases h
    | none =>
      rw [hpaid] at h
      rw [guard_eq_ok] at h
      exact .inr ⟨not_not.mp hpending, rfl, not_le.mp h.1, (ok_inj h.2).1⟩

/-- **A Creem payment that succeeds** completes a pending order; whether its user is there is known
only if the customer has an email. -/
theorem rechargeCreemTx_eq_ok {email : String} {paid : Rat}
    (h : rechargeCreemTx now tradeNo email paid s = .ok (s', ())) :
    ∃ t contacts, s.topUp? tradeNo = some t ∧ t.paymentProvider = .creem ∧ t.status = .pending ∧
      (email ≠ "" → (liveUser s.db t.userId).isSome) ∧
      s' = { (s.saveTopUp (t.completed now)).addQuota t.userId t.amount with
        contacts := contacts } := by
  unfold rechargeCreemTx at h
  cases hfind : s.topUp? tradeNo with
  | none => rw [hfind] at h; cases h
  | some t =>
    rw [hfind] at h
    rw [guard_eq_ok, guard_eq_ok] at h
    obtain ⟨hprovider, hpending, h⟩ := h
    cases hpaid : requireCoveredIfReported paid t with
    | some e => rw [hpaid] at h; cases h
    | none =>
      rw [hpaid] at h
      by_cases hemail : email = ""
      · rw [if_pos hemail] at h
        exact ⟨t, s.contacts, rfl, not_not.mp hprovider, not_not.mp hpending,
          fun hne => absurd hemail hne, (ok_inj h).1⟩
      · rw [if_neg hemail, guard_eq_ok] at h
        have hlive : (liveUser s.db t.userId).isSome := by
          cases hu : liveUser s.db t.userId with
          | none => rw [hu] at h; exact absurd rfl h.1
          | some u => rfl
        exact ⟨t, _, rfl, not_not.mp hprovider, not_not.mp hpending, fun _ => hlive, (ok_inj h.2).1⟩

/-- **An override that succeeds** found the order complete, or completes it for a user that is
there. -/
theorem manualCompleteTopUpTx_eq_ok (h : manualCompleteTopUpTx cfg now tradeNo s = .ok (s', ())) :
    ∃ t, s.topUp? tradeNo = some t ∧
      ((t.status = .success ∧ s' = s) ∨
       (t.status = .pending ∧ ¬ (t.paymentProvider = .stripe ∧ t.quoteVersion = 0) ∧
        0 < cfg.manualQuota t ∧ (liveUser s.db t.userId).isSome ∧
        s' = (s.saveTopUp (t.overridden now)).addQuota t.userId (cfg.manualQuota t))) := by
  unfold manualCompleteTopUpTx at h
  cases hfind : s.topUp? tradeNo with
  | none => rw [hfind] at h; cases h
  | some t =>
    rw [hfind] at h
    refine ⟨t, rfl, ?_⟩
    rcases skip_eq_ok.mp h with ⟨hdone, heq⟩ | ⟨-, h⟩
    · exact .inl ⟨hdone, (mk.inj heq).1⟩
    rw [guard_eq_ok, guard_eq_ok, guard_eq_ok, guard_eq_ok] at h
    obtain ⟨hpending, hquote, hpos, huser, h⟩ := h
    exact .inr ⟨not_not.mp hpending, hquote, not_le.mp hpos,
      (usersAffected_eq_one_iff _ _).mp (not_not.mp huser), (ok_inj h).1⟩

theorem updatePendingTopUpStatusTx_eq_ok {provider : PaymentProvider} {status : OrderStatus}
    (h : updatePendingTopUpStatusTx tradeNo provider status s = .ok (s', ())) :
    ∃ t, s.topUp? tradeNo = some t ∧ t.status = .pending ∧
      s' = s.saveTopUp { t with status := status } := by
  unfold updatePendingTopUpStatusTx at h
  cases hfind : s.topUp? tradeNo with
  | none => rw [hfind] at h; cases h
  | some t =>
    rw [hfind] at h
    rw [guard_eq_ok, guard_eq_ok] at h
    exact ⟨t, rfl, not_not.mp h.2.1, (ok_inj h.2.2).1⟩

end

end RenewApi.Payments
