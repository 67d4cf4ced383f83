import RenewApi.Payments.Checkout
import RenewApi.Payments.Override

/-! # Every top-up is credited once

Nine functions act on a top-up order, in any order and any number of times. -/

namespace RenewApi.Payments

open Billing Relational List Table

variable {t t' : TopUp} {s s' : PaymentStore} {receipt : StripeReceipt}

/-- A call on a top-up order. The four provider callbacks are `provider`. -/
inductive PaymentCall
  | completeStripe (receipt : StripeReceipt)
  | endStripe (tradeNo sessionID : String) (status : OrderStatus)
  | bindStripe (tradeNo sessionID : String)
  | manual (tradeNo : String)
  | provider (tradeNo : String) (c : ProviderCall)
  | updatePending (tradeNo : String) (expectedPaymentProvider : PaymentProvider)
      (status : OrderStatus)
  deriving DecidableEq

namespace PaymentCall

/-- The trade number a call is about. -/
def tradeNo : PaymentCall → String
  | completeStripe receipt => receipt.tradeNo
  | endStripe tradeNo _ _ => tradeNo
  | bindStripe tradeNo _ => tradeNo
  | manual tradeNo => tradeNo
  | provider tradeNo _ => tradeNo
  | updatePending tradeNo _ _ => tradeNo

/-- The quota that is due when the call completes an order. -/
def due (cfg : PaymentConfig) (t : TopUp) : PaymentCall → Int
  | completeStripe _ => t.creditQuota
  | manual _ => cfg.manualQuota t
  | provider _ c => c.due cfg t
  | endStripe _ _ _ | bindStripe _ _ | updatePending _ _ _ => 0

end PaymentCall

/-- A call at its time; `ids` are what the database would hand out. -/
structure PaymentEvent where
  now : Int
  ids : FreshIds
  call : PaymentCall
  deriving DecidableEq

section

variable (env : PaymentContext) (e : PaymentEvent) (s : PaymentStore)

def PaymentEvent.exec : PaymentStore :=
  match e.call with
  | .completeStripe receipt => (completeStripeCheckout { env with now := e.now } e.ids receipt s).1
  | .endStripe tradeNo sessionID status => (endStripeCheckout e.now tradeNo sessionID status s).1
  | .bindStripe tradeNo sessionID => (bindStripeCheckout tradeNo sessionID s).1
  | .manual tradeNo => (manualCompleteTopUp env.cfg e.now tradeNo s).1
  | .provider tradeNo c => (c.exec env.cfg e.now tradeNo s).1
  | .updatePending tradeNo provider status => (updatePendingTopUpStatus tradeNo provider status s).1

/-- The order that an event put under review, with the receipt that did it. -/
def PaymentEvent.reviewed : List (Int × StripeReceipt) :=
  match e.call with
  | .completeStripe receipt =>
    match (completeStripeCheckout { env with now := e.now } e.ids receipt s).2,
      s.topUp? receipt.tradeNo with
    | .ok .conflict, some t => [(t.id, receipt)]
    | _, _ => []
  | _ => []

end

/-! ## How orders advance -/

/-- What an order is about, without what the calls write. -/
def TopUp.terms (t : TopUp) : TopUp :=
  { t with
    checkoutSessionID := "", paidMinor := 0, paymentState := .none, fulfillmentError := ""
    paymentMethod := "", completeTime := 0, status := .pending }

/-- **The order advanced**: its terms stay, a session that is bound stays, and so does a success. -/
structure TopUp.Advances (t t' : TopUp) : Prop where
  terms : t'.terms = t.terms
  session : t.checkoutSessionID = "" ∨ t'.checkoutSessionID = t.checkoutSessionID
  done : t.status = .success → t'.status = .success

namespace TopUp.Advances

variable {t t' t'' : TopUp}

theorem refl (t : TopUp) : t.Advances t := ⟨rfl, .inr rfl, fun h => h⟩

section

variable (h : t.Advances t')
include h

theorem trans (h' : t'.Advances t'') : t.Advances t'' where
  terms := h'.terms.trans h.terms
  session := by
    rcases h.session with hnone | hsame
    · exact .inl hnone
    rcases h'.session with hnone | hsame'
    · exact .inl (hsame ▸ hnone)
    · exact .inr (hsame'.trans hsame)
  done := fun hd => h'.done (h.done hd)

/-- What can be read off the terms stays. -/
theorem keeps {α : Type} (f : TopUp → α) (hf : ∀ t : TopUp, f t.terms = f t) : f t' = f t := by
  rw [← hf t', h.terms, hf]

theorem id_eq : t'.id = t.id := h.keeps TopUp.id fun _ => rfl

theorem creditQuota_eq : t'.creditQuota = t.creditQuota := h.keeps (·.creditQuota) fun _ => rfl

theorem provider_eq : t'.paymentProvider = t.paymentProvider :=
  h.keeps (·.paymentProvider) fun _ => rfl

theorem quoteVersion_eq : t'.quoteVersion = t.quoteVersion := h.keeps (·.quoteVersion) fun _ => rfl

theorem due_eq (cfg : PaymentConfig) (c : PaymentCall) : c.due cfg t' = c.due cfg t := by
  have hamount : t'.amount = t.amount := h.keeps TopUp.amount fun _ => rfl
  cases c with
  | completeStripe r => exact h.creditQuota_eq
  | manual =>
    rw [PaymentCall.due, PaymentCall.due, PaymentConfig.manualQuota, PaymentConfig.manualQuota,
      h.provider_eq, h.creditQuota_eq, hamount]
  | provider _ c =>
    cases c with
    | creem => exact hamount
    | _ => exact congrArg cfg.quotaOfAmount hamount
  | _ => rfl

end

end TopUp.Advances

/-- A receipt that will not credit the order, now or later: it conflicts, and no binding to come can
change that. -/
structure TopUp.Refuses (cfg : PaymentConfig) (t : TopUp) (receipt : StripeReceipt) : Prop where
  conflict : topUpConflict cfg t receipt ≠ none
  settled : t.quoteVersion = 0 ∨ t.checkoutSessionID ≠ ""

theorem TopUp.Refuses.advance {cfg : PaymentConfig} (h : t.Refuses cfg receipt)
    (hadv : t.Advances t') : t'.Refuses cfg receipt := by
  rcases h.settled with hlegacy | hbound
  · -- An order without a quote is never credited by a receipt.
    have hlegacy' : t'.quoteVersion = 0 := hadv.quoteVersion_eq.trans hlegacy
    refine ⟨?_, .inl hlegacy'⟩
    rw [topUpConflict, PaymentSnapshot.validate, if_pos hlegacy']
    exact nofun
  · have hsession : t'.checkoutSessionID = t.checkoutSessionID := hadv.session.resolve_left hbound
    refine ⟨?_, .inr (hsession ▸ hbound)⟩
    have hcurrency : t'.currency = t.currency := hadv.keeps (·.currency) fun _ => rfl
    have hexpected : t'.expectedMinor = t.expectedMinor := hadv.keeps (·.expectedMinor) fun _ => rfl
    have hpromotions : t'.allowPromotionCodes = t.allowPromotionCodes :=
      hadv.keeps (·.allowPromotionCodes) fun _ => rfl
    rw [topUpConflict, PaymentSnapshot.validate, hadv.quoteVersion_eq, hsession, hcurrency, hexpected,
      hpromotions, hadv.creditQuota_eq]
    exact h.conflict

/-- **The orders advanced**: the same rows, each further along. -/
def Progressed (s s' : PaymentStore) : Prop :=
  ∀ id, Option.Rel TopUp.Advances (s.topUps.find? id) (s'.topUps.find? id)

theorem Progressed.of_eq (h : s'.topUps = s.topUps) : Progressed s s' := by
  intro id
  rw [h]
  cases s.topUps.find? id with
  | none => exact .none
  | some t => exact .some (.refl t)

theorem Progressed.of_put (hfound : s.topUps.find? t.id = some t) (h : s'.topUps = s.topUps.put t')
    (hadv : t.Advances t') : Progressed s s' := by
  intro id
  rw [h, find?_put, key_topUp, hadv.id_eq]
  split_ifs with hid
  · rw [hid, hfound]
    exact .some hadv
  · exact Progressed.of_eq rfl id

theorem Progressed.trans {s'' : PaymentStore} (h : Progressed s s') (h' : Progressed s' s'') :
    Progressed s s'' := by
  intro id
  have h₁ := h id
  have h₂ := h' id
  generalize s.topUps.find? id = a at h₁ ⊢
  generalize s'.topUps.find? id = b at h₁ h₂
  generalize s''.topUps.find? id = c at h₂ ⊢
  cases h₁ with
  | none => exact h₂
  | some hab =>
    cases h₂ with
    | some hbc => exact .some (hab.trans hbc)

variable {id : Int}

theorem Progressed.before (h : Progressed s s') (ht' : s'.topUps.find? id = some t') :
    ∃ t, s.topUps.find? id = some t ∧ t.Advances t' := by
  have hid := h id
  rw [ht'] at hid
  cases ht : s.topUps.find? id with
  | none => rw [ht] at hid; cases hid
  | some t =>
    rw [ht] at hid
    cases hid with
    | some hadv => exact ⟨t, rfl, hadv⟩

theorem Progressed.after (h : Progressed s s')
    (ht : s.topUps.find? id = some t) : ∃ t', s'.topUps.find? id = some t' ∧ t.Advances t' := by
  have hid := h id
  rw [ht] at hid
  cases ht' : s'.topUps.find? id with
  | none => rw [ht'] at hid; cases hid
  | some t' =>
    rw [ht'] at hid
    cases hid with
    | some hadv => exact ⟨t', rfl, hadv⟩

/-- The orders that became successful between two stores, as they were before. -/
def completedOrders (s s' : PaymentStore) : List TopUp :=
  s.topUps.select fun t =>
    decide (t.status ≠ .success) && (s'.topUps.find? t.id).any fun t' => t'.status = .success

theorem mem_completedOrders :
    t ∈ completedOrders s s' ↔
      t ∈ s.topUps.rows ∧ t.status ≠ .success ∧
        ∃ t', s'.topUps.find? t.id = some t' ∧ t'.status = .success := by
  simp only [completedOrders, select, mem_filter, Bool.and_eq_true, decide_eq_true_eq]
  constructor
  · rintro ⟨hmem, hopen, hany⟩
    cases hfind : s'.topUps.find? t.id with
    | none => rw [hfind] at hany; cases hany
    | some t' =>
      rw [hfind] at hany
      exact ⟨hmem, hopen, t', rfl, by simpa using hany⟩
  · rintro ⟨hmem, hopen, t', hfind, hdone⟩
    exact ⟨hmem, hopen, by rw [hfind]; simpa using hdone⟩

theorem Progressed.success_iff (h : Progressed s s') (ht : s.topUps.find? id = some t)
    (ht' : s'.topUps.find? id = some t') :
    t'.status = .success ↔ t.status = .success ∨ t ∈ completedOrders s s' := by
  obtain rfl : t.id = id := key_of_find? ht
  obtain ⟨t₁, ht₁, hadv⟩ := h.after ht
  rw [ht'] at ht₁
  cases ht₁
  rw [mem_completedOrders]
  constructor
  · intro hdone
    by_cases hopen : t.status = .success
    · exact .inl hopen
    · exact .inr ⟨mem_of_find? ht, hopen, t', ht', hdone⟩
  · rintro (hdone | ⟨-, -, t₂, ht₂, hdone⟩)
    · exact hadv.done hdone
    · rw [ht'] at ht₂
      cases ht₂
      exact hdone

/-! ## What a call can do -/

/-- **The outcome of a call**: orders advance, and every user's quota moves by what is due for the
orders that the call completed. -/
structure CallOutcome (cfg : PaymentConfig) (c : PaymentCall) (s s' : PaymentStore) : Prop where
  progressed : Progressed s s'
  completed : (completedOrders s s').length ≤ 1
  quota : ∀ u, quotaOf s'.db u
    = quotaOf s.db u + (((completedOrders s s').filter (·.userId = u)).map (c.due cfg)).sum
  stripe : ∀ t ∈ completedOrders s s', t.paymentProvider = .stripe → c.due cfg t = t.creditQuota
  receipt : ∀ t ∈ completedOrders s s', ∀ r, c = .completeStripe r → topUpConflict cfg t r = none
  orders : s'.orders = s.orders

namespace CallOutcome

variable {cfg : PaymentConfig} {c : PaymentCall} {t' : TopUp}

theorem of_uncompleted (hprog : Progressed s s') (hnone : completedOrders s s' = [])
    (hquota : ∀ u, quotaOf s'.db u = quotaOf s.db u) (horders : s'.orders = s.orders) :
    CallOutcome cfg c s s' where
  progressed := hprog
  completed := by rw [hnone]; exact Nat.zero_le 1
  quota := fun u => by rw [hnone, hquota u]; simp
  stripe := by rw [hnone]; exact fun t ht => absurd ht not_mem_nil
  receipt := by rw [hnone]; exact fun t ht => absurd ht not_mem_nil
  orders := horders

theorem refl (cfg : PaymentConfig) (c : PaymentCall) (s : PaymentStore) : CallOutcome cfg c s s := by
  refine of_uncompleted (.of_eq rfl) ?_ (fun _ => rfl) rfl
  rw [eq_nil_iff_forall_not_mem]
  intro t ht
  obtain ⟨hmem, hopen, t', hfind, hdone⟩ := mem_completedOrders.mp ht
  rw [show s.topUps.find? t.id = some t from find?_of_mem hmem] at hfind
  cases hfind
  exact hopen hdone

theorem of_move (hfound : s.topUps.find? t.id = some t) (hadv : t.Advances t')
    (hstatus : t'.status = .success → t.status = .success) :
    CallOutcome cfg c s (s.saveTopUp t') := by
  refine of_uncompleted (.of_put hfound rfl hadv) ?_ (fun _ => rfl) rfl
  rw [eq_nil_iff_forall_not_mem]
  intro x hx
  obtain ⟨hmem, hopen, x', hfind, hdone⟩ := mem_completedOrders.mp hx
  have hx : s.topUps.find? x.id = some x := find?_of_mem hmem
  rw [PaymentStore.saveTopUp, find?_put, key_topUp, hadv.id_eq, hx] at hfind
  split_ifs at hfind with hid
  · cases hfind
    rw [hid, hfound] at hx
    cases hx
    exact hopen (hstatus hdone)
  · cases hfind
    exact hopen hdone

/-- **A call that completes an order** and credits what is due to a user that is there. -/
theorem of_credit {contacts : Table UserContact} (hfound : s.topUps.find? t.id = some t)
    (hadv : t.Advances t') (hopen : t.status ≠ .success) (hdone : t'.status = .success)
    (huser : (liveUser s.db t.userId).isSome)
    (hstripe : t.paymentProvider = .stripe → c.due cfg t = t.creditQuota)
    (hreceipt : ∀ r, c = .completeStripe r → topUpConflict cfg t r = none) :
    CallOutcome cfg c s
      { (s.saveTopUp t').addQuota t.userId (c.due cfg t) with contacts := contacts } := by
  have hprog : Progressed s
      { (s.saveTopUp t').addQuota t.userId (c.due cfg t) with contacts := contacts } :=
    .of_put hfound rfl hadv
  have hone : completedOrders s
      { (s.saveTopUp t').addQuota t.userId (c.due cfg t) with contacts := contacts } = [t] := by
    have hself : (s.topUps.put t').find? t.id = some t' := by
      rw [find?_put, key_topUp, hadv.id_eq, if_pos rfl, hfound]
      rfl
    refine select_eq_singleton (mem_of_find? hfound) fun x hx => ?_
    constructor
    · -- Another row is what it was, so it did not become successful.
      intro hp
      obtain ⟨-, hxopen, x', hfind, hxdone⟩ :=
        mem_completedOrders.mp (mem_filter.mpr ⟨hx, hp⟩)
      have hx' : s.topUps.find? x.id = some x := find?_of_mem hx
      by_cases hid : x.id = t.id
      · rw [hid, hfound] at hx'
        exact (Option.some.inj hx').symm
      · have hkeep : (s.topUps.put t').find? x.id = some x := by
          rw [find?_put, key_topUp, hadv.id_eq, if_neg hid, hx']
        have heq : some x' = some x := hfind.symm.trans hkeep
        cases heq
        exact absurd hxdone hxopen
    · rintro rfl
      exact (mem_filter.mp (mem_completedOrders.mpr ⟨hx, hopen, t', hself, hdone⟩)).2
  constructor
  · exact hprog
  · rw [hone]; exact le_rfl
  · intro u
    rw [hone]
    have hquota := quotaOf_addUserQuota s.db t.userId (c.due cfg t) u
    by_cases hu : u = t.userId
    · rw [if_pos ⟨hu, huser⟩] at hquota
      exact hquota.trans (by simp [hu])
    · rw [if_neg fun h => hu h.1] at hquota
      have hu' : t.userId ≠ u := fun h => hu h.symm
      exact hquota.trans (by simp [hu'])
  · rw [hone]; exact fun x hx => (mem_singleton.mp hx) ▸ hstripe
  · rw [hone]; exact fun x hx => (mem_singleton.mp hx) ▸ hreceipt
  · rfl

end CallOutcome

/-! ## Every call -/

def PaymentCall.OnTopUp (s : PaymentStore) (c : PaymentCall) : Prop := s.order? c.tradeNo = none
  deriving Decidable

/-- **What a call must find** for the credit to be exact. A callback that completes an order finds
the user there. A status handed over is not that of a success. A receipt is judged on an order whose
quote has a version: below zero, the code would not wait for the session to be bound. -/
def PaymentCall.Proper (s : PaymentStore) : PaymentCall → Prop
  | .completeStripe receipt => ∀ t ∈ s.topUp? receipt.tradeNo, 0 ≤ t.quoteVersion
  | .endStripe _ _ status => status ≠ .success
  | .updatePending _ _ status => status ≠ .success
  | .provider tradeNo _ =>
    ∀ t ∈ s.topUp? tradeNo, t.status = .pending → (liveUser s.db t.userId).isSome
  | .bindStripe _ _ | .manual _ => True

instance (s : PaymentStore) (c : PaymentCall) : Decidable (c.Proper s) :=
  match c with
  | .completeStripe _ | .provider _ _ => inferInstanceAs (Decidable (∀ t ∈ s.topUp? _, _))
  | .endStripe _ _ _ | .updatePending _ _ _ => inferInstanceAs (Decidable (_ ≠ _))
  | .bindStripe _ _ | .manual _ => inferInstanceAs (Decidable True)

section

variable {cfg : PaymentConfig} {ids : FreshIds} {now : Int} {tradeNo sessionID : String}
  {status : OrderStatus}

theorem find?_of_topUp? (h : s.topUp? tradeNo = some t) : s.topUps.find? t.id = some t :=
  find?_of_mem (mem_of_find?_eq_some h)

theorem outcome_completeStripe (env : PaymentContext) (horder : s.order? receipt.tradeNo = none) :
    CallOutcome env.cfg (.completeStripe receipt) s (completeStripeCheckout env ids receipt s).1 := by
  refine transaction_cases (.refl _ _ s) fun s' result h => ?_
  rw [completeStripeCheckoutTx, horder] at h
  cases hfind : s.topUp? receipt.tradeNo with
  | none => rw [hfind] at h; cases h
  | some t =>
    rw [hfind] at h
    obtain ⟨-, ⟨-, -, rfl⟩ | ⟨hopen, -, ⟨text, -, -, rfl⟩ | ⟨hvalid, -, huser, contacts, rfl⟩⟩⟩ :=
      completeStripeTopUpTx_eq_ok h
    · exact .refl _ _ _
    · exact .of_move (find?_of_topUp? hfind) ⟨rfl, .inr rfl, fun h => h⟩ (fun h => h)
    · refine .of_credit (find?_of_topUp? hfind) ⟨rfl, .inr rfl, fun _ => rfl⟩ hopen rfl huser
        (fun _ => rfl) fun r hr => ?_
      cases hr
      exact hvalid

theorem outcome_endStripe (horder : s.order? tradeNo = none) (hstatus : status ≠ .success) :
    CallOutcome cfg (.endStripe tradeNo sessionID status) s
      (endStripeCheckout now tradeNo sessionID status s).1 := by
  unfold endStripeCheckout
  split
  · exact .refl _ _ s
  refine transaction_cases (.refl _ _ s) fun s' result h => ?_
  obtain rfl | ⟨t, hfind, hfree, rfl⟩ := endStripeCheckoutTx_topUp horder h
  · exact .refl _ _ _
  · refine .of_move (find?_of_topUp? hfind) ⟨rfl, .inr rfl, fun hdone => ?_⟩
      fun hdone => absurd hdone hstatus
    rw [hfree.1] at hdone
    cases hdone

theorem outcome_bindStripe (horder : s.order? tradeNo = none) :
    CallOutcome cfg (.bindStripe tradeNo sessionID) s (bindStripeCheckout tradeNo sessionID s).1 := by
  obtain hkeep | ⟨t, hfind, hsession, hbind⟩ := bindStripeCheckout_topUp sessionID horder
  · rw [hkeep]
    exact .refl _ _ s
  · rw [hbind]
    exact .of_move (find?_of_topUp? hfind) ⟨rfl, hsession.imp_right Eq.symm, fun h => h⟩ (fun h => h)

theorem outcome_manual :
    CallOutcome cfg (.manual tradeNo) s (manualCompleteTopUp cfg now tradeNo s).1 := by
  unfold manualCompleteTopUp
  split
  · exact .refl _ _ s
  refine transaction_cases (.refl _ _ s) fun s' result h => ?_
  obtain ⟨t, hfind, ⟨-, rfl⟩ | ⟨hpending, -, -, huser, rfl⟩⟩ := manualCompleteTopUpTx_eq_ok h
  · exact .refl _ _ _
  · have hopen : t.status ≠ .success := by rw [hpending]; decide
    have hrow : t.Advances (t.overridden now) ∧ (t.overridden now).status = .success := by
      unfold TopUp.overridden
      split
      · exact ⟨⟨rfl, .inr rfl, fun _ => rfl⟩, rfl⟩
      · exact ⟨⟨rfl, .inr rfl, fun _ => rfl⟩, rfl⟩
    exact .of_credit (find?_of_topUp? hfind) hrow.1 hopen hrow.2 huser (fun h => if_pos h) nofun

theorem outcome_provider {c : ProviderCall} (hproper : (PaymentCall.provider tradeNo c).Proper s) :
    CallOutcome cfg (.provider tradeNo c) s (c.exec cfg now tradeNo s).1 := by
  rw [ProviderCall.exec_fst]
  split
  · exact .refl _ _ s
  refine transaction_cases (.refl _ _ s) fun s' result h => ?_
  obtain ⟨t, hfind, hprovider, ⟨-, rfl⟩ | ⟨hpending, -, t', contacts, ⟨method, rfl⟩, rfl⟩⟩ :=
    ProviderCall.tx_eq_ok h
  · exact .refl _ _ _
  · have hopen : t.status ≠ .success := by rw [hpending]; decide
    refine .of_credit (c := .provider tradeNo c) (find?_of_topUp? hfind)
      ⟨rfl, .inr rfl, fun _ => rfl⟩ hopen rfl (hproper t hfind hpending) (fun hstripe => ?_) nofun
    -- No callback accepts an order of Stripe.
    rw [hstripe] at hprovider
    cases c <;> cases hprovider

theorem outcome_updatePending {provider : PaymentProvider} (hstatus : status ≠ .success) :
    CallOutcome cfg (.updatePending tradeNo provider status) s
      (updatePendingTopUpStatus tradeNo provider status s).1 := by
  unfold updatePendingTopUpStatus requireTradeNo
  split
  · exact .refl _ _ s
  refine transaction_cases (.refl _ _ s) fun s' result h => ?_
  obtain ⟨t, hfind, hpending, rfl⟩ := updatePendingTopUpStatusTx_eq_ok h
  refine .of_move (find?_of_topUp? hfind) ⟨rfl, .inr rfl, fun hdone => ?_⟩
    fun hdone => absurd hdone hstatus
  rw [hpending] at hdone
  cases hdone

end

variable {e : PaymentEvent} {env : PaymentContext}

/-- **Every event on a top-up has that outcome.** -/
theorem PaymentEvent.exec_outcome (env : PaymentContext) (hscope : e.call.OnTopUp s)
    (hproper : e.call.Proper s) : CallOutcome env.cfg e.call s (e.exec env s) := by
  obtain ⟨now, ids, call⟩ := e
  cases call with
  | completeStripe =>
    exact outcome_completeStripe { env with now := now } hscope
  | endStripe => exact outcome_endStripe hscope hproper
  | bindStripe => exact outcome_bindStripe hscope
  | manual => exact outcome_manual
  | provider => exact outcome_provider hproper
  | updatePending => exact outcome_updatePending hproper

/-- An event that put an order under review found it open and left it refusing the receipt. -/
theorem PaymentEvent.of_mem_reviewed (hscope : e.call.OnTopUp s) (hproper : e.call.Proper s)
    {x : Int × StripeReceipt} (hx : x ∈ e.reviewed env s) :
    ∃ t, s.topUps.find? x.1 = some t ∧ t.status ≠ .success ∧ t.Refuses env.cfg x.2 := by
  obtain ⟨now, ids, call⟩ := e
  cases call with
  | completeStripe receipt =>
    dsimp only [PaymentEvent.reviewed] at hx
    cases hresult : (completeStripeCheckout { env with now := now } ids receipt s).2 with
    | error err => rw [hresult] at hx; exact absurd hx not_mem_nil
    | ok result =>
      cases hfind : s.topUp? receipt.tradeNo with
      | none =>
        rw [hresult, hfind] at hx
        cases result <;> exact absurd hx not_mem_nil
      | some t =>
        have htx := transaction_snd_eq_ok hresult
        rw [completeStripeCheckoutTx, show s.order? receipt.tradeNo = none from hscope,
          hfind] at htx
        rw [hresult, hfind] at hx
        obtain ⟨-, ⟨-, rfl, -⟩ | ⟨hopen, hbound, ⟨text, hconflict, rfl, -⟩ | ⟨-, rfl, -⟩⟩⟩ :=
          completeStripeTopUpTx_eq_ok htx
        · exact absurd hx not_mem_nil
        · obtain rfl : x = (t.id, receipt) := mem_singleton.mp hx
          refine ⟨t, find?_of_topUp? hfind, hopen, by rw [hconflict]; exact nofun, ?_⟩
          have hversion : 0 ≤ t.quoteVersion := hproper t hfind
          by_cases hlegacy : t.quoteVersion = 0
          · exact .inl hlegacy
          · exact .inr fun hsession => hbound ⟨by omega, hsession⟩
        · exact absurd hx not_mem_nil
  | _ => exact absurd hx not_mem_nil

/-! ## Runs -/

/-- A credit: the order before it became successful, what its user's quota moved by, and the call
that did it. -/
structure Credit where
  topUp : TopUp
  quota : Int
  call : PaymentCall
  deriving DecidableEq

/-- The store with the log of its credits and of the receipts under review. -/
structure PaymentSystem where
  store : PaymentStore
  credits : List Credit
  reviewed : List (Int × StripeReceipt)

/-- The credits between two stores, measured on the quotas. -/
def creditsOf (c : PaymentCall) (s s' : PaymentStore) : List Credit :=
  (completedOrders s s').map fun t => ⟨t, quotaOf s'.db t.userId - quotaOf s.db t.userId, c⟩

def PaymentSystem.step (env : PaymentContext) (sys : PaymentSystem) (e : PaymentEvent) :
    PaymentSystem :=
  { store := e.exec env sys.store
    credits := sys.credits ++ creditsOf e.call sys.store (e.exec env sys.store)
    reviewed := sys.reviewed ++ e.reviewed env sys.store }

def PaymentStore.start (s : PaymentStore) : PaymentSystem := ⟨s, [], []⟩

section

variable (cfg : PaymentConfig) (s : PaymentStore)

structure CreditedOnce (sys : PaymentSystem) : Prop where
  /-- The orders are the same, on the same terms, and a successful one stays successful. -/
  progressed : Progressed s sys.store
  quota : ∀ u, quotaOf sys.store.db u
    = quotaOf s.db u + ((sys.credits.filter (·.topUp.userId = u)).map (·.quota)).sum
  once : (sys.credits.map (·.topUp.id)).Nodup
  success : ∀ id t₀ t, s.topUps.find? id = some t₀ → sys.store.topUps.find? id = some t →
    (t.status = .success ↔ t₀.status = .success ∨ id ∈ sys.credits.map (·.topUp.id))
  /-- Each credit is of an order that was open at the start, in the amount that is due; for Stripe
  that is the quoted credit. -/
  due : ∀ x ∈ sys.credits, ∃ t₀, s.topUps.find? x.topUp.id = some t₀ ∧ t₀.Advances x.topUp ∧
    t₀.status ≠ .success ∧ x.quota = x.call.due cfg t₀ ∧
    (t₀.paymentProvider = .stripe → x.quota = t₀.creditQuota)
  receipts : ∀ x ∈ sys.credits, ∀ r, x.call = .completeStripe r →
    x.topUp.toPaymentSnapshot.Matches cfg r
  reviews : ∀ x ∈ sys.credits, ∀ r, x.call = .completeStripe r → (x.topUp.id, r) ∉ sys.reviewed

/-- What a run keeps: the above, and that a receipt under review is refused by its order. -/
structure CreditInvariant (sys : PaymentSystem) : Prop
    extends CreditedOnce cfg s sys where
  refused : ∀ x ∈ sys.reviewed, ∀ t, sys.store.topUps.find? x.1 = some t → t.Refuses cfg x.2

theorem creditInvariant_start : CreditInvariant cfg s s.start where
  progressed := .of_eq rfl
  quota := fun u => by simp [PaymentStore.start]
  once := nodup_nil
  success := fun id t₀ t h₀ h => by
    cases h₀.symm.trans h
    simp [PaymentStore.start]
  due := fun x hx => absurd hx not_mem_nil
  receipts := fun x hx => absurd hx not_mem_nil
  reviews := fun x hx => absurd hx not_mem_nil
  refused := fun x hx => absurd hx not_mem_nil

end

section

variable {cfg : PaymentConfig} {c : PaymentCall}

theorem CallOutcome.creditsOf_eq (h : CallOutcome cfg c s s') :
    creditsOf c s s' = (completedOrders s s').map fun t => ⟨t, c.due cfg t, c⟩ := by
  refine map_congr_left fun t ht => ?_
  -- The order is the only one completed, so its user's quota moved by what is due for it.
  have hone : completedOrders s s' = [t] := by
    have hlen := h.completed
    cases hlist : completedOrders s s' with
    | nil => rw [hlist] at ht; exact absurd ht not_mem_nil
    | cons x rest =>
      rw [hlist] at hlen ht
      obtain rfl : rest = [] := eq_nil_of_length_eq_zero (by simpa using hlen)
      rw [mem_singleton.mp ht]
  have hquota := h.quota t.userId
  rw [hone] at hquota
  simp only [filter_cons, decide_true, if_true, filter_nil, map_cons, map_nil,
    sum_cons, sum_nil, add_zero] at hquota
  rw [hquota, add_sub_cancel_left]

/-- **One event keeps the invariant.** -/
theorem creditInvariant_step {s₀ : PaymentStore} {sys : PaymentSystem}
    (hscope : e.call.OnTopUp sys.store) (hproper : e.call.Proper sys.store)
    (hinv : CreditInvariant env.cfg s₀ sys) : CreditInvariant env.cfg s₀ (sys.step env e) := by
  have hout := e.exec_outcome env hscope hproper
  have hcredits : (sys.step env e).credits = sys.credits
      ++ (completedOrders sys.store (e.exec env sys.store)).map
        fun t => ⟨t, e.call.due env.cfg t, e.call⟩ := by
    rw [← hout.creditsOf_eq]
    rfl
  have hids : (sys.step env e).credits.map (·.topUp.id) = sys.credits.map (·.topUp.id)
      ++ (completedOrders sys.store (e.exec env sys.store)).map (·.id) := by
    rw [hcredits, map_append, map_map]
    rfl
  -- A credited order is successful, so neither completed nor reviewed now.
  have hdone : ∀ x ∈ sys.credits, ∀ t, sys.store.topUps.find? x.topUp.id = some t →
      t.status = .success := by
    intro x hx t ht
    obtain ⟨t₀, h₀, -⟩ := hinv.due x hx
    exact (hinv.success _ _ _ h₀ ht).mpr (.inr (mem_map_of_mem hx))
  have hnew : ∀ x ∈ (sys.step env e).credits, x ∈ sys.credits ∨
      (x.topUp ∈ completedOrders sys.store (e.exec env sys.store) ∧
        x.quota = e.call.due env.cfg x.topUp ∧ x.call = e.call) := by
    intro x hx
    rw [hcredits, mem_append] at hx
    rcases hx with hx | hx
    · exact .inl hx
    · obtain ⟨t, ht, rfl⟩ := mem_map.mp hx
      exact .inr ⟨ht, rfl, rfl⟩
  constructor
  · constructor
    case progressed => exact hinv.progressed.trans hout.progressed
    case quota =>
      intro u
      rw [hcredits, filter_append, map_append, sum_append, ← add_assoc, ← hinv.quota u]
      refine (hout.quota u).trans ?_
      rw [filter_map, map_map]
      rfl
    case once =>
      rw [hids, nodup_append]
      refine ⟨hinv.once, ?_, ?_⟩
      · exact (sys.store.topUps.nodup_keys).sublist (filter_sublist.map _)
      · intro a ha b hb hab
        obtain ⟨x, hx, rfl⟩ := mem_map.mp ha
        obtain ⟨t, ht, rfl⟩ := mem_map.mp hb
        obtain ⟨hmem, hopen, -⟩ := mem_completedOrders.mp ht
        exact hopen (hdone x hx t (hab ▸ find?_of_mem hmem))
    case success =>
      intro id t₀ t h₀ ht
      obtain ⟨t₁, h₁, -⟩ := hout.progressed.before ht
      rw [hout.progressed.success_iff h₁ ht, hinv.success id t₀ t₁ h₀ h₁, hids, mem_append,
        or_assoc]
      refine or_congr_right (or_congr_right ?_)
      constructor
      · intro hmem
        exact mem_map.mpr ⟨t₁, hmem, key_of_find? h₁⟩
      · intro hmem
        obtain ⟨x, hx, rfl⟩ := mem_map.mp hmem
        have hx₁ : sys.store.topUps.find? x.id = some x :=
          find?_of_mem (mem_completedOrders.mp hx).1
        cases hx₁.symm.trans h₁
        exact hx
    case due =>
      intro x hx
      rcases hnew x hx with hold | ⟨hmem, hquota, hcall⟩
      · exact hinv.due x hold
      · obtain ⟨hrow, hopen, -⟩ := mem_completedOrders.mp hmem
        obtain ⟨t₀, h₀, hadv⟩ := hinv.progressed.before (find?_of_mem hrow)
        refine ⟨t₀, h₀, hadv, fun h => hopen (hadv.done h), ?_, fun hstripe => ?_⟩
        · rw [hquota, hcall, hadv.due_eq]
        · rw [hquota, hout.stripe _ hmem (hadv.provider_eq.trans hstripe), hadv.creditQuota_eq]
    case receipts =>
      intro x hx r hr
      rcases hnew x hx with hold | ⟨hmem, -, hcall⟩
      · exact hinv.receipts x hold r hr
      · exact matches_of_topUpConflict (hout.receipt _ hmem r (hcall.symm.trans hr))
    case reviews =>
      intro x hx r hr hreviewed
      rcases mem_append.mp hreviewed with hbefore | hnow
      · rcases hnew x hx with hold | ⟨hmem, -, hcall⟩
        · exact hinv.reviews x hold r hr hbefore
        · -- The order refuses the receipt, so the receipt did not complete it.
          have hrow := (mem_completedOrders.mp hmem).1
          have hrefuses := hinv.refused _ hbefore _ (find?_of_mem hrow)
          exact hrefuses.conflict (hout.receipt _ hmem r (hcall.symm.trans hr))
      · obtain ⟨t, ht, hopen, hrefuses⟩ := PaymentEvent.of_mem_reviewed hscope hproper hnow
        rcases hnew x hx with hold | ⟨hmem, -, hcall⟩
        · exact hopen (hdone x hold t ht)
        · have hrow := (mem_completedOrders.mp hmem).1
          cases (show sys.store.topUps.find? x.topUp.id = some x.topUp from
            find?_of_mem hrow).symm.trans ht
          exact hrefuses.conflict (hout.receipt _ hmem r (hcall.symm.trans hr))
  · intro x hx t ht
    obtain ⟨t₁, h₁, hadv⟩ := hout.progressed.before ht
    rcases mem_append.mp hx with hbefore | hnow
    · exact (hinv.refused x hbefore t₁ h₁).advance hadv
    · obtain ⟨t₂, h₂, -, hrefuses⟩ := PaymentEvent.of_mem_reviewed hscope hproper hnow
      cases h₁.symm.trans h₂
      exact hrefuses.advance hadv

end

/-- **Every top-up is credited at most once and only when due**, in every state that a run of the
nine calls on top-up orders reaches whose calls find what they must find. -/
theorem credited_once (env : PaymentContext) (s : PaymentStore) (es : List PaymentEvent)
    (hscope : Along (PaymentSystem.step env) (fun sys e => e.call.OnTopUp sys.store) s.start es)
    (hproper : Along (PaymentSystem.step env) (fun sys e => e.call.Proper sys.store) s.start es) :
    CreditedOnce env.cfg s (run (PaymentSystem.step env) s.start es) :=
  (run_invariant (I := CreditInvariant env.cfg s)
    (fun _ _ hc hinv => creditInvariant_step hc.1 hc.2 hinv) (hscope.and hproper)
    (creditInvariant_start env.cfg s)).toCreditedOnce

/-! ## Sample runs -/

/-- A Stripe order of the sample payer, quoted at 100 cents for 9 quota and not bound yet. -/
def sampleQuoted : TopUp :=
  { sampleOrder .stripe with
    id := 8, tradeNo := "T8", quoteVersion := 1, currency := "usd", expectedMinor := 100
    creditQuota := 9, paymentState := .unpaid }

/-- A receipt for that order in a session, with a given subtotal. -/
def sampleReceipt (subtotal : Int) : StripeReceipt :=
  { tradeNo := "T8", sessionID := "cs_1", customerID := "cus_1", currency := "usd"
    total := subtotal, subtotal := subtotal, discount := 0, tax := 0, shipping := 0 }

/-- A call at a time. -/
def sampleEvent (now : Int) (call : PaymentCall) : PaymentEvent := ⟨now, ⟨1, 1, 1⟩, call⟩

/-- An Epay order whose callback comes twice, and a Stripe order whose receipt comes before the
binding, with a wrong subtotal, right, and again. -/
def sampleCallbacks : List PaymentEvent :=
  [sampleEvent 200 (.provider "T7" (.epay "alipay" 10)),
   sampleEvent 201 (.completeStripe (sampleReceipt 100)), sampleEvent 202 (.bindStripe "T8" "cs_1"),
   sampleEvent 203 (.completeStripe (sampleReceipt 50)),
   sampleEvent 204 (.provider "T7" (.epay "alipay" 10)),
   sampleEvent 205 (.endStripe "T8" "cs_1" .expired),
   sampleEvent 206 (.completeStripe (sampleReceipt 100)),
   sampleEvent 207 (.completeStripe (sampleReceipt 50)),
   sampleEvent 208 (.completeStripe (sampleReceipt 100))]

/-- Both orders of the sample are credited, each once. -/
theorem credited_once_sample :
    let s := { sampleStore samplePayer (sampleOrder .epay) with
      topUps := (Table.empty.insert (sampleOrder .epay)).insert sampleQuoted }
    let sys := run (PaymentSystem.step sampleContext) s.start sampleCallbacks
    (sys.credits.map fun x => (x.topUp.id, x.quota)) = [(7, 2500000), (8, 9)] ∧
    sys.reviewed = [(8, sampleReceipt 50)] ∧ quotaOf sys.store.db 1 = 2500009 ∧
    CreditedOnce sampleContext.cfg s sys :=
  ⟨by decide +kernel, by decide +kernel, by decide +kernel,
    credited_once sampleContext _ sampleCallbacks (by decide +kernel) (by decide +kernel)⟩

/-- The callback of a soft-deleted user's order completes it and credits nothing, where the override
refuses for the same user. -/
theorem completed_without_credit :
    let s := sampleStore { samplePayer with deleted := true } (sampleOrder .epay)
    let sys := run (PaymentSystem.step sampleContext) s.start
      [sampleEvent 200 (.provider "T7" (.epay "alipay" 10))]
    let manual := manualCompleteTopUp sampleConfig 200 "T7" s
    (sys.store.topUps.rows.map fun t => t.status) = [.success] ∧
    (sys.credits.map fun x => (x.topUp.id, x.quota, x.call.due sampleConfig x.topUp))
      = [(7, 0, 2500000)] ∧
    quotaOf sys.store.db 1 = quotaOf s.db 1 ∧
    (manual.1.topUps.rows.map fun t => t.status) = [.pending] ∧ manual.2.isOk = false := by
  decide +kernel

end RenewApi.Payments
