import RenewApi.Payments.Checkout

/-! # The purchase limit

A plan may be sold `MaxPurchasePerUser` times to a user. An order holds a slot from its insertion
until it is released, and payment turns the slot into a subscription. -/

namespace RenewApi.Payments

open Billing Relational List Table Database

variable {db db' : Database} {o : SubscriptionOrder} {P M : Int} {s : PaymentStore}
  {orders : Table SubscriptionOrder} {sub : UserSubscription}

/-- A call that takes, converts or releases a slot; `bindStripe` lets orders paid through Stripe be
completed at all. -/
inductive PurchaseCall
  | insert (order : SubscriptionOrder)
  | complete (tradeNo payload : String) (provider : PaymentProvider) (method : String) (paid : Rat)
  | completeStripe (receipt : StripeReceipt)
  | endStripe (tradeNo sessionID : String) (status : OrderStatus)
  | bindStripe (tradeNo sessionID : String)
  | expire (tradeNo : String) (provider : PaymentProvider)
  | adminBind (userId planId : Int)
  | balance (nonce : String) (userId planId : Int)
  | adminDelete (subscriptionId : Int)
  deriving DecidableEq

/-- A call at its time, with the ids the database hands out. -/
structure PurchaseEvent where
  now : Int
  ids : FreshIds
  call : PurchaseCall
  deriving DecidableEq

def PurchaseEvent.exec (env : PaymentContext) (s : PaymentStore) (e : PurchaseEvent) : PaymentStore :=
  match e.call with
  | .insert order => (transaction (insertSubscriptionOrder { env with now := e.now } e.ids order) s).1
  | .complete tradeNo payload provider method paid =>
    (completeSubscriptionOrderWithPaidAmount { env with now := e.now } e.ids tradeNo payload provider
      method paid s).1
  | .completeStripe receipt => (completeStripeCheckout { env with now := e.now } e.ids receipt s).1
  | .endStripe tradeNo sessionID status => (endStripeCheckout e.now tradeNo sessionID status s).1
  | .bindStripe tradeNo sessionID => (bindStripeCheckout tradeNo sessionID s).1
  | .expire tradeNo provider => (expireSubscriptionOrder e.now tradeNo provider s).1
  | .adminBind userId planId =>
    (adminBindSubscription { env with now := e.now } e.ids userId planId s).1
  | .balance nonce userId planId =>
    (purchaseSubscriptionWithBalance { env with now := e.now } e.ids nonce userId planId s).1
  | .adminDelete id => { s with db := (transaction (adminDeleteUserSubscription e.now id) s.db).1 }

/-! ## What a call can do to the slots -/

/-- What an order keeps whatever happens to it. -/
structure SubscriptionOrder.Kept (o o' : SubscriptionOrder) : Prop where
  id : o'.id = o.id
  userId : o'.userId = o.userId
  planId : o'.planId = o.planId
  planSnapshot : o'.planSnapshot = o.planSnapshot

/-- **What a call can do to the slots.** The plans stay as they are. -/
inductive SlotEffect (s s' : PaymentStore) : Prop
  | fewer (plans : s'.plans = s.plans) (orders : s'.orders = s.orders)
      (subs : s'.db.subscriptions.rows.Sublist s.db.subscriptions.rows)
  | reserve (o : SubscriptionOrder) (plan : Plan) (plans : s'.plans = s.plans)
      (orders : s'.orders = s.orders.insert o) (subs : s'.db.subscriptions = s.db.subscriptions)
      (found : s.plans.find? o.planId = some plan)
      (capacity : checkPurchaseCapacityTx s o.userId plan 0 = .ok ())
      (snapshot : o.planSnapshot = .plan plan) (id : 0 < o.id) (fresh : s.orders.find? o.id = none)
  | rewrite (o o' : SubscriptionOrder) (plans : s'.plans = s.plans)
      (orders : s'.orders = s.orders.put o') (subs : s'.db.subscriptions = s.db.subscriptions)
      (found : s.orders.find? o.id = some o) (kept : o.Kept o')
      (pending : o'.status = .pending → o.status = .pending)
  /-- A subscription of a plan that has a free slot, perhaps with a complete order to show for
  it. -/
  | grant (plan : Plan) (sub : UserSubscription) (plans : s'.plans = s.plans)
      (orders : s'.orders = s.orders ∨ ∃ o, o.status = .success ∧ o.planSnapshot = .empty ∧ 0 < o.id ∧
        s.orders.find? o.id = none ∧ s'.orders = s.orders.insert o)
      (subs : s'.db.subscriptions = s.db.subscriptions.insert sub)
      (fresh : s.db.subscriptions.find? sub.id = none) (planId : sub.planId = plan.id)
      (found : s.plans.find? plan.id = some plan)
      (capacity : checkPurchaseCapacityTx s sub.userId plan 0 = .ok ())
  /-- An order becomes a subscription, if its plan has a free slot apart from its own. -/
  | convert (o o' : SubscriptionOrder) (plan : Plan) (sub : UserSubscription)
      (plans : s'.plans = s.plans) (orders : s'.orders = s.orders.put o')
      (subs : s'.db.subscriptions = s.db.subscriptions.insert sub)
      (fresh : s.db.subscriptions.find? sub.id = none) (userId : sub.userId = o.userId)
      (planId : sub.planId = plan.id) (found : s.orders.find? o.id = some o) (kept : o.Kept o')
      (done : o'.status = .success) (source : planOfOrder s o = .ok plan)
      (capacity : checkPurchaseCapacityTx s o.userId plan o.id = .ok ())

theorem SlotEffect.refl (s : PaymentStore) : SlotEffect s s := .fewer rfl rfl (Sublist.refl _)

section

variable {env : PaymentContext} {ids : FreshIds} {s : PaymentStore} {now : Int} {tradeNo : String}

theorem find?_of_order? (h : s.order? tradeNo = some o) : s.orders.find? o.id = some o :=
  find?_of_mem (mem_of_order? h)

theorem slots_insert (o : SubscriptionOrder) :
    SlotEffect s (transaction (insertSubscriptionOrder env ids o) s).1 := by
  refine transaction_cases (.refl s) fun s' o' h => ?_
  obtain ⟨plan, hplan, hcapacity, huser, hplanId, hsnapshot, hid, hfresh, rfl⟩ :=
    insertSubscriptionOrder_eq_ok h
  exact .reserve o' plan rfl rfl rfl (hplanId ▸ hplan) (huser ▸ hcapacity) hsnapshot hid hfresh

theorem slots_complete (payload : String) (provider : PaymentProvider) (method : String)
    (paid : Rat) :
    SlotEffect s (completeSubscriptionOrderWithPaidAmount env ids tradeNo payload provider method paid
      s).1 := by
  unfold completeSubscriptionOrderWithPaidAmount
  split
  · exact .refl s
  cases hfind : s.order? tradeNo with
  | none => exact .refl s
  | some order =>
    refine transaction_cases (.refl s) fun s' _ h => ?_
    obtain ⟨-, rfl⟩ | ⟨-, plan, db', sub, topUps, method', payload', hplan, hcapacity, hcreate, rfl⟩ :=
      completeSubscriptionOrderTx_eq_ok h
    · exact .refl _
    obtain ⟨hsubs, hfresh, huser, hplanId⟩ := subscriptions_createUserSubscriptionFromPlanTx hcreate
    exact .convert order _ plan sub rfl rfl hsubs hfresh huser hplanId (find?_of_order? hfind)
      ⟨rfl, rfl, rfl, rfl⟩ rfl hplan hcapacity

theorem slots_completeStripe (receipt : StripeReceipt) :
    SlotEffect s (completeStripeCheckout env ids receipt s).1 := by
  refine transaction_cases (.refl s) fun s' result h => ?_
  unfold completeStripeCheckoutTx at h
  cases hfind : s.order? receipt.tradeNo with
  | some order =>
    rw [hfind] at h
    obtain ⟨-, rfl⟩ | ⟨text, -, -, rfl⟩ | ⟨plan, db', sub, topUps, hconflict, -, hcreate, rfl⟩ :=
      completeStripeOrderTx_eq_ok h
    · exact .refl _
    · exact .rewrite order _ rfl rfl rfl (find?_of_order? hfind) ⟨rfl, rfl, rfl, rfl⟩ (fun h => h)
    · obtain ⟨hsnapshot, hcapacity⟩ := orderConflict_eq_inr hconflict
      obtain ⟨hsubs, hfresh, huser, hplanId⟩ :=
        subscriptions_createUserSubscriptionFromPlanTx hcreate
      have hsource : planOfOrder s order = .ok plan := by rw [planOfOrder, hsnapshot]
      exact .convert order _ plan sub rfl rfl hsubs hfresh huser hplanId (find?_of_order? hfind)
        ⟨rfl, rfl, rfl, rfl⟩ rfl hsource hcapacity
  | none =>
    -- A top-up: no order and no subscription is touched.
    rw [hfind] at h
    cases hfind' : s.topUp? receipt.tradeNo with
    | none => rw [hfind'] at h; cases h
    | some t =>
      rw [hfind'] at h
      obtain ⟨-, ⟨-, -, rfl⟩ | ⟨-, -, ⟨text, -, -, rfl⟩ | ⟨-, -, -, contacts, rfl⟩⟩⟩ :=
        completeStripeTopUpTx_eq_ok h
      · exact .refl _
      · exact .fewer rfl rfl (Sublist.refl _)
      · exact .fewer rfl rfl (Sublist.refl _)

theorem slots_endStripe (sessionID : String) (status : OrderStatus) :
    SlotEffect s (endStripeCheckout now tradeNo sessionID status s).1 := by
  unfold endStripeCheckout
  split
  · exact .refl s
  refine transaction_cases (.refl s) fun s' _ h => ?_
  cases hfind : s.order? tradeNo with
  | some order =>
    obtain rfl | ⟨hfree, rfl⟩ := endStripeCheckoutTx_order hfind h
    · exact .refl _
    · exact .rewrite order _ rfl rfl rfl (find?_of_order? hfind) ⟨rfl, rfl, rfl, rfl⟩
        (fun _ => hfree.1)
  | none =>
    obtain rfl | ⟨t, -, -, rfl⟩ := endStripeCheckoutTx_topUp hfind h
    · exact .refl _
    · exact .fewer rfl rfl (Sublist.refl _)

theorem slots_bindStripe (sessionID : String) :
    SlotEffect s (bindStripeCheckout tradeNo sessionID s).1 := by
  cases hfind : s.order? tradeNo with
  | some order =>
    rw [bindStripeCheckout, hfind]
    dsimp only
    split
    · exact .rewrite order _ rfl rfl rfl (find?_of_order? hfind) ⟨rfl, rfl, rfl, rfl⟩ (fun h => h)
    · exact .refl s
  | none =>
    obtain hkeep | ⟨t, -, -, hbind⟩ := bindStripeCheckout_topUp sessionID hfind
    · rw [hkeep]
      exact .refl s
    · rw [hbind]
      exact .fewer rfl rfl (Sublist.refl _)

theorem slots_expire (provider : PaymentProvider) :
    SlotEffect s (expireSubscriptionOrder now tradeNo provider s).1 := by
  unfold expireSubscriptionOrder
  split
  · exact .refl s
  refine transaction_cases (.refl s) fun s' _ h => ?_
  obtain rfl | ⟨order, hfind, hpending, rfl⟩ := expireSubscriptionOrderTx_eq_ok h
  · exact .refl _
  · exact .rewrite order _ rfl rfl rfl (find?_of_order? hfind) ⟨rfl, rfl, rfl, rfl⟩ (fun _ => hpending)

theorem slots_adminBind (userId planId : Int) :
    SlotEffect s (adminBindSubscription env ids userId planId s).1 := by
  unfold adminBindSubscription
  split
  · exact .refl s
  refine transaction_cases (.refl s) fun s' plan h => ?_
  obtain ⟨hplan, hcapacity, db', sub, hcreate, rfl⟩ := adminBindSubscriptionTx_eq_ok h
  obtain ⟨hsubs, hfresh, rfl, hplanId⟩ := subscriptions_createUserSubscriptionFromPlanTx hcreate
  have hkey : plan.id = planId := key_of_find? hplan
  exact .grant plan sub rfl (.inl rfl) hsubs hfresh hplanId (hkey ▸ hplan) hcapacity

theorem slots_balance (nonce : String) (userId planId : Int) :
    SlotEffect s (purchaseSubscriptionWithBalance env ids nonce userId planId s).1 := by
  unfold purchaseSubscriptionWithBalance
  split
  · exact .refl s
  refine transaction_cases (.refl s) fun s' order h => ?_
  obtain ⟨plan, db₁, db', sub, hplan, hcapacity, hsame, hcreate, hdone, hsnapshot, hid, hnew, rfl⟩ :=
    purchaseSubscriptionWithBalanceTx_eq_ok h
  obtain ⟨hsubs, hfresh, rfl, hplanId⟩ := subscriptions_createUserSubscriptionFromPlanTx hcreate
  rw [hsame] at hsubs hfresh
  have hkey : plan.id = planId := key_of_find? hplan
  exact .grant plan sub rfl (.inr ⟨order, hdone, hsnapshot, hid, hnew, rfl⟩) hsubs hfresh hplanId
    (hkey ▸ hplan) hcapacity

theorem subscriptions_downgradeUserGroup
    (h : downgradeUserGroupForSubscriptionTx now db sub = .ok db') :
    db'.subscriptions = db.subscriptions := by
  obtain ⟨-, -, -, rfl⟩ | ⟨rfl, -⟩ := downgradeUserGroupForSubscriptionTx_eq_ok h
  · rfl
  · rfl

theorem slots_adminDelete (id : Int) :
    SlotEffect s { s with db := (transaction (adminDeleteUserSubscription now id) s.db).1 } := by
  refine .fewer rfl rfl ?_
  refine transaction_cases
    (P := fun db : Database => db.subscriptions.rows.Sublist s.db.subscriptions.rows)
    (Sublist.refl _) fun db' _ h => ?_
  obtain ⟨sub, db₁, -, hdown, rfl⟩ := adminDeleteUserSubscription_eq_ok h
  rw [subscriptions_downgradeUserGroup hdown]
  exact filter_sublist

end

theorem PurchaseEvent.exec_effect (env : PaymentContext) (s : PaymentStore) (e : PurchaseEvent) :
    SlotEffect s (e.exec env s) := by
  obtain ⟨now, ids, call⟩ := e
  cases call with
  | insert order => exact slots_insert order
  | complete _ payload provider method paid => exact slots_complete payload provider method paid
  | completeStripe receipt => exact slots_completeStripe receipt
  | endStripe _ sessionID status => exact slots_endStripe sessionID status
  | bindStripe _ sessionID => exact slots_bindStripe sessionID
  | expire _ provider => exact slots_expire provider
  | adminBind userId planId => exact slots_adminBind userId planId
  | balance nonce userId planId => exact slots_balance nonce userId planId
  | adminDelete id => exact slots_adminDelete id

/-! ## The invariant -/

def pendingOf (orders : Table SubscriptionOrder) (userId planId : Int) : Nat :=
  orders.count fun o => o.userId = userId && o.planId = planId && o.status = .pending

/-- **The slots of the plan `P` with the limit `M`**: plan and snapshots carry the limit, a snapshot
is of the order's own plan, and no user holds more than `M` slots. -/
structure Slots (P M : Int) (s : PaymentStore) : Prop where
  plan : ∀ plan, s.plans.find? P = some plan → plan.maxPurchasePerUser = M
  snapshots : ∀ o ∈ s.orders.rows, ∀ p, o.planSnapshot = .plan p →
    p.id = o.planId ∧ (p.id = P → p.maxPurchasePerUser = M)
  ids : ∀ o ∈ s.orders.rows, 0 < o.id
  bound : ∀ u, (purchased s.db u P : Int) + pendingOf s.orders u P ≤ M

section

variable {orders : Table SubscriptionOrder} {o' : SubscriptionOrder} {u P : Int}

def holdsSlot (u P : Int) (o : SubscriptionOrder) : Bool :=
  o.userId = u && o.planId = P && o.status = .pending

theorem holdsSlot_iff : holdsSlot u P o = true ↔ o.userId = u ∧ o.planId = P ∧ o.status = .pending := by
  simp [holdsSlot, and_assoc]

theorem pendingOrders_zero (hids : ∀ o ∈ orders.rows, 0 < o.id) (u P : Int) :
    pendingOrders orders u P 0 = pendingOf orders u P := by
  refine countP_congr fun o ho => ?_
  have hid : o.id ≠ 0 := (hids o ho).ne'
  simp [hid]

theorem pendingOrders_self (hfound : orders.find? o.id = some o) (u P : Int) :
    (pendingOrders orders u P o.id : Int)
      = pendingOf orders u P - if holdsSlot u P o then 1 else 0 :=
  count_and_ne hfound (holdsSlot u P)

theorem pendingOf_put (hfound : orders.find? o.id = some o) (hid : o'.id = o.id) (u P : Int) :
    (pendingOf (orders.put o') u P : Int)
      = pendingOf orders u P - (if holdsSlot u P o then 1 else 0)
        + if holdsSlot u P o' then 1 else 0 := by
  have hkey : orders.find? (Row.key o') = some o := by rw [key_order, hid, hfound]
  exact count_put hkey (holdsSlot u P)

theorem pendingOf_insert (hfresh : orders.find? o.id = none) (u P : Int) :
    (pendingOf (orders.insert o) u P : Int)
      = pendingOf orders u P + if holdsSlot u P o then 1 else 0 :=
  count_insert hfresh (holdsSlot u P)

theorem holdsSlot_of_success (h : o.status = .success) : holdsSlot u P o = false := by
  rw [Bool.eq_false_iff, ne_eq, holdsSlot_iff, h]
  exact fun hslot => nomatch hslot.2.2

theorem purchased_insert (hfresh : db.subscriptions.find? sub.id = none)
    (hsubs : db'.subscriptions = db.subscriptions.insert sub) (u P : Int) :
    (purchased db' u P : Int)
      = purchased db u P + if sub.userId = u ∧ sub.planId = P then 1 else 0 := by
  rw [purchased, hsubs, count_insert hfresh]
  simp [purchased]

end

section

variable {P M excluded : Int} {s : PaymentStore} {plan : Plan} {u : Int}

theorem lt_of_checkPurchaseCapacityTx (hM : 0 < M) (hmax : plan.maxPurchasePerUser = M)
    (h : checkPurchaseCapacityTx s u plan excluded = .ok ()) :
    (purchased s.db u plan.id : Int) + pendingOrders s.orders u plan.id excluded < M := by
  unfold checkPurchaseCapacityTx at h
  rw [hmax, if_neg (not_le.mpr hM), guard_eq_ok] at h
  exact not_le.mp h.1

theorem Slots.of_planOfOrder (hs : Slots P M s) (ho : o ∈ s.orders.rows)
    (h : planOfOrder s o = .ok plan) :
    plan.id = o.planId ∧ (plan.id = P → plan.maxPurchasePerUser = M) := by
  unfold planOfOrder at h
  cases hsnapshot : o.planSnapshot with
  | plan p =>
    rw [hsnapshot] at h
    cases h
    exact hs.snapshots o ho plan hsnapshot
  | invalid => rw [hsnapshot] at h; cases h
  | empty =>
    rw [hsnapshot] at h
    obtain ⟨-, h⟩ := guard_eq_ok.mp h
    cases hfind : s.plans.find? o.planId with
    | none => rw [hfind] at h; cases h
    | some p =>
      rw [hfind] at h
      cases h
      have hkey : plan.id = o.planId := key_of_find? hfind
      refine ⟨hkey, fun hP => hs.plan plan ?_⟩
      rw [← hP, hkey]
      exact hfind

theorem Slots.capacity_of_pending (hs : Slots P M s) (hfound : s.orders.find? o.id = some o)
    (hpending : o.status = .pending) (hplan : o.planId = P) (hid : plan.id = P)
    (hmax : plan.maxPurchasePerUser = M) :
    checkPurchaseCapacityTx s o.userId plan o.id = .ok () := by
  unfold checkPurchaseCapacityTx
  rw [hmax]
  split
  · rfl
  refine if_neg (not_le.mpr ?_)
  have hbound := hs.bound o.userId
  have hself := pendingOrders_self hfound o.userId P
  rw [if_pos (holdsSlot_iff.mpr ⟨rfl, hplan, hpending⟩)] at hself
  rw [hid]
  omega

end

/-- What `Slots` says about a single order: its id, and the plan its snapshot is of. -/
structure OrderSound (P M : Int) (o : SubscriptionOrder) : Prop where
  snapshot : ∀ p, o.planSnapshot = .plan p →
    p.id = o.planId ∧ (p.id = P → p.maxPurchasePerUser = M)
  id : 0 < o.id

theorem Slots.sound (hs : Slots P M s) : ∀ o ∈ s.orders.rows, OrderSound P M o :=
  fun o ho => ⟨hs.snapshots o ho, hs.ids o ho⟩

theorem SubscriptionOrder.Kept.sound {o' : SubscriptionOrder} (kept : o.Kept o')
    (h : OrderSound P M o) : OrderSound P M o' where
  snapshot p hp := by
    rw [kept.planId]
    exact h.snapshot p (kept.planSnapshot ▸ hp)
  id := kept.id ▸ h.id

section

variable (h : ∀ x ∈ orders.rows, OrderSound P M x) (ho : OrderSound P M o)
include h ho

theorem sound_insert : ∀ x ∈ (orders.insert o).rows, OrderSound P M x := by
  intro x hx
  rcases mem_insert hx with rfl | hold
  · exact ho
  · exact h x hold

theorem sound_put : ∀ x ∈ (orders.put o).rows, OrderSound P M x := by
  intro x hx
  rcases mem_put hx with rfl | ⟨hold, -⟩
  · exact ho
  · exact h x hold

end

theorem Slots.of_sound (hplan : ∀ plan, s.plans.find? P = some plan → plan.maxPurchasePerUser = M)
    (hsound : ∀ o ∈ s.orders.rows, OrderSound P M o)
    (hbound : ∀ u, (purchased s.db u P : Int) + pendingOf s.orders u P ≤ M) : Slots P M s :=
  ⟨hplan, fun o ho => (hsound o ho).snapshot, fun o ho => (hsound o ho).id, hbound⟩

/-- **One call keeps the slots.** -/
theorem SlotEffect.slots {s' : PaymentStore} (hM : 0 < M) (hs : Slots P M s) (h : SlotEffect s s') :
    Slots P M s' := by
  cases h with
  | fewer plans orders subs =>
    refine .of_sound (plans ▸ hs.plan) (orders ▸ hs.sound) fun u => ?_
    have hfewer : purchased s'.db u P ≤ purchased s.db u P := subs.countP_le
    have hbound := hs.bound u
    rw [orders]
    omega
  | reserve o plan plans orders subs found capacity snapshot id fresh =>
    have hkey : plan.id = o.planId := key_of_find? found
    have hmax : plan.id = P → plan.maxPurchasePerUser = M := by
      intro hP
      refine hs.plan plan ?_
      rw [← hP, hkey]
      exact found
    have hsound : OrderSound P M o := by
      refine ⟨fun p hp => ?_, id⟩
      rw [snapshot] at hp
      cases hp
      exact ⟨hkey, hmax⟩
    refine .of_sound (plans ▸ hs.plan) (orders ▸ sound_insert hs.sound hsound) fun u => ?_
    have hbound := hs.bound u
    have hsubs : purchased s'.db u P = purchased s.db u P := by rw [purchased, purchased, subs]
    rw [orders, pendingOf_insert fresh, hsubs]
    by_cases hslot : holdsSlot u P o = true
    · -- the new order takes a slot, and the check has found one free
      obtain ⟨rfl, hplan, -⟩ := holdsSlot_iff.mp hslot
      have hfree := lt_of_checkPurchaseCapacityTx hM (hmax (hkey.trans hplan)) capacity
      rw [hkey, hplan, pendingOrders_zero hs.ids] at hfree
      omega
    · rw [if_neg hslot]
      omega
  | rewrite o o' plans orders subs found kept pending =>
    have hsound : OrderSound P M o' := kept.sound (hs.sound o (mem_of_find? found))
    refine .of_sound (plans ▸ hs.plan) (orders ▸ sound_put hs.sound hsound) fun u => ?_
    have hbound := hs.bound u
    have hsubs : purchased s'.db u P = purchased s.db u P := by rw [purchased, purchased, subs]
    -- a rewritten order may give its slot up but takes none
    have hslot : holdsSlot u P o' = true → holdsSlot u P o = true := by
      rw [holdsSlot_iff, holdsSlot_iff, kept.userId, kept.planId]
      exact fun h => ⟨h.1, h.2.1, pending h.2.2⟩
    rw [orders, pendingOf_put found kept.id, hsubs]
    by_cases hnew : holdsSlot u P o' = true
    · rw [if_pos hnew, if_pos (hslot hnew)]
      omega
    · rw [if_neg hnew]
      split <;> omega
  | grant plan sub plans orders subs fresh planId found capacity =>
    have hpending : ∀ u, pendingOf s'.orders u P = pendingOf s.orders u P := by
      intro u
      rcases orders with heq | ⟨o, hdone, -, -, hnew, heq⟩
      · rw [heq]
      · have hcount := pendingOf_insert hnew u P
        rw [holdsSlot_of_success hdone] at hcount
        rw [heq]
        simpa using hcount
    have hsound : ∀ x ∈ s'.orders.rows, OrderSound P M x := by
      rcases orders with heq | ⟨o, -, hempty, hid, -, heq⟩
      · exact heq ▸ hs.sound
      · refine heq ▸ sound_insert hs.sound ⟨fun p hp => ?_, hid⟩
        rw [hempty] at hp
        cases hp
    refine .of_sound (plans ▸ hs.plan) hsound fun u => ?_
    have hbound := hs.bound u
    rw [hpending, purchased_insert fresh subs]
    by_cases hsub : sub.userId = u ∧ sub.planId = P
    · obtain ⟨rfl, hplan⟩ := hsub
      have hP : plan.id = P := planId.symm.trans hplan
      have hfree := lt_of_checkPurchaseCapacityTx hM (hs.plan plan (hP ▸ found)) capacity
      rw [hP, pendingOrders_zero hs.ids] at hfree
      omega
    · rw [if_neg hsub]
      omega
  | convert o o' plan sub plans orders subs fresh userId planId found kept done source capacity =>
    obtain ⟨hkey, hmax⟩ := hs.of_planOfOrder (mem_of_find? found) source
    have hsound : OrderSound P M o' := kept.sound (hs.sound o (mem_of_find? found))
    refine .of_sound (plans ▸ hs.plan) (orders ▸ sound_put hs.sound hsound) fun u => ?_
    have hbound := hs.bound u
    rw [orders, pendingOf_put found kept.id, holdsSlot_of_success done, purchased_insert fresh subs]
    by_cases hsub : sub.userId = u ∧ sub.planId = P
    · -- the order gives up its own slot, if it holds one, and the check left that one out
      obtain ⟨huser, hplan⟩ := hsub
      have hP : plan.id = P := planId.symm.trans hplan
      have hu : o.userId = u := userId.symm.trans huser
      have hfree := lt_of_checkPurchaseCapacityTx hM (hmax hP) capacity
      rw [hP, hu, pendingOrders_self found] at hfree
      simp only [Bool.false_eq_true, if_false]
      omega
    · rw [if_neg hsub]
      simp only [Bool.false_eq_true, if_false]
      split <;> omega

/-! ## Runs -/

/-- **A pending order is never refused for the limit**: not by the completion with a paid amount,
and not for a proper receipt of Stripe. -/
structure NeverRefused (env : PaymentContext) (P : Int) (s : PaymentStore) : Prop where
  paid : ∀ tradeNo order, s.order? tradeNo = some order → order.planId = P →
    order.status = .pending → ∀ now ids payload provider method paid,
      (completeSubscriptionOrderWithPaidAmount { env with now := now } ids tradeNo payload provider
        method paid s).2 ≠ .error .subscriptionPurchaseLimit
  stripe : ∀ receipt order plan, s.order? receipt.tradeNo = some order → order.planId = P →
    order.status = .pending → order.planSnapshot = .plan plan →
    order.toPaymentSnapshot.validate env.cfg receipt = none → ∀ now ids,
      (completeStripeCheckout { env with now := now } ids receipt s).2 ≠ .ok .conflict

def FulfilledIfFree (env : PaymentContext) (P M : Int) (s : PaymentStore) : Prop :=
  ∀ receipt order, s.order? receipt.tradeNo = some order → order.planId = P →
    order.status ≠ .pending → ∀ now ids,
      (completeStripeCheckout { env with now := now } ids receipt s).2 = .ok .fulfilled →
        (purchased s.db order.userId P : Int) + pendingOf s.orders order.userId P < M

section

variable {env ctx : PaymentContext} {ids : FreshIds} {order : SubscriptionOrder} {plan : Plan}

theorem calcPlanEndTime_ne_limit {dates : DateArithmetic} {start : Int} :
    calcPlanEndTime dates start plan ≠ .error .subscriptionPurchaseLimit := by
  refine guard_ne_error nofun ?_
  cases plan.durationUnit with
  | custom => exact guard_ne_error nofun nofun
  | _ => exact nofun

theorem liftDb_ne_limit {α : Type} {x : Except DbError α} :
    liftDb x ≠ .error .subscriptionPurchaseLimit := by
  cases x <;> exact nofun

theorem createUserSubscriptionFromPlanTx_ne_limit {id userId : Int} :
    createUserSubscriptionFromPlanTx ctx id db userId plan ≠ .error .subscriptionPurchaseLimit := by
  refine guard_ne_error nofun (guard_ne_error nofun ?_)
  refine bind_ne_error calcPlanEndTime_ne_limit fun endUnix _ => ?_
  exact bind_ne_error liftDb_ne_limit fun r _ => guard_ne_error nofun nofun

theorem fulfillOrder_ne_limit :
    fulfillOrder ctx ids order plan s ≠ .error .subscriptionPurchaseLimit := by
  refine bind_ne_error createUserSubscriptionFromPlanTx_ne_limit fun r _ => ?_
  dsimp only
  unfold upsertSubscriptionTopUpTx
  split
  · exact guard_ne_error nofun nofun
  · exact guard_ne_error nofun nofun

theorem planOfOrder_ne_limit : planOfOrder s order ≠ .error .subscriptionPurchaseLimit := by
  unfold planOfOrder
  split
  · exact nofun
  · exact nofun
  · refine guard_ne_error nofun ?_
    split <;> exact nofun

/-- **A completion fails for the limit only if the check of its slot fails.** -/
theorem completeSubscriptionOrderTx_ne_limit {payload method : String} {provider : PaymentProvider}
    {paid : Rat}
    (hcheck : ∀ plan, order.status = .pending → planOfOrder s order = .ok plan →
      checkPurchaseCapacityTx s order.userId plan order.id = .ok ()) :
    completeSubscriptionOrderTx ctx ids order payload provider method paid s
      ≠ .error .subscriptionPurchaseLimit := by
  refine bind_ne_error (guard_ne_error nofun nofun) fun _ _ => ?_
  refine guard_ne_error nofun (guard_ne_error nofun ?_)
  split
  · exact nofun
  split
  · exact nofun
  rename_i hopen
  refine guard_ne_error nofun (bind_ne_error planOfOrder_ne_limit fun plan hplan => ?_)
  rw [hcheck plan (not_not.mp hopen) hplan]
  refine bind_ne_error nofun fun _ _ => ?_
  exact bind_ne_error fulfillOrder_ne_limit fun _ _ => nofun

theorem Slots.limit_of_order (hs : Slots P M s) (ho : order ∈ s.orders.rows) (hP : order.planId = P)
    (hplan : planOfOrder s order = .ok plan) : plan.id = P ∧ plan.maxPurchasePerUser = M := by
  obtain ⟨hkey, hmax⟩ := hs.of_planOfOrder ho hplan
  exact ⟨hkey.trans hP, hmax (hkey.trans hP)⟩

theorem Slots.neverRefused (hs : Slots P M s) : NeverRefused env P s where
  paid := by
    intro tradeNo order hfind hP hpending now ids payload provider method paid hlimit
    unfold completeSubscriptionOrderWithPaidAmount at hlimit
    split at hlimit
    · cases hlimit
    rw [hfind] at hlimit
    dsimp only at hlimit
    cases htx : completeSubscriptionOrderTx { env with now := now } ids order payload provider method
        paid s with
    | ok r => rw [transaction_ok htx] at hlimit; cases hlimit
    | error e =>
      rw [transaction_error htx] at hlimit
      cases hlimit
      refine completeSubscriptionOrderTx_ne_limit (fun plan _ hplan => ?_) htx
      obtain ⟨hid, hmax⟩ := hs.limit_of_order (mem_of_order? hfind) hP hplan
      exact hs.capacity_of_pending (find?_of_order? hfind) hpending hP hid hmax
  stripe := by
    intro receipt order plan hfind hP hpending hsnapshot hvalid now ids hconflict
    have htx := transaction_snd_eq_ok hconflict
    rw [completeStripeCheckoutTx, hfind] at htx
    have hplan : planOfOrder s order = .ok plan := by rw [planOfOrder, hsnapshot]
    obtain ⟨hid, hmax⟩ := hs.limit_of_order (mem_of_order? hfind) hP hplan
    have hcheck := hs.capacity_of_pending (find?_of_order? hfind) hpending hP hid hmax
    have haccept : orderConflict env.cfg s order receipt = .inr plan := by
      rw [orderConflict, hvalid, hsnapshot]
      dsimp only
      rw [hcheck]
    obtain ⟨hresult, -⟩ | ⟨text, hrefuse, -⟩ | ⟨plan', db', sub, topUps, -, hresult, -⟩ :=
      completeStripeOrderTx_eq_ok htx
    · cases hresult
    · cases haccept.symm.trans hrefuse
    · cases hresult

theorem Slots.fulfilledIfFree (hM : 0 < M) (hs : Slots P M s) : FulfilledIfFree env P M s := by
  intro receipt order hfind hP hreleased now ids hfulfilled
  have htx := transaction_snd_eq_ok hfulfilled
  rw [completeStripeCheckoutTx, hfind] at htx
  obtain ⟨hresult, -⟩ | ⟨text, -, hresult, -⟩ | ⟨plan, db', sub, topUps, haccept, -⟩ :=
    completeStripeOrderTx_eq_ok htx
  · cases hresult
  · cases hresult
  obtain ⟨hsnapshot, hcheck⟩ := orderConflict_eq_inr haccept
  have hplan : planOfOrder s order = .ok plan := by
    rw [planOfOrder, hsnapshot]
  obtain ⟨hid, hmax⟩ := hs.limit_of_order (mem_of_order? hfind) hP hplan
  have hfree := lt_of_checkPurchaseCapacityTx hM hmax hcheck
  have hself := pendingOrders_self (find?_of_order? hfind) order.userId P
  rw [if_neg fun hslot => hreleased (holdsSlot_iff.mp hslot).2.2] at hself
  rw [hid] at hfree
  omega

end

/-- **The purchase limit.** From any store within the slots of a plan with a limit, every run of the
calls stays within them; a pending order of the plan is never refused for the limit, and a released
one is fulfilled only if a slot is free. -/
theorem purchase_limit (env : PaymentContext) (P M : Int) (hM : 0 < M) (s : PaymentStore)
    (hs : Slots P M s) (es : List PurchaseEvent) :
    let s' := run (PurchaseEvent.exec env) s es
    (∀ u, (purchased s'.db u P : Int) + pendingOf s'.orders u P ≤ M) ∧
      NeverRefused env P s' ∧ FulfilledIfFree env P M s' := by
  intro s'
  have hs' : Slots P M s' :=
    run_invariant_all (fun s e hs => (e.exec_effect env s).slots hM hs) es hs
  exact ⟨hs'.bound, hs'.neverRefused, hs'.fulfilledIfFree hM⟩

/-! ## A sample run -/

/-- A monthly plan that a user may buy twice. -/
def samplePlan : Plan :=
  { id := 3, quotaResetPeriod := .never, quotaResetCustomSeconds := 0, priceAmount := 10
    currency := "usd", durationUnit := .month, durationValue := 1, customSeconds := 0, enabled := true
    stripePriceId := "price_1", maxPurchasePerUser := 2, upgradeGroup := "", totalAmount := 100 }

/-- The sample payer and the sample plan, nothing sold yet. -/
def sampleShop : PaymentStore :=
  { PaymentStore.empty with
    db := { Database.empty with
      users := Table.empty.insert
        { id := 1, quota := 0, usedQuota := 0, requestCount := 0, group := "default"
          deleted := false } }
    plans := Table.empty.insert samplePlan }

/-- An order of the sample plan through Stripe, quoted at 1000 cents. -/
def sampleSale (tradeNo : String) : SubscriptionOrder :=
  { PaymentSnapshot.zero with
    quoteVersion := 1, currency := "usd", expectedMinor := 1000, checkoutPriceID := "price_1"
    paymentState := .unpaid, planSnapshot := .empty, id := 0, userId := 1, planId := 3, money := 10
    tradeNo := tradeNo, paymentMethod := "stripe", paymentProvider := .stripe, status := .pending
    createTime := 0, completeTime := 0, providerPayload := "" }

/-- The receipt of such an order. -/
def sampleSaleReceipt (tradeNo sessionID : String) : StripeReceipt :=
  { tradeNo := tradeNo, sessionID := sessionID, customerID := "cus_1", currency := "usd"
    total := 1000, subtotal := 1000, discount := 0, tax := 0, shipping := 0 }

/-- Three orders for two slots; the first one is released and paid late: the third gets its slot,
the late payment finds none, and after a subscription is deleted it is fulfilled. -/
def sampleSales : List PurchaseEvent :=
  [⟨1, ⟨1, 1, 1⟩, .insert (sampleSale "A")⟩, ⟨2, ⟨1, 2, 1⟩, .insert (sampleSale "B")⟩,
   ⟨3, ⟨1, 3, 1⟩, .insert (sampleSale "C")⟩, ⟨4, ⟨1, 3, 1⟩, .bindStripe "A" "cs_a"⟩,
   ⟨5, ⟨1, 3, 1⟩, .bindStripe "B" "cs_b"⟩, ⟨6, ⟨1, 3, 1⟩, .endStripe "A" "cs_a" .expired⟩,
   ⟨7, ⟨1, 3, 1⟩, .insert (sampleSale "C")⟩,
   ⟨8, ⟨1, 4, 1⟩, .completeStripe (sampleSaleReceipt "B" "cs_b")⟩,
   ⟨9, ⟨2, 4, 2⟩, .completeStripe (sampleSaleReceipt "A" "cs_a")⟩, ⟨10, ⟨2, 4, 2⟩, .adminDelete 1⟩,
   ⟨11, ⟨2, 4, 2⟩, .completeStripe (sampleSaleReceipt "A" "cs_a")⟩]

/-- The sample run keeps to the limit. -/
theorem purchase_limit_sample :
    let s' := run (PurchaseEvent.exec sampleContext) sampleShop sampleSales
    (s'.orders.rows.map fun o => (o.tradeNo, o.status))
      = [("A", .success), ("B", .success), ("C", .pending)] ∧
    (s'.db.subscriptions.rows.map fun x => x.id) = [2] ∧
    (∀ u, (purchased s'.db u 3 : Int) + pendingOf s'.orders u 3 ≤ 2) ∧
      NeverRefused sampleContext 3 s' ∧ FulfilledIfFree sampleContext 3 2 s' := by
  refine ⟨by decide +kernel, by decide +kernel, ?_⟩
  refine purchase_limit sampleContext 3 2 (by decide) sampleShop ⟨?_, ?_, ?_, ?_⟩ sampleSales
  · rintro plan ⟨⟩
    rfl
  · exact fun o ho => absurd ho not_mem_nil
  · exact fun o ho => absurd ho not_mem_nil
  · exact fun u => show ((0 : Nat) : Int) + (0 : Nat) ≤ 2 by decide

end RenewApi.Payments
