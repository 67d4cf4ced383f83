import RenewApi.Billing.Effects

/-! # What a reservation does to the books

`ReserveBillingLedger` creates a ledger. A reservation paid by a subscription walks the active
subscriptions of the user, resets those that are due and charges the first one with room.

* **`examinedResets`** lists the subscriptions the walk resets. -/

namespace RenewApi.Billing

open Relational List Table BillingLedger Database UserSubscription

variable {cal : Calendar} {now amount userID : Int} {db db' : Database} {sub : UserSubscription}
  {requestID : String} {input : BillingReservation} {result : BillingReservationResult}
  {t : Table UserSubscription}

section

variable (now : Int) (sub : UserSubscription) (d : ResetDecision)

theorem ResetDecision.apply_amountUsed :
    (d.apply now sub).amountUsed = if d.resets then 0 else sub.amountUsed := by
  cases d <;> rfl

theorem ResetDecision.apply_strip : (d.apply now sub).strip = sub.strip := by
  cases d <;> rfl

@[simp] theorem ResetDecision.apply_amountTotal : (d.apply now sub).amountTotal = sub.amountTotal := by
  cases d <;> rfl

end

theorem maybeResetUserSubscriptionWithPlanTx_eq_ok {sub' : UserSubscription}
    {plan : SubscriptionPlan} (hmem : sub ∈ db.subscriptions.rows)
    (h : maybeResetUserSubscriptionWithPlanTx cal now db sub plan = .ok (db', sub')) :
    sub' = (resetDecision cal now sub plan).apply now sub ∧
      db' = { db with subscriptions := db.subscriptions.put sub' } := by
  unfold maybeResetUserSubscriptionWithPlanTx at h
  cases hdecision : resetDecision cal now sub plan with
  | diverge => rw [hdecision] at h; cases h
  | keep =>
    rw [hdecision] at h
    cases h
    refine ⟨rfl, ?_⟩
    rw [put_self hmem]
  | schedule | reset =>
    rw [hdecision] at h
    cases h
    exact ⟨rfl, rfl⟩

theorem read_put_decision (now : Int) (hmem : sub ∈ t.rows) (d : ResetDecision) (s : Int) :
    (t.put (d.apply now sub)).read s amountUsed
      = if d.resets = true ∧ s = sub.id then 0 else t.read s amountUsed := by
  have hfind : t.find? sub.id = some sub := find?_of_mem hmem
  rw [read_put (r := d.apply now sub) hfind (by simp)]
  by_cases hs : s = sub.id
  · subst hs
    rw [if_pos rfl, read_of_find? hfind, d.apply_amountUsed]
    by_cases hd : d.resets = true <;> simp [hd]
  · simp [hs]

theorem ResetDecision.apply_withinTotal (now : Int) (d : ResetDecision)
    (h : 0 < sub.amountTotal → sub.amountUsed ≤ sub.amountTotal)
    (hpos : 0 < (d.apply now sub).amountTotal) :
    (d.apply now sub).amountUsed ≤ (d.apply now sub).amountTotal := by
  rw [d.apply_amountTotal] at hpos
  rw [d.apply_amountUsed, d.apply_amountTotal]
  split
  · exact hpos.le
  · exact h hpos

/-! ## The walk over the subscriptions -/

theorem examinedResets_congr (h : db'.plans = db.plans) (cands : List UserSubscription) :
    examinedResets cal now amount db' cands = examinedResets cal now amount db cands := by
  induction cands with
  | nil => rfl
  | cons c rest ih =>
    have hplan : getSubscriptionPlanByIdTx db' c.planId = getSubscriptionPlanByIdTx db c.planId := by
      rw [getSubscriptionPlanByIdTx, getSubscriptionPlanByIdTx, h]
    rw [examinedResets, examinedResets, hplan, ih]

theorem read_put_charge (now amount : Int) (hmem : sub ∈ t.rows) (s : Int) :
    (t.put (sub.charge now amount)).read s amountUsed
      = t.read s amountUsed + if s = sub.id then amount else 0 := by
  have hfind : t.find? sub.id = some sub := find?_of_mem hmem
  rw [read_put (r := sub.charge now amount) hfind rfl]
  split <;> simp

/-- **The walk of a reservation**: the candidates that were due and examined start a new period, one
candidate is charged, nothing else moves. By induction over the candidates; their distinct ids keep
the rows still to be examined as they were read. -/
theorem reserveFromSubscriptions_eq_ok {cands : List UserSubscription}
    (hnodup : (cands.map UserSubscription.id).Nodup)
    (hrows : ∀ c ∈ cands, c ∈ db.subscriptions.rows)
    (h : reserveFromSubscriptions cal now requestID userID amount db cands = .ok (db', sub)) :
    (∃ subscriptions records, db' = { db with
      subscriptions := subscriptions, preConsumeRecords := records }) ∧
    (∀ s, db'.subscriptions.read s amountUsed
      = (if s ∈ examinedResets cal now amount db cands then 0
          else db.subscriptions.read s amountUsed)
        + if s = sub.id then amount else 0) ∧
    db'.subscriptions.rows.map strip
      = db.subscriptions.rows.map strip ∧
    (∃ c ∈ cands, sub.id = c.id) ∧ (db.WithinTotals → db'.WithinTotals) := by
  induction cands generalizing db with
  | nil => cases h
  | cons c rest ih =>
    obtain ⟨plan, hplan, h⟩ := bind_eq_ok.mp h
    obtain ⟨⟨db₁, c'⟩, hreset, h⟩ := bind_eq_ok.mp h
    dsimp only at h
    have hc : c ∈ db.subscriptions.rows := hrows c (by simp)
    have hfind : db.subscriptions.find? c.id = some c := find?_of_mem hc
    obtain ⟨hc', hdb₁⟩ := maybeResetUserSubscriptionWithPlanTx_eq_ok hc hreset
    have hid : c'.id = c.id := by rw [hc']; simp
    have hstrip : db₁.subscriptions.rows.map strip
        = db.subscriptions.rows.map strip := by
      rw [hdb₁]
      refine map_rows_put (r := c') hfind hid ?_
      rw [hc', ResetDecision.apply_strip]
    have htotals : db.WithinTotals → db₁.WithinTotals := by
      intro hw
      refine withinTotals_put (s := c') (by rw [hdb₁]) ?_ hw
      rw [hc']
      exact ResetDecision.apply_withinTotal now _ (hw c hc)
    have hread : ∀ s, db₁.subscriptions.read s amountUsed
        = if (resetDecision cal now c plan).resets = true ∧ s = c.id then 0
          else db.subscriptions.read s amountUsed := by
      intro s
      rw [hdb₁, hc']
      exact read_put_decision now hc _ s
    have hexamined : examinedResets cal now amount db (c :: rest)
        = if 0 < c'.amountTotal ∧ c'.amountTotal < c'.amountUsed + amount then
            (if (resetDecision cal now c plan).resets = true then [c.id] else []) ++
              examinedResets cal now amount db rest
          else if (resetDecision cal now c plan).resets = true then [c.id] else [] := by
      rw [examinedResets, hplan, hc']
    by_cases hroom : 0 < c'.amountTotal ∧ c'.amountTotal < c'.amountUsed + amount
    · -- no room: the walk goes on, in the database the decision left
      rw [if_pos hroom] at h
      rw [map_cons, nodup_cons] at hnodup
      have hrows₁ : ∀ d ∈ rest, d ∈ db₁.subscriptions.rows := by
        intro d hd
        rw [hdb₁]
        refine mem_put_of_ne (hrows d (by simp [hd])) ?_
        rw [key_subscription, key_subscription, hid]
        exact fun heq => hnodup.1 (heq ▸ mem_map_of_mem hd)
      obtain ⟨⟨subs, records, hdb'⟩, hread', hstrip', ⟨d, hd, hdid⟩, htotals'⟩ :=
        ih hnodup.2 hrows₁ h
      refine ⟨⟨subs, records, by rw [hdb', hdb₁]⟩, fun s => ?_, hstrip'.trans hstrip,
        ⟨d, by simp [hd], hdid⟩, fun hw => htotals' (htotals hw)⟩
      have hplans : db₁.plans = db.plans := by rw [hdb₁]
      rw [hread' s, hread s, examinedResets_congr hplans, hexamined, if_pos hroom]
      by_cases hrest : s ∈ examinedResets cal now amount db rest
      · simp [hrest]
      · by_cases hs : s = c.id <;>
          by_cases hd : (resetDecision cal now c plan).resets = true <;> simp [hrest, hs, hd]
    · -- room: this candidate is charged
      rw [if_neg hroom, guard_eq_ok] at h
      obtain ⟨-, h⟩ := h
      cases h
      have hmem' : c' ∈ db₁.subscriptions.rows := by
        rw [hdb₁]
        exact mem_put_self hc hid
      refine ⟨⟨_, _, by rw [hdb₁]⟩, fun s => ?_, ?_, ⟨c, by simp, hid⟩, fun hw => ?_⟩
      · rw [read_put_charge now amount hmem', hread s, hexamined, if_neg hroom]
        congr 1
        by_cases hs : s = c.id <;>
          by_cases hd : (resetDecision cal now c plan).resets = true <;> simp [hs, hd]
      · rw [← hstrip]
        exact map_rows_put (r := c'.charge now amount) (find?_of_mem hmem') rfl rfl
      · refine withinTotals_put (s := c'.charge now amount) rfl (fun hpos => ?_) (htotals hw)
        by_contra hlt
        exact hroom ⟨hpos, not_le.mp hlt⟩

theorem activeSubscriptions_spec (db : Database) (now userID : Int) :
    ((activeSubscriptions db now userID).map UserSubscription.id).Nodup ∧
      ∀ c ∈ activeSubscriptions db now userID, c ∈ db.subscriptions.rows := by
  have hperm := perm_insertionSort endsBefore (db.subscriptions.select fun s =>
    s.userId = userID && s.status = .active && now < s.endTime)
  constructor
  · rw [activeSubscriptions, (hperm.map UserSubscription.id).nodup_iff]
    exact db.subscriptions.nodup_keys.sublist (filter_sublist.map _)
  · intro c hc
    exact mem_of_mem_filter (hperm.mem_iff.mp hc)

/-! ## Booking a reservation -/

/-- What the resets of some subscriptions leave of an account. -/
def Database.balanceAfterResets (db : Database) (resets : List Int) : Account → Int
  | .subscriptionUsed s => if s ∈ resets then 0 else db.balance (.subscriptionUsed s)
  | a => db.balance a

@[simp] theorem balanceAfterResets_nil (db : Database) (a : Account) :
    db.balanceAfterResets [] a = db.balance a := by
  cases a <;> simp [balanceAfterResets]

/-- The subscriptions that booking a reservation resets. -/
def BillingReservation.resets (cal : Calendar) (now : Int) (db : Database)
    (input : BillingReservation) : List Int :=
  if input.applyBalances = true ∧ input.fundingSource = .subscription then
    examinedResets cal now input.quota db (activeSubscriptions db now input.userID)
  else []

/-- **A reservation was booked** as the new ledger row `l`. -/
structure LedgerCreate (cal : Calendar) (now : Int) (db db' : Database) (input : BillingReservation)
    (l : BillingLedger) : Prop where
  fresh : db.ledgers.find? l.id = none
  positive : 0 < l.id
  ledgers : db'.ledgers = db.ledgers.insert l
  tasks : db'.tasks = db.tasks
  mode : l.mode = input.mode
  fundingSource : l.fundingSource = input.fundingSource
  funded : l.fundingSource = .wallet ∨ l.fundingSource = .subscription
  state : l.state = .reserved
  applied : l.appliedQuota = input.quota
  nonneg : 0 ≤ input.quota
  counted : l.countedQuota = 0
  requestCounted : l.requestCounted = false
  shape : db'.shape = db.shape
  balance : ∀ a, db.tracks a → (input.applyBalances = true ∨ a.isCounter = true) →
    db'.balance a = db.balanceAfterResets (input.resets cal now db) a + l.posting a
  backed : input.applyBalances = true → input.quota ≠ 0 → db.Backs l
  totals : db.WithinTotals → db'.WithinTotals

/-- The subscription leg of a reservation as a change of the accounts. -/
theorem reserveSubscriptionQuotaTx_eq_ok
    (h : reserveSubscriptionQuotaTx cal now db requestID userID amount = .ok (db', sub)) :
    (∃ subscriptions records, db' = { db with
      subscriptions := subscriptions, preConsumeRecords := records }) ∧
    db'.shape = db.shape ∧
    (∀ a, db'.balance a
      = db.balanceAfterResets (examinedResets cal now amount db (activeSubscriptions db now userID)) a
        + if a = .subscriptionUsed sub.id then amount else 0) ∧
    (∃ row, db.subscriptions.find? sub.id = some row) ∧
    (db.WithinTotals → db'.WithinTotals) := by
  unfold reserveSubscriptionQuotaTx at h
  rw [guard_eq_ok] at h
  obtain ⟨hnodup, hrows⟩ := activeSubscriptions_spec db now userID
  obtain ⟨⟨subs, records, rfl⟩, hread, hstrip, ⟨c, hc, hid⟩, htotals⟩ :=
    reserveFromSubscriptions_eq_ok hnodup hrows h.2
  refine ⟨⟨subs, records, rfl⟩, ?_, fun a => ?_, ⟨c, ?_⟩, htotals⟩
  · simp only [shape] at hstrip ⊢
    rw [hstrip]
  · cases a with
    | subscriptionUsed s =>
      have hs := hread s
      simp only [balance, balanceAfterResets, Account.subscriptionUsed.injEq]
      exact hs
    | _ => simp [balance, balanceAfterResets]
  · rw [hid]
    exact find?_of_mem (hrows c hc)

/-- The two ways through the balance legs: a subscription or the wallet, then the token. -/
theorem reserveBalances_cases {l l' : BillingLedger} {sub : Option UserSubscription}
    (h : reserveBalances cal now db input l = .ok (db', l', sub)) :
    (input.fundingSource = .subscription ∧ ∃ db₁ s,
      reserveSubscriptionQuotaTx cal now db input.requestID input.userID input.quota
        = .ok (db₁, s) ∧
      adjustTokenQuotaTx now db₁ { l with subscriptionID := s.id } input.quota = .ok db' ∧
      { l with subscriptionID := s.id }.markBalanceComponentsApplied = l') ∨
    (input.fundingSource ≠ .subscription ∧ ∃ db₁,
      adjustWalletQuotaTx db input.userID input.quota = .ok db₁ ∧
      adjustTokenQuotaTx now db₁ l input.quota = .ok db' ∧
      l.markBalanceComponentsApplied = l') := by
  unfold reserveBalances at h
  split_ifs at h with hsub
  · obtain ⟨⟨db₁, s⟩, hreserve, h⟩ := bind_eq_ok.mp h
    obtain ⟨_, hfund, h⟩ := bind_eq_ok.mp h
    cases hfund
    obtain ⟨db₂, htoken, h⟩ := bind_eq_ok.mp h
    cases h
    exact .inl ⟨hsub, db₁, s, hreserve, htoken, rfl⟩
  · obtain ⟨db₁, hwallet, h⟩ := bind_eq_ok.mp h
    obtain ⟨_, hfund, h⟩ := bind_eq_ok.mp h
    cases hfund
    obtain ⟨db₂, htoken, h⟩ := bind_eq_ok.mp h
    cases h
    exact .inr ⟨hsub, db₁, hwallet, htoken, rfl⟩

theorem reserveBalances_eq_ok {l l' : BillingLedger} {sub : Option UserSubscription}
    (hsource : l.fundingSource = input.fundingSource) (huser : l.userID = input.userID)
    (happlied : l.appliedQuota = input.quota) (hcounted : ∀ a, l.counted a = 0)
    (h : reserveBalances cal now db input l = .ok (db', l', sub)) :
    (∃ subscription funding sub token, l' = { l with
      subscriptionID := subscription, fundingState := funding, subscriptionState := sub,
      tokenState := token }) ∧
    (db'.ledgers = db.ledgers ∧ db'.tasks = db.tasks) ∧ db'.shape = db.shape ∧
    (∀ a, db.tracks a → db'.balance a
      = db.balanceAfterResets (if input.fundingSource = .subscription then
          examinedResets cal now input.quota db (activeSubscriptions db now input.userID) else []) a
        + l'.posting a) ∧
    (input.quota ≠ 0 → db.Backs l') ∧ (db.WithinTotals → db'.WithinTotals) := by
  have hposting : ∀ {m : BillingLedger}, (∃ subscription,
      { l with subscriptionID := subscription }.markBalanceComponentsApplied = m) → ∀ a,
        m.posting a = m.direction a * input.quota := by
    rintro m ⟨subscription, rfl⟩ a
    have hc : ({ l with subscriptionID := subscription }.markBalanceComponentsApplied).counted a
        = l.counted a := by cases a <;> rfl
    rw [posting, hc, hcounted, add_zero, ← happlied]
    rfl
  rcases reserveBalances_cases h with ⟨hsub, db₁, s, hreserve, htoken, hl'⟩ |
    ⟨hsub, db₁, hwallet, htoken, hl'⟩
  · obtain ⟨⟨subs, records, hdb₁⟩, hshape, hbal, ⟨row, hrow⟩, htotals⟩ :=
      reserveSubscriptionQuotaTx_eq_ok hreserve
    have hmove := balanceMove_token htoken
    have hsource' : l'.fundingSource = .subscription := by
      rw [← hl']; exact hsource.trans hsub
    have hid' : l'.subscriptionID = s.id := by rw [← hl']; rfl
    refine ⟨⟨s.id, _, _, _, by rw [← hl']; rfl⟩, ⟨?_, ?_⟩, hmove.shape.trans hshape,
      fun a ha => ?_, fun hne => ?_, fun hw => ?_⟩
    · rw [hmove.ledgers, hdb₁]
    · rw [hmove.tasks, hdb₁]
    · -- the new ledger has counted nothing, so its posting is the charge of its two legs
      have hlegs : tokenMove { l with subscriptionID := s.id } input.quota a
          = l'.tokenMove input.quota a := by
        rw [← hl']; cases a <;> rfl
      rw [hmove.balance a (tracks_of_shape hshape ha), hbal a, if_pos hsub, add_assoc,
        hposting ⟨s.id, hl'⟩, direction_mul_subscription hsource', hid', hlegs]
      split <;> simp
    · refine ⟨fun hw => absurd hsource' hw, fun _ => ⟨row, by rw [hid']; exact hrow⟩, ?_⟩
      have htok := token_of_adjust hshape htoken hne
      rw [← hl']
      exact htok
    · rw [WithinTotals, subscriptions_of_adjustToken htoken]
      exact htotals hw
  · have hmove := (balanceMove_wallet hwallet).trans (balanceMove_token htoken)
    have hsource' : l'.fundingSource ≠ .subscription := by
      rw [← hl']; exact fun hs => hsub (hsource.symm.trans hs)
    have huser' : l'.userID = input.userID := by rw [← hl']; exact huser
    refine ⟨⟨l.subscriptionID, _, _, _, by rw [← hl']; rfl⟩, ⟨hmove.ledgers, hmove.tasks⟩,
      hmove.shape, fun a ha => ?_, fun hne => ?_, fun hw => ?_⟩
    · have hlegs : l.tokenMove input.quota a = l'.tokenMove input.quota a := by
        rw [← hl']; cases a <;> rfl
      rw [hmove.balance a ha, if_neg hsub, balanceAfterResets_nil,
        hposting ⟨l.subscriptionID, hl'⟩, direction_mul_wallet hsource', huser', hlegs]
    · refine ⟨fun _ => ?_, fun hs => absurd hs hsource', ?_⟩
      · rcases adjustWalletQuotaTx_eq_ok.mp hwallet with ⟨h0, -⟩ | ⟨-, u, hu, hlive, -⟩
        · exact absurd h0 hne
        · exact ⟨u, huser' ▸ hu, hlive⟩
      · have htok := token_of_adjust (balanceMove_wallet hwallet).shape htoken hne
        rw [← hl']
        exact htok
    · rw [WithinTotals, subscriptions_of_adjustToken htoken]
      rcases adjustWalletQuotaTx_eq_ok.mp hwallet with ⟨-, rfl⟩ | ⟨-, u, -, -, -, rfl⟩
      · exact hw
      · exact hw

theorem find?_nextId (db : Database) :
    db.ledgers.find? (nextId (db.ledgers.rows.map BillingLedger.id)) = none := by
  rw [find?_eq_none_iff]
  intro r hr heq
  have hlt := lt_nextId (mem_map_of_mem (f := BillingLedger.id) hr)
  exact absurd heq hlt.ne

/-- A reservation is booked without its balances, or with them. -/
theorem createReservation_cases (h : createReservation cal now db input = .ok (db', result)) :
    let l₀ := input.newLedger (nextId (db.ledgers.rows.map BillingLedger.id)) now
    let db₀ := { db with ledgers := db.ledgers.insert l₀ }
    result.alreadyReserved = false ∧ ∃ db₁,
      db' = enqueueBillingOutboxTx now (saveLedger db₁ result.ledger) result.ledger
        (.state .reserved) ∧
      (input.applyBalances = false ∧ db₁ = db₀ ∧ result.ledger = l₀ ∨
        input.applyBalances = true ∧
          reserveBalances cal now db₀ input l₀ = .ok (db₁, result.ledger, result.subscription)) := by
  intro l₀ db₀
  unfold createReservation at h
  cases happly : input.applyBalances with
  | false =>
    rw [if_neg (by simp [happly])] at h
    obtain ⟨⟨db₁, l₁, sub₁⟩, hok, h⟩ := bind_eq_ok.mp h
    obtain ⟨rfl, rfl, -⟩ := hok
    obtain ⟨rfl, rfl⟩ := h
    exact ⟨rfl, db₀, rfl, .inl ⟨rfl, rfl, rfl⟩⟩
  | true =>
    rw [if_pos happly] at h
    obtain ⟨⟨db₁, l₁, sub₁⟩, hbalances, h⟩ := bind_eq_ok.mp h
    cases h
    exact ⟨rfl, db₁, rfl, .inr ⟨rfl, hbalances⟩⟩

/-- **Booking a reservation** under a fresh request id. -/
theorem createReservation_eq_ok {kind : LedgerKind}
    (hfunded : input.fundingSource = .wallet ∨ input.fundingSource = .subscription)
    (hnonneg : 0 ≤ input.quota)
    (h : createReservation cal now db { input with requestID := requestID, kind := kind }
      = .ok (db', result)) :
    result.alreadyReserved = false ∧ LedgerCreate cal now db db' input result.ledger := by
  obtain ⟨hnew, db₁, rfl, hbooked⟩ := createReservation_cases h
  obtain ⟨l₁, sub₁, already⟩ := result
  set l₀ := BillingReservation.newLedger { input with requestID := requestID, kind := kind }
    (nextId (db.ledgers.rows.map BillingLedger.id)) now with hl₀
  have hfresh : db.ledgers.find? l₀.id = none := find?_nextId db
  have hpos : 0 < l₀.id := nextId_pos _
  have hcounted : ∀ a, l₀.counted a = 0 := by
    intro a
    cases a <;> simp [counted, hl₀, BillingReservation.newLedger]
  dsimp only at hnew hbooked ⊢
  refine ⟨hnew, ?_⟩
  rcases hbooked with ⟨happly, rfl, rfl⟩ | ⟨happly, hbalances⟩
  · refine ⟨hfresh, hpos, put_insert rfl hfresh, rfl, rfl, rfl, hfunded, rfl, rfl, hnonneg,
      rfl, rfl, rfl, fun a _ happlies => ?_, fun hf => by simp [happly] at hf, id⟩
    have hcounter : a.isCounter = true := by
      rcases happlies with h' | h'
      · rw [happly] at h'; cases h'
      · exact h'
    have hresets : input.resets cal now db = [] := by
      rw [BillingReservation.resets, if_neg (by simp [happly])]
    rw [hresets, balanceAfterResets_nil, posting, direction_counter _ hcounter,
      hcounted, zero_mul, add_zero, add_zero]
    exact balance_of_charged rfl a
  · obtain ⟨⟨_, _, _, _, hl₁⟩, ⟨hledgers, htasks⟩, hshape, hbal, hbacks, htotals⟩ :=
      reserveBalances_eq_ok rfl rfl rfl hcounted hbalances
    have hresets : input.resets cal now db
        = if input.fundingSource = .subscription then examinedResets cal now input.quota db
            (activeSubscriptions db now input.userID) else [] := by
      rw [BillingReservation.resets]
      simp only [happly, true_and]
    have hid : l₁.id = l₀.id := by rw [hl₁]
    refine ⟨by rw [hid]; exact hfresh, by rw [hid]; exact hpos, ?_, htasks, by rw [hl₁]; rfl,
      by rw [hl₁]; rfl, by rw [hl₁]; exact hfunded, by rw [hl₁]; rfl, by rw [hl₁]; rfl, hnonneg,
      by rw [hl₁]; rfl, by rw [hl₁]; rfl, hshape, fun a ha _ => ?_, fun _ hne => ?_,
      fun hw => htotals hw⟩
    · have hput : (enqueueBillingOutboxTx now (saveLedger db₁ l₁) l₁ (.state .reserved)).ledgers
          = db₁.ledgers.put l₁ := rfl
      rw [hput, hledgers]
      exact put_insert hid hfresh
    · have hb := hbal a ha
      rw [examinedResets_congr (show Database.plans { db with ledgers := db.ledgers.insert l₀ }
        = db.plans from rfl)] at hb
      rw [hresets]
      exact hb
    · have hb := hbacks hne
      exact ⟨hb.wallet, hb.subscription, hb.token⟩

section

variable (h : reserveBillingLedger cal now input db = .ok (db', result))
include h

/-- **A successful reservation, case by case**: the ledger of a known request id is returned, or one
is created. -/
theorem reserveBillingLedger_cases :
    (input.fundingSource = .wallet ∨ input.fundingSource = .subscription) ∧ 0 ≤ input.quota ∧
    ((result.alreadyReserved = true ∧ db' = db ∧
        db.ledgers.rows.find? (·.requestID = trimSpace input.requestID)
          = some result.ledger) ∨
     (db.ledgers.rows.find? (·.requestID = trimSpace input.requestID) = none ∧ ∃ kind,
        createReservation cal now db { input with
          requestID := trimSpace input.requestID, kind := kind } = .ok (db', result))) := by
  unfold reserveBillingLedger at h
  rw [guard_eq_ok, guard_eq_ok] at h
  obtain ⟨-, hvalid, h⟩ := h
  push Not at hvalid
  -- the source of a reservation that got this far is a wallet or a subscription
  have hfunded : input.fundingSource = .wallet ∨ input.fundingSource = .subscription := by
    cases hs : input.fundingSource with
    | wallet => exact .inl rfl
    | subscription => exact .inr rfl
    | other raw => rw [hs] at h; cases h
  refine ⟨hfunded, hvalid.2, ?_⟩
  dsimp only at h
  split at h
  · cases h
  · split at h
    · next hexists =>
      rw [hexists]
      left
      obtain ⟨-, hbody⟩ := guard_eq_ok.mp h
      split at hbody
      · split at hbody
        · cases hbody
        · cases hbody
          exact ⟨rfl, rfl, rfl⟩
      · cases hbody
        exact ⟨rfl, rfl, rfl⟩
    · next hnone => exact .inr ⟨hnone, _, h⟩

/-- **A successful reservation** finds the ledger of its request id and leaves the books alone, or
books a new one. -/
theorem reserveBillingLedger_eq_ok :
    (result.alreadyReserved = true ∧ db' = db ∧
        db.ledgers.rows.find? (·.requestID = trimSpace input.requestID)
          = some result.ledger) ∨
    (result.alreadyReserved = false ∧
      db.ledgers.rows.find? (·.requestID = trimSpace input.requestID) = none ∧
      LedgerCreate cal now db db' input result.ledger) := by
  obtain ⟨hfunded, hnonneg, hexists | ⟨hnone, kind, hbody⟩⟩ := reserveBillingLedger_cases h
  · exact .inl hexists
  · obtain ⟨hnew, hcreate⟩ := createReservation_eq_ok hfunded hnonneg hbody
    exact .inr ⟨hnew, hnone, hcreate⟩

end

end RenewApi.Billing
