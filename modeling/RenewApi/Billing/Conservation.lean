import RenewApi.Billing.Outcome

/-! # Conservation of balances and usage counters

Whatever the ledger operations do, in whatever order, every number they move differs from what it
was at the start by exactly what the ledgers have posted to it. -/

namespace RenewApi.Billing

open Relational Table BillingLedger Database LedgerCall

variable {cal : Calendar} {db : Database} {a : Account}

/-- The part of an account that the ledgers do not explain. -/
def Database.unexplained (db : Database) (a : Account) : Int :=
  drift db.balance db.ledgers BillingLedger.posting a

/-- A reservation books its balances itself (`ApplyBalances`), in one of the modes that keep
applying them. -/
def LedgerOp.appliesBalances : LedgerOp → Prop
  | .reserve input => input.applyBalances = true ∧ input.mode.appliesBalances = true
  | _ => True

instance (op : LedgerOp) : Decidable op.appliesBalances := by
  unfold LedgerOp.appliesBalances
  split <;> infer_instance

/-- Every ledger applies balances and is funded by a wallet or a subscription. -/
def Database.BalancesApplied (db : Database) : Prop :=
  ∀ l ∈ db.ledgers.rows, l.mode.appliesBalances = true ∧
    (l.fundingSource = .wallet ∨ l.fundingSource = .subscription)
  deriving Decidable

theorem shape_step (cal : Calendar) (db : Database) (c : LedgerCall) :
    (c.step cal db).shape = db.shape := by
  cases c.step_outcome cal db with
  | quiet _ hcharged => exact shape_of_charged hcharged
  | rewrite l l' _ _ h => exact h.shape
  | create input l _ _ _ h => exact h.shape

variable {c : LedgerCall} {calls : List LedgerCall} {p : BillingLedger → Bool} {t : Int}

theorem balancesApplied_step (hop : c.op.appliesBalances) (h : db.BalancesApplied) :
    (c.step cal db).BalancesApplied := by
  cases c.step_outcome cal db with
  | quiet hledgers _ =>
    rw [BalancesApplied, hledgers]
    exact h
  | rewrite l l' _ _ hrewrite =>
    intro m hm
    rw [hrewrite.ledgers] at hm
    rcases mem_put hm with rfl | ⟨hold, -⟩
    · rw [mode_of_terms hrewrite.terms, fundingSource_of_terms hrewrite.terms]
      exact h l (mem_of_find? hrewrite.found)
    · exact h m hold
  | create input l hreserve _ _ hcreate =>
    intro m hm
    rw [hcreate.ledgers] at hm
    rcases mem_insert hm with rfl | hold
    · rw [hreserve] at hop
      exact ⟨hcreate.mode ▸ hop.2, hcreate.funded⟩
    · exact h m hold

/-- **One call keeps the drift** of every account: of the counters always, of the others as long as
balances are applied and the account is not a subscription that the call resets. -/
theorem drift_step (htracks : db.tracks a)
    (happlies : a.isCounter = true ∨ (db.BalancesApplied ∧ c.op.appliesBalances))
    (hresets : ∀ s, a = .subscriptionUsed s → s ∉ c.op.resets cal c.now db) :
    (c.step cal db).unexplained a = db.unexplained a := by
  unfold unexplained
  cases c.step_outcome cal db with
  | quiet hledgers hcharged =>
    rw [drift, drift, hledgers, balance_of_charged hcharged]
  | rewrite l l' _ _ h =>
    have hid : l'.id = l.id := id_of_terms h.terms
    rw [h.ledgers]
    refine drift_put (by rw [key_ledger, hid]; exact h.found) (h.balance a htracks ?_)
    rcases happlies with hcounter | ⟨happlied, -⟩
    · exact .inr hcounter
    · exact .inl (happlied l (mem_of_find? h.found)).1
  | create input l hreserve _ hsame h =>
    rw [h.ledgers]
    refine drift_insert h.fresh ?_
    rw [h.balance a htracks ?_]
    · -- no reset touches the account, so it starts from its old balance
      rw [hsame] at hresets
      cases a with
      | subscriptionUsed s =>
        rw [balanceAfterResets, if_neg (hresets s rfl)]
      | _ => rfl
    · rcases happlies with hcounter | ⟨-, hop⟩
      · exact .inr hcounter
      · rw [hreserve] at hop
        exact .inl hop.1

theorem drift_run_counter (cal : Calendar) (db : Database) (calls : List LedgerCall)
    (ha : a.isCounter = true) : (run (step cal) db calls).unexplained a = db.unexplained a := by
  refine run_invariant_all (I := fun d : Database => d.unexplained a = db.unexplained a)
    (fun d c hd => ?_) calls rfl
  rw [← hd]
  have htracks : d.tracks a := by cases a <;> trivial
  exact drift_step htracks (.inl ha) (by rintro s rfl; cases ha)

theorem drift_run (htracks : db.tracks a) (happlied : db.BalancesApplied)
    (hops : ∀ c ∈ calls, c.op.appliesBalances)
    (hresets : Along (step cal) (fun d c => c.op.resets cal c.now d = []) db calls) :
    (run (step cal) db calls).unexplained a = db.unexplained a := by
  have hboth : Along (step cal)
      (fun d c => c.op.appliesBalances ∧ c.op.resets cal c.now d = []) db calls :=
    (along_of_forall (fun c hc _ => hops c hc) db).and hresets
  refine (run_invariant (I := fun d : Database => d.BalancesApplied ∧ d.shape = db.shape ∧
    d.unexplained a = db.unexplained a) ?_ hboth ⟨happlied, rfl, rfl⟩).2.2
  rintro d c ⟨hop, hreset⟩ ⟨hd, hshape, hdrift⟩
  refine ⟨balancesApplied_step hop hd, (shape_step cal d c).trans hshape, ?_⟩
  rw [← hdrift]
  exact drift_step (tracks_of_shape hshape htracks) (.inr ⟨hd, hop⟩)
    (fun s _ hs => by rw [hreset] at hs; cases hs)

/-! ## Applied quota -/

def Database.appliedOver (db : Database) (p : BillingLedger → Bool) : Int :=
  db.ledgers.sum (fun l => if p l then l.appliedQuota else 0)

theorem unexplained_of_debit
    (h : ∀ l ∈ db.ledgers.rows, l.posting a = -(if p l then l.appliedQuota else 0)) :
    db.unexplained a = db.balance a + db.appliedOver p := by
  rw [unexplained, drift, sum_congr h, sum_neg, sub_neg_eq_add]
  rfl

theorem unexplained_of_credit
    (h : ∀ l ∈ db.ledgers.rows, l.posting a = if p l then l.appliedQuota else 0) :
    db.unexplained a = db.balance a - db.appliedOver p := by
  rw [unexplained, drift, sum_congr h]
  rfl

theorem unexplained_wallet (h : db.BalancesApplied) (u : Int) :
    db.unexplained (.wallet u) = db.users.read u User.quota
      + db.appliedOver (fun l => l.fundingSource = .wallet && l.userID = u) := by
  refine unexplained_of_debit fun l hl => ?_
  rcases (h l hl).2 with hs | hs
  · by_cases hu : l.userID = u <;>
      simp [posting, direction, counted, hs, hu]
  · simp [posting, direction, counted, hs]

theorem unexplained_tokenUsed (db : Database) (ht : 0 < t) :
    db.unexplained (.tokenUsed t) = db.tokens.read t Token.usedQuota
      - db.appliedOver (fun l => !l.playground && l.tokenID = t) := by
  refine unexplained_of_credit fun l _ => ?_
  by_cases hl : l.tokenID = t
  · cases hp : l.playground <;>
      simp [posting, direction, counted, chargesToken, hl, hp, ht]
  · simp [posting, direction, counted, hl]

theorem unexplained_tokenRemain (db : Database) (ht : 0 < t) :
    db.unexplained (.tokenRemain t) = db.tokens.read t Token.remainQuota
      + db.appliedOver (fun l => !l.playground && l.tokenID = t) := by
  refine unexplained_of_debit fun l _ => ?_
  by_cases hl : l.tokenID = t
  · cases hp : l.playground <;>
      simp [posting, direction, counted, chargesToken, hl, hp, ht]
  · simp [posting, direction, counted, hl]

theorem unexplained_subscriptionUsed (db : Database) (s : Int) :
    db.unexplained (.subscriptionUsed s) = db.subscriptions.read s UserSubscription.amountUsed
      - db.appliedOver (fun l => l.fundingSource = .subscription && l.subscriptionID = s) := by
  refine unexplained_of_credit fun l _ => ?_
  by_cases hf : l.fundingSource = .subscription <;> by_cases hs : l.subscriptionID = s <;>
    simp [posting, direction, counted, hf, hs]

/-- **Ledger conservation.** Over every interleaving of the ledger operations in which reservations
apply their balances and no subscription is reset, a balance and the applied quota of the ledgers
charged to it add up to what they were: for a user's quota, a token's used quota, a limited token's
remaining quota and a subscription's usage. -/
theorem ledger_conservation (cal : Calendar) (db : Database) (calls : List LedgerCall)
    (happlied : db.BalancesApplied) (hops : ∀ c ∈ calls, c.op.appliesBalances)
    (hresets : Along (LedgerCall.step cal) (fun d c => c.op.resets cal c.now d = []) db calls) :
    let db' := run (LedgerCall.step cal) db calls
    (∀ u, db'.users.read u User.quota
        + db'.appliedOver (fun l => l.fundingSource = .wallet && l.userID = u)
      = db.users.read u User.quota
        + db.appliedOver (fun l => l.fundingSource = .wallet && l.userID = u)) ∧
    (∀ t, 0 < t → db'.tokens.read t Token.usedQuota
        - db'.appliedOver (fun l => !l.playground && l.tokenID = t)
      = db.tokens.read t Token.usedQuota
        - db.appliedOver (fun l => !l.playground && l.tokenID = t)) ∧
    (∀ t, 0 < t → (∀ row, db.tokens.find? t = some row → row.unlimitedQuota = false) →
      db'.tokens.read t Token.remainQuota
        + db'.appliedOver (fun l => !l.playground && l.tokenID = t)
      = db.tokens.read t Token.remainQuota
        + db.appliedOver (fun l => !l.playground && l.tokenID = t)) ∧
    (∀ s, db'.subscriptions.read s UserSubscription.amountUsed
        - db'.appliedOver (fun l => l.fundingSource = .subscription && l.subscriptionID = s)
      = db.subscriptions.read s UserSubscription.amountUsed
        - db.appliedOver (fun l => l.fundingSource = .subscription && l.subscriptionID = s)) := by
  have hdrift : ∀ a, db.tracks a →
      (run (step cal) db calls).unexplained a = db.unexplained a :=
    fun a ha => drift_run ha happlied hops hresets
  have happlied' : (run (step cal) db calls).BalancesApplied :=
    run_invariant (fun _ _ hop h => balancesApplied_step hop h)
      (along_of_forall (fun c hc _ => hops c hc) db) happlied
  refine ⟨fun u => ?_, fun t ht => ?_, fun t ht hlimited => ?_, fun s => ?_⟩
  · rw [← unexplained_wallet happlied, ← unexplained_wallet happlied']
    exact hdrift (.wallet u) trivial
  · rw [← unexplained_tokenUsed db ht, ← unexplained_tokenUsed _ ht]
    exact hdrift (.tokenUsed t) trivial
  · rw [← unexplained_tokenRemain db ht, ← unexplained_tokenRemain _ ht]
    exact hdrift (.tokenRemain t) hlimited
  · rw [← unexplained_subscriptionUsed db, ← unexplained_subscriptionUsed]
    exact hdrift (.subscriptionUsed s) trivial

/-- A reservation of each funding source, a raised reservation, a settlement below it and a refund:
the sample user still owns a hundred units, in the wallet or in ledgers. -/
theorem ledger_conservation_sample :
    let db' := run (LedgerCall.step sampleCalendar) sampleDatabase sampleCalls
    db'.users.read 1 User.quota
      + db'.appliedOver (fun l => l.fundingSource = .wallet && l.userID = 1) = 100 := by
  have h := (ledger_conservation sampleCalendar sampleDatabase sampleCalls (by decide) (by decide)
    (by decide +kernel)).1 1
  exact h.trans (by decide)

/-! ## Usage counters -/

def Database.countedOver (db : Database) (p : BillingLedger → Bool) : Int :=
  db.ledgers.sum (fun l => if p l then l.countedQuota else 0)

theorem unexplained_userUsed (db : Database) (u : Int) :
    db.unexplained (.userUsed u) = db.users.read u User.usedQuota
      - db.countedOver (·.userID = u) := by
  rw [unexplained, drift]
  congr 1
  refine sum_congr fun l _ => ?_
  simp [posting, direction, counted]

theorem unexplained_userRequests (db : Database) (u : Int) :
    db.unexplained (.userRequests u) = db.users.read u User.requestCount
      - db.ledgers.count (fun l => l.userID = u && l.requestCounted) := by
  rw [unexplained, drift, ← sum_ite_one]
  congr 1
  refine sum_congr fun l _ => ?_
  simp [posting, direction, counted]

theorem unexplained_channelUsed (db : Database) {ch : Int} (hch : 0 < ch) :
    db.unexplained (.channelUsed ch) = db.channels.read ch Channel.usedQuota
      - db.countedOver (·.channelID = ch) := by
  rw [unexplained, drift]
  congr 1
  refine sum_congr fun l _ => ?_
  simp [posting, direction, counted, hch]

/-- **Usage counters.** Starting from ledgers that have counted nothing, after every step of every
run: a user's used quota and request count have grown by what the user's ledgers have counted, and a
channel's used quota by what the ledgers now bound to it have. -/
theorem usage_counters (cal : Calendar) (db : Database) (calls : List LedgerCall)
    (huncounted : ∀ l ∈ db.ledgers.rows, l.countedQuota = 0 ∧ l.requestCounted = false) :
    let db' := run (LedgerCall.step cal) db calls
    (∀ u, db'.users.read u User.usedQuota
      = db.users.read u User.usedQuota + db'.countedOver (·.userID = u)) ∧
    (∀ u, db'.users.read u User.requestCount
      = db.users.read u User.requestCount
        + db'.ledgers.count (fun l => l.userID = u && l.requestCounted)) ∧
    (∀ ch, 0 < ch → db'.channels.read ch Channel.usedQuota
      = db.channels.read ch Channel.usedQuota + db'.countedOver (·.channelID = ch)) := by
  have hzero : ∀ p, db.countedOver p = 0 := by
    intro p
    refine sum_eq_zero fun l hl => ?_
    rw [(huncounted l hl).1, ite_self]
  have hcount : ∀ u, db.ledgers.count (fun l => l.userID = u && l.requestCounted) = 0 := by
    intro u
    rw [count, List.countP_eq_zero]
    intro l hl
    simp [(huncounted l hl).2]
  refine ⟨fun u => ?_, fun u => ?_, fun ch hch => ?_⟩
  · have h := drift_run_counter cal db calls (a := .userUsed u) rfl
    rw [unexplained_userUsed, unexplained_userUsed, hzero] at h
    omega
  · have h := drift_run_counter cal db calls (a := .userRequests u) rfl
    rw [unexplained_userRequests, unexplained_userRequests, hcount] at h
    omega
  · have h := drift_run_counter cal db calls (a := .channelUsed ch) rfl
    rw [unexplained_channelUsed _ hch, unexplained_channelUsed _ hch, hzero] at h
    omega

/-- The sample run settles the first ledger at twenty-five units on the second channel. -/
theorem usage_counters_sample :
    let db' := run (LedgerCall.step sampleCalendar) sampleDatabase sampleCalls
    db'.channels.read 2 Channel.usedQuota = 25 := by
  have h := (usage_counters sampleCalendar sampleDatabase sampleCalls (by decide)).2.2 2 (by decide)
  exact h.trans (by decide +kernel)

end RenewApi.Billing
