import RenewApi.Billing.Conservation

/-! # The ledger among its neighbours

The rows a ledger is charged to have other writers: their owner deletes a token, a pass over the
subscriptions starts new periods or ends old ones, an administrator cancels or removes a
subscription. `BillingEvent` is one transaction of the ledger or of one of these. -/

namespace RenewApi.Billing

open Relational Table Database

variable {db db' : Database} {now : Int}

/-- One transaction that touches the billing tables. -/
inductive BillingEvent
  | ledger (op : LedgerOp)
  /-- `DeleteTokenById`. -/
  | deleteToken (id userId : Int)
  /-- The transaction of `ResetDueSubscriptionsContext` for one listed subscription. -/
  | resetDue (planId id : Int)
  /-- The transaction of `ExpireDueSubscriptionsContext` for one user. -/
  | expire (userId : Int)
  /-- `AdminInvalidateUserSubscription`. -/
  | invalidate (id : Int)
  /-- `AdminDeleteUserSubscription`. -/
  | deleteSubscription (id : Int)
  deriving DecidableEq

def BillingEvent.exec (cal : Calendar) (now : Int) (db : Database) : BillingEvent → Database
  | .ledger op => op.exec cal now db
  | .deleteToken id userId => (transaction (deleteTokenById id userId) db).1
  | .resetDue planId id => (transaction (resetDueSubscriptionTx cal now planId id) db).1
  | .expire userId => (transaction (expireUserSubscriptionsTx now userId) db).1
  | .invalidate id => (transaction (adminInvalidateUserSubscription now id) db).1
  | .deleteSubscription id => (transaction (adminDeleteUserSubscription now id) db).1

structure TimedEvent where
  now : Int
  event : BillingEvent
  deriving DecidableEq

def TimedEvent.step (cal : Calendar) (db : Database) (e : TimedEvent) : Database :=
  e.event.exec cal e.now db

/-- Whether the transaction of the reset pass starts a new period of a subscription. -/
def resetsDue (cal : Calendar) (now : Int) (db : Database) (planId id : Int) : Bool :=
  match getSubscriptionPlanByIdTx db planId, db.subscriptions.find? id with
  | .ok plan, some sub =>
    decide (0 < sub.nextResetTime ∧ sub.nextResetTime ≤ now) &&
      (resetDecision cal now sub plan).resets
  | _, _ => false

def BillingEvent.resets (cal : Calendar) (now : Int) (db : Database) : BillingEvent → List Int
  | .ledger op => op.resets cal now db
  | .resetDue planId id => if resetsDue cal now db planId id then [id] else []
  | _ => []

/-! ## Events that leave the books alone -/

/-- **Nothing a ledger depends on changed.** -/
structure SameBooks (db db' : Database) : Prop where
  ledgers : db'.ledgers = db.ledgers
  shape : db'.shape = db.shape
  balance : ∀ a, db'.balance a = db.balance a
  totals : db.WithinTotals → db'.WithinTotals

theorem SameBooks.refl (db : Database) : SameBooks db db := ⟨rfl, rfl, fun _ => rfl, id⟩

theorem SameBooks.trans {db₁ db₂ db₃ : Database} (h₁ : SameBooks db₁ db₂) (h₂ : SameBooks db₂ db₃) :
    SameBooks db₁ db₃ :=
  ⟨h₂.ledgers.trans h₁.ledgers, h₂.shape.trans h₁.shape,
    fun a => (h₂.balance a).trans (h₁.balance a), fun h => h₂.totals (h₁.totals h)⟩

theorem SameBooks.unexplained (h : SameBooks db db') (a : Account) :
    db'.unexplained a = db.unexplained a := by
  rw [Database.unexplained, Database.unexplained, drift, drift, h.ledgers, h.balance]

/-- **The books after resets**: nothing a ledger depends on changed besides the usage of the
subscriptions that were reset. -/
structure ResetBooks (resets : List Int) (db db' : Database) : Prop where
  ledgers : db'.ledgers = db.ledgers
  shape : db'.shape = db.shape
  balance : ∀ a, db'.balance a = db.balanceAfterResets resets a
  totals : db.WithinTotals → db'.WithinTotals

theorem SameBooks.resetBooks (h : SameBooks db db') : ResetBooks [] db db' :=
  ⟨h.ledgers, h.shape, fun a => by rw [balanceAfterResets_nil, h.balance], h.totals⟩

theorem sameBooks_setUserGroup (db : Database) (userId : Int) (group : String) :
    SameBooks db (setUserGroup db userId group) := by
  have hstrip : (setUserGroup db userId group).users.rows.map User.strip
      = db.users.rows.map User.strip :=
    map_map_rows (fun u => by split <;> rfl) db.users.rows
  have hread : ∀ u (g : User → Int), (∀ r : User, g (if !r.deleted && r.id = userId then
      { r with group := group } else r) = g r) →
        (setUserGroup db userId group).users.read u g = db.users.read u g :=
    fun u g hg => read_mapRows _ _ (fun r => by split <;> rfl) u g hg
  refine ⟨rfl, ?_, fun a => ?_, id⟩
  · simp only [shape] at hstrip ⊢
    rw [hstrip]
    rfl
  · cases a with
    | wallet u => exact hread u _ fun r => by split <;> rfl
    | userUsed u => exact hread u _ fun r => by split <;> rfl
    | userRequests u => exact hread u _ fun r => by split <;> rfl
    | _ => rfl

theorem sameBooks_subscriptions {f : UserSubscription → UserSubscription}
    {hf : ∀ r, Row.key (f r) = Row.key r}
    (hdb' : db' = { db with subscriptions := db.subscriptions.mapRows f hf })
    (hused : ∀ s, (f s).amountUsed = s.amountUsed) (hstrip : ∀ s, (f s).strip = s.strip) :
    SameBooks db db' := by
  have hrows : db'.subscriptions.rows.map UserSubscription.strip
      = db.subscriptions.rows.map UserSubscription.strip := by
    rw [hdb']
    exact map_map_rows hstrip db.subscriptions.rows
  refine ⟨by rw [hdb'], ?_, fun a => ?_, fun hw s hs => ?_⟩
  · simp only [shape, hrows]
    rw [hdb']
  · rw [hdb']
    cases a with
    | subscriptionUsed s => exact read_mapRows _ _ hf s _ hused
    | _ => rfl
  · rw [hdb'] at hs
    obtain ⟨r, hr, rfl⟩ := List.mem_map.mp hs
    have htotal := congrArg UserSubscription.amountTotal (hstrip r)
    intro hpos
    have hle := hw r hr (htotal ▸ hpos)
    rw [hused]
    exact hle.trans htotal.ge

theorem sameBooks_put_subscription {s r : UserSubscription}
    (hdb' : db' = { db with subscriptions := db.subscriptions.put r })
    (hs : s ∈ db.subscriptions.rows) (hused : r.amountUsed = s.amountUsed)
    (hstrip : r.strip = s.strip) : SameBooks db db' := by
  have hid : Row.key r = Row.key s := by
    have h := congrArg UserSubscription.id hstrip
    exact h
  have htotal := congrArg UserSubscription.amountTotal hstrip
  have hfind : db.subscriptions.find? s.id = some s := find?_of_mem hs
  refine ⟨by rw [hdb'], ?_, fun a => ?_, fun hw => withinTotals_put (by rw [hdb']) ?_ hw⟩
  · simp only [shape, hdb']
    rw [map_rows_put hfind hid hstrip]
  · rw [hdb']
    cases a with
    | subscriptionUsed v => simp [balance, read_put hfind hid, hused]
    | _ => rfl
  · intro hpos
    rw [hused]
    exact (hw s hs (htotal ▸ hpos)).trans htotal.ge

variable {sub : UserSubscription} (cal : Calendar)

/-- `downgradeUserGroupForSubscriptionTx` only changes a group. -/
theorem sameBooks_downgrade (h : downgradeUserGroupForSubscriptionTx now db sub = .ok db') :
    SameBooks db db' := by
  obtain ⟨-, -, -, rfl⟩ | ⟨rfl, -⟩ := downgradeUserGroupForSubscriptionTx_eq_ok h
  · exact sameBooks_setUserGroup db sub.userId _
  · exact .refl _

theorem sameBooks_downgradeAfterExpiry {userId : Int}
    (h : downgradeAfterExpiry now userId db = .ok db') : SameBooks db db' := by
  unfold downgradeAfterExpiry at h
  split at h
  · exact Except.ok.inj h ▸ .refl db
  split at h
  · exact Except.ok.inj h ▸ .refl db
  dsimp only at h
  split at h
  · exact Except.ok.inj h ▸ .refl db
  obtain ⟨group, -, h⟩ := bind_eq_ok.mp h
  split at h
  · exact Except.ok.inj h ▸ .refl db
  · exact Except.ok.inj h ▸ sameBooks_setUserGroup db userId _

/-- **Expiry leaves the books alone.** -/
theorem sameBooks_expire (now : Int) (db : Database) (userId : Int) :
    SameBooks db ((BillingEvent.expire userId).exec cal now db) := by
  refine transaction_cases (.refl db) fun db' _ h => ?_
  obtain ⟨db₁, hgroup, h⟩ := bind_eq_ok.mp h
  cases h
  refine SameBooks.trans ?_ (sameBooks_downgradeAfterExpiry hgroup)
  exact sameBooks_subscriptions rfl (fun s => by split <;> rfl) (fun s => by split <;> rfl)

/-- **Cancellation leaves the books alone.** -/
theorem sameBooks_invalidate (now : Int) (db : Database) (id : Int) :
    SameBooks db ((BillingEvent.invalidate id).exec cal now db) := by
  refine transaction_cases (.refl db) fun db' _ h => ?_
  obtain ⟨sub, cancelled, hfind, rfl, hgroup⟩ := adminInvalidateUserSubscription_eq_ok h
  refine SameBooks.trans ?_ (sameBooks_downgrade hgroup)
  exact sameBooks_put_subscription rfl (mem_of_find? hfind) rfl rfl

/-! ## Events that change a charged row -/

theorem put_decision {d : ResetDecision}
    (hdb' : db' = { db with subscriptions := db.subscriptions.put (d.apply now sub) })
    (hmem : sub ∈ db.subscriptions.rows) :
    ResetBooks (if d.resets then [sub.id] else []) db db' := by
  have hfind : db.subscriptions.find? sub.id = some sub := find?_of_mem hmem
  refine ⟨by rw [hdb'], ?_, fun a => ?_, fun hw => ?_⟩
  · simp only [shape, hdb']
    rw [map_rows_put hfind (by simp) (d.apply_strip now sub)]
  · rw [hdb']
    cases a with
    | subscriptionUsed s =>
      have hread := read_put_decision now hmem d s
      simp only [balance, balanceAfterResets, hread]
      by_cases hd : d.resets = true <;> simp
    | _ => rfl
  · exact withinTotals_put (by rw [hdb']) (d.apply_withinTotal now (hw sub hmem)) hw

/-- **A transaction of the reset pass** starts a new period of its subscription, or leaves the books
alone. -/
theorem resetDue_books (cal : Calendar) (now : Int) (db : Database) (planId id : Int) :
    let e := BillingEvent.resetDue planId id
    ResetBooks (e.resets cal now db) db (e.exec cal now db) := by
  intro e
  -- the branches that skip the subscription
  have hskip : e.exec cal now db = db → resetsDue cal now db planId id = false →
      ResetBooks (e.resets cal now db) db (e.exec cal now db) := by
    intro heq hno
    rw [heq, show e.resets cal now db = [] from if_neg (by rw [hno]; decide)]
    exact (SameBooks.refl db).resetBooks
  have hkeep : resetDueSubscriptionTx cal now planId id db = .ok (db, ()) →
      e.exec cal now db = db := fun hbody => congrArg Prod.fst (transaction_ok hbody)
  cases hplan : getSubscriptionPlanByIdTx db planId with
  | error e =>
    refine hskip (hkeep ?_) (by rw [resetsDue, hplan])
    rw [resetDueSubscriptionTx, hplan]
  | ok plan =>
    cases hfind : db.subscriptions.find? id with
    | none =>
      refine hskip (hkeep ?_) (by rw [resetsDue, hplan, hfind])
      rw [resetDueSubscriptionTx, hplan, hfind]
    | some sub =>
      have hid : sub.id = id := key_of_find? hfind
      by_cases hdue : 0 < sub.nextResetTime ∧ sub.nextResetTime ≤ now
      · have hresets : resetsDue cal now db planId id
            = (resetDecision cal now sub plan).resets := by
          rw [resetsDue, hplan, hfind]
          simp [hdue]
        have hbody : resetDueSubscriptionTx cal now planId id db
            = (maybeResetUserSubscriptionWithPlanTx cal now db sub plan >>= fun r =>
                .ok (r.1, ())) := by
          rw [resetDueSubscriptionTx, hplan, hfind]
          exact if_pos hdue
        cases hmaybe : maybeResetUserSubscriptionWithPlanTx cal now db sub plan with
        | error e =>
          -- the loop never ends: nothing is committed, and nothing counts as reset
          refine hskip ?_ ?_
          · exact congrArg Prod.fst (transaction_error (hbody.trans (by rw [hmaybe]; rfl)))
          · rw [hresets]
            unfold maybeResetUserSubscriptionWithPlanTx at hmaybe
            cases hd : resetDecision cal now sub plan with
            | diverge => rfl
            | _ => rw [hd] at hmaybe; cases hmaybe
        | ok r =>
          obtain ⟨hrow, hdb⟩ := maybeResetUserSubscriptionWithPlanTx_eq_ok
            (mem_of_find? hfind) hmaybe
          have hdb' : e.exec cal now db = r.1 :=
            congrArg Prod.fst (transaction_ok (hbody.trans (by rw [hmaybe]; rfl)))
          rw [hrow] at hdb
          rw [BillingEvent.resets, hresets, ← hid]
          exact put_decision (hdb'.trans hdb) (mem_of_find? hfind)
      · refine hskip (hkeep ?_) ?_
        · rw [resetDueSubscriptionTx, hplan, hfind]
          exact if_neg hdue
        · rw [resetsDue, hplan, hfind]
          simp [hdue]

/-- The token `id` was hidden from the balance statements, if anything changed. -/
structure TokenHidden (db db' : Database) (id : Int) : Prop where
  ledgers : db'.ledgers = db.ledgers
  users : db'.users = db.users
  channels : db'.channels = db.channels
  subscriptions : db'.subscriptions = db.subscriptions
  balance : ∀ a, db'.balance a = db.balance a
  others : ∀ t, t ≠ id → db'.tokens.find? t = db.tokens.find? t

/-- **Deleting a token** hides it and changes nothing else. -/
theorem deleteToken_books (now : Int) (db : Database) (id userId : Int) :
    TokenHidden db ((BillingEvent.deleteToken id userId).exec cal now db) id := by
  refine transaction_cases (P := fun d => TokenHidden db d id)
    ⟨rfl, rfl, rfl, rfl, fun _ => rfl, fun _ _ => rfl⟩ fun db' _ h => ?_
  obtain ⟨-, h⟩ := guard_eq_ok.mp h
  split at h
  · cases h
  · cases h
    refine ⟨rfl, rfl, rfl, rfl, fun a => ?_, fun t ht => ?_⟩
    · cases a with
      | tokenUsed t =>
        exact read_mapRows _ _ (fun r => by split <;> rfl) t _ fun r => by split <;> rfl
      | tokenRemain t =>
        exact read_mapRows _ _ (fun r => by split <;> rfl) t _ fun r => by split <;> rfl
      | _ => rfl
    · rw [find?_updateWhere]
      cases hfind : db.tokens.find? t with
      | none => rfl
      | some row =>
        have hrow : row.id = t := key_of_find? hfind
        have hne : row.id ≠ id := hrow ▸ ht
        simp [hne]

/-- **Deleting a subscription** removes its row and changes nothing else the ledger depends on. -/
theorem deleteSubscription_books (cal : Calendar) (now : Int) (db : Database) (id : Int) :
    let db' := (BillingEvent.deleteSubscription id).exec cal now db
    ∃ db₁, SameBooks db db₁ ∧ (db' = db₁ ∨
      db' = { db₁ with subscriptions := db₁.subscriptions.deleteWhere (·.id = id) }) := by
  refine transaction_cases (P := fun db' : Database => ∃ db₁, SameBooks db db₁ ∧ (db' = db₁ ∨
      db' = { db₁ with subscriptions := db₁.subscriptions.deleteWhere (·.id = id) }))
    ⟨db, .refl db, .inl rfl⟩ fun db' _ h => ?_
  obtain ⟨sub, db₁, -, hgroup, hdb'⟩ := adminDeleteUserSubscription_eq_ok h
  exact ⟨db₁, sameBooks_downgrade hgroup, .inr hdb'⟩

theorem BillingEvent.exec_ledgers (now : Int) (db : Database) {e : BillingEvent}
    (h : ∀ op, e ≠ .ledger op) : (e.exec cal now db).ledgers = db.ledgers := by
  cases e with
  | ledger op => exact absurd rfl (h op)
  | deleteToken id userId => exact (deleteToken_books cal now db id userId).ledgers
  | resetDue planId id => exact (resetDue_books cal now db planId id).ledgers
  | expire userId => exact (sameBooks_expire cal now db userId).ledgers
  | invalidate id => exact (sameBooks_invalidate cal now db id).ledgers
  | deleteSubscription id =>
    obtain ⟨db₁, hsame, hdb' | hdb'⟩ := deleteSubscription_books cal now db id
    · rw [hdb']; exact hsame.ledgers
    · rw [hdb']; exact hsame.ledgers

/-- **What an event can do to the ledgers**: nothing, rewrite one row on its terms, or add one. -/
theorem TimedEvent.step_ledgers (db : Database) (e : TimedEvent) :
    (e.step cal db).ledgers = db.ledgers ∨
    (∃ l l', db.ledgers.find? l.id = some l ∧ l'.terms = l.terms ∧
      (e.step cal db).ledgers = db.ledgers.put l') ∨
    (∃ l, db.ledgers.find? l.id = none ∧ (e.step cal db).ledgers = db.ledgers.insert l) := by
  obtain ⟨now, event⟩ := e
  by_cases hop : ∃ op, event = .ledger op
  · obtain ⟨op, rfl⟩ := hop
    cases op.exec_outcome cal now db with
    | quiet hledgers _ => exact .inl hledgers
    | rewrite l l' _ _ h => exact .inr (.inl ⟨l, l', h.found, h.terms, h.ledgers⟩)
    | create input l _ _ _ h => exact .inr (.inr ⟨l, h.fresh, h.ledgers⟩)
  · exact .inl (BillingEvent.exec_ledgers cal now db fun op h => hop ⟨op, h⟩)

end RenewApi.Billing
