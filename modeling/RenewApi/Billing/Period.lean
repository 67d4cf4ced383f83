import RenewApi.Billing.Events

/-! # Subscription periods

A subscription with a reset period starts every period with no usage; a ledger that was reserved
before a reset may be settled or refunded after it. -/

namespace RenewApi.Billing

open Relational Table BillingLedger Database BillingEvent

variable {cal : Calendar} {db : Database} {e : TimedEvent} {s : Int}

/-- What was there when the current period started. -/
structure PeriodStart where
  used : Int
  ledgers : Table BillingLedger

/-- A database with the start of the current period of the subscription `s`. -/
structure PeriodRun where
  db : Database
  start : PeriodStart

/-- The recorded state at the beginning of a run. -/
def PeriodRun.init (db : Database) (s : Int) : PeriodRun :=
  ⟨db, ⟨db.subscriptions.read s UserSubscription.amountUsed, db.ledgers⟩⟩

/-- One event. A reset of `s` starts a new period, with no usage and the ledgers of that moment. -/
def PeriodRun.step (cal : Calendar) (s : Int) (p : PeriodRun) (e : TimedEvent) : PeriodRun :=
  { db := e.step cal p.db
    start := if s ∈ e.event.resets cal e.now p.db then ⟨0, p.db.ledgers⟩ else p.start }

def BillingLedger.chargedTo (l : BillingLedger) (s : Int) : Prop :=
  l.fundingSource = .subscription ∧ l.subscriptionID = s
  deriving Decidable

def PeriodRun.reservedSince (p : PeriodRun) (s : Int) : Int :=
  p.db.ledgers.sum fun l =>
    if l.chargedTo s ∧ p.start.ledgers.find? l.id = none then l.appliedQuota else 0

/-- What the ledgers reserved on `s` before the period have applied beyond what they had when it
started. -/
def PeriodRun.carriedOver (p : PeriodRun) (s : Int) : Int :=
  p.db.ledgers.sum fun l =>
    if l.chargedTo s ∧ p.start.ledgers.find? l.id ≠ none then
      l.appliedQuota - p.start.ledgers.read l.id BillingLedger.appliedQuota
    else 0

def PeriodStart.held (start : PeriodStart) (s : Int) (ledgers : Table BillingLedger) : Int :=
  ledgers.sum fun l =>
    if l.chargedTo s then start.ledgers.read l.id BillingLedger.appliedQuota else 0

theorem posting_subscriptionUsed (l : BillingLedger) (s : Int) :
    l.posting (.subscriptionUsed s) = if l.chargedTo s then l.appliedQuota else 0 := by
  by_cases h : l.fundingSource = .subscription ∧ l.subscriptionID = s <;>
    simp [posting, direction, counted, chargedTo, h]

theorem sum_posting_eq (p : PeriodRun) (s : Int) :
    p.db.ledgers.sum (·.posting (.subscriptionUsed s))
      = p.reservedSince s + p.carriedOver s + p.start.held s p.db.ledgers := by
  rw [PeriodRun.reservedSince, PeriodRun.carriedOver, PeriodStart.held, ← sum_add, ← sum_add]
  refine sum_congr fun l _ => ?_
  rw [posting_subscriptionUsed]
  by_cases hs : l.chargedTo s
  · by_cases hnew : p.start.ledgers.find? l.id = none
    · have hzero : p.start.ledgers.read l.id appliedQuota = 0 := by
        rw [Table.read, hnew]; rfl
      simp [hs, hnew, hzero]
    · simp [hs, hnew]
  · simp [hs]

theorem held_self (used : Int) (ledgers : Table BillingLedger) (s : Int) :
    PeriodStart.held ⟨used, ledgers⟩ s ledgers
      = ledgers.sum (·.posting (.subscriptionUsed s)) := by
  refine sum_congr fun l hl => ?_
  have hfind : ledgers.find? l.id = some l := find?_of_mem hl
  rw [posting_subscriptionUsed]
  rw [read_of_find? hfind]

/-! ## One event -/

theorem find?_ledger_step {id : Nat} (h : (e.step cal db).ledgers.find? id = none) :
    db.ledgers.find? id = none := by
  rcases e.step_ledgers cal db with heq | ⟨l, l', hfound, hterms, heq⟩ | ⟨l, hfresh, heq⟩
  · rw [heq] at h
    exact h
  · have hid : l'.id = l.id := id_of_terms hterms
    rw [heq, find?_put, key_ledger, hid] at h
    split at h
    · next hl => rw [hl, hfound] at h; cases h
    · exact h
  · rw [heq, find?_insert hfresh] at h
    split at h
    · cases h
    · exact h

/-- What the ledgers held when the period started does not change during it. -/
theorem held_step {start : PeriodStart}
    (hknown : ∀ id, db.ledgers.find? id = none → start.ledgers.find? id = none) :
    start.held s (e.step cal db).ledgers = start.held s db.ledgers := by
  rcases e.step_ledgers cal db with heq | ⟨l, l', hfound, hterms, heq⟩ | ⟨l, hfresh, heq⟩
  · rw [heq]
  · have hid : l'.id = l.id := id_of_terms hterms
    have hsub : l'.subscriptionID = l.subscriptionID := congrArg LedgerTerms.subscriptionID hterms
    rw [heq, PeriodStart.held, sum_put (by rw [key_ledger, hid]; exact hfound)]
    simp only [chargedTo, fundingSource_of_terms hterms, hsub, hid]
    exact sub_add_cancel _ _
  · have hzero : start.ledgers.read l.id appliedQuota = 0 := by
      rw [Table.read, hknown l.id hfresh]; rfl
    rw [heq, PeriodStart.held, sum_insert hfresh, hzero, ite_self, add_zero]
    rfl

/-- An event applies balances: it is no reservation without them. -/
def BillingEvent.appliesBalances : BillingEvent → Prop
  | .ledger op => op.appliesBalances
  | _ => True

instance : (e : BillingEvent) → Decidable e.appliesBalances
  | .ledger op => inferInstanceAs (Decidable op.appliesBalances)
  | .deleteToken _ _ | .resetDue _ _ | .expire _ | .invalidate _ | .deleteSubscription _ =>
    isTrue trivial

theorem balancesApplied_event (hevent : e.event.appliesBalances) (h : db.BalancesApplied) :
    (e.step cal db).BalancesApplied := by
  obtain ⟨now, event⟩ := e
  by_cases hop : ∃ op, event = .ledger op
  · obtain ⟨op, rfl⟩ := hop
    exact balancesApplied_step (c := ⟨now, op⟩) hevent h
  · have hledgers := exec_ledgers cal now db fun op h => hop ⟨op, h⟩
    show (event.exec cal now db).BalancesApplied
    rw [BalancesApplied, hledgers]
    exact h

/-- **A reset starts from zero**: what older ledgers have applied is no longer on the
subscription. -/
theorem unexplained_of_reset (hevent : e.event.appliesBalances)
    (hs : s ∈ e.event.resets cal e.now db) :
    (e.step cal db).unexplained (.subscriptionUsed s)
      = 0 - db.ledgers.sum (·.posting (.subscriptionUsed s)) := by
  obtain ⟨now, event⟩ := e
  cases event with
  | ledger op =>
    have hs' : s ∈ op.resets cal now db := hs
    rcases op.resets_eq_nil_or_create cal now db with hnil | ⟨input, l, hop, hsame, hcreate⟩
    · rw [hnil] at hs'; cases hs'
    · have happlies : (LedgerOp.reserve input).appliesBalances := hop ▸ hevent
      show (op.exec cal now db).unexplained (.subscriptionUsed s) = _
      rw [unexplained, drift, hcreate.ledgers, sum_insert hcreate.fresh,
        hcreate.balance (.subscriptionUsed s) trivial (.inl happlies.1), balanceAfterResets,
        if_pos (hsame ▸ hs')]
      omega
  | resetDue planId id =>
    obtain ⟨hledgers, -, hbalance, -⟩ := resetDue_books cal now db planId id
    show ((resetDue planId id).exec cal now db).unexplained (.subscriptionUsed s) = _
    rw [unexplained, drift, hledgers, hbalance, balanceAfterResets, if_pos hs]
  | _ => cases hs

theorem isSome_subscription_of_shape {db' : Database} (h : db'.shape = db.shape) (s : Int) :
    (db'.subscriptions.find? s).isSome = (db.subscriptions.find? s).isSome := by
  have hmap := congrArg Option.isSome (find?_subscription_of_shape h s)
  rwa [Option.isSome_map, Option.isSome_map] at hmap

/-- Without a reset, what the ledgers do not explain of a subscription that is still there stays. -/
theorem unexplained_of_no_reset (happlied : db.BalancesApplied) (hevent : e.event.appliesBalances)
    (hs : s ∉ e.event.resets cal e.now db)
    (hexists : ((e.step cal db).subscriptions.find? s).isSome) :
    (db.subscriptions.find? s).isSome ∧
      (e.step cal db).unexplained (.subscriptionUsed s) = db.unexplained (.subscriptionUsed s) := by
  obtain ⟨now, event⟩ := e
  -- an event that leaves the books alone
  have hsame : ∀ {db₁ db₂ : Database}, SameBooks db₁ db₂ → (db₂.subscriptions.find? s).isSome →
      (db₁.subscriptions.find? s).isSome ∧
        db₂.unexplained (.subscriptionUsed s) = db₁.unexplained (.subscriptionUsed s) :=
    fun h hex => ⟨isSome_subscription_of_shape h.shape s ▸ hex, h.unexplained _⟩
  change ((event.exec cal now db).subscriptions.find? s).isSome at hexists
  show _ ∧ (event.exec cal now db).unexplained _ = _
  cases event with
  | ledger op =>
    refine ⟨isSome_subscription_of_shape (shape_step cal db ⟨now, op⟩) s ▸ hexists, ?_⟩
    refine drift_step (c := ⟨now, op⟩) trivial (.inr ⟨happlied, hevent⟩) ?_
    rintro s' heq
    obtain rfl := Account.subscriptionUsed.inj heq
    exact hs
  | deleteToken id userId =>
    have hhidden := deleteToken_books cal now db id userId
    rw [hhidden.subscriptions] at hexists
    refine ⟨hexists, ?_⟩
    rw [unexplained, unexplained, drift, drift, hhidden.ledgers, hhidden.balance]
  | resetDue planId id =>
    obtain ⟨hledgers, hshape, hbalance, -⟩ := resetDue_books cal now db planId id
    refine ⟨isSome_subscription_of_shape hshape s ▸ hexists, ?_⟩
    rw [unexplained, unexplained, drift, drift, hledgers, hbalance, balanceAfterResets, if_neg hs]
  | expire userId => exact hsame (sameBooks_expire cal now db userId) hexists
  | invalidate id => exact hsame (sameBooks_invalidate cal now db id) hexists
  | deleteSubscription id =>
    obtain ⟨db₁, hbooks, hdb' | hdb'⟩ := deleteSubscription_books cal now db id
    · rw [hdb'] at hexists ⊢
      exact hsame hbooks hexists
    · rw [hdb'] at hexists ⊢
      have hfind := find?_deleteWhere_of_isSome hexists
      rw [hfind] at hexists
      obtain ⟨hbefore, hbooks⟩ := hsame hbooks hexists
      refine ⟨hbefore, hbooks ▸ ?_⟩
      rw [unexplained, unexplained, drift, drift, balance, balance, Table.read, Table.read, hfind]

/-! ## Runs -/

/-- The books of one subscription during a run. -/
structure PeriodRun.Balanced (p : PeriodRun) (s : Int) : Prop where
  applied : p.db.BalancesApplied
  known : ∀ id, p.db.ledgers.find? id = none → p.start.ledgers.find? id = none
  usage : (p.db.subscriptions.find? s).isSome →
    p.db.unexplained (.subscriptionUsed s) = p.start.used - p.start.held s p.db.ledgers

/-- **One event keeps the books of a subscription balanced**, in the current period or the one it
starts. -/
theorem PeriodRun.balanced_step {p : PeriodRun} (hevent : e.event.appliesBalances)
    (h : p.Balanced s) : (p.step cal s e).Balanced s := by
  by_cases hs : s ∈ e.event.resets cal e.now p.db
  · have hstart : (p.step cal s e).start = ⟨0, p.db.ledgers⟩ := if_pos hs
    refine ⟨balancesApplied_event hevent h.applied, fun id hid => ?_, fun _ => ?_⟩
    · rw [hstart]
      exact find?_ledger_step hid
    · rw [hstart]
      show (e.step cal p.db).unexplained _ = 0 - PeriodStart.held _ s (e.step cal p.db).ledgers
      rw [unexplained_of_reset hevent hs, held_step (fun _ hid => hid), held_self]
  · have hstart : (p.step cal s e).start = p.start := if_neg hs
    refine ⟨balancesApplied_event hevent h.applied, fun id hid => ?_, fun hexists => ?_⟩
    · rw [hstart]
      exact h.known id (find?_ledger_step hid)
    · obtain ⟨hbefore, hsame⟩ := unexplained_of_no_reset h.applied hevent hs hexists
      rw [hstart]
      show (e.step cal p.db).unexplained _ = p.start.used - p.start.held s (e.step cal p.db).ledgers
      rw [hsame, held_step h.known]
      exact h.usage hbefore

/-- **Subscription period accounting.** Over every interleaving of ledger operations that apply
balances, resets, expiries, cancellations and deletions, the usage of a subscription is its usage at
the start of the period (zero after a reset), plus the applied quota of the ledgers reserved on it
since, plus what older ledgers have applied beyond what they had applied then. The last part
vanishes exactly when the settlements and refunds of older ledgers cancel out. -/
theorem subscription_period_accounting (cal : Calendar) (db : Database) (s : Int)
    (events : List TimedEvent) (happlied : db.BalancesApplied)
    (hevents : ∀ e ∈ events, e.event.appliesBalances) :
    let p := run (PeriodRun.step cal s) (PeriodRun.init db s) events
    ∀ row, p.db.subscriptions.find? s = some row →
      row.amountUsed = p.start.used + p.reservedSince s + p.carriedOver s ∧
      (row.amountUsed = p.start.used + p.reservedSince s ↔ p.carriedOver s = 0) := by
  intro p row hrow
  have hinit : (PeriodRun.init db s).Balanced s := by
    refine ⟨happlied, fun id hid => hid, fun _ => ?_⟩
    rw [PeriodRun.init, held_self]
    rfl
  have hp : p.Balanced s :=
    run_invariant (C := fun _ e => e.event.appliesBalances) (I := fun q : PeriodRun => q.Balanced s)
      (fun _ _ hC hI => PeriodRun.balanced_step hC hI)
      (along_of_forall (fun e he _ => hevents e he) _) hinit
  have husage := hp.usage (by rw [hrow]; rfl)
  have hread : p.db.balance (.subscriptionUsed s) = row.amountUsed := read_of_find? hrow _
  rw [unexplained, drift, sum_posting_eq, hread] at husage
  constructor <;> omega

/-- A reservation before the daily reset, one after it, and a settlement of the older one: forty
units were reserved in the new period, and the older ledger adds five. -/
theorem subscription_period_accounting_sample :
    let p := run (PeriodRun.step sampleCalendar 1) (PeriodRun.init sampleDatabase 1)
      [⟨2000, .ledger (.reserve (sampleReservation "r1" .subscription 20))⟩, ⟨86400, .resetDue 1 1⟩,
       ⟨86401, .ledger (.reserve (sampleReservation "r2" .subscription 40))⟩,
       ⟨86402, .ledger (.settle 1 25 [])⟩]
    ∃ row, p.db.subscriptions.find? 1 = some row ∧
      row.amountUsed = p.start.used + p.reservedSince 1 + p.carriedOver 1 ∧ row.amountUsed = 45 := by
  intro p
  obtain ⟨row, hrow, hused⟩ : ∃ row, p.db.subscriptions.find? 1 = some row ∧ row.amountUsed = 45 :=
    ⟨_, rfl, by decide +kernel⟩
  have h := subscription_period_accounting sampleCalendar sampleDatabase 1 _ (by decide) (by decide)
    row hrow
  exact ⟨row, hrow, h.1, hused⟩

/-- **Older ledgers change the new period.** Thirty units are reserved, the subscription is reset
and forty units are reserved. Refunding the older ledger leaves a usage of ten, settling it at
thirty-five one of forty-five. -/
theorem period_carries_over :
    let events : List TimedEvent :=
      [⟨2000, .ledger (.reserve (sampleReservation "r1" .subscription 30))⟩, ⟨86400, .resetDue 1 1⟩,
       ⟨86401, .ledger (.reserve (sampleReservation "r2" .subscription 40))⟩]
    let start := PeriodRun.init sampleDatabase 1
    let step := PeriodRun.step sampleCalendar 1
    let refunded := run step start (events ++ [⟨86402, .ledger (.refund 1 "failed")⟩])
    let settled := run step start (events ++ [⟨86402, .ledger (.settle 1 35 [])⟩])
    (run step start events).db.subscriptions.read 1 UserSubscription.amountUsed = 40 ∧
    refunded.db.subscriptions.read 1 UserSubscription.amountUsed = 10 ∧
    refunded.reservedSince 1 = 40 ∧
    settled.db.subscriptions.read 1 UserSubscription.amountUsed = 45 ∧
    settled.reservedSince 1 = 40 := by
  decide +kernel

end RenewApi.Billing
