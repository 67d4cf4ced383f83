import RenewApi.Billing.Coverage
import RenewApi.Billing.Events

/-! # Refunds

A refund takes back, in one transaction, what its ledger has put on the funding source, the token
and the usage counters. It goes through as long as these rows still hold it. -/

namespace RenewApi.Billing

open Relational Table Database BillingLedger

variable {db db' : Database}

/-- The accounts that a refund decreases. -/
def Account.gathers : Account → Bool
  | .tokenUsed _ | .subscriptionUsed _ | .userUsed _ | .channelUsed _ => true
  | .wallet _ | .tokenRemain _ | .userRequests _ => false

variable {a : Account}

theorem tracks_of_gathers (db : Database) (h : a.gathers = true) : db.tracks a := by
  cases a <;> trivial

variable {l : BillingLedger} {cal : Calendar} {id : Int}

theorem posting_nonneg (happlied : 0 ≤ l.appliedQuota) (hcounted : 0 ≤ l.countedQuota)
    (h : a.gathers = true) : 0 ≤ l.posting a := by
  cases a with
  | tokenUsed | subscriptionUsed =>
    simp only [posting, direction, counted, add_zero]
    split <;> simp [happlied]
  | userUsed | channelUsed =>
    simp only [posting, direction, counted, zero_mul, zero_add]
    split <;> simp [hcounted]
  | _ => cases h

/-- **Every ledger can be refunded.** -/
structure Refundable (db : Database) : Prop where
  applied : db.BalancesApplied
  ids : ∀ l ∈ db.ledgers.rows, 0 < l.id
  subscriptionIds : ∀ s ∈ db.subscriptions.rows, 0 < s.id
  nonneg : ∀ l ∈ db.ledgers.rows, 0 ≤ l.appliedQuota ∧ 0 ≤ l.countedQuota
  backed : ∀ l ∈ db.ledgers.rows, l.appliedQuota ≠ 0 → db.Backs l
  countedOn : ∀ l ∈ db.ledgers.rows, l.countedQuota ≠ 0 → db.Counts l
  covered : ∀ a, a.gathers = true → 0 ≤ db.unexplained a
  totals : db.WithinTotals

theorem Refundable.posting_le (h : Refundable db) (hl : l ∈ db.ledgers.rows)
    (ha : a.gathers = true) : l.posting a ≤ db.balance a := by
  have hsum : l.posting a ≤ db.ledgers.sum (·.posting a) :=
    le_sum_of_mem (w := fun m => m.posting a)
      (fun m hm => posting_nonneg (h.nonneg m hm).1 (h.nonneg m hm).2 ha) hl
  have hcovered := h.covered a ha
  rw [unexplained, drift] at hcovered
  omega

/-! ## A refund goes through -/

section

variable (h : Refundable db)
include h

section

variable (hl : l ∈ db.ledgers.rows)
include hl

theorem Refundable.counted_le : l.countedQuota ≤ db.balance (.userUsed l.userID) ∧
      (0 < l.channelID → l.countedQuota ≤ db.balance (.channelUsed l.channelID)) := by
  refine ⟨?_, fun hpos => ?_⟩
  · have hle := h.posting_le hl (a := .userUsed l.userID) rfl
    simpa [posting, direction, counted] using hle
  · have hle := h.posting_le hl (a := .channelUsed l.channelID) rfl
    simpa [posting, direction, counted, hpos] using hle

/-- The charged rows can give back what a ledger has put on them. -/
theorem Refundable.covers (hne : l.appliedQuota ≠ 0) : db.Covers l (0 - l.appliedQuota) := by
  have hnonneg := (h.nonneg l hl).1
  have hbacked := h.backed l hl hne
  refine ⟨fun hsub => ?_, fun hsub => ?_, fun hcharge => ?_⟩
  · obtain ⟨s, hs⟩ := hbacked.subscription hsub
    have hmem : s ∈ db.subscriptions.rows := mem_of_find? hs
    have hid : s.id = l.subscriptionID := key_of_find? hs
    have hle := h.posting_le hl (a := .subscriptionUsed l.subscriptionID) rfl
    have hposting : l.posting (.subscriptionUsed l.subscriptionID) = l.appliedQuota := by
      simp [posting, direction, counted, hsub]
    have hused : db.balance (.subscriptionUsed l.subscriptionID) = s.amountUsed :=
      read_of_find? hs _
    refine ⟨hid ▸ h.subscriptionIds s hmem, s, hs, by omega, fun htotal => ?_⟩
    have := h.totals s hmem htotal
    omega
  · obtain ⟨u, hu, hlive⟩ := hbacked.wallet hsub
    exact ⟨u, hu, hlive, fun hpos => by omega⟩
  · obtain ⟨t, ht, hlive⟩ := hbacked.token hcharge
    have hle := h.posting_le hl (a := .tokenUsed l.tokenID) rfl
    have hposting : l.posting (.tokenUsed l.tokenID) = l.appliedQuota := by
      simp [posting, direction, counted, hcharge]
    have hused : db.balance (.tokenUsed l.tokenID) = t.usedQuota := read_of_find? ht _
    exact ⟨t, ht, hlive, fun hpos => by omega, fun _ => by omega⟩

theorem Refundable.coversCounters : db.CoversCounters l 0 := by
  obtain ⟨huser, hchannel⟩ := h.counted_le hl
  have hcount : l.countDelta 0 = 0 := by simp [countDelta]
  refine ⟨fun hmoves => ?_, fun hpos hmoves => ?_⟩
  · obtain ⟨u, hu, hlive⟩ := (h.countedOn l hl (by omega)).user
    have hused : db.balance (.userUsed l.userID) = u.usedQuota := read_of_find? hu _
    exact ⟨u, hu, hlive, fun _ => by omega⟩
  · obtain ⟨c, hc⟩ := (h.countedOn l hl hmoves.symm).channel hpos
    have hused : db.balance (.channelUsed l.channelID) = c.usedQuota := read_of_find? hc _
    exact ⟨c, hc, fun _ => by omega⟩

/-- **In a refundable state a refund goes through.** -/
theorem refund_succeeds (hlive : l.state ≠ .refunded) (now : Int) (reason : String) :
    ∃ db' l', refundBillingLedger now l.id reason db = .ok (db', l') ∧ l'.state = .refunded ∧
      l'.appliedQuota = 0 ∧ LedgerRewrite db db' l l' 0 := by
  have hfind : db.ledgers.find? l.id = some l := find?_of_mem hl
  have hlock : lockBillingLedgerTx db l.id = .ok l :=
    lockBillingLedgerTx_eq_ok.mpr ⟨(h.ids l hl).ne', hfind⟩
  have haffords : db.Affords l 0 :=
    ⟨fun _ hne => h.covers hl (by omega), fun _ => h.coversCounters hl⟩
  -- the hook stores a message and fails pending tasks
  have hhook : ∀ db₁ l₁, ∃ tasks message, refundHook now reason db₁ l₁
      = .ok ({ db₁ with tasks := tasks }, { l₁ with lastError := message }) := fun db₁ l₁ => by
    obtain ⟨message, hhook⟩ := refundHook_eq now reason db₁ l₁
    exact ⟨_, message, hhook⟩
  obtain ⟨db', l', hmutate⟩ := mutateLockedBillingLedgerTx_succeeds now (.inr rfl) hlive
    (by simp) haffords hhook
  obtain ⟨-, hstate, happlied⟩ := mutateLockedBillingLedgerTx_reached hmutate
  have hrewrite := mutateLockedBillingLedgerTx_rewrite (frame_refundHook now reason) hfind hmutate
  refine ⟨db', l', bind_eq_ok.mpr ⟨l, hlock, bind_eq_ok.mpr ⟨_, hmutate, rfl⟩⟩, hstate, happlied, ?_⟩
  exact (hrewrite.resolve_left fun hfalse => Bool.noConfusion hfalse.1).2

end

end

/-! ## What may happen to the charged rows -/

/-- No ledger holds quota of the token. -/
def Database.tokenIdle (db : Database) (t : Int) : Prop :=
  ∀ l ∈ db.ledgers.rows, l.chargesToken ∧ l.tokenID = t → l.appliedQuota = 0
  deriving Decidable

/-- No ledger holds quota of the subscription. -/
def Database.subscriptionIdle (db : Database) (s : Int) : Prop :=
  ∀ l ∈ db.ledgers.rows, l.fundingSource = .subscription ∧ l.subscriptionID = s →
    l.appliedQuota = 0
  deriving Decidable

/-- The part of `TimedEvent.spares` that depends on the kind of event. Reservations apply their
balances and no ledger is brought below zero; a row is removed only while it is idle. -/
def BillingEvent.sparesRows (db : Database) : BillingEvent → Prop
  | .ledger op => op.appliesBalances ∧ 0 ≤ op.targetQuota
  | .deleteToken id _ => db.tokenIdle id
  | .deleteSubscription id => db.subscriptionIdle id
  | .resetDue _ _ | .expire _ | .invalidate _ => True

instance (db : Database) : (e : BillingEvent) → Decidable (e.sparesRows db)
  | .ledger op => inferInstanceAs (Decidable (op.appliesBalances ∧ 0 ≤ op.targetQuota))
  | .deleteToken id _ => inferInstanceAs (Decidable (db.tokenIdle id))
  | .deleteSubscription id => inferInstanceAs (Decidable (db.subscriptionIdle id))
  | .resetDue _ _ | .expire _ | .invalidate _ => isTrue trivial

/-- **An event spares the ledgers**: no row is taken away, and no period started, under a ledger
that still holds quota of it. -/
def TimedEvent.spares (cal : Calendar) (db : Database) (e : TimedEvent) : Prop :=
  e.event.sparesRows db ∧ ∀ s ∈ e.event.resets cal e.now db, db.subscriptionIdle s
  deriving Decidable

theorem subscriptionIds_of_shape (hshape : db'.shape = db.shape)
    (h : ∀ s ∈ db.subscriptions.rows, 0 < s.id) : ∀ s ∈ db'.subscriptions.rows, 0 < s.id := by
  intro s hs
  have hmap : db'.subscriptions.rows.map UserSubscription.strip
      = db.subscriptions.rows.map UserSubscription.strip := congrArg Shape.subscriptions hshape
  have hstrip : s.strip ∈ db.subscriptions.rows.map UserSubscription.strip :=
    hmap ▸ List.mem_map_of_mem hs
  obtain ⟨r, hr, heq⟩ := List.mem_map.mp hstrip
  have hid : r.id = s.id := by
    have h := congrArg UserSubscription.id heq
    exact h
  exact hid ▸ h r hr

section

variable (h : Refundable db)
include h

section

variable (resets : List Int) (hidle : ∀ s ∈ resets, db.subscriptionIdle s)
include hidle

/-- The accounts still hold what the ledgers have put on them after idle subscriptions have been
reset. -/
theorem Refundable.postings_le_after_resets (ha : a.gathers = true) :
    db.ledgers.sum (·.posting a) ≤ db.balanceAfterResets resets a := by
  have hcovered : db.ledgers.sum (·.posting a) ≤ db.balance a := by
    have hdrift := h.covered a ha
    rw [unexplained, drift] at hdrift
    omega
  cases a with
  | subscriptionUsed s =>
    rw [balanceAfterResets]
    by_cases hs : s ∈ resets
    · -- nothing is left on an idle subscription, so the reset takes nothing away
      rw [if_pos hs]
      refine (sum_eq_zero fun l hl => ?_).le
      simp only [posting, direction, counted, add_zero]
      by_cases hl' : l.fundingSource = .subscription ∧ l.subscriptionID = s
      · rw [hidle s hs l hl hl', mul_zero]
      · rw [if_neg hl', zero_mul]
    · rw [if_neg hs]
      exact hcovered
  | _ => exact hcovered

theorem Refundable.of_resets (hbooks : ResetBooks resets db db') : Refundable db' where
  applied := by rw [BalancesApplied, hbooks.ledgers]; exact h.applied
  ids := by rw [hbooks.ledgers]; exact h.ids
  subscriptionIds := subscriptionIds_of_shape hbooks.shape h.subscriptionIds
  nonneg := by rw [hbooks.ledgers]; exact h.nonneg
  backed l hl hne := backs_of_shape hbooks.shape (h.backed l (hbooks.ledgers ▸ hl) hne)
  countedOn l hl hne := counts_of_shape hbooks.shape (h.countedOn l (hbooks.ledgers ▸ hl) hne)
  covered a ha := by
    rw [unexplained, drift, hbooks.ledgers, hbooks.balance]
    exact sub_nonneg.mpr (h.postings_le_after_resets _ hidle ha)
  totals := hbooks.totals h.totals

end

theorem Refundable.of_sameBooks (hsame : SameBooks db db') : Refundable db' :=
  h.of_resets [] (by simp) hsame.resetBooks

/-- So does a rewrite of one ledger at a target that is not negative. -/
theorem Refundable.of_rewrite {l' : BillingLedger} {q : Int} (hq : 0 ≤ q)
    (hrewrite : LedgerRewrite db db' l l' q) : Refundable db' := by
  have hl : l ∈ db.ledgers.rows := mem_of_find? hrewrite.found
  have hterms := hrewrite.terms
  -- a property of the rows is one of the old rows and of the new one
  have hrows : ∀ {P : BillingLedger → Prop}, (∀ m ∈ db.ledgers.rows, P m) → P l' →
      ∀ m ∈ db'.ledgers.rows, P m := by
    intro P hold hnew m hm
    rw [hrewrite.ledgers] at hm
    rcases mem_put hm with rfl | ⟨hm, -⟩
    · exact hnew
    · exact hold m hm
  constructor
  case applied =>
    refine hrows h.applied ?_
    rw [mode_of_terms hterms, fundingSource_of_terms hterms]
    exact h.applied l hl
  case ids => exact hrows h.ids (id_of_terms hterms ▸ h.ids l hl)
  case subscriptionIds => exact subscriptionIds_of_shape hrewrite.shape h.subscriptionIds
  case nonneg =>
    refine hrows h.nonneg ⟨?_, ?_⟩
    · rcases hrewrite.applied with heq | heq
      · exact heq ▸ (h.nonneg l hl).1
      · exact heq ▸ hq
    · rcases hrewrite.counted with heq | heq
      · exact heq ▸ (h.nonneg l hl).2
      · exact heq ▸ hq
  case backed =>
    refine hrows (fun m hm hne => backs_of_shape hrewrite.shape (h.backed m hm hne)) fun hne => ?_
    refine backs_of_shape hrewrite.shape (backs_of_terms hterms ?_)
    by_cases hsame : l'.appliedQuota = l.appliedQuota
    · exact h.backed l hl (hsame ▸ hne)
    · exact hrewrite.backed (h.applied l hl).1 hsame
  case countedOn =>
    refine hrows (fun m hm hne => counts_of_shape hrewrite.shape (h.countedOn m hm hne)) fun hne => ?_
    refine counts_of_shape hrewrite.shape ?_
    by_cases hsame : l'.countedQuota = l.countedQuota
    · have hne' : l.countedQuota ≠ 0 := hsame ▸ hne
      have hcounts := h.countedOn l hl hne'
      exact ⟨userID_of_terms hterms ▸ hcounts.user, hrewrite.countedOn.2 hsame hne' ▸ hcounts.channel⟩
    · exact hrewrite.countedOn.1 hsame
  case covered =>
    intro a ha
    have hid : l'.id = l.id := id_of_terms hterms
    have hmode := (h.applied l hl).1
    rw [unexplained, hrewrite.ledgers, drift_put (by rw [key_ledger, hid]; exact hrewrite.found)
      (hrewrite.balance a (tracks_of_gathers db ha) (.inl hmode))]
    exact h.covered a ha
  case totals => exact hrewrite.totals h.totals

/-- So does a reservation that applies its balances and resets idle subscriptions only. -/
theorem Refundable.of_create {now : Int} {input : BillingReservation}
    (happlies : (LedgerOp.reserve input).appliesBalances)
    (hidle : ∀ s ∈ input.resets cal now db, db.subscriptionIdle s)
    (hcreate : LedgerCreate cal now db db' input l) : Refundable db' := by
  have hrows : ∀ {P : BillingLedger → Prop}, (∀ m ∈ db.ledgers.rows, P m) → P l →
      ∀ m ∈ db'.ledgers.rows, P m := by
    intro P hold hnew m hm
    rw [hcreate.ledgers] at hm
    rcases mem_insert hm with rfl | hm
    · exact hnew
    · exact hold m hm
  have hmode : l.mode.appliesBalances = true := hcreate.mode ▸ happlies.2
  constructor
  case applied => exact hrows h.applied ⟨hmode, hcreate.funded⟩
  case ids => exact hrows h.ids hcreate.positive
  case subscriptionIds => exact subscriptionIds_of_shape hcreate.shape h.subscriptionIds
  case nonneg =>
    exact hrows h.nonneg ⟨hcreate.applied ▸ hcreate.nonneg, hcreate.counted.ge⟩
  case backed =>
    refine hrows (fun m hm hne => backs_of_shape hcreate.shape (h.backed m hm hne)) fun hne => ?_
    exact backs_of_shape hcreate.shape (hcreate.backed happlies.1 (hcreate.applied ▸ hne))
  case countedOn =>
    refine hrows (fun m hm hne => counts_of_shape hcreate.shape (h.countedOn m hm hne)) fun hne => ?_
    exact absurd hcreate.counted hne
  case covered =>
    intro a ha
    rw [unexplained, drift, hcreate.ledgers, sum_insert hcreate.fresh,
      hcreate.balance a (tracks_of_gathers db ha) (.inl happlies.1)]
    have hle := h.postings_le_after_resets _ hidle ha
    omega
  case totals => exact hcreate.totals h.totals

/-- Deleting a token that no ledger holds quota of keeps every ledger refundable. -/
theorem Refundable.of_tokenHidden (hidle : db.tokenIdle id) (hhidden : TokenHidden db db' id) :
    Refundable db' where
  applied := by rw [BalancesApplied, hhidden.ledgers]; exact h.applied
  ids := by rw [hhidden.ledgers]; exact h.ids
  subscriptionIds := by rw [hhidden.subscriptions]; exact h.subscriptionIds
  nonneg := by rw [hhidden.ledgers]; exact h.nonneg
  backed l hl hne := by
    rw [hhidden.ledgers] at hl
    have hbacked := h.backed l hl hne
    refine ⟨?_, ?_, fun hcharge => ?_⟩
    · rw [hhidden.users]; exact hbacked.wallet
    · rw [hhidden.subscriptions]; exact hbacked.subscription
    · -- the ledger holds quota of its token, so another token was deleted
      rw [hhidden.others l.tokenID fun heq => hne (hidle l hl ⟨hcharge, heq⟩)]
      exact hbacked.token hcharge
  countedOn l hl hne := by
    rw [hhidden.ledgers] at hl
    have hcounts := h.countedOn l hl hne
    exact ⟨hhidden.users ▸ hcounts.user, hhidden.channels ▸ hcounts.channel⟩
  covered a ha := by
    rw [unexplained, drift, hhidden.ledgers, hhidden.balance]
    exact h.covered a ha
  totals := by rw [WithinTotals, hhidden.subscriptions]; exact h.totals

/-- Deleting a subscription that no ledger holds quota of keeps every ledger refundable. -/
theorem Refundable.of_deleteSubscription (hidle : db.subscriptionIdle id) :
    Refundable { db with subscriptions := db.subscriptions.deleteWhere (·.id = id) } where
  applied := h.applied
  ids := h.ids
  subscriptionIds s hs := h.subscriptionIds s (List.mem_of_mem_filter hs)
  nonneg := h.nonneg
  backed l hl hne := by
    have hbacked := h.backed l hl hne
    refine ⟨hbacked.wallet, fun hsub => ?_, hbacked.token⟩
    obtain ⟨s, hs⟩ := hbacked.subscription hsub
    have hid : s.id = l.subscriptionID := Table.key_of_find? hs
    have hother : l.subscriptionID ≠ id := fun heq => hne (hidle l hl ⟨hsub, heq⟩)
    refine ⟨s, ?_⟩
    rw [Table.find?_deleteWhere, hs]
    simp [hid, hother]
  countedOn l hl hne :=
    have hcounts := h.countedOn l hl hne
    ⟨hcounts.user, hcounts.channel⟩
  covered a ha := by
    have hle := h.postings_le_after_resets [id] (by simpa using hidle) ha
    refine sub_nonneg.mpr (hle.trans (le_of_eq ?_))
    cases a with
    | subscriptionUsed s =>
      simp only [balanceAfterResets, balance, Table.read, Table.find?_deleteWhere]
      cases hs : db.subscriptions.find? s with
      | none => simp
      | some r =>
        have hid : r.id = s := Table.key_of_find? hs
        by_cases hdeleted : s = id <;> simp [Option.filter, hid, hdeleted]
    | _ => rfl
  totals s hs := h.totals s (List.mem_of_mem_filter hs)

end

/-! ## Runs -/

/-- **One event that spares the ledgers keeps every ledger refundable.** -/
theorem refundable_step {e : TimedEvent} (hspares : e.spares cal db) (h : Refundable db) :
    Refundable (e.step cal db) := by
  obtain ⟨now, event⟩ := e
  obtain ⟨hrows, hresets⟩ := hspares
  cases event with
  | ledger op =>
    cases op.exec_outcome cal now db with
    | quiet hledgers hcharged =>
      exact h.of_sameBooks ⟨hledgers, shape_of_charged hcharged, balance_of_charged hcharged,
        withinTotals_of_charged hcharged⟩
    | rewrite l l' _ _ hrewrite => exact h.of_rewrite hrows.2 hrewrite
    | create input l hop _ hsame hcreate =>
      subst hop
      exact h.of_create hrows.1 (hsame ▸ hresets) hcreate
  | deleteToken id userId => exact h.of_tokenHidden hrows (deleteToken_books cal now db id userId)
  | resetDue planId id => exact h.of_resets _ hresets (resetDue_books cal now db planId id)
  | expire userId => exact h.of_sameBooks (sameBooks_expire cal now db userId)
  | invalidate id => exact h.of_sameBooks (sameBooks_invalidate cal now db id)
  | deleteSubscription id =>
    obtain ⟨db₁, hsame, hdb'⟩ := deleteSubscription_books cal now db id
    have h₁ := h.of_sameBooks hsame
    have hidle : db₁.subscriptionIdle id := by
      rw [subscriptionIdle, hsame.ledgers]
      exact hrows
    show Refundable ((BillingEvent.deleteSubscription id).exec cal now db)
    rcases hdb' with hdb' | hdb'
    · rw [hdb']; exact h₁
    · rw [hdb']; exact h₁.of_deleteSubscription hidle

/-- Every event keeps the subscriptions within their totals. -/
theorem withinTotals_step (db : Database) (e : TimedEvent) (h : db.WithinTotals) :
    (e.step cal db).WithinTotals := by
  obtain ⟨now, event⟩ := e
  cases event with
  | ledger op =>
    cases op.exec_outcome cal now db with
    | quiet _ hcharged => exact withinTotals_of_charged hcharged h
    | rewrite _ _ _ _ hrewrite => exact hrewrite.totals h
    | create _ _ _ _ _ hcreate => exact hcreate.totals h
  | deleteToken id userId =>
    exact fun s hs => h s ((deleteToken_books cal now db id userId).subscriptions ▸ hs)
  | resetDue planId id => exact (resetDue_books cal now db planId id).totals h
  | expire userId => exact (sameBooks_expire cal now db userId).totals h
  | invalidate id => exact (sameBooks_invalidate cal now db id).totals h
  | deleteSubscription id =>
    obtain ⟨db₁, hsame, hdb'⟩ := deleteSubscription_books cal now db id
    show ((BillingEvent.deleteSubscription id).exec cal now db).WithinTotals
    rcases hdb' with hdb' | hdb' <;> rw [hdb']
    · exact hsame.totals h
    · exact fun s hs => hsame.totals h s (List.mem_of_mem_filter hs)

/-- **No subscription is overdrawn** after any interleaving of events, whether these spare the
ledgers or not. -/
theorem withinTotals_always (cal : Calendar) {db : Database} (h : db.WithinTotals)
    (events : List TimedEvent) : (run (TimedEvent.step cal) db events).WithinTotals :=
  run_invariant_all withinTotals_step events h

theorem withinTotals_always_sample :
    (run (TimedEvent.step sampleCalendar) sampleDatabase
      [⟨2000, .ledger (.reserve (sampleReservation "r1" .subscription 30))⟩,
       ⟨86400, .resetDue 1 1⟩, ⟨90000, .deleteToken 1 1⟩]).WithinTotals :=
  withinTotals_always sampleCalendar (by decide) _

/-- A database before its first reservation: no ledger, no negative usage, no subscription beyond
its total. -/
structure Database.Initial (db : Database) : Prop where
  ledgers : db.ledgers.rows = []
  users : ∀ u ∈ db.users.rows, 0 ≤ u.usedQuota
  tokens : ∀ t ∈ db.tokens.rows, 0 ≤ t.usedQuota
  channels : ∀ c ∈ db.channels.rows, 0 ≤ c.usedQuota
  subscriptions : ∀ s ∈ db.subscriptions.rows, 0 < s.id ∧ 0 ≤ s.amountUsed ∧
    (0 < s.amountTotal → s.amountUsed ≤ s.amountTotal)

theorem Database.Initial.refundable (h : db.Initial) : Refundable db where
  applied l hl := by rw [h.ledgers] at hl; cases hl
  ids l hl := by rw [h.ledgers] at hl; cases hl
  subscriptionIds s hs := (h.subscriptions s hs).1
  nonneg l hl := by rw [h.ledgers] at hl; cases hl
  backed l hl := by rw [h.ledgers] at hl; cases hl
  countedOn l hl := by rw [h.ledgers] at hl; cases hl
  covered a ha := by
    have hsum : db.ledgers.sum (·.posting a) = 0 :=
      sum_eq_zero fun l hl => by rw [h.ledgers] at hl; cases hl
    rw [unexplained, drift, hsum, sub_zero]
    cases a with
    | tokenUsed t => exact read_nonneg h.tokens t
    | subscriptionUsed s => exact read_nonneg (fun r hr => (h.subscriptions r hr).2.1) s
    | userUsed u => exact read_nonneg h.users u
    | channelUsed c => exact read_nonneg h.channels c
    | _ => cases ha
  totals s hs := (h.subscriptions s hs).2.2

/-- **A refund is always possible** in runs that spare the ledgers. In every state that any
interleaving of ledger operations, token deletions, subscription resets, expiries, cancellations and
deletions reaches, the refund of every ledger that is not refunded succeeds, whatever the clock and
the reason, and its applied quota is back on the funding source. -/
theorem refund_always_possible (cal : Calendar) (db : Database) (events : List TimedEvent)
    (hinit : db.Initial)
    (hspares : Along (TimedEvent.step cal) (fun d e => e.spares cal d) db events)
    {l : BillingLedger} (hl : l ∈ (run (TimedEvent.step cal) db events).ledgers.rows)
    (hlive : l.state ≠ .refunded) (now : Int) (reason : String) :
    let reached := run (TimedEvent.step cal) db events
    ∃ db' l', refundBillingLedger now l.id reason reached = .ok (db', l') ∧
      l'.state = .refunded ∧ l'.appliedQuota = 0 ∧
      (l.fundingSource = .wallet → db'.users.read l.userID User.quota
        = reached.users.read l.userID User.quota + l.appliedQuota) ∧
      (l.fundingSource = .subscription →
        db'.subscriptions.read l.subscriptionID UserSubscription.amountUsed
          = reached.subscriptions.read l.subscriptionID UserSubscription.amountUsed
            - l.appliedQuota) := by
  intro reached
  have hreached : Refundable reached :=
    run_invariant (fun _ _ hC hI => refundable_step hC hI) hspares hinit.refundable
  obtain ⟨db', l', hrefund, hstate, happlied, hrewrite⟩ :=
    refund_succeeds hreached hl hlive now reason
  have hmode := (hreached.applied l hl).1
  have hdirection := direction_of_terms hrewrite.terms
  refine ⟨db', l', hrefund, hstate, happlied, fun hsource => ?_, fun hsource => ?_⟩
  · have hbalance := hrewrite.balance (.wallet l.userID) trivial (.inl hmode)
    rw [posting, posting, hdirection, happlied] at hbalance
    simpa [balance, direction, counted, hsource] using hbalance
  · have hbalance := hrewrite.balance (.subscriptionUsed l.subscriptionID) trivial (.inl hmode)
    rw [posting, posting, hdirection, happlied] at hbalance
    simpa [balance, direction, counted, hsource, ← sub_eq_add_neg] using hbalance

/-- The token is deleted once its only ledger is refunded, the subscription of the second
reservation ends: that reservation can still be refunded. -/
theorem refund_always_possible_sample :
    let reached := run (TimedEvent.step sampleCalendar) sampleDatabase
      [⟨2000, .ledger (.reserve (sampleReservation "r1" .wallet 30))⟩,
       ⟨2001, .ledger (.refund 1 "failed")⟩, ⟨2002, .deleteToken 1 1⟩,
       ⟨2003, .ledger (.reserve { sampleReservation "r2" .subscription 10 with playground := true })⟩,
       ⟨1000000, .expire 1⟩, ⟨1000001, .invalidate 1⟩]
    ∃ l ∈ reached.ledgers.rows, l.id = 2 ∧
      ∃ db' l', refundBillingLedger 1000002 l.id "failed" reached = .ok (db', l') ∧
        l'.state = .refunded := by
  intro reached
  have hinit : sampleDatabase.Initial :=
    ⟨rfl, by decide, by decide, by decide, by decide⟩
  obtain ⟨l, hl, hid, hlive⟩ : ∃ l ∈ reached.ledgers.rows, l.id = 2 ∧ l.state ≠ .refunded := by
    decide +kernel
  obtain ⟨db', l', hrefund, hstate, -⟩ := refund_always_possible sampleCalendar sampleDatabase _ hinit
    (by decide +kernel) hl hlive 1000002 "failed"
  exact ⟨l, hl, hid, db', l', hrefund, hstate⟩

/-- **What blocks a refund.** A ledger reserved on a token that its owner then deletes, or on a
subscription that is then reset or deleted, cannot be refunded: the reserved quota stays where it
is. -/
theorem refund_blocked :
    let refund := fun (now : Int) (source : FundingSource) (event : TimedEvent) =>
      (transaction (refundBillingLedger now 1 "failed") (run (TimedEvent.step sampleCalendar)
        sampleDatabase [⟨2000, .ledger (.reserve (sampleReservation "r1" source 30))⟩, event])).2
    refund 3000 .wallet ⟨2001, .deleteToken 1 1⟩
      = .error (.message "token quota refund invariant failed") ∧
    refund 90000 .subscription ⟨86400, .resetDue 1 1⟩
      = .error (.message "subscription refund invariant failed") ∧
    refund 3000 .subscription ⟨2001, .deleteSubscription 1⟩ = .error .recordNotFound := by
  decide +kernel

end RenewApi.Billing
