import RenewApi.Billing.Effects

/-! # Transitions that go through

`Billing/Effects` says what a transition of a ledger has done once it has succeeded. This module
says when it succeeds: an afforded transition goes through
(`mutateLockedBillingLedgerTx_succeeds`). -/

namespace RenewApi.Billing

open Relational

variable {db db' : Database} {l : BillingLedger} {target delta now : Int}

/-- **The charged rows can take a move by `delta`.** -/
structure Database.Covers (db : Database) (l : BillingLedger) (delta : Int) : Prop where
  subscription : l.fundingSource = .subscription → 0 < l.subscriptionID ∧
    ∃ s ∈ db.subscriptions.find? l.subscriptionID, 0 ≤ s.amountUsed + delta ∧
      (0 < s.amountTotal → s.amountUsed + delta ≤ s.amountTotal)
  wallet : l.fundingSource ≠ .subscription →
    ∃ u ∈ db.users.find? l.userID, u.deleted = false ∧ (0 < delta → delta ≤ u.quota)
  token : l.chargesToken →
    ∃ t ∈ db.tokens.find? l.tokenID, t.deleted = false ∧
      (0 < delta → t.unlimitedQuota = true ∨ delta ≤ t.remainQuota) ∧
      (delta < 0 → -delta ≤ t.usedQuota)

instance (db : Database) (l : BillingLedger) (delta : Int) : Decidable (db.Covers l delta) :=
  decidable_of_iff (_ ∧ _ ∧ _) ⟨fun h => ⟨h.1, h.2.1, h.2.2⟩, fun h => ⟨h.1, h.2, h.3⟩⟩

/-- The balances of a ledger move when its rows can take it. -/
theorem adjustLedgerBalancesTx_succeeds (now : Int) (h : delta ≠ 0 → db.Covers l delta) :
    ∃ db', adjustLedgerBalancesTx now db l delta = .ok db' := by
  unfold adjustLedgerBalancesTx
  by_cases h0 : delta = 0
  · exact ⟨db, if_pos h0⟩
  rw [if_neg h0]
  have hcovers := h h0
  -- the token leg runs in the database that the funding source left, which has the same tokens
  have htoken : ∀ db₁ : Database, db₁.tokens = db.tokens →
      ∃ db', adjustTokenQuotaTx now db₁ l delta = .ok db' := by
    intro db₁ htokens
    by_cases hcharge : l.chargesToken
    · obtain ⟨t, ht, hlive, hremain, hused⟩ := hcovers.token hcharge
      exact ⟨_, adjustTokenQuotaTx_eq_ok.mpr
        (.inr ⟨h0, hcharge, t, htokens ▸ ht, hlive, hremain, hused, rfl⟩)⟩
    · exact ⟨db₁, adjustTokenQuotaTx_eq_ok.mpr (.inl ⟨.inr hcharge, rfl⟩)⟩
  by_cases hsub : l.fundingSource = .subscription
  · obtain ⟨hpos, s, hs, hnonneg, hroom⟩ := hcovers.subscription hsub
    have hfund : adjustSubscriptionQuotaTx now db l.subscriptionID delta
        = .ok { db with subscriptions := db.subscriptions.put (s.charge now delta) } :=
      adjustSubscriptionQuotaTx_eq_ok.mpr ⟨hpos, .inr ⟨h0, s, hs, hnonneg, hroom, rfl⟩⟩
    obtain ⟨db', hdb'⟩ := htoken { db with
      subscriptions := db.subscriptions.put (s.charge now delta) } rfl
    exact ⟨db', by rw [if_pos hsub]; exact bind_eq_ok.mpr ⟨_, hfund, hdb'⟩⟩
  · obtain ⟨u, hu, hlive, hquota⟩ := hcovers.wallet hsub
    have hfund : adjustWalletQuotaTx db l.userID delta
        = .ok { db with users := db.users.put (u.charge delta) } :=
      adjustWalletQuotaTx_eq_ok.mpr (.inr ⟨h0, u, hu, hlive, hquota, rfl⟩)
    obtain ⟨db', hdb'⟩ := htoken { db with users := db.users.put (u.charge delta) } rfl
    exact ⟨db', by rw [if_neg hsub]; exact bind_eq_ok.mpr ⟨_, hfund, hdb'⟩⟩

/-! ## The statistics leg -/

structure Database.CoversCounters (db : Database) (l : BillingLedger) (target : Int) : Prop where
  user : target ≠ l.countedQuota ∨ l.countDelta target ≠ 0 →
    ∃ u ∈ db.users.find? l.userID, u.deleted = false ∧
      (target < l.countedQuota → l.countedQuota - target ≤ u.usedQuota)
  channel : 0 < l.channelID → target ≠ l.countedQuota →
    ∃ c ∈ db.channels.find? l.channelID,
      (target < l.countedQuota → l.countedQuota - target ≤ c.usedQuota)

instance (db : Database) (l : BillingLedger) (target : Int) : Decidable (db.CoversCounters l target) :=
  decidable_of_iff (_ ∧ _) ⟨fun h => ⟨h.1, h.2⟩, fun h => ⟨h.1, h.2⟩⟩

/-- Moving the balances of a ledger leaves the usage counters alone. -/
theorem Database.CoversCounters.of_adjust (h : db.CoversCounters l target)
    (hadjust : adjustLedgerBalancesTx now db l delta = .ok db') : db'.CoversCounters l target := by
  have hmove := balanceMove_ledger hadjust
  have hsame : ∀ a : Account, a.isCounter = true → db'.balance a = db.balance a := by
    intro a ha
    have htracks : db.tracks a := by cases a <;> trivial
    rw [hmove.balance a htracks, direction_counter l ha, zero_mul, add_zero]
  refine ⟨fun hmoves => ?_, fun hpos hmoves => ?_⟩
  · obtain ⟨u, hu, hlive, hused⟩ := h.user hmoves
    obtain ⟨u', hu', hlive'⟩ := exists_user_of_shape hmove.shape hu hlive
    have hbalance : u'.usedQuota = u.usedQuota := by
      rw [← Table.read_of_find? hu' User.usedQuota, ← Table.read_of_find? hu User.usedQuota]
      exact hsame (.userUsed l.userID) rfl
    exact ⟨u', hu', hlive', by rw [hbalance]; exact hused⟩
  · obtain ⟨c, hc, hused⟩ := h.channel hpos hmoves
    obtain ⟨c', hc'⟩ := exists_of_map_eq (find?_channel_of_shape hmove.shape _) hc
    have hbalance : c'.usedQuota = c.usedQuota := by
      rw [← Table.read_of_find? hc' Channel.usedQuota, ← Table.read_of_find? hc Channel.usedQuota]
      exact hsame (.channelUsed l.channelID) rfl
    exact ⟨c', hc', by rw [hbalance]; exact hused⟩

/-- The counters move when their rows can take it. -/
theorem updateBillingCountersTx_succeeds (h : db.CoversCounters l target) :
    ∃ r, updateBillingCountersTx db l target = .ok r := by
  obtain ⟨db₁, huser, hchannels⟩ : ∃ db₁, countUserUsageTx db l.userID (target - l.countedQuota)
      (l.countDelta target) = .ok db₁ ∧ db₁.channels = db.channels := by
    by_cases hmoves : target ≠ l.countedQuota ∨ l.countDelta target ≠ 0
    · obtain ⟨u, hu, hlive, hused⟩ := h.user hmoves
      refine ⟨_, countUserUsageTx_eq_ok.mpr (.inr ⟨?_, u, hu, hlive, fun _ => ?_, rfl⟩), rfl⟩
      · omega
      · omega
    · push Not at hmoves
      exact ⟨db, countUserUsageTx_eq_ok.mpr (.inl ⟨by omega, hmoves.2, rfl⟩), rfl⟩
  obtain ⟨db₂, hchannel⟩ : ∃ db₂, countChannelUsageTx db₁ l.channelID (target - l.countedQuota)
      = .ok db₂ := by
    by_cases hmoves : 0 < l.channelID ∧ target - l.countedQuota ≠ 0
    · obtain ⟨c, hc, hused⟩ := h.channel hmoves.1 (by omega)
      refine ⟨_, countChannelUsageTx_eq_ok.mpr (.inr ⟨hmoves, c, hchannels ▸ hc, fun _ => ?_, rfl⟩)⟩
      omega
    · exact ⟨db₁, countChannelUsageTx_eq_ok.mpr (.inl ⟨hmoves, rfl⟩)⟩
  exact ⟨_, bind_eq_ok.mpr ⟨db₁, huser, bind_eq_ok.mpr ⟨db₂, hchannel, rfl⟩⟩⟩

/-! ## The transition -/

structure Database.Affords (db : Database) (l : BillingLedger) (target : Int) : Prop where
  balances : l.mode.appliesBalances = true → target - l.appliedQuota ≠ 0 →
    db.Covers l (target - l.appliedQuota)
  counters : l.mode = .enforce → db.CoversCounters l target

instance (db : Database) (l : BillingLedger) (target : Int) : Decidable (db.Affords l target) :=
  decidable_of_iff (_ ∧ _) ⟨fun h => ⟨h.1, h.2⟩, fun h => ⟨h.1, h.2⟩⟩

theorem applyTransitionBalances_of_adjust (hmode : l.mode.appliesBalances = true)
    (hadjust : adjustLedgerBalancesTx now db l (target - l.appliedQuota) = .ok db') :
    applyTransitionBalances now db l target = .ok (db', l.markBalanceComponentsApplied) := by
  unfold applyTransitionBalances
  rw [if_pos hmode]
  by_cases hdelta : target - l.appliedQuota ≠ 0
  · rw [if_pos hdelta]
    exact bind_eq_ok.mpr ⟨db', hadjust, rfl⟩
  · rw [adjustLedgerBalancesTx, if_pos (not_not.mp hdelta), Except.ok.injEq] at hadjust
    rw [if_neg hdelta, ← hadjust]
    rfl

theorem Database.Affords.applyBalances (h : db.Affords l target) (now : Int)
    (desired : DesiredState) :
    ∃ db' l', applyTransitionBalances now db (l.open desired target) target = .ok (db', l') ∧
      l'.mode = l.mode ∧ (l.mode = .enforce → db'.CoversCounters l' target) := by
  by_cases hmode : l.mode.appliesBalances = true
  · obtain ⟨db', hadjust⟩ := adjustLedgerBalancesTx_succeeds now (h.balances hmode)
    refine ⟨db', _, applyTransitionBalances_of_adjust (l := l.open desired target) hmode hadjust, rfl,
      fun henforce => ?_⟩
    have hcounters := (h.counters henforce).of_adjust hadjust
    exact ⟨hcounters.user, hcounters.channel⟩
  · refine ⟨db, l.open desired target, if_neg hmode, rfl, fun henforce => ?_⟩
    have hcounters := h.counters henforce
    exact ⟨hcounters.user, hcounters.channel⟩

/-- **An afforded transition goes through**, provided its hook does and leaves the charged rows
alone. -/
theorem mutateLockedBillingLedgerTx_succeeds (now : Int)
    {desired : DesiredState} {hook : BeforeSave}
    (hdesired : desired = .settle ∨ desired = .refund) (hlive : l.state ≠ .refunded)
    (hopen : ¬ (desired = .settle ∧ l.state = .settled ∧ l.appliedQuota = target))
    (haffords : db.Affords l target)
    (hhook : ∀ db₁ l₁, ∃ tasks message,
      hook db₁ l₁ = .ok ({ db₁ with tasks := tasks }, { l₁ with lastError := message })) :
    ∃ db' l', mutateLockedBillingLedgerTx now db l desired target hook = .ok (db', l', true) := by
  obtain ⟨db₁, l₁, hbalances, hmode, hcovers⟩ := haffords.applyBalances now desired
  obtain ⟨tasks, message, hhook⟩ := hhook db₁ l₁
  obtain ⟨r, hcounters⟩ : ∃ r, applyTransitionCounters { db₁ with tasks := tasks }
      { l₁ with lastError := message } target = .ok r := by
    unfold applyTransitionCounters
    by_cases henforce : l₁.mode = .enforce
    · have hcounters := hcovers (hmode ▸ henforce)
      have hcovers' : Database.CoversCounters { db₁ with tasks := tasks }
          { l₁ with lastError := message } target := ⟨hcounters.user, hcounters.channel⟩
      obtain ⟨r, hr⟩ := updateBillingCountersTx_succeeds hcovers'
      exact ⟨_, by rw [if_pos henforce]; exact bind_eq_ok.mpr ⟨r, hr, rfl⟩⟩
    · exact ⟨_, if_neg henforce⟩
  unfold mutateLockedBillingLedgerTx
  rw [if_neg (by rcases hdesired with rfl | rfl <;> decide), if_neg hlive, if_neg hopen]
  exact ⟨_, _, bind_eq_ok.mpr ⟨_, hbalances, bind_eq_ok.mpr ⟨_, hhook, bind_eq_ok.mpr
    ⟨_, hcounters, rfl⟩⟩⟩⟩

end RenewApi.Billing
