import RenewApi.Billing.Accounts
import Mathlib.Tactic.Ring

/-! # What a ledger operation can do

To the books an operation of `Billing/Ledger` does nothing, rewrites one ledger row, or creates one.

* **`LedgerCreate cal now db db' input l`**: the reservation `input` was booked as the new row
  `l`. -/

namespace RenewApi.Billing

open Relational BillingLedger Database

variable {q : Int} {desired : DesiredState} {hook : BeforeSave} {db db' : Database}
  {l l' : BillingLedger} {now target : Int} {changed : Bool} {task : Task}

/-- What is fixed when a reservation is made. -/
structure LedgerTerms where
  id : Nat
  requestID : String
  mode : LedgerMode
  fundingSource : FundingSource
  userID : Int
  tokenID : Int
  subscriptionID : Int
  tokenUnlimited : Bool
  playground : Bool
  createdAt : Int
  deriving DecidableEq

/-- The fixed part of a ledger row. -/
def BillingLedger.terms (l : BillingLedger) : LedgerTerms :=
  { id := l.id, requestID := l.requestID, mode := l.mode, fundingSource := l.fundingSource
    userID := l.userID, tokenID := l.tokenID, subscriptionID := l.subscriptionID
    tokenUnlimited := l.tokenUnlimited, playground := l.playground, createdAt := l.createdAt }

section

variable {l l' : BillingLedger} (h : l'.terms = l.terms)
include h

theorem id_of_terms : l'.id = l.id := congrArg LedgerTerms.id h

theorem mode_of_terms : l'.mode = l.mode := congrArg LedgerTerms.mode h

theorem fundingSource_of_terms : l'.fundingSource = l.fundingSource :=
  congrArg LedgerTerms.fundingSource h

theorem userID_of_terms : l'.userID = l.userID := congrArg LedgerTerms.userID h

theorem chargesToken_of_terms : l'.chargesToken ↔ l.chargesToken := by
  have hp : l'.playground = l.playground := congrArg LedgerTerms.playground h
  have ht : l'.tokenID = l.tokenID := congrArg LedgerTerms.tokenID h
  rw [chargesToken, chargesToken, hp, ht]

theorem direction_of_terms (a : Account) : l'.direction a = l.direction a := by
  have ht : l'.tokenID = l.tokenID := congrArg LedgerTerms.tokenID h
  have hs : l'.subscriptionID = l.subscriptionID := congrArg LedgerTerms.subscriptionID h
  cases a with
  | wallet u =>
    simp only [direction, fundingSource_of_terms h, userID_of_terms h]
  | tokenUsed | tokenRemain => simp only [direction, chargesToken_of_terms h, ht]
  | subscriptionUsed s => simp only [direction, fundingSource_of_terms h, hs]
  | _ => rfl

theorem backs_of_terms (hb : db.Backs l) : db.Backs l' where
  wallet hw := by
    rw [userID_of_terms h]
    exact hb.wallet (fundingSource_of_terms h ▸ hw)
  subscription hs := by
    have hid : l'.subscriptionID = l.subscriptionID := congrArg LedgerTerms.subscriptionID h
    rw [hid]
    exact hb.subscription (fundingSource_of_terms h ▸ hs)
  token ht := by
    have hid : l'.tokenID = l.tokenID := congrArg LedgerTerms.tokenID h
    rw [hid]
    exact hb.token ((chargesToken_of_terms h).mp ht)

end

/-- The tables that ledgers are charged to or counted on. -/
structure ChargedTables where
  users : Table User
  tokens : Table Token
  channels : Table Channel
  plans : Table SubscriptionPlan
  subscriptions : Table UserSubscription

def Database.charged (db : Database) : ChargedTables :=
  { users := db.users, tokens := db.tokens, channels := db.channels, plans := db.plans
    subscriptions := db.subscriptions }

section

variable {db' : Database} (h : db'.charged = db.charged)
include h

theorem users_of_charged : db'.users = db.users := congrArg ChargedTables.users h

theorem subscriptions_of_charged : db'.subscriptions = db.subscriptions :=
  congrArg ChargedTables.subscriptions h

theorem balance_of_charged (a : Account) : db'.balance a = db.balance a := by
  have ht : db'.tokens = db.tokens := congrArg ChargedTables.tokens h
  have hc : db'.channels = db.channels := congrArg ChargedTables.channels h
  cases a <;>
    simp only [balance, users_of_charged h, ht, hc, subscriptions_of_charged h]

theorem shape_of_charged : db'.shape = db.shape := by
  have ht : db'.tokens = db.tokens := congrArg ChargedTables.tokens h
  have hc : db'.channels = db.channels := congrArg ChargedTables.channels h
  have hp : db'.plans = db.plans := congrArg ChargedTables.plans h
  simp only [shape, users_of_charged h, ht, hc, hp, subscriptions_of_charged h]

theorem withinTotals_of_charged (hw : db.WithinTotals) : db'.WithinTotals := by
  rw [WithinTotals, subscriptions_of_charged h]
  exact hw

end

/-! ## Rewriting one row -/

/-- The accounts that only the statistics leg moves. -/
def Account.isCounter : Account → Bool
  | .userUsed _ | .userRequests _ | .channelUsed _ => true
  | .wallet _ | .tokenUsed _ | .tokenRemain _ | .subscriptionUsed _ => false

theorem direction_counter (l : BillingLedger) {a : Account} (h : a.isCounter = true) :
    l.direction a = 0 := by
  cases a <;> first | rfl | cases h

theorem counted_congr (huser : l'.userID = l.userID) (hquota : l'.countedQuota = l.countedQuota)
    (hflag : l'.requestCounted = l.requestCounted)
    (hchannel : l'.channelID = l.channelID ∨ l.countedQuota = 0) (a : Account) :
    l'.counted a = l.counted a := by
  cases a with
  | userUsed u => simp only [counted, huser, hquota]
  | userRequests u => simp only [counted, huser, hflag]
  | channelUsed c =>
    rcases hchannel with hch | hzero
    · simp only [counted, hch, hquota]
    · simp [counted, hquota, hzero]
  | _ => rfl

/-- **The balance leg of a rewrite**: a ledger that applies balances is charged the difference to
its target, any other leaves the accounts alone. -/
def BalanceLeg (now : Int) (db : Database) (l : BillingLedger) (target : Int) (db' : Database) :
    Prop :=
  (l.mode.appliesBalances = false ∧ db' = db) ∨
    (l.mode.appliesBalances = true ∧
      adjustLedgerBalancesTx now db l (target - l.appliedQuota) = .ok db')

section

variable {now : Int} {db' : Database} {target : Int} (h : BalanceLeg now db l target db')
include h

theorem BalanceLeg.move : BalanceMove db db' (fun a =>
    if l.mode.appliesBalances = true then l.direction a * (target - l.appliedQuota) else 0) := by
  rcases h with ⟨hmode, rfl⟩ | ⟨hmode, hadjust⟩
  · exact (BalanceMove.refl db').congr (fun a => by simp [hmode])
  · exact (balanceMove_ledger hadjust).congr (fun a => (if_pos hmode).symm)

theorem BalanceLeg.backs (hmode : l.mode.appliesBalances = true) (hne : target ≠ l.appliedQuota) :
    db.Backs l := by
  rcases h with ⟨hoff, -⟩ | ⟨-, hadjust⟩
  · rw [hoff] at hmode; cases hmode
  · exact backs_of_adjust hadjust (sub_ne_zero.mpr hne)

theorem BalanceLeg.totals (hw : db.WithinTotals) : db'.WithinTotals := by
  rcases h with ⟨-, rfl⟩ | ⟨-, hadjust⟩
  · exact hw
  · exact withinTotals_adjust hadjust hw

end

/-- **One ledger row was rewritten**, at the target `quota`, and the accounts followed it. -/
structure LedgerRewrite (db db' : Database) (l l' : BillingLedger) (quota : Int) : Prop where
  found : db.ledgers.find? l.id = some l
  ledgers : db'.ledgers = db.ledgers.put l'
  terms : l'.terms = l.terms
  version : l'.version = l.version + 1
  live : l.state ≠ .refunded
  applied : l'.appliedQuota = l.appliedQuota ∨ l'.appliedQuota = quota
  counted : l'.countedQuota = l.countedQuota ∨ l'.countedQuota = quota
  shape : db'.shape = db.shape
  balance : ∀ a, db.tracks a → (l.mode.appliesBalances = true ∨ a.isCounter = true) →
    db'.balance a = db.balance a + (l'.posting a - l.posting a)
  backed : l.mode.appliesBalances = true → l'.appliedQuota ≠ l.appliedQuota → db.Backs l
  countedOn : (l'.countedQuota ≠ l.countedQuota → db.Counts l') ∧
    (l'.countedQuota = l.countedQuota → l.countedQuota ≠ 0 → l'.channelID = l.channelID)
  totals : db.WithinTotals → db'.WithinTotals

theorem LedgerRewrite.find?_eq (h : LedgerRewrite db db' l l' q) (id : Nat) :
    db'.ledgers.find? id = if id = l.id then some l' else db.ledgers.find? id := by
  have hid : l'.id = l.id := id_of_terms h.terms
  rw [h.ledgers, Table.find?_put, key_ledger, hid]
  by_cases hl : id = l.id
  · rw [if_pos hl, if_pos hl, hl, h.found]; rfl
  · rw [if_neg hl, if_neg hl]

/-- A rewrite that charges and counts nothing. -/
theorem LedgerRewrite.of_charged (found : db.ledgers.find? l.id = some l)
    (ledgers : db'.ledgers = db.ledgers.put l') (terms : l'.terms = l.terms)
    (version : l'.version = l.version + 1) (live : l.state ≠ .refunded)
    (charged : db'.charged = db.charged) (applied : l'.appliedQuota = l.appliedQuota)
    (counted : l'.countedQuota = l.countedQuota)
    (requestCounted : l'.requestCounted = l.requestCounted)
    (channel : l'.channelID = l.channelID ∨ l.countedQuota = 0) : LedgerRewrite db db' l l' q where
  found := found
  ledgers := ledgers
  terms := terms
  version := version
  live := live
  applied := .inl applied
  counted := .inl counted
  shape := shape_of_charged charged
  balance a _ _ := by
    rw [balance_of_charged charged, posting, posting, direction_of_terms terms, applied,
      counted_congr (userID_of_terms terms) counted requestCounted channel]
    ring
  backed _ hne := absurd applied hne
  countedOn := ⟨fun hne => absurd counted hne, fun _ hne => channel.resolve_right hne⟩
  totals := withinTotals_of_charged charged

/-- A rewrite that charges the ledger and counts nothing. -/
theorem LedgerRewrite.of_leg {db₁ : Database} (leg : BalanceLeg now db l q db₁)
    (found : db.ledgers.find? l.id = some l) (ledgers : db'.ledgers = db₁.ledgers.put l')
    (terms : l'.terms = l.terms) (version : l'.version = l.version + 1) (live : l.state ≠ .refunded)
    (charged : db'.charged = db₁.charged) (applied : l'.appliedQuota = q)
    (counted : l'.countedQuota = l.countedQuota)
    (requestCounted : l'.requestCounted = l.requestCounted) (channel : l'.channelID = l.channelID) :
    LedgerRewrite db db' l l' q where
  found := found
  ledgers := by rw [ledgers, leg.move.ledgers]
  terms := terms
  version := version
  live := live
  applied := .inr applied
  counted := .inl counted
  shape := (shape_of_charged charged).trans leg.move.shape
  balance a ha happlies := by
    rw [balance_of_charged charged, leg.move.balance a ha, posting,
      posting, direction_of_terms terms, applied,
      counted_congr (userID_of_terms terms) counted requestCounted (.inl channel)]
    rcases happlies with hmode | hcounter
    · rw [if_pos hmode]; ring
    · rw [direction_counter l hcounter]; simp
  backed hmode hne := leg.backs hmode (applied ▸ hne)
  countedOn := ⟨fun hne => absurd counted hne, fun _ _ => channel⟩
  totals hw := withinTotals_of_charged charged (leg.totals hw)

/-! ## The transition -/

/-- **What a hook may do**: change tasks, the channel of a ledger that has not been counted yet and
the stored error text. -/
def BeforeSave.Frame (hook : BeforeSave) : Prop :=
  ∀ ⦃db db' : Database⦄ ⦃l l' : BillingLedger⦄, hook db l = .ok (db', l') →
    (∃ tasks midjourneys, db' = { db with tasks := tasks, midjourneys := midjourneys }) ∧
    (∃ channel message, l' = { l with channelID := channel, lastError := message }) ∧
    (l'.channelID = l.channelID ∨ (l.requestCounted = false ∧ l.countedQuota = 0))

theorem frame_id : BeforeSave.Frame (fun db ledger => .ok (db, ledger)) := by
  intro db db' l l' h
  cases h
  exact ⟨⟨_, _, rfl⟩, ⟨_, _, rfl⟩, .inl rfl⟩

theorem assignBillingSettlementChannel_eq_ok {selected : List Int}
    (h : assignBillingSettlementChannel l selected = .ok l') :
    (∃ channel, l' = { l with channelID := channel }) ∧
      (l'.channelID = l.channelID ∨ (l.requestCounted = false ∧ l.countedQuota = 0)) := by
  unfold assignBillingSettlementChannel at h
  cases selected with
  | nil =>
    obtain rfl := Except.ok.inj h
    exact ⟨⟨_, rfl⟩, .inl rfl⟩
  | cons channel rest =>
    dsimp only at h
    by_cases hsame : channel ≤ 0 ∨ l.channelID = channel
    · rw [if_pos hsame] at h
      obtain rfl := Except.ok.inj h
      exact ⟨⟨_, rfl⟩, .inl rfl⟩
    · rw [if_neg hsame, guard_eq_ok] at h
      obtain ⟨huncounted, h⟩ := h
      obtain rfl := Except.ok.inj h
      push Not at huncounted
      exact ⟨⟨_, rfl⟩, .inr ⟨by simpa using huncounted.1, huncounted.2⟩⟩

theorem frame_assignChannelHook (selected : List Int) : (assignChannelHook selected).Frame := by
  intro db db' l l' h
  obtain ⟨l₁, hassign, h⟩ := bind_eq_ok.mp h
  cases h
  obtain ⟨⟨channel, hl⟩, hch⟩ := assignBillingSettlementChannel_eq_ok hassign
  exact ⟨⟨_, _, rfl⟩, ⟨channel, l.lastError, hl⟩, hch⟩

theorem refundHook_eq (now : Int) (reason : String) (db : Database) (l : BillingLedger) :
    ∃ message, refundHook now reason db l
      = .ok (failPendingTasks now db l.id reason, { l with lastError := message }) := by
  unfold refundHook
  by_cases hr : reason ≠ ""
  · exact ⟨truncateBillingError reason, by simp [hr]⟩
  · exact ⟨l.lastError, by simp [hr]⟩

theorem frame_refundHook (now : Int) (reason : String) : (refundHook now reason).Frame := by
  intro db db' l l' h
  obtain ⟨message, hhook⟩ := refundHook_eq now reason db l
  rw [hhook] at h
  cases h
  exact ⟨⟨_, _, rfl⟩, ⟨_, _, rfl⟩, .inl rfl⟩

theorem createTask_eq_ok {task' : Task} (h : createTask now db task = .ok (db', task')) :
    db.tasks.find? task'.id = none ∧ db' = { db with tasks := db.tasks.insert task' } ∧
      ∃ id created updated,
        task' = { task with id := id, createdAt := created, updatedAt := updated } := by
  obtain ⟨hfresh, h⟩ := guard_eq_ok.mp h
  cases h
  exact ⟨by simpa using hfresh, rfl, _, _, _, rfl⟩

theorem frame_createTaskHook (now target : Int) (task : Task) :
    (createTaskHook now target task).Frame := by
  intro db db' l l' h
  obtain ⟨⟨db₁, t⟩, hcreate, h⟩ := bind_eq_ok.mp h
  cases h
  obtain ⟨-, rfl, -⟩ := createTask_eq_ok hcreate
  exact ⟨⟨_, _, rfl⟩, ⟨_, _, rfl⟩, .inl rfl⟩

theorem frame_createMidjourneyHook (target : Int) (task : Midjourney) :
    (createMidjourneyHook target task).Frame := by
  intro db db' l l' h
  obtain ⟨⟨db₁, t⟩, hcreate, h⟩ := bind_eq_ok.mp h
  cases h
  unfold createMidjourney at hcreate
  rw [guard_eq_ok] at hcreate
  obtain ⟨rfl, rfl⟩ := ok_inj hcreate.2
  exact ⟨⟨_, _, rfl⟩, ⟨_, _, rfl⟩, .inl rfl⟩

theorem updateTaskRow_eq_ok {fromStatus : TaskStatus} :
    updateTaskRow now db task fromStatus = .ok db' ↔
      ∃ current, db.tasks.find? task.id = some current ∧ current.status = fromStatus ∧
        db' = { db with tasks := db.tasks.put { task with updatedAt := now } } := by
  refine (updateOne_bind_eq_ok (k := task.id) (q := fun current : Task => current.status = fromStatus)
    (by simp)).trans (exists_congr fun current => and_congr_right fun hfind => ?_)
  rw [show current.id = task.id from Table.key_of_find? hfind]

theorem withRefundReason_eq (l : BillingLedger) (desired : DesiredState) (reason : String) :
    ∃ message, l.withRefundReason desired reason = { l with lastError := message } := by
  unfold withRefundReason
  split
  · exact ⟨_, rfl⟩
  · exact ⟨_, rfl⟩

theorem frame_updateTaskHook (now : Int) (task : Task) (fromStatus : TaskStatus)
    (desired : DesiredState) (target : Int) (reason : String) :
    (updateTaskHook now task fromStatus desired target reason).Frame := by
  intro db db' l l' h
  obtain ⟨db₁, hrow, h⟩ := bind_eq_ok.mp h
  cases h
  obtain ⟨-, -, -, rfl⟩ := updateTaskRow_eq_ok.mp hrow
  obtain ⟨message, hl⟩ := withRefundReason_eq l desired reason
  exact ⟨⟨_, _, rfl⟩, ⟨l.channelID, message, hl⟩, .inl (by rw [hl])⟩

theorem updateMidjourneyRow_eq_ok {task : Midjourney} {fromStatus : String}
    (h : updateMidjourneyRow db task fromStatus = .ok db') :
    ∃ midjourneys, db' = { db with midjourneys := midjourneys } := by
  obtain ⟨ms, -, h⟩ := bind_eq_ok.mp h
  exact ⟨ms, (Except.ok.inj h).symm⟩

theorem frame_updateMidjourneyHook (task : Midjourney) (fromStatus : String)
    (desired : DesiredState) (target : Int) (reason : String) :
    (updateMidjourneyHook task fromStatus desired target reason).Frame := by
  intro db db' l l' h
  obtain ⟨db₁, hrow, h⟩ := bind_eq_ok.mp h
  cases h
  obtain ⟨ms, rfl⟩ := updateMidjourneyRow_eq_ok hrow
  obtain ⟨message, hl⟩ := withRefundReason_eq l desired reason
  exact ⟨⟨_, _, rfl⟩, ⟨l.channelID, message, hl⟩, .inl (by rw [hl])⟩

theorem applyTransitionBalances_eq_ok (h : applyTransitionBalances now db l target = .ok (db', l'))
    :
    (∃ funding subscription token, l' = { l with
      fundingState := funding, subscriptionState := subscription, tokenState := token }) ∧
    BalanceLeg now db l target db' := by
  unfold applyTransitionBalances at h
  cases hmode : l.mode.appliesBalances with
  | false =>
    rw [if_neg (by simp [hmode])] at h
    cases h
    exact ⟨⟨_, _, _, rfl⟩, .inl ⟨hmode, rfl⟩⟩
  | true =>
    rw [if_pos hmode] at h
    split_ifs at h with hdelta
    · obtain ⟨db₁, hadjust, h⟩ := bind_eq_ok.mp h
      cases h
      exact ⟨⟨_, _, _, rfl⟩, .inr ⟨hmode, hadjust⟩⟩
    · cases h
      refine ⟨⟨_, _, _, rfl⟩, .inr ⟨hmode, ?_⟩⟩
      rw [adjustLedgerBalancesTx, if_pos (not_not.mp hdelta)]

/-- The statistics leg. -/
theorem applyTransitionCounters_eq_ok (h : applyTransitionCounters db l target = .ok (db', l')) :
    (∃ quota flag statistics, l' = { l with
      countedQuota := quota, requestCounted := flag, statisticsState := statistics }) ∧
    BalanceMove db db' (fun a => l'.counted a - l.counted a) ∧
    (l'.countedQuota = l.countedQuota ∨ l'.countedQuota = target ∧ db.Counts l) ∧
    db'.subscriptions = db.subscriptions := by
  unfold applyTransitionCounters at h
  split_ifs at h with hmode
  · obtain ⟨⟨db₁, l₁⟩, hcount, h⟩ := bind_eq_ok.mp h
    obtain ⟨rfl, rfl⟩ := ok_inj h
    obtain ⟨hmove, hl⟩ := balanceMove_counters hcount
    have htarget : l₁.countedQuota = target := by
      obtain ⟨_, -, hcount⟩ := bind_eq_ok.mp hcount
      obtain ⟨_, -, hcount⟩ := bind_eq_ok.mp hcount
      obtain ⟨-, rfl⟩ := ok_inj hcount
      rfl
    have hsubs : db'.subscriptions = db.subscriptions := by
      obtain ⟨db₂, huser, hcount⟩ := bind_eq_ok.mp hcount
      obtain ⟨db₃, hchannel, hcount⟩ := bind_eq_ok.mp hcount
      obtain ⟨rfl, -⟩ := ok_inj hcount
      have h₁ : db₂.subscriptions = db.subscriptions := by
        rcases countUserUsageTx_eq_ok.mp huser with ⟨-, -, rfl⟩ | ⟨-, u, -, -, -, rfl⟩ <;> rfl
      have h₂ : db'.subscriptions = db₂.subscriptions := by
        rcases countChannelUsageTx_eq_ok.mp hchannel with ⟨-, rfl⟩ | ⟨-, c, -, -, rfl⟩ <;> rfl
      exact h₂.trans h₁
    refine ⟨⟨l₁.countedQuota, l₁.requestCounted, .applied, by rw [hl]⟩, hmove, ?_, hsubs⟩
    by_cases hsame : target = l.countedQuota
    · exact .inl (htarget.trans hsame)
    · exact .inr ⟨htarget, counts_of_update hcount hsame⟩
  · cases h
    exact ⟨⟨_, _, _, rfl⟩, (BalanceMove.refl db).congr (fun a => by simp), .inl rfl, rfl⟩

/-- **The legs of a transition.** Either there was nothing to do, or balances, hook and statistics
succeeded in turn and the completed ledger was saved. -/
theorem mutateLockedBillingLedgerTx_cases
    (h : mutateLockedBillingLedgerTx now db l desired target hook = .ok (db', l', changed)) :
    (desired = .settle ∨ desired = .refund) ∧
    ((changed = false ∧ db' = db ∧ l' = l ∧
        (l.state = .refunded ∧ desired = .refund ∨
          l.state = .settled ∧ desired = .settle ∧ l.appliedQuota = target)) ∨
     (changed = true ∧ l.state ≠ .refunded ∧ ∃ db₁ l₁ db₂ l₂ db₃ l₃,
        applyTransitionBalances now db (l.open desired target) target = .ok (db₁, l₁) ∧
        hook db₁ l₁ = .ok (db₂, l₂) ∧
        applyTransitionCounters db₂ l₂ target = .ok (db₃, l₃) ∧
        l' = l₃.complete now desired target ∧
        db' = saveTransition now
          (if desired = .refund ∧ l₃.fundingSource = .subscription then
            markSubscriptionPreConsumeRefundedTx now db₃ l₃.requestID
           else db₃) l' desired target)) := by
  obtain ⟨hdesired, h⟩ := guard_eq_ok.mp h
  refine ⟨by tauto, ?_⟩
  by_cases href : l.state = .refunded
  · rw [if_pos href] at h
    by_cases hd : desired = .refund
    · rw [if_pos hd] at h
      cases h
      exact .inl ⟨rfl, rfl, rfl, .inl ⟨href, hd⟩⟩
    · rw [if_neg hd] at h
      cases h
  rw [if_neg href] at h
  by_cases hdone : desired = .settle ∧ l.state = .settled ∧ l.appliedQuota = target
  · rw [if_pos hdone] at h
    cases h
    exact .inl ⟨rfl, rfl, rfl, .inr ⟨hdone.2.1, hdone.1, hdone.2.2⟩⟩
  rw [if_neg hdone] at h
  obtain ⟨⟨db₁, l₁⟩, hbalances, h⟩ := bind_eq_ok.mp h
  obtain ⟨⟨db₂, l₂⟩, hhook, h⟩ := bind_eq_ok.mp h
  obtain ⟨⟨db₃, l₃⟩, hcounters, h⟩ := bind_eq_ok.mp h
  cases h
  exact .inr ⟨rfl, href, db₁, l₁, db₂, l₂, db₃, l₃, hbalances, hhook, hcounters, rfl, rfl⟩

/-- The state that a transition leads to. -/
def DesiredState.reached (desired : DesiredState) : LedgerState :=
  if desired = .settle then .settled else .refunded

theorem mutateLockedBillingLedgerTx_reached
    (h : mutateLockedBillingLedgerTx now db l desired target hook = .ok (db', l', true)) :
    (desired = .settle ∨ desired = .refund) ∧ l'.state = desired.reached ∧
      l'.appliedQuota = target := by
  obtain ⟨hdesired, ⟨hc, -⟩ | ⟨-, -, _, _, _, _, _, l₃, -, -, -, hl', -⟩⟩ :=
    mutateLockedBillingLedgerTx_cases h
  · cases hc
  · rw [hl']
    exact ⟨hdesired, rfl, rfl⟩

theorem markSubscriptionPreConsumeRefundedTx_eq (now : Int) (db : Database) (requestID : String) :
    ∃ records, markSubscriptionPreConsumeRefundedTx now db requestID
      = { db with preConsumeRecords := records } := by
  unfold markSubscriptionPreConsumeRefundedTx
  split
  · exact ⟨_, rfl⟩
  · exact ⟨_, rfl⟩

/-- What a completed transition has put on an account: the charge, and the change of what was
counted. -/
theorem posting_complete (now : Int) (desired : DesiredState) (target : Int) {l₃ : BillingLedger}
    (hterms : l₃.terms = l.terms) (a : Account) :
    (l₃.complete now desired target).posting a - l.posting a
      = l.direction a * (target - l.appliedQuota) + (l₃.counted a - l.counted a) := by
  have hcounted : (l₃.complete now desired target).counted a = l₃.counted a := by cases a <;> rfl
  have hdirection : (l₃.complete now desired target).direction a = l.direction a :=
    direction_of_terms hterms a
  have happlied : (l₃.complete now desired target).appliedQuota = target := rfl
  rw [posting, posting, hcounted, hdirection, happlied]
  ring

/-- **A transition rewrites its ledger and moves the accounts by the difference of the
postings.** -/
theorem mutateLockedBillingLedgerTx_rewrite (hframe : hook.Frame)
    (hfound : db.ledgers.find? l.id = some l)
    (h : mutateLockedBillingLedgerTx now db l desired target hook = .ok (db', l', changed)) :
    (changed = false ∧ db' = db) ∨ (changed = true ∧ LedgerRewrite db db' l l' target) := by
  obtain ⟨-, ⟨hc, hdb, -, -⟩ |
    ⟨hc, hlive, db₁, l₁, db₂, l₂, db₃, l₃, hbalances, hhook, hcounters, hl', hdb'⟩⟩ :=
    mutateLockedBillingLedgerTx_cases h
  · exact .inl ⟨hc, hdb⟩
  refine .inr ⟨hc, ?_⟩
  -- what each leg leaves of the ledger
  obtain ⟨⟨_, _, _, hl₁⟩, hopen⟩ := applyTransitionBalances_eq_ok hbalances
  have hleg : BalanceLeg now db l target db₁ := hopen
  obtain ⟨⟨_, _, hdb₂⟩, ⟨_, _, hl₂⟩, hchannel⟩ := hframe hhook
  obtain ⟨⟨_, _, _, hl₃⟩, hmove, hcounted, hsubs⟩ := applyTransitionCounters_eq_ok hcounters
  have hterms₂ : l₂.terms = l.terms := by rw [hl₂, hl₁]; rfl
  have hterms₃ : l₃.terms = l.terms := by rw [hl₃]; exact hterms₂
  have hquota₂ : l₂.countedQuota = l.countedQuota := by rw [hl₂, hl₁]; rfl
  have hflag₂ : l₂.requestCounted = l.requestCounted := by rw [hl₂, hl₁]; rfl
  have hchannel₂ : l₂.channelID = l.channelID ∨ l.countedQuota = 0 := by
    rw [hl₁] at hchannel
    exact hchannel.imp id And.right
  have hterms : l'.terms = l.terms := by rw [hl']; exact hterms₃
  have happlied : l'.appliedQuota = target := by rw [hl']; rfl
  have hversion : l'.version = l.version + 1 := by rw [hl', hl₃, hl₂, hl₁]; rfl
  -- the hook and the writes after the legs leave the charged tables alone
  have hcharged₂ : db₂.charged = db₁.charged := by rw [hdb₂]; rfl
  have hcharged : db'.charged = db₃.charged := by
    obtain ⟨records, hmark⟩ := markSubscriptionPreConsumeRefundedTx_eq now db₃ l₃.requestID
    rw [hdb', hmark]
    split <;> rfl
  have hledgers : db'.ledgers = db.ledgers.put l' := by
    have hledgers₃ : db₃.ledgers = db.ledgers := by
      rw [hmove.ledgers, hdb₂]
      exact hleg.move.ledgers
    obtain ⟨records, hmark⟩ := markSubscriptionPreConsumeRefundedTx_eq now db₃ l₃.requestID
    rw [hdb', hmark, ← hledgers₃]
    split <;> rfl
  have hshape₂ : db₂.shape = db.shape := (shape_of_charged hcharged₂).trans hleg.move.shape
  refine ⟨hfound, hledgers, hterms, hversion, hlive, .inr happlied, ?_, ?_, ?_, ?_, ?_, ?_⟩
  · have hquota' : l'.countedQuota = l₃.countedQuota := by rw [hl']; rfl
    rw [hquota', ← hquota₂]
    exact hcounted.imp id And.left
  · rw [shape_of_charged hcharged, hmove.shape, hshape₂]
  · intro a ha happlies
    rw [balance_of_charged hcharged, hmove.balance a (tracks_of_shape hshape₂ ha),
      balance_of_charged hcharged₂, hleg.move.balance a ha, hl', posting_complete now desired target
        hterms₃, counted_congr (userID_of_terms hterms₂) hquota₂ hflag₂ hchannel₂]
    rcases happlies with hmode | hcounter
    · rw [if_pos hmode]; ring
    · rw [direction_counter l hcounter]; simp
  · intro hmode hne
    exact hleg.backs hmode (happlied ▸ hne)
  · have hchannel' : l'.channelID = l₂.channelID := by rw [hl', hl₃]; rfl
    refine ⟨fun hne => ?_, fun _ hne => hchannel'.trans (hchannel₂.resolve_right hne)⟩
    rcases hcounted with hsame | ⟨-, hcounts⟩
    · exact absurd (by rw [hl', ← hquota₂, ← hsame]; rfl) hne
    · have hcounts₀ := counts_of_shape hshape₂.symm hcounts
      have huser : l₂.userID = l'.userID :=
        (userID_of_terms hterms₂).trans (userID_of_terms hterms).symm
      exact ⟨huser ▸ hcounts₀.user, hchannel' ▸ hcounts₀.channel⟩
  · intro hw
    refine withinTotals_of_charged hcharged ?_
    rw [WithinTotals, hsubs, subscriptions_of_charged hcharged₂]
    exact hleg.totals hw

end RenewApi.Billing
