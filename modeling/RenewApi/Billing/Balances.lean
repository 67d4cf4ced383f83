import RenewApi.Billing.Subscription

/-! # Balances and usage counters

The statements of `model/billing_ledger.go` that move a wallet, a token or the usage counters. Each
is a guarded `UPDATE … WHERE id = ?` whose number of affected rows must be `1`; the theorem beside
each definition (`…_eq_ok`) says exactly when it succeeds and which single row it then rewrites. All
later proofs use these and never unfold the statements again. -/

namespace RenewApi.Billing

open Relational

variable {db db' : Database} {delta : Int}

/-- `adjustWalletQuotaTx`: a positive `delta` is charged to the user, if the quota is there, a
negative one is given back. A soft-deleted user is not matched by either statement. -/
def adjustWalletQuotaTx (db : Database) (userID delta : Int) : Except DbError Database :=
  if delta = 0 then .ok db
  else if 0 < delta then do
    let users ← db.users.updateOne (fun u => !u.deleted && u.id = userID && delta ≤ u.quota)
      (fun u => { u with quota := u.quota - delta }) DbError.insufficientQuota
    .ok { db with users := users }
  else do
    let users ← db.users.updateOne (fun u => !u.deleted && u.id = userID)
      (fun u => { u with quota := u.quota + -delta })
      (DbError.message "user quota refund invariant failed")
    .ok { db with users := users }

/-- A user row after `delta` has been charged to its wallet. -/
def User.charge (delta : Int) (u : User) : User := { u with quota := u.quota - delta }

variable {userID : Int} (now d n : Int) (c : Channel) (u : User) (t : Token) (s : UserSubscription)

@[simp] theorem User.charge_id : (u.charge d).id = u.id := rfl
@[simp] theorem User.charge_quota : (u.charge d).quota = u.quota - d := rfl
@[simp] theorem User.charge_usedQuota : (u.charge d).usedQuota = u.usedQuota := rfl
@[simp] theorem User.charge_requestCount : (u.charge d).requestCount = u.requestCount := rfl

/-- **When a wallet adjustment succeeds**, and what it does: the row of a live user moves by
`delta`. -/
theorem adjustWalletQuotaTx_eq_ok : adjustWalletQuotaTx db userID delta = .ok db' ↔
      (delta = 0 ∧ db' = db) ∨
      (delta ≠ 0 ∧ ∃ u, db.users.find? userID = some u ∧ u.deleted = false ∧
        (0 < delta → delta ≤ u.quota) ∧
        db' = { db with users := db.users.put (u.charge delta) }) := by
  unfold adjustWalletQuotaTx
  rw [skip_eq_ok]
  refine or_congr_right (and_congr_right fun _ => ?_)
  split_ifs with hpos
  · refine (updateOne_bind_eq_ok (k := userID) (q := fun u : User => u.deleted = false ∧ delta ≤ u.quota)
      fun u => ?_).trans ?_
    · simp [and_assoc, and_left_comm]
    · simp only [hpos, true_implies, and_assoc]
      rfl
  · refine (updateOne_bind_eq_ok (k := userID) (q := fun u : User => u.deleted = false)
      fun u => ?_).trans ?_
    · simp [and_comm]
    · simp only [hpos, false_implies, true_and]
      rfl

/-! ## Token -/

/-- `adjustTokenQuotaTx`: without a token and in the playground nothing happens. An unlimited token
keeps its remaining quota; its usage is counted all the same. -/
def adjustTokenQuotaTx (now : Int) (db : Database) (ledger : BillingLedger) (delta : Int) :
    Except DbError Database :=
  if delta = 0 ∨ ledger.playground ∨ ledger.tokenID ≤ 0 then .ok db
  else if 0 < delta then do
    let tokens ← db.tokens.updateOne
      (fun t => !t.deleted && t.id = ledger.tokenID && (t.unlimitedQuota || delta ≤ t.remainQuota))
      (fun t => { t with
        remainQuota := if t.unlimitedQuota then t.remainQuota else t.remainQuota - delta
        usedQuota := t.usedQuota + delta
        accessedTime := now })
      DbError.insufficientQuota
    .ok { db with tokens := tokens }
  else do
    let amount := -delta
    let tokens ← db.tokens.updateOne
      (fun t => !t.deleted && t.id = ledger.tokenID && amount ≤ t.usedQuota)
      (fun t => { t with
        remainQuota := if t.unlimitedQuota then t.remainQuota else t.remainQuota + amount
        usedQuota := t.usedQuota - amount
        accessedTime := now })
      (DbError.message "token quota refund invariant failed")
    .ok { db with tokens := tokens }

/-- A token row after `delta` has been charged to it. -/
def Token.charge (now delta : Int) (t : Token) : Token :=
  { t with
    remainQuota := if t.unlimitedQuota then t.remainQuota else t.remainQuota - delta
    usedQuota := t.usedQuota + delta
    accessedTime := now }

@[simp] theorem Token.charge_id : (t.charge now d).id = t.id := rfl
@[simp] theorem Token.charge_usedQuota : (t.charge now d).usedQuota = t.usedQuota + d := rfl
@[simp] theorem Token.charge_remainQuota : (t.charge now d).remainQuota
      = if t.unlimitedQuota then t.remainQuota else t.remainQuota - d := rfl

/-- `DeleteTokenById`: the owner's token is soft-deleted. -/
def deleteTokenById (id userId : Int) (db : Database) : Except DbError (Database × Unit) :=
  if id = 0 ∨ userId = 0 then .error (.message "id 或 userId 为空！")
  else match db.tokens.rows.find? (fun t => !t.deleted && t.id = id && t.userId = userId) with
    | none => .error .recordNotFound
    | some _ =>
      .ok ({ db with
        tokens := db.tokens.updateWhere (fun t => !t.deleted && t.id = id)
          (fun t => { t with deleted := true }) }, ())

def BillingLedger.chargesToken (l : BillingLedger) : Prop := l.playground = false ∧ 0 < l.tokenID
  deriving Decidable

/-- **When a token adjustment succeeds**, and what it does: the row of a live token moves by
`delta`, if it has the remaining quota to charge or the usage to take back. -/
theorem adjustTokenQuotaTx_eq_ok {now : Int} {ledger : BillingLedger} :
    adjustTokenQuotaTx now db ledger delta = .ok db' ↔
      ((delta = 0 ∨ ¬ ledger.chargesToken) ∧ db' = db) ∨
      (delta ≠ 0 ∧ ledger.chargesToken ∧ ∃ t, db.tokens.find? ledger.tokenID = some t ∧
        t.deleted = false ∧
        (0 < delta → t.unlimitedQuota = true ∨ delta ≤ t.remainQuota) ∧
        (delta < 0 → -delta ≤ t.usedQuota) ∧
        db' = { db with tokens := db.tokens.put (t.charge now delta) }) := by
  have hskip : (delta = 0 ∨ ledger.playground = true ∨ ledger.tokenID ≤ 0) ↔
      (delta = 0 ∨ ¬ ledger.chargesToken) := by
    cases hp : ledger.playground <;> simp [BillingLedger.chargesToken, hp]
  unfold adjustTokenQuotaTx
  rw [skip_eq_ok, hskip, not_or, not_not, and_assoc]
  refine or_congr_right (and_congr_right fun h0 => and_congr_right fun _ => ?_)
  by_cases hpos : 0 < delta
  · have hneg : ¬ delta < 0 := by omega
    rw [if_pos hpos]
    refine (updateOne_bind_eq_ok (k := ledger.tokenID) (q := fun t : Token =>
      t.deleted = false ∧ (t.unlimitedQuota = true ∨ delta ≤ t.remainQuota)) fun t => ?_).trans ?_
    · simp [and_assoc, and_left_comm]
    · simp only [hpos, hneg, true_implies, false_implies, true_and, and_assoc]
      rfl
  · have hneg : delta < 0 := by omega
    rw [if_neg hpos]
    refine (updateOne_bind_eq_ok (k := ledger.tokenID) (q := fun t : Token =>
      t.deleted = false ∧ -delta ≤ t.usedQuota) fun t => by simp [and_assoc, and_left_comm]).trans ?_
    -- the source adds and subtracts `amount = -delta`; the row is the one charged by `delta`
    have hrow : ∀ t : Token, { t with
        remainQuota := if t.unlimitedQuota then t.remainQuota else t.remainQuota + -delta
        usedQuota := t.usedQuota - -delta
        accessedTime := now } = t.charge now delta := by
      intro t
      simp only [Token.charge, sub_neg_eq_add, ← sub_eq_add_neg]
    simp only [hrow, hpos, hneg, true_implies, false_implies, true_and, and_assoc]

/-! ## Subscription -/

@[simp] theorem UserSubscription.charge_id : (s.charge now d).id = s.id := rfl
@[simp] theorem UserSubscription.charge_amountUsed :
    (s.charge now d).amountUsed = s.amountUsed + d := rfl

/-- **When a subscription adjustment succeeds**, and what it does: the row moves by `delta`, and its
usage stays between zero and the total. -/
theorem adjustSubscriptionQuotaTx_eq_ok {now : Int} {subscriptionID : Int} :
    adjustSubscriptionQuotaTx now db subscriptionID delta = .ok db' ↔
      0 < subscriptionID ∧
      ((delta = 0 ∧ db' = db) ∨
       (delta ≠ 0 ∧ ∃ s, db.subscriptions.find? subscriptionID = some s ∧
        0 ≤ s.amountUsed + delta ∧ (0 < s.amountTotal → s.amountUsed + delta ≤ s.amountTotal) ∧
        db' = { db with subscriptions := db.subscriptions.put (s.charge now delta) })) := by
  unfold adjustSubscriptionQuotaTx
  rw [guard_eq_ok, not_le]
  refine and_congr_right fun _ => ?_
  rw [skip_eq_ok]
  refine or_congr_right (and_congr_right fun _ => ?_)
  cases hs : db.subscriptions.find? subscriptionID with
  | none => simp
  | some s =>
    rw [guard_eq_ok, guard_eq_ok, Except.ok.injEq]
    constructor
    · rintro ⟨hnonneg, hroom, rfl⟩
      exact ⟨s, rfl, by omega, fun h => by omega, rfl⟩
    · rintro ⟨s', hs', hnonneg, hroom, rfl⟩
      rw [Option.some.injEq] at hs'
      subst hs'
      exact ⟨by omega, fun h => by have := hroom h.1; omega, rfl⟩

/-! ## Counters -/

/-- The user part of `updateBillingCountersTx`. -/
def countUserUsageTx (db : Database) (userID delta countDelta : Int) : Except DbError Database :=
  if delta ≠ 0 ∨ countDelta ≠ 0 then do
    let users ← db.users.updateOne
      (fun u => !u.deleted && u.id = userID && (!decide (delta < 0) || -delta ≤ u.usedQuota))
      (fun u => { u with
        usedQuota := u.usedQuota + delta
        requestCount := u.requestCount + countDelta })
      (DbError.message "user billing counter invariant failed")
    .ok { db with users := users }
  else .ok db

/-- The channel part of `updateBillingCountersTx`. -/
def countChannelUsageTx (db : Database) (channelID delta : Int) : Except DbError Database :=
  if 0 < channelID ∧ delta ≠ 0 then do
    let channels ← db.channels.updateOne
      (fun c => c.id = channelID && (!decide (delta < 0) || -delta ≤ c.usedQuota))
      (fun c => { c with usedQuota := c.usedQuota + delta })
      (DbError.message "channel billing counter invariant failed")
    .ok { db with channels := channels }
  else .ok db

/-- Whether a settlement to `targetQuota` counts the request of the ledger: the first positive one
does. -/
def BillingLedger.countDelta (l : BillingLedger) (targetQuota : Int) : Int :=
  if !l.requestCounted && decide (0 < targetQuota) then 1 else 0

/-- `updateBillingCountersTx`: bring the counters of the ledger's user and channel to
`targetQuota`. -/
def updateBillingCountersTx (db : Database) (ledger : BillingLedger) (targetQuota : Int) :
    Except DbError (Database × BillingLedger) := do
  let delta := targetQuota - ledger.countedQuota
  let countDelta := ledger.countDelta targetQuota
  let db ← countUserUsageTx db ledger.userID delta countDelta
  let db ← countChannelUsageTx db ledger.channelID delta
  .ok (db, { ledger with
    countedQuota := targetQuota
    requestCounted := ledger.requestCounted || countDelta = 1 })

/-- A user row after usage has been counted. -/
def User.countUsage (delta countDelta : Int) (u : User) : User :=
  { u with usedQuota := u.usedQuota + delta, requestCount := u.requestCount + countDelta }

/-- A channel row after usage has been counted. -/
def Channel.countUsage (delta : Int) (c : Channel) : Channel :=
  { c with usedQuota := c.usedQuota + delta }

@[simp] theorem User.countUsage_id : (u.countUsage d n).id = u.id := rfl
@[simp] theorem User.countUsage_quota : (u.countUsage d n).quota = u.quota := rfl
@[simp] theorem User.countUsage_usedQuota : (u.countUsage d n).usedQuota = u.usedQuota + d := rfl
@[simp] theorem User.countUsage_requestCount :
    (u.countUsage d n).requestCount = u.requestCount + n := rfl
@[simp] theorem Channel.countUsage_id : (c.countUsage d).id = c.id := rfl
@[simp] theorem Channel.countUsage_usedQuota : (c.countUsage d).usedQuota = c.usedQuota + d := rfl

theorem countUserUsageTx_eq_ok {countDelta : Int} :
    countUserUsageTx db userID delta countDelta = .ok db' ↔
      (delta = 0 ∧ countDelta = 0 ∧ db' = db) ∨
      ((delta ≠ 0 ∨ countDelta ≠ 0) ∧ ∃ u, db.users.find? userID = some u ∧ u.deleted = false ∧
        (delta < 0 → -delta ≤ u.usedQuota) ∧
        db' = { db with users := db.users.put (u.countUsage delta countDelta) }) := by
  unfold countUserUsageTx
  rw [← ite_not, skip_eq_ok, not_not, not_or, not_ne_iff, not_ne_iff, and_assoc]
  refine or_congr_right (and_congr_right fun _ => ?_)
  refine (updateOne_bind_eq_ok (k := userID) (q := fun u : User =>
    u.deleted = false ∧ (delta < 0 → -delta ≤ u.usedQuota)) fun u => ?_).trans ?_
  · simp [and_assoc, and_left_comm, imp_iff_not_or]
  · simp only [and_assoc]
    rfl

theorem countChannelUsageTx_eq_ok {channelID : Int} :
    countChannelUsageTx db channelID delta = .ok db' ↔
      (¬ (0 < channelID ∧ delta ≠ 0) ∧ db' = db) ∨
      ((0 < channelID ∧ delta ≠ 0) ∧ ∃ c, db.channels.find? channelID = some c ∧
        (delta < 0 → -delta ≤ c.usedQuota) ∧
        db' = { db with channels := db.channels.put (c.countUsage delta) }) := by
  unfold countChannelUsageTx
  rw [← ite_not, skip_eq_ok, not_not]
  refine or_congr_right (and_congr_right fun _ => ?_)
  refine updateOne_bind_eq_ok fun c => ?_
  simp [imp_iff_not_or]

end RenewApi.Billing
