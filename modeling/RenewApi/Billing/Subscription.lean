import RenewApi.Billing.Rows
import Mathlib.Data.List.Sort

/-! # Subscription quota

`model/subscription.go` and the subscription leg of `model/billing_ledger.go`: the periodic reset,
the reservation, the later adjustment, and the operations that end a subscription.

The calendar of Go's `time` package is a parameter (`Calendar`); durations are wrapping 64-bit
nanoseconds. -/

namespace RenewApi.Billing

open Relational

/-- `unicode.IsSpace`. -/
def isSpace (c : Char) : Bool :=
  c ∈ ['\t', '\n', '\x0b', '\x0c', '\r', ' ', '\u0085', '\u00a0', '\u1680', '\u2028', '\u2029',
    '\u202f', '\u205f', '\u3000'] || ('\u2000' ≤ c && c ≤ '\u200a')

/-- `strings.TrimSpace`. -/
def trimSpace (s : String) : String :=
  String.ofList ((s.toList.dropWhile isSpace).reverse.dropWhile isSpace).reverse

/-! ## Reset schedule -/

/-- The next calendar boundaries after a Unix time, in the location of the process. -/
structure Calendar where
  /-- `00:00` of the following day. -/
  nextMidnight : Int → Int
  /-- `00:00` of the following Monday. -/
  nextMonday : Int → Int
  /-- `00:00` of the first day of the following month. -/
  nextMonth : Int → Int

/-- A calendar in universal time with months of thirty days. -/
def sampleCalendar : Calendar :=
  { nextMidnight := fun t => (t / 86400 + 1) * 86400
    nextMonday := fun t => ((t / 86400 + 3) / 7 * 7 + 4) * 86400
    nextMonth := fun t => (t / 2592000 + 1) * 2592000 }

/-- The seconds by which `t.Add(time.Duration(seconds) * time.Second)` moves a whole-second `t`: the
product wraps in 64 bits, and the rest rounds down. -/
def secondsOfDuration (seconds : Int) : Int := (seconds * 1000000000).bmod (2 ^ 64) / 1000000000

section

variable (cal : Calendar) (base : Int) (plan : SubscriptionPlan)

/-- The end of the period of `base`. -/
def periodBoundary : Option Int :=
  match plan.quotaResetPeriod with
  | .never => none
  | .daily => some (cal.nextMidnight base)
  | .weekly => some (cal.nextMonday base)
  | .monthly => some (cal.nextMonth base)
  | .custom =>
    if plan.quotaResetCustomSeconds ≤ 0 then none
    else some (base + secondsOfDuration plan.quotaResetCustomSeconds)

/-- The next reset, `0` for none. -/
def calcNextResetTime (endUnix : Int) : Int :=
  match periodBoundary cal base plan with
  | none => 0
  | some next => if 0 < endUnix ∧ endUnix < next then 0 else next

end

variable (cal : Calendar)

/-- The loop `for next > 0 && next <= now` of `maybeResetUserSubscriptionWithPlanTx`: it moves the
base to the last boundary passed. `none` when the fuel runs out. -/
def catchUp (plan : SubscriptionPlan) (endUnix now : Int) :
    Nat → Int → Int → Bool → Option (Int × Int × Bool)
  | 0, _, _, _ => none
  | fuel + 1, base, next, advanced =>
    if 0 < next ∧ next ≤ now then
      catchUp plan endUnix now fuel next (calcNextResetTime cal next plan endUnix) true
    else some (base, next, advanced)

/-- Enough fuel for every loop that ends: a boundary moves by a second or more, and is bounded by
`now` or by `0`. -/
def catchUpFuel (base now : Int) : Nat := (max (now - base) base).toNat + 2

/-- What `maybeResetUserSubscriptionWithPlanTx` decides about a subscription. -/
inductive ResetDecision
  | keep
  /-- Store the schedule of a subscription that had none, usage unchanged. -/
  | schedule (last next : Int)
  | reset (last next : Int)
  | diverge
  deriving DecidableEq

/-- The decision of `maybeResetUserSubscriptionWithPlanTx`. -/
def resetDecision (now : Int) (sub : UserSubscription) (plan : SubscriptionPlan) :
    ResetDecision :=
  if 0 < sub.nextResetTime ∧ now < sub.nextResetTime then .keep
  else if plan.quotaResetPeriod = .never then .keep
  else
    let baseUnix := if sub.lastResetTime ≤ 0 then sub.startTime else sub.lastResetTime
    let next := calcNextResetTime cal baseUnix plan sub.endTime
    match catchUp cal plan sub.endTime now (catchUpFuel baseUnix now) baseUnix next false with
    | none => .diverge
    | some (base, next, true) => .reset base next
    | some (base, next, false) =>
      if sub.nextResetTime = 0 ∧ 0 < next then .schedule base next else .keep

/-- The row after a decision; a saved row gets a fresh `updated_at`. -/
def ResetDecision.apply (now : Int) (sub : UserSubscription) : ResetDecision → UserSubscription
  | .keep | .diverge => sub
  | .schedule last next =>
    { sub with lastResetTime := last, nextResetTime := next, updatedAt := now }
  | .reset last next =>
    { sub with amountUsed := 0, lastResetTime := last, nextResetTime := next, updatedAt := now }

/-- Whether a decision starts a new period. -/
def ResetDecision.resets : ResetDecision → Bool
  | .reset _ _ => true
  | .keep | .schedule _ _ | .diverge => false

@[simp] theorem ResetDecision.apply_id (now : Int) (sub : UserSubscription) (d : ResetDecision) :
    (d.apply now sub).id = sub.id := by
  cases d <;> rfl

/-- `maybeResetUserSubscriptionWithPlanTx`: the row is written back under its own id (`tx.Save`). -/
def maybeResetUserSubscriptionWithPlanTx (now : Int) (db : Database)
    (sub : UserSubscription) (plan : SubscriptionPlan) :
    Except DbError (Database × UserSubscription) :=
  match resetDecision cal now sub plan with
  | .diverge => .error .diverges
  | .keep => .ok (db, sub)
  | d => .ok ({ db with subscriptions := db.subscriptions.put (d.apply now sub) }, d.apply now sub)

/-! ## Reservation -/

/-- `getSubscriptionPlanByIdTx` inside a transaction (no cache). -/
def getSubscriptionPlanByIdTx (db : Database) (id : Int) : Except DbError SubscriptionPlan :=
  if id ≤ 0 then .error (.message "invalid plan id")
  else match db.plans.find? id with
    | none => .error .recordNotFound
    | some plan => .ok plan

/-- `ORDER BY end_time ASC, id ASC`. -/
def endsBefore (a b : UserSubscription) : Prop :=
  a.endTime < b.endTime ∨ (a.endTime = b.endTime ∧ a.id ≤ b.id)
  deriving Decidable

/-- The active, unexpired subscriptions of a user, soonest to end first. -/
def activeSubscriptions (db : Database) (now userID : Int) : List UserSubscription :=
  (db.subscriptions.select fun s =>
    s.userId = userID && s.status = .active && now < s.endTime).insertionSort endsBefore

def subscriptionInsufficient (amount : Int) : DbError :=
  .message ("subscription quota insufficient, need=" ++ toString amount)

/-- The record of a reservation. -/
def preConsumeRecord (now : Int) (requestID : String) (userID subscriptionID amount : Int) :
    SubscriptionPreConsumeRecord :=
  { requestId := requestID, userId := userID, userSubscriptionId := subscriptionID,
    preConsumed := amount, status := .consumed, createdAt := now, updatedAt := now }

/-- The charged row: usage grows by the amount. -/
def UserSubscription.charge (now amount : Int) (sub : UserSubscription) : UserSubscription :=
  { sub with amountUsed := sub.amountUsed + amount, updatedAt := now }

/-- The loop of `reserveSubscriptionQuotaTx`: reset each candidate if it is due, then charge the
first one with room. -/
def reserveFromSubscriptions (now : Int) (requestID : String)
    (userID amount : Int) :
    Database → List UserSubscription → Except DbError (Database × UserSubscription)
  | _, [] => .error (subscriptionInsufficient amount)
  | db, candidate :: rest => do
    let plan ← getSubscriptionPlanByIdTx db candidate.planId
    let (db, sub) ← maybeResetUserSubscriptionWithPlanTx cal now db candidate plan
    if 0 < sub.amountTotal ∧ sub.amountTotal < sub.amountUsed + amount then
      reserveFromSubscriptions now requestID userID amount db rest
    else if (db.preConsumeRecords.find? requestID).isSome then .error .duplicateKey
    else
      .ok ({ db with
              preConsumeRecords :=
                db.preConsumeRecords.insert (preConsumeRecord now requestID userID sub.id amount)
              subscriptions := db.subscriptions.put (sub.charge now amount) },
           sub.charge now amount)

/-- The subscriptions that the loop of `reserveSubscriptionQuotaTx` resets before it finds room. -/
def examinedResets (now amount : Int) (db : Database) :
    List UserSubscription → List Int
  | [] => []
  | candidate :: rest =>
    match getSubscriptionPlanByIdTx db candidate.planId with
    | .error _ => []
    | .ok plan =>
      let decision := resetDecision cal now candidate plan
      let sub := decision.apply now candidate
      let here := if decision.resets then [candidate.id] else []
      if 0 < sub.amountTotal ∧ sub.amountTotal < sub.amountUsed + amount then
        here ++ examinedResets now amount db rest
      else here

/-- Take the amount from the first subscription that has it. -/
def reserveSubscriptionQuotaTx (now : Int) (db : Database) (requestID : String)
    (userID amount : Int) : Except DbError (Database × UserSubscription) :=
  if amount ≤ 0 then .error (.message "subscription reservation must be positive")
  else
    reserveFromSubscriptions cal now requestID userID amount db (activeSubscriptions db now userID)

/-- Move the usage of a subscription. -/
def adjustSubscriptionQuotaTx (now : Int) (db : Database) (subscriptionID delta : Int) :
    Except DbError Database :=
  if subscriptionID ≤ 0 then .error (.message "subscription id is missing")
  else if delta = 0 then .ok db
  else match db.subscriptions.find? subscriptionID with
    | none => .error .recordNotFound
    | some sub =>
      let next := sub.amountUsed + delta
      if next < 0 then .error (.message "subscription refund invariant failed")
      else if 0 < sub.amountTotal ∧ sub.amountTotal < next then
        .error (.message ("subscription used exceeds total, used=" ++ toString next ++
          " total=" ++ toString sub.amountTotal))
      else .ok { db with subscriptions := db.subscriptions.put (sub.charge now delta) }

/-- The record of the request is refunded. -/
def markSubscriptionPreConsumeRefundedTx (now : Int) (db : Database) (requestID : String) :
    Database :=
  if trimSpace requestID = "" then db
  else { db with
    preConsumeRecords := db.preConsumeRecords.updateWhere
      (fun r => r.requestId = requestID && r.status ≠ .refunded)
      (fun r => { r with status := .refunded, updatedAt := now }) }

/-! ## Passes and administration -/

/-- One transaction of `ResetDueSubscriptionsContext`, for the subscription that the pass found due
at `now`: the row is read again under its lock, and what is gone or no longer due is skipped. -/
def resetDueSubscriptionTx (now : Int) (planId id : Int) (db : Database) :
    Except DbError (Database × Unit) :=
  match getSubscriptionPlanByIdTx db planId with
  | .error _ => .ok (db, ())
  | .ok plan =>
    match db.subscriptions.find? id with
    | none => .ok (db, ())
    | some locked =>
      if 0 < locked.nextResetTime ∧ locked.nextResetTime ≤ now then do
        let (db, _) ← maybeResetUserSubscriptionWithPlanTx cal now db locked plan
        .ok (db, ())
      else .ok (db, ())

/-- `getUserGroupByIdTx`: a missing or deleted user reads as the empty group. -/
def getUserGroupByIdTx (db : Database) (userId : Int) : Except DbError String :=
  if userId ≤ 0 then .error (.message "invalid userId")
  else match db.users.find? userId with
    | some u => .ok (if u.deleted then "" else u.group)
    | none => .ok ""

def setUserGroup (db : Database) (userId : Int) (group : String) : Database :=
  { db with
    users := db.users.updateWhere (fun u => !u.deleted && u.id = userId)
      (fun u => { u with group := group }) }

/-- `downgradeUserGroupForSubscriptionTx`: give the user back the group the subscription replaced,
unless another active one upgrades. -/
def downgradeUserGroupForSubscriptionTx (now : Int) (db : Database) (sub : UserSubscription) :
    Except DbError Database :=
  let upgradeGroup := trimSpace sub.upgradeGroup
  if upgradeGroup = "" then .ok db
  else do
    let currentGroup ← getUserGroupByIdTx db sub.userId
    let prevGroup := trimSpace sub.prevUserGroup
    if currentGroup ≠ upgradeGroup then .ok db
    else if db.subscriptions.count (fun s => s.userId = sub.userId && s.status = .active &&
        now < s.endTime && s.id ≠ sub.id && s.upgradeGroup ≠ "") ≠ 0 then .ok db
    else if prevGroup = "" ∨ prevGroup = currentGroup then .ok db
    else .ok (setUserGroup db sub.userId prevGroup)

/-- Cancel a subscription now. -/
def adminInvalidateUserSubscription (now id : Int) (db : Database) :
    Except DbError (Database × Unit) :=
  if id ≤ 0 then .error (.message "invalid userSubscriptionId")
  else match db.subscriptions.find? id with
    | none => .error .recordNotFound
    | some sub => do
      let sub := { sub with status := .cancelled, endTime := now, updatedAt := now }
      let db ← downgradeUserGroupForSubscriptionTx now
        { db with subscriptions := db.subscriptions.put sub } sub
      .ok (db, ())

/-- Delete a subscription. -/
def adminDeleteUserSubscription (now id : Int) (db : Database) : Except DbError (Database × Unit) :=
  if id ≤ 0 then .error (.message "invalid userSubscriptionId")
  else match db.subscriptions.find? id with
    | none => .error .recordNotFound
    | some sub => do
      let db ← downgradeUserGroupForSubscriptionTx now db sub
      .ok ({ db with subscriptions := db.subscriptions.deleteWhere (·.id = id) }, ())

variable {now id : Int} {db db' : Database} {u : Unit}

/-- **A cancellation that succeeds** marks the row it has found and then looks at the group. -/
theorem adminInvalidateUserSubscription_eq_ok
    (h : adminInvalidateUserSubscription now id db = .ok (db', u)) :
    ∃ sub cancelled, db.subscriptions.find? id = some sub ∧
      cancelled = { sub with status := .cancelled, endTime := now, updatedAt := now } ∧
      downgradeUserGroupForSubscriptionTx now
        { db with subscriptions := db.subscriptions.put cancelled } cancelled = .ok db' := by
  obtain ⟨-, h⟩ := guard_eq_ok.mp h
  cases hfind : db.subscriptions.find? id with
  | none => rw [hfind] at h; cases h
  | some sub =>
    rw [hfind] at h
    obtain ⟨db₁, hgroup, h⟩ := bind_eq_ok.mp h
    cases h
    exact ⟨sub, _, rfl, rfl, hgroup⟩

/-- **A deletion that succeeds** looks at the group first and then removes the row it has found. -/
theorem adminDeleteUserSubscription_eq_ok
    (h : adminDeleteUserSubscription now id db = .ok (db', u)) :
    ∃ sub db₁, db.subscriptions.find? id = some sub ∧
      downgradeUserGroupForSubscriptionTx now db sub = .ok db₁ ∧
      db' = { db₁ with subscriptions := db₁.subscriptions.deleteWhere (·.id = id) } := by
  obtain ⟨-, h⟩ := guard_eq_ok.mp h
  cases hfind : db.subscriptions.find? id with
  | none => rw [hfind] at h; cases h
  | some sub =>
    rw [hfind] at h
    obtain ⟨db₁, hgroup, h⟩ := bind_eq_ok.mp h
    cases h
    exact ⟨sub, db₁, rfl, hgroup, rfl⟩

/-- **What a downgrade does**: it restores the stored group, or there is a reason not to. -/
theorem downgradeUserGroupForSubscriptionTx_eq_ok {sub : UserSubscription}
    (h : downgradeUserGroupForSubscriptionTx now db sub = .ok db') :
    (trimSpace sub.upgradeGroup ≠ "" ∧ trimSpace sub.prevUserGroup ≠ "" ∧
        getUserGroupByIdTx db sub.userId = .ok (trimSpace sub.upgradeGroup) ∧
        db' = setUserGroup db sub.userId (trimSpace sub.prevUserGroup)) ∨
      (db' = db ∧ (trimSpace sub.upgradeGroup = "" ∨
        ∃ current, getUserGroupByIdTx db sub.userId = .ok current ∧
          (current ≠ trimSpace sub.upgradeGroup ∨
           (∃ s ∈ db.subscriptions.rows,
              s.userId = sub.userId ∧ s.status = .active ∧ s.upgradeGroup ≠ "" ∧ s.id ≠ sub.id) ∨
           trimSpace sub.prevUserGroup = "" ∨ trimSpace sub.prevUserGroup = current))) := by
  rcases skip_eq_ok.mp h with ⟨hup, rfl⟩ | ⟨hup, h⟩
  · exact .inr ⟨rfl, .inl hup⟩
  obtain ⟨current, hcurrent, h⟩ := bind_eq_ok.mp h
  rcases skip_eq_ok.mp h with ⟨hother, rfl⟩ | ⟨hother, h⟩
  · exact .inr ⟨rfl, .inr ⟨current, hcurrent, .inl hother⟩⟩
  rcases skip_eq_ok.mp h with ⟨hcount, rfl⟩ | ⟨-, h⟩
  · refine .inr ⟨rfl, .inr ⟨current, hcurrent, .inr (.inl ?_)⟩⟩
    obtain ⟨s, hs, hp⟩ := List.countP_pos_iff.mp (Nat.pos_of_ne_zero hcount)
    simp only [Bool.and_eq_true, decide_eq_true_eq] at hp
    exact ⟨s, hs, hp.1.1.1.1, hp.1.1.1.2, hp.2, hp.1.2⟩
  rcases skip_eq_ok.mp h with ⟨hprev, rfl⟩ | ⟨hprev, h⟩
  · exact .inr ⟨rfl, .inr ⟨current, hcurrent, .inr (.inr hprev)⟩⟩
  · exact .inl ⟨hup, fun hempty => hprev (.inl hempty), not_not.mp hother ▸ hcurrent,
      (Except.ok.inj h).symm⟩

/-- `ORDER BY end_time DESC, id DESC LIMIT 1`. -/
def latestEnding (subs : List UserSubscription) : Option UserSubscription :=
  (subs.insertionSort endsBefore).getLast?

/-- The group change of one user in `ExpireDueSubscriptionsContext`, after the due rows have been
marked: no change while an active subscription upgrades, else the group that the last expired one
replaced. -/
def downgradeAfterExpiry (now userId : Int) (db : Database) : Except DbError Database :=
  if db.subscriptions.count (fun s => s.userId = userId && s.status = .active &&
      now < s.endTime && s.upgradeGroup ≠ "") ≠ 0 then .ok db
  else match latestEnding (db.subscriptions.select fun s =>
      s.userId = userId && s.status = .expired && s.upgradeGroup ≠ "") with
    | none => .ok db
    | some lastExpired =>
      let upgradeGroup := trimSpace lastExpired.upgradeGroup
      let prevGroup := trimSpace lastExpired.prevUserGroup
      if upgradeGroup = "" ∨ prevGroup = "" then .ok db
      else do
        let currentGroup ← getUserGroupByIdTx db userId
        if currentGroup ≠ upgradeGroup ∨ currentGroup = prevGroup then .ok db
        else .ok (setUserGroup db userId prevGroup)

/-- End the due subscriptions of a user. -/
def expireUserSubscriptionsTx (now userId : Int) (db : Database) : Except DbError (Database × Unit) :=
  do
    let expired := db.subscriptions.updateWhere
      (fun s => s.userId = userId && s.status = .active && 0 < s.endTime && s.endTime ≤ now)
      (fun s => { s with status := .expired, updatedAt := now })
    let db ← downgradeAfterExpiry now userId { db with subscriptions := expired }
    .ok (db, ())

end RenewApi.Billing
