import RenewApi.Billing.Reservation

/-! # The outcome of a ledger operation

Every call leaves the books alone, rewrites the ledger it addresses, or books a new reservation
(`LedgerOp.exec_outcome`). The invariants of the ledger are case analyses on this statement. -/

namespace RenewApi.Billing

open Relational LedgerOp

variable {op : LedgerOp} {id : Nat} {l l' : BillingLedger} {desired : DesiredState}
  {target now : Int} {hook : BeforeSave} {db : Database} {cal : Calendar}

/-- The quota a call wants to bring its ledger to. -/
def LedgerOp.targetQuota : LedgerOp → Int
  | .reserve input => input.quota
  | .reserveMore _ target | .acknowledge _ target _ | .settle _ target _
  | .settleWithTask _ target _ | .settleWithMidjourney _ target _ | .replay _ _ _ target _
  | .markReconcileRetry _ _ _ target _ | .markForReconcile _ _ target _ _
  | .updateTask _ _ _ target _ | .updateMidjourney _ _ _ target _ => target
  | .bind _ _ | .refund _ _ | .refundStaleReserved _ _ _ _ _ | .markStaleReserved _ _ _ _ _ => 0

/-- The ledger a call addresses. A task that does not name its ledger is looked up. -/
def LedgerOp.ledger? (db : Database) : LedgerOp → Option Nat
  | .reserve input =>
    (db.ledgers.rows.find? fun l => l.requestID = trimSpace input.requestID).map BillingLedger.id
  | .reserveMore id _ | .bind id _ | .acknowledge id _ _ | .settle id _ _ | .settleWithTask id _ _
  | .settleWithMidjourney id _ _ | .refund id _ | .refundStaleReserved id _ _ _ _
  | .markStaleReserved id _ _ _ _ | .replay id _ _ _ _ | .markReconcileRetry id _ _ _ _
  | .markForReconcile id _ _ _ _ => some id
  | .updateTask task _ _ _ _ =>
    if task.billingLedgerID = 0 then (db.tasks.find? task.id).map Task.billingLedgerID
    else some task.billingLedgerID
  | .updateMidjourney task _ _ _ _ =>
    if task.billingLedgerID = 0 then (db.midjourneys.find? task.id).map Midjourney.billingLedgerID
    else some task.billingLedgerID

section

variable (cal : Calendar) (now : Int)

def LedgerOp.resets (db : Database) : LedgerOp → List Int
  | .reserve input =>
    match reserveBillingLedger cal now input db with
    | .ok (_, result) => if result.alreadyReserved then [] else input.resets cal now db
    | .error _ => []
  | _ => []

/-- **The life cycle of a ledger**: where a call takes the ledger that it rewrites, and from which
states. -/
def LedgerOp.leads (l l' : BillingLedger) : LedgerOp → Prop
  | .reserve _ => False
  | .reserveMore _ _ | .bind _ _ => l.state = .reserved ∧ l'.state = .reserved
  | .acknowledge _ _ _ => l'.state = .reconcileRequired ∧ l'.desiredState = .settle
  | .settle _ _ _ | .settleWithTask _ _ _ | .settleWithMidjourney _ _ _ => l'.state = .settled
  | .refund _ _ => l'.state = .refunded
  | .refundStaleReserved _ _ _ _ _ => l.state = .reserved ∧ l'.state = .refunded
  | .markStaleReserved _ _ _ _ _ =>
    l.state = .reserved ∧ l'.state = .reconcileRequired ∧ l'.desiredState = .refund
  | .replay _ _ desired _ _ =>
    l.state = .reconcileRequired ∧ l.desiredState = desired ∧ l'.state = desired.reached
  | .markReconcileRetry _ _ desired _ _ =>
    l.state = .reconcileRequired ∧ l.desiredState = desired ∧
      l'.state = .reconcileRequired ∧ l'.desiredState = desired
  | .markForReconcile _ desired _ _ _ =>
    l'.state = .reconcileRequired ∧ l'.desiredState = desired
  | .updateTask _ _ desired _ _ | .updateMidjourney _ _ desired _ _ =>
    (desired = .settle ∨ desired = .refund) ∧ l'.state = desired.reached

/-- **What a call can do to the books.** -/
inductive LedgerOutcome (db db' : Database) (op : LedgerOp) : Prop
  | quiet (ledgers : db'.ledgers = db.ledgers) (charged : db'.charged = db.charged)
  | rewrite (l l' : BillingLedger) (target : op.ledger? db = some l.id) (leads : op.leads l l')
      (h : LedgerRewrite db db' l l' op.targetQuota)
  | create (input : BillingReservation) (l : BillingLedger) (hop : op = .reserve input)
      (unknown : op.ledger? db = none) (resets : op.resets cal now db = input.resets cal now db)
      (h : LedgerCreate cal now db db' input l)

theorem LedgerOutcome.refl (db : Database) (op : LedgerOp) : LedgerOutcome cal now db db op :=
  .quiet rfl rfl

end

/-! ## The operations one by one -/

theorem lockBillingLedgerTx_eq_ok :
    lockBillingLedgerTx db id = .ok l ↔ id ≠ 0 ∧ db.ledgers.find? id = some l := by
  unfold lockBillingLedgerTx
  rw [guard_eq_ok]
  cases hfind : db.ledgers.find? id <;> simp

theorem find?_of_lock (h : lockBillingLedgerTx db id = .ok l) :
    l.id = id ∧ db.ledgers.find? l.id = some l := by
  have hfind := (lockBillingLedgerTx_eq_ok.mp h).2
  have hid : l.id = id := Table.key_of_find? hfind
  exact ⟨hid, hid ▸ hfind⟩

section

variable {cal : Calendar} {now : Int} {db' : Database} {changed : Bool} {task : Option Task}
  {task' : Task} {quota version cutoff : Int} {kind : LedgerKind} {reason : String}
  {cause : Option String} {u : Unit}

theorem outcome_reserve {input : BillingReservation} {result : BillingReservationResult}
    (h : reserveBillingLedger cal now input db = .ok (db', result)) :
    LedgerOutcome cal now db db' (.reserve input) := by
  rcases reserveBillingLedger_eq_ok h with ⟨-, rfl, -⟩ | ⟨hnew, hunknown, hcreate⟩
  · exact .refl cal now db' _
  · refine .create input result.ledger rfl ?_ ?_ hcreate
    · rw [ledger?, hunknown]; rfl
    · rw [resets, h]
      dsimp only
      rw [if_neg (by simp [hnew])]

section

variable (h : reserveMoreBillingLedger now id target db = .ok (db', l'))
include h

/-- `ReserveMoreBillingLedger` leaves a reservation that is large enough alone and charges the
difference to any other. -/
theorem reserveMoreBillingLedger_eq_ok :
    0 ≤ target ∧ ∃ l, lockBillingLedgerTx db id = .ok l ∧ l.state = .reserved ∧
      ((target ≤ l.appliedQuota ∧ db' = db) ∨
       (l.appliedQuota < target ∧ ∃ db₁ funding subscription token, BalanceLeg now db l target db₁ ∧
        l' = { l with
          fundingState := funding, subscriptionState := subscription, tokenState := token
          reservedQuota := target, appliedQuota := target, desiredQuota := target
          version := l.version + 1, updatedAt := now } ∧
        db' = enqueueBillingOutboxTx now (saveLedger db₁ l') l' (.state .reserved))) := by
  obtain ⟨hnonneg, h⟩ := guard_eq_ok.mp h
  obtain ⟨l, hlock, h⟩ := bind_eq_ok.mp h
  obtain ⟨hstate, h⟩ := guard_eq_ok.mp h
  refine ⟨not_lt.mp hnonneg, l, hlock, not_not.mp hstate, ?_⟩
  rcases skip_eq_ok.mp h with ⟨hle, ⟨⟩⟩ | ⟨hle, h⟩
  · exact .inl ⟨hle, rfl⟩
  refine .inr ⟨not_le.mp hle, ?_⟩
  cases hmode : l.mode.appliesBalances with
  | false =>
    rw [if_neg (by simp [hmode])] at h
    obtain ⟨⟨db₁, l₁⟩, hok, h⟩ := bind_eq_ok.mp h
    cases hok
    cases h
    exact ⟨db, _, _, _, .inl ⟨hmode, rfl⟩, rfl, rfl⟩
  | true =>
    rw [if_pos hmode] at h
    obtain ⟨db₁, hadjust, h⟩ := bind_eq_ok.mp h
    obtain ⟨⟨db₂, l₁⟩, hok, h⟩ := bind_eq_ok.mp h
    cases hok
    cases h
    exact ⟨db₁, _, _, _, .inr ⟨hmode, hadjust⟩, rfl, rfl⟩

theorem outcome_reserveMore : LedgerOutcome cal now db db' (.reserveMore id target) := by
  obtain ⟨-, l, hlock, hstate, ⟨-, rfl⟩ | ⟨-, db₁, _, _, _, hleg, rfl, rfl⟩⟩ :=
    reserveMoreBillingLedger_eq_ok h
  · exact .refl cal now db' _
  obtain ⟨hid, hfind⟩ := find?_of_lock hlock
  exact .rewrite l _ (by rw [hid]; rfl) (by exact ⟨hstate, hstate⟩) (LedgerRewrite.of_leg hleg hfind
    rfl rfl rfl (by rw [hstate]; decide) rfl rfl rfl rfl rfl)

end

section

variable (h : bindBillingLedgerTask now id task db = .ok (db', task'))
include h

/-- `BindBillingLedgerTask` returns the task a reservation already has, or persists a new one with
it. -/
theorem bindBillingLedgerTask_eq_ok :
    ∃ t l, task = some t ∧ lockBillingLedgerTx db id = .ok l ∧ l.state = .reserved ∧
      ((∃ existing, db.tasks.rows.find? (·.billingLedgerID = id) = some existing ∧
          db' = db ∧ task' = { t with id := existing.id }) ∨
       (db.tasks.rows.find? (·.billingLedgerID = id) = none ∧ ∃ db₁,
          createTask now (saveLedger db { l with
            kind := .task, version := l.version + 1, updatedAt := now }) { t with
              billingLedgerID := l.id, billingState := some l.state
              billingVersion := l.version + 1, quota := l.appliedQuota } = .ok (db₁, task') ∧
          db' = enqueueBillingOutboxTx now db₁ { l with
            kind := .task, version := l.version + 1, updatedAt := now } .taskBound)) := by
  cases task with
  | none => cases h
  | some t =>
    obtain ⟨l, hlock, h⟩ := bind_eq_ok.mp h
    obtain ⟨hstate, h⟩ := guard_eq_ok.mp h
    refine ⟨t, l, rfl, hlock, not_not.mp hstate, ?_⟩
    cases hexisting : db.tasks.rows.find? (·.billingLedgerID = id) with
    | some existing =>
      rw [hexisting] at h
      cases h
      exact .inl ⟨existing, rfl, rfl, rfl⟩
    | none =>
      rw [hexisting] at h
      obtain ⟨⟨db₁, t₁⟩, hcreate, h⟩ := bind_eq_ok.mp h
      cases h
      exact .inr ⟨rfl, db₁, hcreate, rfl⟩

theorem outcome_bind : LedgerOutcome cal now db db' (.bind id task) := by
  obtain ⟨t, l, -, hlock, hstate, ⟨-, -, rfl, -⟩ | ⟨-, db₁, hcreate, rfl⟩⟩ :=
    bindBillingLedgerTask_eq_ok h
  · exact .refl cal now db' _
  obtain ⟨hid, hfind⟩ := find?_of_lock hlock
  obtain ⟨-, rfl, -⟩ := createTask_eq_ok hcreate
  exact .rewrite l _ (by rw [hid]; rfl) (by exact ⟨hstate, hstate⟩) (LedgerRewrite.of_charged hfind
    rfl rfl rfl (by rw [hstate]; decide) rfl rfl rfl rfl (.inl rfl))

end

section

variable (h : acknowledgeBillingLedgerTask now id target task db = .ok (db', l', task'))
include h

/-- `AcknowledgeBillingLedgerTask` merges the accepted task into its row and opens the ledger for
settlement, unless it is settled at the target. -/
theorem acknowledgeBillingLedgerTask_eq_ok :
    ∃ t l current, task = some t ∧ lockBillingLedgerTx db id = .ok l ∧ l.state ≠ .refunded ∧
      db.tasks.find? t.id = some current ∧ current.billingLedgerID = id ∧
      task' = { mergeAcknowledgement now target l.id current t with
        billingState := some l'.state, billingVersion := l'.version } ∧
      ((l.state = .settled ∧ l.appliedQuota = target ∧ l' = l ∧
          db' = { db with tasks := db.tasks.put task' }) ∨
       (¬ (l.state = .settled ∧ l.appliedQuota = target) ∧
          l' = { l with
            kind := .task, state := .reconcileRequired, desiredState := .settle
            desiredQuota := target, nextRetryAt := now
            lastError := "upstream task accepted; settlement pending"
            version := l.version + 1, updatedAt := now } ∧
          db' = saveLedger { db with tasks := db.tasks.put task' } l')) := by
  unfold acknowledgeBillingLedgerTask at h
  cases task with
  | none => cases h
  | some t =>
    rw [guard_eq_ok, guard_eq_ok] at h
    obtain ⟨-, -, h⟩ := h
    obtain ⟨l, hlock, h⟩ := bind_eq_ok.mp h
    obtain ⟨hlive, h⟩ := guard_eq_ok.mp h
    cases hcurrent : db.tasks.find? t.id with
    | none => rw [hcurrent] at h; cases h
    | some current =>
      rw [hcurrent] at h
      obtain ⟨hbound, h⟩ := guard_eq_ok.mp h
      refine ⟨t, l, current, rfl, hlock, hlive, hcurrent, not_not.mp hbound, ?_⟩
      split_ifs at h with hdone
      · cases h
        exact ⟨rfl, .inl ⟨hdone.1, hdone.2, rfl, rfl⟩⟩
      · cases h
        exact ⟨rfl, .inr ⟨hdone, rfl, rfl⟩⟩

theorem outcome_acknowledge : LedgerOutcome cal now db db' (.acknowledge id target task) := by
  obtain ⟨t, l, current, -, hlock, hlive, -, -, -, ⟨-, -, -, rfl⟩ | ⟨-, rfl, rfl⟩⟩ :=
    acknowledgeBillingLedgerTask_eq_ok h
  · exact .quiet rfl rfl
  · obtain ⟨hid, hfind⟩ := find?_of_lock hlock
    exact .rewrite l _ (by rw [hid]; rfl) ⟨rfl, rfl⟩ (LedgerRewrite.of_charged hfind rfl rfl rfl hlive
      rfl rfl rfl rfl (.inl rfl))

end

/-- `SettleBillingLedgerWithTask` leaves the database its transaction leaves, whatever the caller is
told. -/
theorem settleBillingLedgerWithTask_fst (id : Nat) (target : Int) (t : Task) :
    (settleBillingLedgerWithTask now id target (some t) db).1
      = (transaction (mutateBillingLedger now id .settle target (createTaskHook now target t))
          db).1 := by
  unfold settleBillingLedgerWithTask
  dsimp only
  split
  · next heq => rw [heq]
  · next heq => rw [heq]; split <;> rfl

theorem settleBillingLedgerWithMidjourney_fst (id : Nat) (target : Int) (t : Midjourney) :
    (settleBillingLedgerWithMidjourney now id target (some t) db).1
      = (transaction (mutateBillingLedger now id .settle target (createMidjourneyHook target t))
          db).1 := by
  unfold settleBillingLedgerWithMidjourney
  dsimp only
  split
  · next heq => rw [heq]
  · next heq => rw [heq]; split <;> rfl

/-- `RefundStaleReservedBillingLedgerContext` refunds the reservation that was listed, or does
nothing. -/
theorem refundStaleReservedBillingLedger_eq_ok
    (h : refundStaleReservedBillingLedger now id kind version cutoff reason db = .ok (db', changed)) :
    db' = db ∨ ∃ l l', lockBillingLedgerTx db id = .ok l ∧ staleReservation l kind version cutoff ∧
      mutateLockedBillingLedgerTx now db l .refund 0 (refundHook now reason)
        = .ok (db', l', changed) := by
  obtain ⟨l, hlock, h⟩ := bind_eq_ok.mp h
  rcases skip_eq_ok.mp h with ⟨-, ⟨⟩⟩ | ⟨hstale, h⟩
  · exact .inl rfl
  obtain ⟨⟨db₁, l₁, changed₁⟩, hmutate, h⟩ := bind_eq_ok.mp h
  cases h
  exact .inr ⟨l, l₁, hlock, not_not.mp hstale, hmutate⟩

/-- `MarkStaleReservedBillingLedgerForReconcileContext` marks the reservation that was listed, or
does nothing. -/
theorem markStaleReservedBillingLedgerForReconcile_eq_ok
    (h : markStaleReservedBillingLedgerForReconcile now id kind version cutoff cause db
      = .ok (db', u)) :
    db' = db ∨ ∃ l, lockBillingLedgerTx db id = .ok l ∧ staleReservation l kind version cutoff ∧
      db' = saveReconcile now db (l.requireReconcile now .refund 0 (causeMessage cause)) := by
  obtain ⟨l, hlock, h⟩ := bind_eq_ok.mp h
  rcases skip_eq_ok.mp h with ⟨-, ⟨⟩⟩ | ⟨hstale, h⟩
  · exact .inl rfl
  cases h
  exact .inr ⟨l, hlock, not_not.mp hstale, rfl⟩

/-- `ReplayBillingLedgerReconcileContext` runs the transition the ledger waits for, or does
nothing. -/
theorem replayBillingLedgerReconcile_eq_ok
    (h : replayBillingLedgerReconcile now id version desired target reason db = .ok (db', changed)) :
    db' = db ∨ ∃ l l', lockBillingLedgerTx db id = .ok l ∧ awaitsReconcile l version desired target ∧
      mutateLockedBillingLedgerTx now db l desired target
        (if desired = .refund then refundHook now reason else fun db ledger => .ok (db, ledger))
          = .ok (db', l', changed) := by
  unfold replayBillingLedgerReconcile at h
  rw [guard_eq_ok] at h
  obtain ⟨l, hlock, h⟩ := bind_eq_ok.mp h.2
  rcases skip_eq_ok.mp h with ⟨-, ⟨⟩⟩ | ⟨hawaits, h⟩
  · exact .inl rfl
  obtain ⟨⟨db₁, l₁, changed₁⟩, hmutate, h⟩ := bind_eq_ok.mp h
  cases h
  exact .inr ⟨l, l₁, hlock, not_not.mp hawaits, hmutate⟩

/-- `MarkBillingLedgerReconcileRetryContext` marks the ledger that still waits, or does nothing. -/
theorem markBillingLedgerReconcileRetry_eq_ok
    (h : markBillingLedgerReconcileRetry now id version desired quota cause db = .ok (db', changed)) :
    db' = db ∨ ∃ l, lockBillingLedgerTx db id = .ok l ∧ awaitsReconcile l version desired quota ∧
      db' = saveReconcile now db (l.requireReconcile now desired quota (causeMessage cause)) := by
  unfold markBillingLedgerReconcileRetry at h
  rcases skip_eq_ok.mp h with ⟨-, ⟨⟩⟩ | ⟨-, h⟩
  · exact .inl rfl
  obtain ⟨l, hlock, h⟩ := bind_eq_ok.mp h
  rcases skip_eq_ok.mp h with ⟨-, ⟨⟩⟩ | ⟨hawaits, h⟩
  · exact .inl rfl
  cases h
  exact .inr ⟨l, hlock, not_not.mp hawaits, rfl⟩

/-- `MarkBillingLedgerForReconcile` leaves a ledger alone that is where it should be, and marks any
other; only a settlement may bind its channel. -/
theorem markBillingLedgerForReconcile_eq_ok {selected : List Int}
    (h : markBillingLedgerForReconcile now id desired quota cause selected db = .ok (db', u)) :
    db' = db ∨ ∃ l l₁, lockBillingLedgerTx db id = .ok l ∧ l.state ≠ .refunded ∧
      ¬ (l.state = .settled ∧ desired = .settle ∧ l.appliedQuota = quota) ∧
      (if desired = .settle then assignBillingSettlementChannel l selected else .ok l) = .ok l₁ ∧
      (∃ channel, l₁ = { l with channelID := channel }) ∧
      (l₁.channelID = l.channelID ∨ (l.requestCounted = false ∧ l.countedQuota = 0)) ∧
      db' = saveReconcile now db (l₁.requireReconcile now desired quota (causeMessage cause)) := by
  unfold markBillingLedgerForReconcile at h
  rcases skip_eq_ok.mp h with ⟨-, ⟨⟩⟩ | ⟨-, h⟩
  · exact .inl rfl
  obtain ⟨l, hlock, h⟩ := bind_eq_ok.mp h
  rcases skip_eq_ok.mp h with ⟨-, ⟨⟩⟩ | ⟨hdone, h⟩
  · exact .inl rfl
  rw [not_or] at hdone
  refine .inr ⟨l, ?_⟩
  by_cases hsettle : desired = .settle
  · rw [if_pos hsettle] at h
    obtain ⟨l₁, hassign, h⟩ := bind_eq_ok.mp h
    cases h
    obtain ⟨hchannel, hkeep⟩ := assignBillingSettlementChannel_eq_ok hassign
    exact ⟨l₁, hlock, hdone.1, hdone.2, by rw [if_pos hsettle, hassign], hchannel, hkeep, rfl⟩
  · rw [if_neg hsettle] at h
    obtain ⟨l₁, hok, h⟩ := bind_eq_ok.mp h
    obtain rfl := Except.ok.inj hok
    cases h
    exact ⟨l, hlock, hdone.1, hdone.2, if_neg hsettle, ⟨_, rfl⟩, .inl rfl, rfl⟩

/-- **`UpdateTaskWithBilling`, case by case**: the race is lost; the task has no ledger; the ledger
is where it should be; or ledger and task moved together. -/
theorem updateTaskWithBilling_eq_ok {task : Task} {fromStatus : TaskStatus}
    {result : TaskTransition Task}
    (h : updateTaskWithBilling now task fromStatus desired target reason db = .ok (db', result)) :
    ∃ current bound, db.tasks.find? task.id = some current ∧
      bound = task.boundTo current ∧
      ((current.status ≠ fromStatus ∧ db' = db ∧ result = ⟨false, none, task⟩) ∨
       (bound.billingLedgerID = 0 ∧ updateTaskRow now db bound fromStatus = .ok db' ∧
          result = ⟨true, none, bound⟩) ∨
       (∃ l written, lockBillingLedgerTx db bound.billingLedgerID = .ok l ∧
          terminalLedgerMatches l desired target ∧ result = ⟨true, some l, written⟩ ∧
          written = bound.besides l desired target ∧
          updateTaskRow now db written fromStatus = .ok db') ∨
       (∃ l saved, lockBillingLedgerTx db bound.billingLedgerID = .ok l ∧
          ¬ terminalLedgerMatches l desired target ∧
          result = ⟨true, some saved, bound.inTransition l desired target⟩ ∧
          mutateLockedBillingLedgerTx now db l desired target
            (updateTaskHook now bound fromStatus desired target reason) = .ok (db', saved, true))) := by
  obtain ⟨-, h⟩ := guard_eq_ok.mp h
  cases hcurrent : db.tasks.find? task.id with
  | none => rw [hcurrent] at h; cases h
  | some current =>
    rw [hcurrent] at h
    dsimp only at h
    refine ⟨current, _, rfl, rfl, ?_⟩
    rcases skip_eq_ok.mp h with ⟨hlost, ⟨⟩⟩ | ⟨-, h⟩
    · exact .inl ⟨hlost, rfl, rfl⟩
    by_cases h0 : (task.boundTo current).billingLedgerID = 0
    · rw [if_pos h0] at h
      obtain ⟨db₁, hrow, h⟩ := bind_eq_ok.mp h
      cases h
      exact .inr (.inl ⟨h0, hrow, rfl⟩)
    rw [if_neg h0] at h
    obtain ⟨l, hlock, h⟩ := bind_eq_ok.mp h
    by_cases hmatch : terminalLedgerMatches l desired target
    · rw [if_pos hmatch] at h
      obtain ⟨db₁, hrow, h⟩ := bind_eq_ok.mp h
      cases h
      exact .inr (.inr (.inl ⟨l, _, hlock, hmatch, rfl, rfl, hrow⟩))
    · rw [if_neg hmatch] at h
      obtain ⟨⟨db₁, saved, changed⟩, hmutate, h⟩ := bind_eq_ok.mp h
      cases changed with
      | false =>
        cases h
      | true =>
        cases h
        exact .inr (.inr (.inr ⟨l, saved, hlock, hmatch, rfl, hmutate⟩))

/-- **`UpdateMidjourneyWithBilling`, case by case**: no ledger was touched, or ledger and task moved
together. -/
theorem updateMidjourneyWithBilling_eq_ok {task : Midjourney} {fromStatus : String}
    {result : TaskTransition Midjourney}
    (h : updateMidjourneyWithBilling now task fromStatus desired target reason db
      = .ok (db', result)) :
    ∃ current bound, db.midjourneys.find? task.id = some current ∧
      bound = task.boundTo current ∧
      ((∃ midjourneys, db' = { db with midjourneys := midjourneys }) ∨
       (∃ l saved changed, lockBillingLedgerTx db bound.billingLedgerID = .ok l ∧
          mutateLockedBillingLedgerTx now db l desired target
            (updateMidjourneyHook bound fromStatus desired target reason)
              = .ok (db', saved, changed))) := by
  obtain ⟨-, h⟩ := guard_eq_ok.mp h
  cases hcurrent : db.midjourneys.find? task.id with
  | none => rw [hcurrent] at h; cases h
  | some current =>
    rw [hcurrent] at h
    dsimp only at h
    refine ⟨current, _, rfl, rfl, ?_⟩
    rcases skip_eq_ok.mp h with ⟨-, ⟨⟩⟩ | ⟨-, h⟩
    · exact .inl ⟨_, rfl⟩
    by_cases h0 : (task.boundTo current).billingLedgerID = 0
    · rw [if_pos h0] at h
      obtain ⟨db₁, hrow, h⟩ := bind_eq_ok.mp h
      cases h
      exact .inl (updateMidjourneyRow_eq_ok hrow)
    rw [if_neg h0] at h
    obtain ⟨l, hlock, h⟩ := bind_eq_ok.mp h
    by_cases hmatch : terminalLedgerMatches l desired target
    · rw [if_pos hmatch] at h
      obtain ⟨db₁, hrow, h⟩ := bind_eq_ok.mp h
      cases h
      exact .inl (updateMidjourneyRow_eq_ok hrow)
    · rw [if_neg hmatch] at h
      obtain ⟨⟨db₁, saved, changed⟩, hmutate, h⟩ := bind_eq_ok.mp h
      rw [guard_eq_ok] at h
      obtain ⟨rfl, -⟩ := ok_inj h.2
      exact .inr ⟨l, saved, changed, hlock, hmutate⟩

end

/-! ## What a call does -/

/-- **The calls that move a ledger** through `mutateLockedBillingLedgerTx`: where to, and with which
hook. -/
inductive LedgerOp.Transits (now : Int) (db : Database) (l : BillingLedger) :
    LedgerOp → DesiredState → Int → BeforeSave → Prop
  | settle (target : Int) (selected : List Int) :
      Transits now db l (.settle l.id target selected) .settle target (assignChannelHook selected)
  | settleWithTask (target : Int) (task : Task) :
      Transits now db l (.settleWithTask l.id target (some task)) .settle target
        (createTaskHook now target task)
  | settleWithMidjourney (target : Int) (task : Midjourney) :
      Transits now db l (.settleWithMidjourney l.id target (some task)) .settle target
        (createMidjourneyHook target task)
  | refund (reason : String) :
      Transits now db l (.refund l.id reason) .refund 0 (refundHook now reason)
  | refundStaleReserved {kind version cutoff} (reason : String)
      (stale : staleReservation l kind version cutoff) :
      Transits now db l (.refundStaleReserved l.id kind version cutoff reason) .refund 0
        (refundHook now reason)
  | replay {version target desired} (reason : String)
      (awaits : awaitsReconcile l version desired target) :
      Transits now db l (.replay l.id version desired target reason) desired target
        (if desired = .refund then refundHook now reason else fun db ledger => .ok (db, ledger))
  | updateTask {task current bound : Task} (fromStatus : TaskStatus) (desired : DesiredState)
      (target : Int) (reason : String) (found : db.tasks.find? task.id = some current)
      (bound_eq : bound = task.boundTo current) (ledger : l.id = bound.billingLedgerID) :
      Transits now db l (.updateTask task fromStatus desired target reason) desired target
        (updateTaskHook now bound fromStatus desired target reason)
  | updateMidjourney {task current bound : Midjourney} (fromStatus : String) (desired : DesiredState)
      (target : Int) (reason : String) (found : db.midjourneys.find? task.id = some current)
      (bound_eq : bound = task.boundTo current) (ledger : l.id = bound.billingLedgerID) :
      Transits now db l (.updateMidjourney task fromStatus desired target reason) desired target
        (updateMidjourneyHook bound fromStatus desired target reason)

/-- **The calls that mark a ledger for reconciliation**, and what for. -/
inductive LedgerOp.Marks (l : BillingLedger) : LedgerOp → DesiredState → Int → Prop
  | markStaleReserved {kind version cutoff} (cause : Option String)
      (stale : staleReservation l kind version cutoff) :
      Marks l (.markStaleReserved l.id kind version cutoff cause) .refund 0
  | markReconcileRetry {version quota desired} (cause : Option String)
      (awaits : awaitsReconcile l version desired quota) :
      Marks l (.markReconcileRetry l.id version desired quota cause) desired quota
  | markForReconcile (desired : DesiredState) (quota : Int) (cause : Option String)
      (selected : List Int) : Marks l (.markForReconcile l.id desired quota cause selected) desired quota

/-- **What a call does**, in terms of the functions that the calls share. -/
inductive LedgerOp.Work (cal : Calendar) (now : Int) (db : Database) : LedgerOp → Database → Prop
  | nothing (op : LedgerOp) : Work cal now db op db
  | reserve {input db' result} (h : reserveBillingLedger cal now input db = .ok (db', result)) :
      Work cal now db (.reserve input) db'
  | reserveMore {id target db' l'} (h : reserveMoreBillingLedger now id target db = .ok (db', l')) :
      Work cal now db (.reserveMore id target) db'
  | bind {id task db' task'} (h : bindBillingLedgerTask now id task db = .ok (db', task')) :
      Work cal now db (.bind id task) db'
  | acknowledge {id target task db' l' task'}
      (h : acknowledgeBillingLedgerTask now id target task db = .ok (db', l', task')) :
      Work cal now db (.acknowledge id target task) db'
  | transition {op l l' desired target hook changed db'}
      (kind : op.Transits now db l desired target hook) (locked : lockBillingLedgerTx db l.id = .ok l)
      (h : mutateLockedBillingLedgerTx now db l desired target hook = .ok (db', l', changed)) :
      Work cal now db op db'
  | mark {op l desired quota channel message} (kind : op.Marks l desired quota)
      (found : db.ledgers.find? l.id = some l)
      (live : l.state ≠ .refunded) (hchannel : channel = l.channelID ∨ l.countedQuota = 0) :
      Work cal now db op (saveReconcile now db
        (BillingLedger.requireReconcile { l with channelID := channel } now desired quota message))
  | taskRow {task current bound written fromStatus desired target reason db'}
      (found : db.tasks.find? task.id = some current)
      (bound_eq : bound = task.boundTo current)
      (written_eq : written = bound ∧ bound.billingLedgerID = 0 ∨
        ∃ l, lockBillingLedgerTx db bound.billingLedgerID = .ok l ∧
          terminalLedgerMatches l desired target ∧ written = bound.besides l desired target)
      (row : updateTaskRow now db written fromStatus = .ok db') :
      Work cal now db (.updateTask task fromStatus desired target reason) db'
  | midjourneys {task fromStatus desired target reason} (midjourneys : Table Midjourney) :
      Work cal now db (.updateMidjourney task fromStatus desired target reason)
        { db with midjourneys := midjourneys }

theorem work_transaction {α : Type} {tx : Database → Except DbError (Database × α)}
    (h : ∀ db' a, tx db = .ok (db', a) → op.Work cal now db db') :
    op.Work cal now db (transaction tx db).1 :=
  transaction_cases (P := op.Work cal now db) (.nothing op) h

theorem work_of_mutate
    (kind : ∀ l : BillingLedger, l.id = id → op.Transits now db l desired target hook) :
    op.Work cal now db (transaction (mutateBillingLedger now id desired target hook) db).1 := by
  refine work_transaction fun db' l' h => ?_
  obtain ⟨l, hlock, h⟩ := bind_eq_ok.mp h
  obtain ⟨⟨db₁, l₁, changed⟩, hmutate, h⟩ := bind_eq_ok.mp h
  cases h
  obtain ⟨rfl, -⟩ := find?_of_lock hlock
  exact .transition (kind l rfl) hlock hmutate

theorem LedgerOp.exec_work (cal : Calendar) (now : Int) (db : Database) (op : LedgerOp) :
    op.Work cal now db (op.exec cal now db) := by
  cases op with
  | reserve => exact work_transaction fun _ _ h => .reserve h
  | reserveMore => exact work_transaction fun _ _ h => .reserveMore h
  | bind => exact work_transaction fun _ _ h => .bind h
  | acknowledge => exact work_transaction fun _ _ h => .acknowledge h
  | settle id target selected =>
    refine work_transaction fun _ _ h => ?_
    obtain ⟨-, h⟩ := guard_eq_ok.mp h
    obtain ⟨l, hlock, h⟩ := bind_eq_ok.mp h
    obtain ⟨⟨db₁, l₁, changed⟩, hmutate, h⟩ := bind_eq_ok.mp h
    cases h
    obtain ⟨rfl, -⟩ := find?_of_lock hlock
    exact .transition (.settle target selected) hlock hmutate
  | settleWithTask id target task =>
    cases task with
    | none => exact .nothing _
    | some t =>
      rw [exec, settleBillingLedgerWithTask_fst]
      exact work_of_mutate fun l hid => hid ▸ .settleWithTask target t
  | settleWithMidjourney id target task =>
    cases task with
    | none => exact .nothing _
    | some t =>
      rw [exec, settleBillingLedgerWithMidjourney_fst]
      exact work_of_mutate fun l hid => hid ▸ .settleWithMidjourney target t
  | refund id reason => exact work_of_mutate fun l hid => hid ▸ .refund reason
  | refundStaleReserved _ _ _ _ reason =>
    refine work_transaction fun db' _ h => ?_
    rcases refundStaleReservedBillingLedger_eq_ok h with rfl | ⟨l, l', hlock, hstale, hmutate⟩
    · exact .nothing _
    · obtain ⟨rfl, -⟩ := find?_of_lock hlock
      exact .transition (.refundStaleReserved reason hstale) hlock hmutate
  | markStaleReserved _ _ _ _ cause =>
    refine work_transaction fun db' _ h => ?_
    rcases markStaleReservedBillingLedgerForReconcile_eq_ok h with rfl | ⟨l, hlock, hstale, rfl⟩
    · exact .nothing _
    · obtain ⟨rfl, hfind⟩ := find?_of_lock hlock
      exact .mark (.markStaleReserved cause hstale) hfind (by rw [hstale.2.1]; decide) (.inl rfl)
  | replay _ _ _ _ reason =>
    refine work_transaction fun db' _ h => ?_
    rcases replayBillingLedgerReconcile_eq_ok h with rfl | ⟨l, l', hlock, hawaits, hmutate⟩
    · exact .nothing _
    · obtain ⟨rfl, -⟩ := find?_of_lock hlock
      exact .transition (.replay reason hawaits) hlock hmutate
  | markReconcileRetry _ _ _ _ cause =>
    refine work_transaction fun db' _ h => ?_
    rcases markBillingLedgerReconcileRetry_eq_ok h with rfl | ⟨l, hlock, hawaits, rfl⟩
    · exact .nothing _
    · obtain ⟨rfl, hfind⟩ := find?_of_lock hlock
      exact .mark (.markReconcileRetry cause hawaits) hfind (by rw [hawaits.1]; decide) (.inl rfl)
  | markForReconcile id desired quota cause selected =>
    refine work_transaction fun db' _ h => ?_
    rcases markBillingLedgerForReconcile_eq_ok h with
      rfl | ⟨l, _, hlock, hlive, -, -, ⟨channel, rfl⟩, hchannel, rfl⟩
    · exact .nothing _
    · obtain ⟨rfl, hfind⟩ := find?_of_lock hlock
      exact .mark (.markForReconcile desired quota cause selected) hfind hlive
        (hchannel.imp_right And.right)
  | updateTask task fromStatus desired target reason =>
    refine work_transaction fun db' _ h => ?_
    obtain ⟨current, bound, hfound, hbound, ⟨-, rfl, -⟩ | ⟨h0, hrow, -⟩ |
      ⟨l, _, hlock, hmatch, -, hwritten, hrow⟩ | ⟨l, saved, hlock, -, -, hmutate⟩⟩ :=
      updateTaskWithBilling_eq_ok h
    · exact .nothing _
    · exact .taskRow hfound hbound (.inl ⟨rfl, h0⟩) hrow
    · exact .taskRow hfound hbound (.inr ⟨l, hlock, hmatch, hwritten⟩) hrow
    · have hid := (find?_of_lock hlock).1
      exact .transition (.updateTask fromStatus desired target reason hfound hbound hid)
        (hid ▸ hlock) hmutate
  | updateMidjourney task fromStatus desired target reason =>
    refine work_transaction fun db' _ h => ?_
    obtain ⟨current, bound, hfound, hbound, ⟨_, rfl⟩ | ⟨l, saved, changed, hlock, hmutate⟩⟩ :=
      updateMidjourneyWithBilling_eq_ok h
    · exact .midjourneys _
    · have hid := (find?_of_lock hlock).1
      exact .transition (.updateMidjourney fromStatus desired target reason hfound hbound hid)
        (hid ▸ hlock) hmutate

section

variable (h : op.Transits now db l desired target hook)
include h

theorem LedgerOp.Transits.frame : hook.Frame := by
  cases h with
  | settle target selected => exact frame_assignChannelHook selected
  | settleWithTask target task => exact frame_createTaskHook now target task
  | settleWithMidjourney target task => exact frame_createMidjourneyHook target task
  | refund reason => exact frame_refundHook now reason
  | refundStaleReserved reason _ => exact frame_refundHook now reason
  | replay reason _ =>
    split
    · exact frame_refundHook now reason
    · exact frame_id
  | updateTask => exact frame_updateTaskHook ..
  | updateMidjourney => exact frame_updateMidjourneyHook ..

theorem LedgerOp.Transits.addresses : op.ledger? db = some l.id ∧ op.targetQuota = target := by
  cases h with
  | updateTask _ _ _ _ found bound_eq ledger =>
    refine ⟨?_, rfl⟩
    rw [ledger?, found, ledger, bound_eq]
    split <;> simp [*]
  | updateMidjourney _ _ _ _ found bound_eq ledger =>
    refine ⟨?_, rfl⟩
    rw [ledger?, found, ledger, bound_eq]
    split <;> simp [*]
  | _ => exact ⟨rfl, rfl⟩

theorem LedgerOp.Transits.leads (hdesired : desired = .settle ∨ desired = .refund)
    (hstate : l'.state = desired.reached) : op.leads l l' := by
  cases h with
  | refundStaleReserved _ stale => exact ⟨stale.2.1, hstate⟩
  | replay _ awaits => exact ⟨awaits.1, awaits.2.2.1, hstate⟩
  | updateTask => exact ⟨hdesired, hstate⟩
  | updateMidjourney => exact ⟨hdesired, hstate⟩
  | _ => exact hstate

end

theorem rewrite_mark {quota channel : Int} {message : String}
    (found : db.ledgers.find? l.id = some l) (live : l.state ≠ .refunded)
    (hchannel : channel = l.channelID ∨ l.countedQuota = 0) (q : Int) :
    LedgerRewrite db (saveReconcile now db
        (BillingLedger.requireReconcile { l with channelID := channel } now desired quota message)) l
      (BillingLedger.requireReconcile { l with channelID := channel } now desired quota message) q :=
  .of_charged found rfl rfl rfl live rfl rfl rfl rfl hchannel

theorem LedgerOp.Work.outcome {db' : Database} (h : op.Work cal now db db') :
    LedgerOutcome cal now db db' op := by
  cases h with
  | nothing => exact .refl cal now db op
  | reserve h => exact outcome_reserve h
  | reserveMore h => exact outcome_reserveMore h
  | bind h => exact outcome_bind h
  | acknowledge h => exact outcome_acknowledge h
  | @transition _ l l' _ _ _ _ _ kind locked h =>
    rcases mutateLockedBillingLedgerTx_rewrite kind.frame (find?_of_lock locked).2 h with
      ⟨-, rfl⟩ | ⟨hc, hrewrite⟩
    · exact .refl cal now _ op
    subst hc
    obtain ⟨hdesired, hstate, -⟩ := mutateLockedBillingLedgerTx_reached h
    obtain ⟨htarget, hquota⟩ := kind.addresses
    exact .rewrite l l' htarget (kind.leads hdesired hstate) (hquota ▸ hrewrite)
  | mark kind found live hchannel =>
    refine .rewrite _ _ ?_ ?_ (rewrite_mark found live hchannel _)
    · cases kind <;> rfl
    · cases kind with
      | markStaleReserved _ stale => exact ⟨stale.2.1, rfl, rfl⟩
      | markReconcileRetry _ awaits => exact ⟨awaits.1, awaits.2.2.1, rfl, rfl⟩
      | markForReconcile => exact ⟨rfl, rfl⟩
  | taskRow _ _ _ row =>
    obtain ⟨-, -, -, rfl⟩ := updateTaskRow_eq_ok.mp row
    exact .quiet rfl rfl
  | midjourneys => exact .quiet rfl rfl

section

variable (cal : Calendar) (now : Int) (db : Database) (op : LedgerOp)

/-- **Every ledger operation leaves the books alone, rewrites the ledger it addresses, or books a
reservation.** -/
theorem LedgerOp.exec_outcome : LedgerOutcome cal now db (op.exec cal now db) op :=
  (op.exec_work cal now db).outcome

theorem LedgerOp.resets_eq_nil_or_create :
    op.resets cal now db = [] ∨ ∃ input l, op = .reserve input ∧
      op.resets cal now db = input.resets cal now db ∧
      LedgerCreate cal now db (op.exec cal now db) input l := by
  cases op with
  | reserve input =>
    cases hreserve : reserveBillingLedger cal now input db with
    | error e => exact .inl (by rw [resets, hreserve])
    | ok r =>
      obtain ⟨db', result⟩ := r
      rcases reserveBillingLedger_eq_ok hreserve with ⟨hold, -, -⟩ | ⟨hnew, -, hcreate⟩
      · exact .inl (by rw [resets, hreserve]; exact if_pos hold)
      · refine .inr ⟨input, result.ledger, rfl, ?_, ?_⟩
        · rw [resets, hreserve]
          exact if_neg (by simp [hnew])
        · rw [exec, transaction_ok hreserve]
          exact hcreate
  | _ => exact .inl rfl

end

/-- A call of a ledger operation at a time. -/
structure LedgerCall where
  now : Int
  op : LedgerOp
  deriving DecidableEq

/-- The database after a call. A run of the system is `run (LedgerCall.step cal)`. -/
def LedgerCall.step (cal : Calendar) (db : Database) (c : LedgerCall) : Database :=
  c.op.exec cal c.now db

theorem LedgerCall.step_outcome (cal : Calendar) (db : Database) (c : LedgerCall) :
    LedgerOutcome cal c.now db (c.step cal db) c.op :=
  c.op.exec_outcome cal c.now db

/-! ## A sample run -/

/-- One user with a wallet, a limited token, two channels and a subscription that resets daily. -/
def sampleDatabase : Database :=
  { Database.empty with
    users := ⟨[{ id := 1, quota := 100, usedQuota := 0, requestCount := 0, group := "default"
                 deleted := false }], by decide⟩
    tokens := ⟨[{ id := 1, userId := 1, accessedTime := 0, remainQuota := 80
                  unlimitedQuota := false, usedQuota := 0, deleted := false }], by decide⟩
    channels := ⟨[{ id := 1, type := 1, key := "k1", baseURL := none, usedQuota := 0 },
                  { id := 2, type := 1, key := "k2", baseURL := none, usedQuota := 0 }], by decide⟩
    plans := ⟨[{ id := 1, quotaResetPeriod := .daily, quotaResetCustomSeconds := 0 }], by decide⟩
    subscriptions := ⟨[{ id := 1, userId := 1, planId := 1, amountTotal := 50, amountUsed := 0
                         startTime := 1000, endTime := 1000000, status := .active
                         lastResetTime := 1000, nextResetTime := 86400, upgradeGroup := ""
                         prevUserGroup := "", updatedAt := 1000 }], by decide⟩ }

def sampleReservation (requestID : String) (source : FundingSource) (quota : Int) :
    BillingReservation :=
  { requestID := requestID, kind := .request, mode := .enforce, fundingSource := source, userID := 1
    tokenID := 1, channelID := 1, subscriptionID := 0, quota := quota, tokenUnlimited := false
    playground := false, applyBalances := true }

/-- A reservation of each funding source, a raised reservation, a settlement below it on another
channel, a refund and a call that fails. -/
def sampleCalls : List LedgerCall :=
  [⟨2000, .reserve (sampleReservation "r1" .wallet 30)⟩,
   ⟨2001, .reserve (sampleReservation "r2" .subscription 10)⟩,
   ⟨2002, .reserveMore 1 40⟩, ⟨2003, .settle 1 25 [2]⟩, ⟨2004, .refund 2 "failed"⟩,
   ⟨2005, .settle 2 5 []⟩]

end RenewApi.Billing
