import RenewApi.Billing.Outcome
import RenewApi.Channels.Text

/-! # What a ledger operation announces

A transaction that moves a ledger queues an event about it in the outbox of the same database, under
a key made of the request id, the event type and the version of the ledger. -/

namespace RenewApi.Billing

open Relational Text Table LedgerOp

variable {l l' : BillingLedger} {db db' : Database}

theorem colon_notMem_event (e : OutboxEvent) : ':' ∉ e.text.toList := by
  cases e with
  | state s => cases s <;> decide
  | taskBound => decide

theorem OutboxEvent.text_injective : Function.Injective OutboxEvent.text := by
  have hstate : ∀ s s' : LedgerState, s.text = s'.text → s = s' := by
    intro s s' h
    cases s <;> cases s' <;> first | rfl | exact absurd h (by decide)
  have hbound : ∀ s : LedgerState, s.text ≠ "task_bound" := by
    intro s
    cases s <;> decide
  intro e e' h
  cases e with
  | state s =>
    cases e' with
    | state s' => rw [hstate s s' h]
    | taskBound => exact absurd h (hbound s)
  | taskBound =>
    cases e' with
    | state s' => exact absurd h.symm (hbound s')
    | taskBound => rfl

/-- **A key determines the request id, the event type and the version**: type and version have no
colon. -/
theorem eventKey_inj {r r' : String} {e e' : OutboxEvent} {v v' : Int}
    (h : eventKey r e v = eventKey r' e' v') : r = r' ∧ e = e' ∧ v = v' := by
  have hsplit : ∀ r e v, (eventKey r e v).toList
      = (r.toList ++ ':' :: e.text.toList) ++ ':' :: (toString v).toList := by
    intro r e v
    simp [eventKey]
  have hlist := congrArg String.toList h
  rw [hsplit, hsplit] at hlist
  obtain ⟨hfront, hversion⟩ :=
    append_cons_inj_of_last (colon_notMem_toString_int v) (colon_notMem_toString_int v') hlist
  obtain ⟨hrequest, hevent⟩ :=
    append_cons_inj_of_last (colon_notMem_event e) (colon_notMem_event e') hfront
  exact ⟨String.toList_inj.mp hrequest, OutboxEvent.text_injective (String.toList_inj.mp hevent),
    toString_int_injective (String.toList_inj.mp hversion)⟩

/-! ## Announcements -/

/-- **An announcement**: a committed ledger row and the event type it is announced under. -/
structure Announcement where
  ledger : BillingLedger
  event : OutboxEvent
  deriving DecidableEq

/-- What identifies an audit event: the request id, the event type and the ledger version. -/
def Announcement.triple (a : Announcement) : String × OutboxEvent × Int :=
  (a.ledger.requestID, a.event, a.ledger.version)

/-- The key an announcement is queued under. -/
def Announcement.key (a : Announcement) : String :=
  eventKey a.ledger.requestID a.event a.ledger.version

/-- The row `enqueueBillingOutboxTx` inserts for an announcement. -/
def Announcement.row (now : Int) (a : Announcement) : BillingOutbox :=
  { eventKey := a.key, ledgerID := a.ledger.id, requestID := a.ledger.requestID, eventType := a.event
    payload := a.ledger.eventPayload, attempts := 0, availableAt := now, processedAt := 0
    lastError := "", createdAt := now, updatedAt := now }

theorem Announcement.triple_eq_iff {a b : Announcement} : a.triple = b.triple ↔ a.key = b.key := by
  constructor
  · intro h
    simp only [triple, Prod.mk.injEq] at h
    rw [key, key, h.1, h.2.1, h.2.2]
  · intro h
    obtain ⟨hrequest, hevent, hversion⟩ := eventKey_inj h
    rw [triple, triple, hrequest, hevent, hversion]

/-- The event type a call announces the ledger `l` under that it has written; acknowledgements and
marks announce nothing. -/
def LedgerOp.announces : LedgerOp → BillingLedger → Option OutboxEvent
  | .reserve _, _ | .reserveMore _ _, _ => some (.state .reserved)
  | .bind _ _, _ => some .taskBound
  | .acknowledge _ _ _, _ | .markStaleReserved _ _ _ _ _, _ | .markReconcileRetry _ _ _ _ _, _
  | .markForReconcile _ _ _ _ _, _ => none
  | .settle _ _ _, l | .settleWithTask _ _ _, l | .settleWithMidjourney _ _ _, l | .refund _ _, l
  | .refundStaleReserved _ _ _ _ _, l | .replay _ _ _ _ _, l | .updateTask _ _ _ _ _, l
  | .updateMidjourney _ _ _ _ _, l => some (.state l.state)

/-- The ledger row of `db'` that is not a row of `db`: a transaction writes at most one. -/
def writtenLedger (db db' : Database) : Option BillingLedger :=
  db'.ledgers.rows.find? fun l => db.ledgers.find? l.id ≠ some l

/-- The announcement a call has committed, given the database before and after it. -/
def LedgerOp.announcement (op : LedgerOp) (db db' : Database) : Option Announcement :=
  (writtenLedger db db').bind fun l => (op.announces l).map fun e => ⟨l, e⟩

def announceTo (now : Int) (outbox : Table BillingOutbox) (l : BillingLedger) :
    Option OutboxEvent → Table BillingOutbox
  | none => outbox
  | some e => outbox.insert (Announcement.row now ⟨l, e⟩)

section

variable (now : Int) (event : BillingLedger → Option OutboxEvent)

/-- **What a transaction can do to the ledgers and the outbox**: nothing, or write one ledger and
announce it under the type that `event` gives. -/
inductive Announced (db db' : Database) :
    Prop
  | quiet (ledgers : db'.ledgers = db.ledgers) (outbox : db'.outbox = db.outbox)
  | rewrite (l l' : BillingLedger) (found : db.ledgers.find? l.id = some l)
      (terms : l'.terms = l.terms) (version : l'.version = l.version + 1)
      (ledgers : db'.ledgers = db.ledgers.put l')
      (outbox : db'.outbox = announceTo now db.outbox l' (event l'))
  | create (l : BillingLedger) (fresh : db.ledgers.find? l.id = none)
      (unknown : ∀ m ∈ db.ledgers.rows, m.requestID ≠ l.requestID)
      (ledgers : db'.ledgers = db.ledgers.insert l)
      (outbox : db'.outbox = announceTo now db.outbox l (event l))

theorem Announced.refl (db : Database) : Announced now event db db :=
  .quiet rfl rfl

end

/-! ## The operations one by one -/

section

variable {cal : Calendar} {now : Int} {db' : Database} {desired : DesiredState} {target : Int}
  {id : Nat} {input : BillingReservation}

/-- A transition announces the state it has reached. -/
theorem announced_mutateLocked {hook : BeforeSave} {changed : Bool} (hframe : hook.Frame)
    (hfind : db.ledgers.find? l.id = some l)
    (h : mutateLockedBillingLedgerTx now db l desired target hook = .ok (db', l', changed)) :
    Announced now (fun l => some (.state l.state)) db db' := by
  rcases mutateLockedBillingLedgerTx_rewrite hframe hfind h with ⟨-, rfl⟩ | ⟨hc, hrewrite⟩
  · exact .refl now _ db'
  subst hc
  refine .rewrite l l' hfind hrewrite.terms hrewrite.version hrewrite.ledgers ?_
  -- neither the legs of the transition nor its hook write the outbox
  obtain ⟨-, ⟨hc, -⟩ | ⟨-, -, db₁, l₁, db₂, l₂, db₃, l₃, hbalances, hhook, hcounters, -, hdb'⟩⟩ :=
    mutateLockedBillingLedgerTx_cases h
  · cases hc
  have h₁ : db₁.outbox = db.outbox := (applyTransitionBalances_eq_ok hbalances).2.move.outbox
  have h₂ : db₂.outbox = db₁.outbox := by
    obtain ⟨⟨_, _, hdb₂⟩, -⟩ := hframe hhook
    rw [hdb₂]
  have h₃ : db₃.outbox = db₂.outbox := (applyTransitionCounters_eq_ok hcounters).2.1.outbox
  obtain ⟨records, hmark⟩ := markSubscriptionPreConsumeRefundedTx_eq now db₃ l₃.requestID
  rw [hdb', hmark, ← h₁, ← h₂, ← h₃]
  split <;> rfl

theorem outbox_reserveBalances {sub : Option UserSubscription}
    (h : reserveBalances cal now db input l = .ok (db', l', sub)) : db'.outbox = db.outbox := by
  rcases reserveBalances_cases h with ⟨-, db₁, s, hreserve, htoken, -⟩ |
    ⟨-, db₁, hwallet, htoken, -⟩
  · obtain ⟨⟨_, _, hdb₁⟩, -⟩ := reserveSubscriptionQuotaTx_eq_ok hreserve
    rw [(balanceMove_token htoken).outbox, hdb₁]
  · rw [(balanceMove_token htoken).outbox, (balanceMove_wallet hwallet).outbox]

variable {result : BillingReservationResult} {task : Option Task} {task' : Task}

theorem outbox_createReservation (h : createReservation cal now db input = .ok (db', result)) :
    result.ledger.requestID = input.requestID ∧
      db'.outbox = announceTo now db.outbox result.ledger (some (.state .reserved)) := by
  obtain ⟨-, db₁, rfl, ⟨-, rfl, hl⟩ | ⟨-, hbalances⟩⟩ := createReservation_cases h
  · rw [hl]
    exact ⟨rfl, rfl⟩
  · obtain ⟨⟨_, _, _, _, hl⟩, -⟩ := reserveBalances_eq_ok rfl rfl rfl
      (fun a => by cases a <;> simp [BillingLedger.counted, BillingReservation.newLedger]) hbalances
    refine ⟨by rw [hl]; rfl, ?_⟩
    show db₁.outbox.insert _ = _
    rw [outbox_reserveBalances hbalances]
    rfl

theorem announced_reserve (h : reserveBillingLedger cal now input db = .ok (db', result)) :
    Announced now (reserve input).announces db db' := by
  obtain ⟨hfunded, hnonneg, ⟨-, rfl, -⟩ | ⟨hnone, kind, hbody⟩⟩ := reserveBillingLedger_cases h
  · exact .refl now _ db'
  obtain ⟨-, hcreate⟩ := createReservation_eq_ok hfunded hnonneg hbody
  obtain ⟨hrequest, houtbox⟩ := outbox_createReservation hbody
  refine .create result.ledger hcreate.fresh ?_ hcreate.ledgers houtbox
  intro m hm
  rw [hrequest]
  simpa using List.find?_eq_none.mp hnone m hm

theorem announced_reserveMore (h : reserveMoreBillingLedger now id target db = .ok (db', l')) :
    Announced now (reserveMore id target).announces db db' := by
  obtain ⟨-, l, hlock, -, ⟨-, rfl⟩ | ⟨-, db₁, _, _, _, hleg, hl', hdb'⟩⟩ :=
    reserveMoreBillingLedger_eq_ok h
  · exact .refl now _ db'
  obtain ⟨-, hfind⟩ := find?_of_lock hlock
  refine .rewrite l l' hfind (by rw [hl']; rfl) (by rw [hl']) ?_ ?_
  · rw [hdb', ← hleg.move.ledgers]; rfl
  · rw [hdb', ← hleg.move.outbox]; rfl

theorem announced_bind (h : bindBillingLedgerTask now id task db = .ok (db', task')) :
    Announced now (bind id task).announces db db' := by
  obtain ⟨t, l, -, hlock, -, ⟨-, -, rfl, -⟩ | ⟨-, db₁, hcreate, rfl⟩⟩ := bindBillingLedgerTask_eq_ok h
  · exact .refl now _ db'
  obtain ⟨-, hfind⟩ := find?_of_lock hlock
  obtain ⟨-, rfl, -⟩ := createTask_eq_ok hcreate
  exact .rewrite l { l with kind := .task, version := l.version + 1, updatedAt := now } hfind rfl rfl
    rfl rfl

theorem announced_acknowledge
    (h : acknowledgeBillingLedgerTask now id target task db = .ok (db', l', task')) :
    Announced now (acknowledge id target task).announces db db' := by
  obtain ⟨t, l, current, -, hlock, -, -, -, -, ⟨-, -, -, rfl⟩ | ⟨-, hl', rfl⟩⟩ :=
    acknowledgeBillingLedgerTask_eq_ok h
  · exact .quiet rfl rfl
  · exact .rewrite l l' (find?_of_lock hlock).2 (by rw [hl']; rfl) (by rw [hl']) rfl rfl

end

/-- **Every ledger operation announces the ledger it has written**, in the same transaction. -/
theorem LedgerOp.exec_announced (cal : Calendar) (now : Int) (db : Database) (op : LedgerOp) :
    Announced now op.announces db (op.exec cal now db) := by
  have h := op.exec_work cal now db
  generalize op.exec cal now db = db' at h ⊢
  cases h with
  | nothing => exact .refl now _ db
  | reserve h => exact announced_reserve h
  | reserveMore h => exact announced_reserveMore h
  | bind h => exact announced_bind h
  | acknowledge h => exact announced_acknowledge h
  | transition kind locked h =>
    have hannounces : op.announces = fun l => some (.state l.state) := by cases kind <;> rfl
    rw [hannounces]
    exact announced_mutateLocked kind.frame (find?_of_lock locked).2 h
  | @mark _ l desired quota channel message kind found =>
    have hannounces : op.announces = fun _ => none := by cases kind <;> rfl
    rw [hannounces]
    exact .rewrite l (BillingLedger.requireReconcile { l with channelID := channel } now desired quota
      message) found rfl rfl rfl rfl
  | taskRow _ _ _ row =>
    obtain ⟨-, -, -, rfl⟩ := updateTaskRow_eq_ok.mp row
    exact .quiet rfl rfl
  | midjourneys => exact .quiet rfl rfl

/-! ## The ledger a transaction has written -/

theorem find?_eq_some_of_unique {α : Type*} {p : α → Bool} {xs : List α} {a : α} (ha : a ∈ xs)
    (hp : p a = true) (hunique : ∀ b ∈ xs, p b = true → b = a) : xs.find? p = some a := by
  cases hfind : xs.find? p with
  | none => exact absurd hp (List.find?_eq_none.mp hfind a ha)
  | some b => rw [hunique b (List.mem_of_find?_eq_some hfind) (List.find?_some hfind)]

theorem writtenLedger_eq_none (h : db'.ledgers = db.ledgers) : writtenLedger db db' = none := by
  rw [writtenLedger, h, List.find?_eq_none]
  intro l hl
  have hfind : db.ledgers.find? l.id = some l := find?_of_mem hl
  simp [hfind]

theorem writtenLedger_put (found : db.ledgers.find? l.id = some l) (terms : l'.terms = l.terms)
    (version : l'.version = l.version + 1) (ledgers : db'.ledgers = db.ledgers.put l') :
    writtenLedger db db' = some l' := by
  have hid : l'.id = l.id := id_of_terms terms
  rw [writtenLedger, ledgers]
  refine find?_eq_some_of_unique (mem_put_self (mem_of_find? found) hid) ?_ ?_
  · rw [hid, found]
    have hne : l ≠ l' := by
      rintro rfl
      omega
    simpa using hne
  · intro m hm hp
    rcases mem_put hm with rfl | ⟨hold, -⟩
    · rfl
    · have hfind : db.ledgers.find? m.id = some m := find?_of_mem hold
      simp [hfind] at hp

theorem writtenLedger_insert (fresh : db.ledgers.find? l.id = none)
    (ledgers : db'.ledgers = db.ledgers.insert l) : writtenLedger db db' = some l := by
  rw [writtenLedger, ledgers]
  refine find?_eq_some_of_unique ?_ ?_ ?_
  · rw [rows_insert fresh]
    simp
  · simp [fresh]
  · intro m hm hp
    rcases mem_insert hm with rfl | hold
    · rfl
    · have hfind : db.ledgers.find? m.id = some m := find?_of_mem hold
      simp [hfind] at hp

end RenewApi.Billing
