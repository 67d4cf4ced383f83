import RenewApi.Billing.Outbox

/-! # Delivering audit events

`model/billing_outbox.go`: `ProcessBillingOutboxContext` copies queued events from the outbox of the
main database to the audit table of the log database, without a transaction over both and with any
number of runs at the same time. -/

namespace RenewApi.Billing

open Relational List Table

/-- `model.BillingAuditEvent`, keyed by its unique `event_key`. -/
structure BillingAuditEvent where
  eventKey : String
  ledgerID : Nat
  requestID : String
  eventType : OutboxEvent
  payload : BillingEventPayload
  createdAt : Int
  deriving DecidableEq

instance instRowAuditEvent : Row BillingAuditEvent String := ⟨BillingAuditEvent.eventKey⟩

/-- The event a run stores for an outbox row: the columns of the row that nothing ever changes. -/
def BillingOutbox.auditEvent (o : BillingOutbox) : BillingAuditEvent :=
  { eventKey := o.eventKey, ledgerID := o.ledgerID, requestID := o.requestID
    eventType := o.eventType, payload := o.payload, createdAt := o.createdAt }

/-- What an audit event is about: the request id, the event type and the ledger version. -/
def BillingAuditEvent.triple (e : BillingAuditEvent) : String × OutboxEvent × Int :=
  (e.requestID, e.eventType, e.payload.version)

def BillingAuditEvent.reports (e : BillingAuditEvent) (a : Announcement) : Prop :=
  ∃ queuedAt, e = (a.row queuedAt).auditEvent

section

variable {e : BillingAuditEvent} {a : Announcement} (h : e.reports a)
include h

theorem eventKey_of_reports : e.eventKey = a.key := by
  obtain ⟨_, rfl⟩ := h; rfl

theorem triple_of_reports : e.triple = a.triple := by
  obtain ⟨_, rfl⟩ := h; rfl

theorem payload_of_reports : e.payload = a.ledger.eventPayload := by
  obtain ⟨_, rfl⟩ := h; rfl

end

/-! ## Runs -/

/-- What a database answers to a statement. -/
inductive StatementResult
  | ok
  | failed (err : String)
  | lost (err : String)
  deriving DecidableEq

/-- The error the caller sees. -/
def StatementResult.err? : StatementResult → Option String
  | .ok => none
  | .failed err | .lost err => some err

/-- The table after a statement that would leave `executed`. -/
def StatementResult.apply {α : Type*} (before executed : α) : StatementResult → α
  | .ok | .lost _ => executed
  | .failed _ => before

/-- Where a run stands in its loop. -/
inductive RunPhase
  | insert
  | mark
  /-- It is about to postpone its first item, whose insertion failed with `err`. -/
  | postpone (err : String)
  | returned (err : Option String)
  deriving DecidableEq

/-- **A run of `ProcessBillingOutboxContext`** between two statements: its clock reading, the copies
of the rows that are left, and the number of rows it has marked. -/
structure OutboxRun where
  now : Int
  items : List BillingOutbox
  phase : RunPhase
  processed : Nat
  deriving DecidableEq

/-- The head of the loop: the next item, or the end. -/
def OutboxRun.resume (r : OutboxRun) : List BillingOutbox → OutboxRun
  | [] => { r with items := [], phase := .returned none }
  | item :: rest => { r with items := item :: rest, phase := .insert }

/-- The beginning of a run: a limit outside `1 … 500` is `100`, and the rows that are due are
selected by id. -/
def OutboxRun.select (now limit : Int) (result : StatementResult) (outbox : Table BillingOutbox) :
    OutboxRun :=
  let limit := if limit ≤ 0 ∨ 500 < limit then 100 else limit
  let start : OutboxRun := { now := now, items := [], phase := .insert, processed := 0 }
  match result.err? with
  | some err => { start with phase := .returned (some err) }
  | none =>
    start.resume ((outbox.select fun o => o.processedAt = 0 && o.availableAt ≤ now).take limit.toNat)

/-- `UPDATE … SET processed_at = now, last_error = '' WHERE id = … AND processed_at = 0`. -/
def markProcessed (now : Int) (item : BillingOutbox) (outbox : Table BillingOutbox) :
    Table BillingOutbox :=
  outbox.updateWhere (fun o => o.eventKey = item.eventKey && o.processedAt = 0) fun o =>
    { o with processedAt := now, lastError := "", updatedAt := now }

/-- `UPDATE … SET attempts = attempts + 1, available_at = … WHERE id = … AND processed_at = 0`. -/
def postpone (now : Int) (item : BillingOutbox) (err : String) (outbox : Table BillingOutbox) :
    Table BillingOutbox :=
  outbox.updateWhere (fun o => o.eventKey = item.eventKey && o.processedAt = 0) fun o =>
    { o with
      attempts := o.attempts + 1, availableAt := now + billingRetryDelay (item.attempts + 1)
      lastError := truncateBillingError err, updatedAt := now }

/-- **The next statement of a run.** A failed insertion postpones the item, whatever that statement
answers; a failed mark ends the run. -/
def OutboxRun.statement (r : OutboxRun) (result : StatementResult) (outbox : Table BillingOutbox)
    (audit : Table BillingAuditEvent) : Table BillingOutbox × Table BillingAuditEvent × OutboxRun :=
  match r.items with
  | [] => (outbox, audit, r)
  | item :: rest =>
    match r.phase with
    | .insert =>
      let audit := result.apply audit (audit.insert item.auditEvent)
      match result.err? with
      | none => (outbox, audit, { r with phase := .mark })
      | some err => (outbox, audit, { r with phase := .postpone err })
    | .postpone err => (result.apply outbox (postpone r.now item err outbox), audit, r.resume rest)
    | .mark =>
      let affected := outbox.count fun o => o.eventKey = item.eventKey && o.processedAt = 0
      let outbox := result.apply outbox (markProcessed r.now item outbox)
      match result.err? with
      | none =>
        (outbox, audit, OutboxRun.resume
          { r with processed := if affected = 1 then r.processed + 1 else r.processed } rest)
      | some err => (outbox, audit, { r with phase := .returned (some err) })
    | .returned _ => (outbox, audit, r)

/-- `ctx.Err()` at the head of the loop: a cancelled run returns before its next item. -/
def OutboxRun.cancel (r : OutboxRun) (err : String) : OutboxRun :=
  if r.phase = .insert then { r with phase := .returned (some err) } else r

/-! ## The system -/

/-- **Both databases and all the runs**, with the announcements committed so far. -/
structure AuditSystem where
  db : Database
  audit : Table BillingAuditEvent
  runs : List OutboxRun
  committed : List Announcement

/-- The system before the first ledger: the other tables hold anything. -/
def AuditSystem.start (db : Database) : AuditSystem :=
  { db := { db with ledgers := .empty, outbox := .empty }, audit := .empty, runs := []
    committed := [] }

/-- One atomic step of the system. -/
inductive AuditStep
  /-- A call of a ledger operation. One with a failing statement is rolled back, which is no step at
  all. -/
  | ledger (now : Int) (op : LedgerOp)
  /-- Other transactions replace what the tables other than the ledgers and the outbox hold. -/
  | elsewhere (db : Database)
  /-- A run reads its items; `result` is the answer to its `SELECT`. -/
  | select (now limit : Int) (result : StatementResult)
  | statement (run : Nat) (result : StatementResult)
  | cancel (run : Nat) (err : String)

def AuditSystem.step (cal : Calendar) (s : AuditSystem) : AuditStep → AuditSystem
  | .ledger now op =>
    { s with
      db := op.exec cal now s.db
      committed := s.committed ++ (op.announcement s.db (op.exec cal now s.db)).toList }
  | .elsewhere db => { s with db := { db with ledgers := s.db.ledgers, outbox := s.db.outbox } }
  | .select now limit result =>
    { s with runs := s.runs ++ [OutboxRun.select now limit result s.db.outbox] }
  | .statement i result =>
    match s.runs[i]? with
    | none => s
    | some r =>
      let after := r.statement result s.db.outbox s.audit
      { s with
        db := { s.db with outbox := after.1 }, audit := after.2.1
        runs := s.runs.set i after.2.2 }
  | .cancel i err =>
    match s.runs[i]? with
    | none => s
    | some r => { s with runs := s.runs.set i (r.cancel err) }

/-- A step of a run to which the databases answer without an error. -/
def AuditStep.faultFree : AuditStep → Bool
  | .select _ _ .ok | .statement _ .ok => true
  | _ => false

/-! ## The invariant -/

/-- The events of the outbox rows, marked or not. -/
def AuditSystem.queued (s : AuditSystem) : List BillingAuditEvent :=
  s.db.outbox.rows.map BillingOutbox.auditEvent

/-- **The request ids of the ledgers and the versions announced**: a request id belongs to one
ledger, and no announcement is ahead of its ledger. -/
structure LedgersCover (ledgers : Table BillingLedger) (committed : List Announcement) : Prop where
  unique : ∀ l ∈ ledgers.rows, ∀ m ∈ ledgers.rows, l.requestID = m.requestID → l = m
  covered : ∀ a ∈ committed, ∃ l ∈ ledgers.rows,
    l.requestID = a.ledger.requestID ∧ a.ledger.version ≤ l.version

/-- **What holds of a run**: its items are copies of queued rows, and before it marks an item the
event of the item is stored. -/
structure OutboxRun.Sound (r : OutboxRun) (queued stored : List BillingAuditEvent) : Prop where
  items : ∀ item ∈ r.items, item.auditEvent ∈ queued
  mark : r.phase = .mark → ∀ item, r.items.head? = some item → item.auditEvent ∈ stored

/-- **The invariant of the system.** -/
structure AuditSystem.Sound (s : AuditSystem) : Prop where
  ledgers : LedgersCover s.db.ledgers s.committed
  announced : ∀ e ∈ s.queued, ∃ a ∈ s.committed, e.reports a
  kept : ∀ a ∈ s.committed, ∃ e ∈ s.queued, e.reports a
  stored : ∀ e ∈ s.audit.rows, e ∈ s.queued
  processed : ∀ o ∈ s.db.outbox.rows, o.processedAt ≠ 0 → o.auditEvent ∈ s.audit.rows
  runs : ∀ r ∈ s.runs, r.Sound s.queued s.audit.rows

theorem sound_start (db : Database) : (AuditSystem.start db).Sound where
  ledgers := ⟨by rintro l ⟨⟩, by rintro a ⟨⟩⟩
  announced := by rintro e ⟨⟩
  kept := by rintro a ⟨⟩
  stored := by rintro e ⟨⟩
  processed := by rintro o ⟨⟩
  runs := by rintro r ⟨⟩

variable {s : AuditSystem} {e : BillingAuditEvent}

theorem eq_of_queued {e' : BillingAuditEvent} (he : e ∈ s.queued) (he' : e' ∈ s.queued)
    (hkey : e.eventKey = e'.eventKey) : e = e' := by
  obtain ⟨o, ho, rfl⟩ := mem_map.mp he
  obtain ⟨o', ho', rfl⟩ := mem_map.mp he'
  rw [eq_of_key ho ho' hkey]

variable {r : OutboxRun}

theorem OutboxRun.Sound.mono {queued queued' stored stored' : List BillingAuditEvent}
    (h : r.Sound queued stored) (hqueued : queued ⊆ queued') (hstored : stored ⊆ stored') :
    r.Sound queued' stored' :=
  ⟨fun item hitem => hqueued (h.items item hitem),
    fun hphase item hitem => hstored (h.mark hphase item hitem)⟩

/-- **A step**: the invariant is kept, and nothing leaves the queue. -/
def AuditSystem.Goes (s s' : AuditSystem) : Prop := s'.Sound ∧ s.queued ⊆ s'.queued

theorem AuditSystem.Sound.goes (h : s.Sound) {s' : AuditSystem} (queued : s'.queued = s.queued)
    (committed : s'.committed = s.committed) (ledgers : LedgersCover s'.db.ledgers s.committed)
    (stored : ∀ e ∈ s'.audit.rows, e ∈ s.queued)
    (processed : ∀ o ∈ s'.db.outbox.rows, o.processedAt ≠ 0 → o.auditEvent ∈ s'.audit.rows)
    (runs : ∀ r ∈ s'.runs, r.Sound s.queued s'.audit.rows) : s.Goes s' := by
  refine ⟨?_, queued.symm ▸ Subset.refl _⟩
  obtain ⟨-, announced, kept, -⟩ := h
  rw [← queued] at announced kept stored runs
  rw [← committed] at announced kept ledgers
  exact ⟨ledgers, announced, kept, stored, processed, runs⟩

/-! ## Ledger transactions -/

variable {l : BillingLedger} {ledgers : Table BillingLedger} (cal : Calendar)
  {committed : List Announcement} {a : Announcement} {db' : Database} {now : Int}

/-- The versions announced after a ledger was rewritten. -/
theorem LedgersCover.put (h : LedgersCover ledgers committed) {l' : BillingLedger}
    (found : ledgers.find? l.id = some l) (terms : l'.terms = l.terms)
    (version : l'.version = l.version + 1) : LedgersCover (ledgers.put l') committed := by
  have hl := mem_of_find? found
  have hrequest : l'.requestID = l.requestID := congrArg LedgerTerms.requestID terms
  have hid : l'.id = l.id := id_of_terms terms
  -- the other rows keep their request ids, which are not the one of the row rewritten
  have hother : ∀ m ∈ ledgers.rows, m.id ≠ l'.id → m.requestID ≠ l'.requestID := by
    intro m hm hne heq
    rw [h.unique m hm l hl (heq.trans hrequest)] at hne
    exact hne hid.symm
  constructor
  · intro m hm n hn heq
    rcases mem_put hm with hml | ⟨hmold, hmid⟩ <;>
      rcases mem_put hn with hnl | ⟨hnold, hnid⟩
    · rw [hml, hnl]
    · exact absurd (heq.symm.trans (by rw [hml])) (hother n hnold hnid)
    · exact absurd (heq.trans (by rw [hnl])) (hother m hmold hmid)
    · exact h.unique m hmold n hnold heq
  · intro a ha
    obtain ⟨m, hm, hm', hle⟩ := h.covered a ha
    by_cases hmid : m.id = l'.id
    · obtain rfl : m = l := eq_of_key hm hl (hmid.trans hid)
      exact ⟨l', mem_put_self hl hid, hrequest.trans hm', by omega⟩
    · exact ⟨m, mem_put_of_ne hm hmid, hm', hle⟩

theorem LedgersCover.insert (h : LedgersCover ledgers committed) (fresh : ledgers.find? l.id = none)
    (unknown : ∀ m ∈ ledgers.rows, m.requestID ≠ l.requestID) :
    LedgersCover (ledgers.insert l) committed := by
  constructor
  · intro m hm n hn heq
    rcases mem_insert hm with hml | hmold <;> rcases mem_insert hn with hnl | hnold
    · rw [hml, hnl]
    · exact absurd (heq.symm.trans (by rw [hml])) (unknown n hnold)
    · exact absurd (heq.trans (by rw [hnl])) (unknown m hmold)
    · exact h.unique m hmold n hnold heq
  · intro a ha
    obtain ⟨m, hm, hm'⟩ := h.covered a ha
    refine ⟨m, ?_, hm'⟩
    rw [rows_insert fresh]
    exact mem_append_left _ hm

theorem AuditSystem.Sound.find?_key (h : s.Sound) (hnew : ∀ b ∈ s.committed, b.triple ≠ a.triple) :
    s.db.outbox.find? a.key = none := by
  rw [find?_eq_none_iff]
  intro o ho hkey
  obtain ⟨b, hb, hreports⟩ := h.announced o.auditEvent (mem_map_of_mem ho)
  refine hnew b hb (Announcement.triple_eq_iff.mpr ?_)
  rw [← eventKey_of_reports hreports]
  exact hkey

/-- **Writing one ledger** and announcing it, if it is announced at all, under a triple that was not
committed before. -/
theorem AuditSystem.Sound.announce (h : s.Sound) {event : Option OutboxEvent}
    (hledgers : LedgersCover db'.ledgers s.committed) (hl : l ∈ db'.ledgers.rows)
    (hnew : ∀ b ∈ s.committed, ∀ e, b.triple ≠ (Announcement.mk l e).triple)
    (houtbox : db'.outbox = announceTo now s.db.outbox l event) : s.Goes { s with
      db := db', committed := s.committed ++ (event.map (Announcement.mk l)).toList } := by
  cases event with
  | none =>
    refine h.goes ?_ (append_nil _) hledgers h.stored (by rw [houtbox]; exact h.processed) h.runs
    rw [AuditSystem.queued, houtbox]; rfl
  | some e =>
    have hfree : s.db.outbox.find? (Announcement.row now ⟨l, e⟩).eventKey = none :=
      h.find?_key fun b hb => hnew b hb e
    have hrows : db'.outbox.rows = s.db.outbox.rows ++ [Announcement.row now ⟨l, e⟩] := by
      rw [houtbox]
      exact rows_insert hfree
    simp only [Option.map_some, Option.toList_some]
    have hqueued : AuditSystem.queued { s with
        db := db', committed := s.committed ++ [⟨l, e⟩] }
          = s.queued ++ [(Announcement.row now ⟨l, e⟩).auditEvent] := by
      rw [AuditSystem.queued, hrows, map_append]; rfl
    refine ⟨?_, by rw [hqueued]; exact subset_append_left _ _⟩
    refine
      { ledgers := ⟨hledgers.unique, ?_⟩, announced := ?_, kept := ?_, stored := ?_
        processed := ?_, runs := ?_ }
    · exact forall_mem_append.mpr ⟨hledgers.covered, forall_mem_singleton.mpr ⟨l, hl, rfl, le_rfl⟩⟩
    · rw [hqueued]
      refine forall_mem_append.mpr
        ⟨fun ev hev => ?_, forall_mem_singleton.mpr ⟨⟨l, e⟩, by simp, now, rfl⟩⟩
      obtain ⟨a, ha, hreports⟩ := h.announced ev hev
      exact ⟨a, mem_append_left _ ha, hreports⟩
    · rw [hqueued]
      refine forall_mem_append.mpr ⟨fun a ha => ?_, forall_mem_singleton.mpr ⟨_, by simp, now, rfl⟩⟩
      obtain ⟨ev, hev, hreports⟩ := h.kept a ha
      exact ⟨ev, mem_append_left _ hev, hreports⟩
    · intro ev hev
      rw [hqueued]
      exact mem_append_left _ (h.stored ev hev)
    · rw [hrows]
      exact forall_mem_append.mpr
        ⟨h.processed, forall_mem_singleton.mpr fun hmarked => absurd rfl hmarked⟩
    · intro r hr
      refine (h.runs r hr).mono ?_ (Subset.refl _)
      rw [hqueued]
      exact subset_append_left _ _

theorem announcement_of_written {op : LedgerOp} {db : Database}
    (h : writtenLedger db db' = some l) :
    op.announcement db db' = (op.announces l).map (Announcement.mk l) := by
  rw [LedgerOp.announcement, h]; rfl

/-- **Ledger operations keep the invariant.** -/
theorem goes_ledger (h : s.Sound) (now : Int) (op : LedgerOp) :
    s.Goes (s.step cal (.ledger now op)) := by
  rw [AuditSystem.step]
  generalize hdb' : op.exec cal now s.db = db'
  have hannounced : Announced now op.announces s.db db' := hdb' ▸ op.exec_announced cal now s.db
  cases hannounced with
  | quiet ledgers outbox =>
    have hnone : op.announcement s.db db' = none := by
      rw [LedgerOp.announcement, writtenLedger_eq_none ledgers]; rfl
    rw [hnone, Option.toList_none, append_nil]
    refine h.goes ?_ rfl (by rw [ledgers]; exact h.ledgers) h.stored
      (by rw [outbox]; exact h.processed) h.runs
    rw [AuditSystem.queued, outbox]; rfl
  | rewrite l l' found terms version ledgers outbox =>
    rw [announcement_of_written (writtenLedger_put found terms version ledgers)]
    have hl := mem_of_find? found
    refine h.announce (by rw [ledgers]; exact h.ledgers.put found terms version) ?_ ?_ outbox
    · rw [ledgers]
      exact mem_put_self hl (id_of_terms terms)
    · -- announcements of this request are about versions the ledger has already had
      intro b hb e heq
      simp only [Announcement.triple, Prod.mk.injEq] at heq
      obtain ⟨m, hm, hrequest, hle⟩ := h.ledgers.covered b hb
      have hml : m = l := h.ledgers.unique m hm l hl
        (hrequest.trans (heq.1.trans (congrArg LedgerTerms.requestID terms)))
      rw [hml] at hle
      omega
  | create l fresh unknown ledgers outbox =>
    rw [announcement_of_written (writtenLedger_insert fresh ledgers)]
    refine h.announce (by rw [ledgers]; exact h.ledgers.insert fresh unknown) ?_ ?_ outbox
    · rw [ledgers, rows_insert fresh]
      exact mem_append_right _ (by simp)
    · intro b hb e heq
      simp only [Announcement.triple, Prod.mk.injEq] at heq
      obtain ⟨m, hm, hrequest, -⟩ := h.ledgers.covered b hb
      exact unknown m hm (hrequest.trans heq.1)

/-! ## Runs of the processor -/

theorem map_auditEvent_updateWhere (outbox : Table BillingOutbox) (p : BillingOutbox → Bool)
    (f : BillingOutbox → BillingOutbox) (hf : ∀ o, Row.key (f o) = Row.key o)
    (hevent : ∀ o, (f o).auditEvent = o.auditEvent) :
    (outbox.updateWhere p f hf).rows.map BillingOutbox.auditEvent
      = outbox.rows.map BillingOutbox.auditEvent :=
  map_map_rows (fun o => by split <;> simp [hevent]) outbox.rows

theorem sound_resume {items : List BillingOutbox} {queued stored : List BillingAuditEvent}
    (h : ∀ item ∈ items, item.auditEvent ∈ queued) : (r.resume items).Sound queued stored := by
  cases items with
  | nil => exact ⟨by rintro item ⟨⟩, by rintro ⟨⟩⟩
  | cons item rest => exact ⟨h, by rintro ⟨⟩⟩

theorem sound_select (s : AuditSystem) (now limit : Int) (result : StatementResult) :
    (OutboxRun.select now limit result s.db.outbox).Sound s.queued s.audit.rows := by
  unfold OutboxRun.select
  cases result.err? with
  | some err => exact ⟨by rintro item ⟨⟩, by rintro ⟨⟩⟩
  | none =>
    refine sound_resume fun item hitem => ?_
    exact mem_map_of_mem (mem_of_mem_filter (mem_of_mem_take hitem))

/-- **After the insertion the event is stored**: a row that has its key already is the event itself,
stored by another run. -/
theorem AuditSystem.Sound.mem_insert (h : s.Sound) (he : e ∈ s.queued) :
    e ∈ (s.audit.insert e).rows := by
  cases hfind : s.audit.find? (Row.key e) with
  | none =>
    rw [rows_insert hfind]
    exact mem_append_right _ (by simp)
  | some old =>
    rw [insert_of_taken hfind]
    have hold := mem_of_find? hfind
    rw [eq_of_queued he (h.stored old hold) (key_of_find? hfind).symm]
    exact hold

/-- **What a statement of a run does**: the queue stays, the store grows by queued events, and a row
that is marked was marked before or has its event stored. -/
structure Progress (s : AuditSystem) (outbox : Table BillingOutbox)
    (audit : Table BillingAuditEvent) (r : OutboxRun) : Prop where
  queued : outbox.rows.map BillingOutbox.auditEvent = s.queued
  grows : s.audit.rows ⊆ audit.rows
  stored : ∀ e ∈ audit.rows, e ∈ s.queued
  processed : ∀ o ∈ outbox.rows, o.processedAt ≠ 0 → o.auditEvent ∈ audit.rows
  run : r.Sound s.queued audit.rows

theorem processed_postpone (h : s.Sound) (now : Int) (item : BillingOutbox) (err : String) :
    ∀ o ∈ (postpone now item err s.db.outbox).rows, o.processedAt ≠ 0 →
      o.auditEvent ∈ s.audit.rows := by
  intro o ho hmarked
  obtain ⟨y, hy, rfl⟩ := mem_updateWhere ho
  split_ifs at hmarked ⊢ <;> exact h.processed y hy hmarked

theorem processed_markProcessed (h : s.Sound) {item : BillingOutbox}
    (hitem : item.auditEvent ∈ s.audit.rows) :
    ∀ o ∈ (markProcessed now item s.db.outbox).rows, o.processedAt ≠ 0 →
      o.auditEvent ∈ s.audit.rows := by
  intro o ho hmarked
  obtain ⟨y, hy, rfl⟩ := mem_updateWhere ho
  by_cases hp : (y.eventKey = item.eventKey && y.processedAt = 0) = true
  · rw [if_pos hp]
    simp only [Bool.and_eq_true, decide_eq_true_eq] at hp
    have hevent : y.auditEvent = item.auditEvent :=
      eq_of_queued (mem_map_of_mem hy) (h.stored _ hitem) hp.1
    show y.auditEvent ∈ s.audit.rows
    rw [hevent]
    exact hitem
  · rw [if_neg hp] at hmarked ⊢
    exact h.processed y hy hmarked

theorem progress_statement (h : s.Sound) (hr : r.Sound s.queued s.audit.rows)
    (result : StatementResult) :
    let after := r.statement result s.db.outbox s.audit
    Progress s after.1 after.2.1 after.2.2 := by
  have hstill : ∀ r' : OutboxRun, r'.Sound s.queued s.audit.rows →
      Progress s s.db.outbox s.audit r' :=
    fun r' hr' => ⟨rfl, Subset.refl _, h.stored, h.processed, hr'⟩
  obtain ⟨now, items, phase, n⟩ := r
  cases items with
  | nil => exact hstill _ hr
  | cons item rest =>
    have hitem : item.auditEvent ∈ s.queued := hr.items item mem_cons_self
    have hrest : ∀ x ∈ rest, x.auditEvent ∈ s.queued :=
      fun x hx => hr.items x (mem_cons_of_mem _ hx)
    cases phase with
    | insert =>
      -- the event is stored afterwards unless the statement failed
      have hinserted : ∀ r' : OutboxRun, r'.Sound s.queued (s.audit.insert item.auditEvent).rows →
          Progress s s.db.outbox (s.audit.insert item.auditEvent) r' := by
        intro r' hr'
        refine ⟨rfl, subset_insert _, fun e he => ?_, fun o ho hmarked => ?_, hr'⟩
        · rcases mem_insert he with rfl | hold
          · exact hitem
          · exact h.stored e hold
        · exact subset_insert _ (h.processed o ho hmarked)
      have hpostponed : ∀ err stored,
          OutboxRun.Sound ⟨now, item :: rest, .postpone err, n⟩ s.queued stored :=
        fun err stored => ⟨hr.items, by rintro ⟨⟩⟩
      cases result with
      | ok =>
        refine hinserted ⟨now, item :: rest, .mark, n⟩ ⟨hr.items, fun _ x hx => ?_⟩
        obtain rfl : item = x := Option.some.inj hx
        exact h.mem_insert hitem
      | failed err => exact hstill _ (hpostponed err _)
      | lost err => exact hinserted _ (hpostponed err _)
    | postpone err =>
      have hdone : ∀ r' : OutboxRun, r'.Sound s.queued s.audit.rows →
          Progress s (postpone now item err s.db.outbox) s.audit r' :=
        fun r' hr' => ⟨map_auditEvent_updateWhere _ _ _ _ fun _ => rfl, Subset.refl _, h.stored,
          processed_postpone h _ _ _, hr'⟩
      cases result with
      | ok | lost => exact hdone _ (sound_resume hrest)
      | failed err' => exact hstill _ (sound_resume hrest)
    | mark =>
      have hstored : item.auditEvent ∈ s.audit.rows := hr.mark rfl item rfl
      have hdone : ∀ r' : OutboxRun, r'.Sound s.queued s.audit.rows →
          Progress s (markProcessed now item s.db.outbox) s.audit r' :=
        fun r' hr' => ⟨map_auditEvent_updateWhere _ _ _ _ fun _ => rfl, Subset.refl _, h.stored,
          processed_markProcessed h hstored, hr'⟩
      have hreturned : ∀ err,
          OutboxRun.Sound ⟨now, item :: rest, .returned (some err), n⟩ s.queued s.audit.rows :=
        fun err => ⟨hr.items, by rintro ⟨⟩⟩
      cases result with
      | ok => exact hdone _ (sound_resume hrest)
      | failed err => exact hstill _ (hreturned err)
      | lost err => exact hdone _ (hreturned err)
    | returned err => exact hstill _ hr

theorem goes_step (h : s.Sound) (e : AuditStep) : s.Goes (s.step cal e) := by
  cases e with
  | ledger now op => exact goes_ledger cal h now op
  | elsewhere db => exact h.goes rfl rfl h.ledgers h.stored h.processed h.runs
  | select now limit result =>
    refine h.goes rfl rfl h.ledgers h.stored h.processed fun r hr => ?_
    rcases mem_append.mp hr with hold | hnew
    · exact h.runs r hold
    · rw [mem_singleton.mp hnew]
      exact sound_select s now limit result
  | statement i result =>
    rw [AuditSystem.step]
    cases hrun : s.runs[i]? with
    | none => exact ⟨h, Subset.refl _⟩
    | some r =>
      have hprogress := progress_statement h (h.runs r (mem_of_getElem? hrun)) result
      refine h.goes hprogress.queued rfl h.ledgers hprogress.stored hprogress.processed fun r' hr' => ?_
      rcases mem_or_eq_of_mem_set hr' with hold | rfl
      · exact (h.runs r' hold).mono (Subset.refl _) hprogress.grows
      · exact hprogress.run
  | cancel i err =>
    rw [AuditSystem.step]
    cases hrun : s.runs[i]? with
    | none => exact ⟨h, Subset.refl _⟩
    | some r =>
      refine h.goes rfl rfl h.ledgers h.stored h.processed fun r' hr' => ?_
      rcases mem_or_eq_of_mem_set hr' with hold | rfl
      · exact h.runs r' hold
      · have hr := h.runs r (mem_of_getElem? hrun)
        unfold OutboxRun.cancel
        split
        · exact ⟨hr.items, by rintro ⟨⟩⟩
        · exact hr

/-- **Every step keeps the invariant.** -/
theorem sound_step (s : AuditSystem) (e : AuditStep) (h : s.Sound) :
    (s.step cal e).Sound := (goes_step cal h e).1

theorem queued_subset_run (h : s.Sound) (es : List AuditStep) :
    s.queued ⊆ (run (AuditSystem.step cal) s es).queued := by
  induction es generalizing s with
  | nil => exact Subset.refl _
  | cons e es ih =>
    obtain ⟨hsound, hgrows⟩ := goes_step cal h e
    exact Subset.trans hgrows (ih hsound)

/-! ## Delivery -/

section

variable (s : AuditSystem)

/-- The number of rows that no run has marked. -/
def AuditSystem.pending : Nat := s.db.outbox.count fun o => o.processedAt = 0

def AuditSystem.DueBy (t : Int) : Prop :=
  0 < t ∧ ∀ o ∈ s.db.outbox.rows, o.availableAt ≤ t

theorem exists_dueBy : ∃ t, s.DueBy t := by
  unfold AuditSystem.DueBy
  induction s.db.outbox.rows with
  | nil => exact ⟨1, by decide, by rintro o ⟨⟩⟩
  | cons o rest ih =>
    obtain ⟨t, hpos, hrest⟩ := ih
    refine ⟨max t o.availableAt, lt_of_lt_of_le hpos (le_max_left _ _), fun x hx => ?_⟩
    rcases mem_cons.mp hx with rfl | hx
    · exact le_max_right _ _
    · exact (hrest x hx).trans (le_max_left _ _)

/-- The steps of a run with limit `1` to which every statement answers, when `n` runs have been
started before. -/
def deliverOne (n : Nat) (t : Int) : List AuditStep :=
  [.select t 1 .ok, .statement n .ok, .statement n .ok]

/-- The run with limit `1` that has dealt with `o`. -/
def completedRun (outbox : Table BillingOutbox) (t : Int) (o : BillingOutbox) : OutboxRun :=
  { now := t, items := [], phase := .returned none
    processed :=
      if (outbox.count fun x => x.eventKey = o.eventKey && x.processedAt = 0) = 1 then 0 + 1 else 0 }

/-- What a fault-free run with limit `1` leaves when `o` is the first row that is due. -/
def AuditSystem.delivered (t : Int) (o : BillingOutbox) : AuditSystem :=
  { s with
    db := { s.db with outbox := markProcessed t o s.db.outbox }
    audit := s.audit.insert o.auditEvent
    runs := s.runs ++ [completedRun s.db.outbox t o] }

theorem step_last (runs : List OutboxRun) (r : OutboxRun) (result : StatementResult)
    (hruns : s.runs = runs ++ [r]) :
    s.step cal (.statement runs.length result) =
      { s with
        db := { s.db with outbox := (r.statement result s.db.outbox s.audit).1 }
        audit := (r.statement result s.db.outbox s.audit).2.1
        runs := runs ++ [(r.statement result s.db.outbox s.audit).2.2] } := by
  have hget : s.runs[runs.length]? = some r := by rw [hruns]; simp
  rw [AuditSystem.step]
  simp [hruns]

end

variable {t : Int} {o : BillingOutbox}

/-- **One fault-free run** stores and marks the first row that is due. -/
theorem run_deliverOne (cal : Calendar) (s : AuditSystem) {rest : List BillingOutbox}
    (hselect : (s.db.outbox.select fun o => o.processedAt = 0 && o.availableAt ≤ t) = o :: rest) :
    run (AuditSystem.step cal) s (deliverOne s.runs.length t) = s.delivered t o := by
  have hread : OutboxRun.select t 1 .ok s.db.outbox
      = { now := t, items := [o], phase := .insert, processed := 0 } := by
    simp [OutboxRun.select, StatementResult.err?, hselect, OutboxRun.resume]
  have hstart : s.step cal (.select t 1 .ok) = { s with
      runs := s.runs ++ [{ now := t, items := [o], phase := .insert, processed := 0 }] } := by
    rw [← hread]
    rfl
  have hinsert : AuditSystem.step cal { s with
      runs := s.runs ++ [{ now := t, items := [o], phase := .insert, processed := 0 }] }
        (.statement s.runs.length .ok) = { s with
      audit := s.audit.insert o.auditEvent
      runs := s.runs ++ [{ now := t, items := [o], phase := .mark, processed := 0 }] } :=
    step_last cal _ s.runs ⟨t, [o], .insert, 0⟩ .ok rfl
  have hmark : AuditSystem.step cal { s with
      audit := s.audit.insert o.auditEvent
      runs := s.runs ++ [{ now := t, items := [o], phase := .mark, processed := 0 }] }
        (.statement s.runs.length .ok) = s.delivered t o :=
    step_last cal _ s.runs ⟨t, [o], .mark, 0⟩ .ok rfl
  rw [deliverOne, run_cons, run_cons, run_cons, run_nil, hstart, hinsert, hmark]

theorem exists_select (hdue : s.DueBy t) (hpending : s.pending ≠ 0) :
    ∃ o rest, (s.db.outbox.select fun o => o.processedAt = 0 && o.availableAt ≤ t) = o :: rest := by
  obtain ⟨o, ho, hopen⟩ := countP_pos_iff.mp (Nat.pos_of_ne_zero hpending)
  have hmem : o ∈ s.db.outbox.select fun o => o.processedAt = 0 && o.availableAt ≤ t := by
    refine mem_filter.mpr ⟨ho, ?_⟩
    simp [hopen, hdue.2 o ho]
  cases hselect : s.db.outbox.select fun o => o.processedAt = 0 && o.availableAt ≤ t with
  | nil => rw [hselect] at hmem; cases hmem
  | cons first rest => exact ⟨first, rest, rfl⟩

/-- Marking a row that is pending leaves one fewer, and makes no row due later. -/
theorem delivered_spec (hdue : s.DueBy t) (ho : o ∈ s.db.outbox.rows) (hopen : o.processedAt = 0) :
    (s.delivered t o).pending + 1 = s.pending ∧ (s.delivered t o).DueBy t := by
  have hfind : s.db.outbox.find? o.eventKey = some o := find?_of_mem ho
  have hput : markProcessed t o s.db.outbox
      = s.db.outbox.put { o with processedAt := t, lastError := "", updatedAt := t } :=
    updateWhere_eq_put _ (fun r hr => by
      simp only [Bool.and_eq_true, decide_eq_true_eq] at hr
      exact hr.1) hfind (by simp [hopen])
  constructor
  · have hne : t ≠ 0 := hdue.1.ne'
    have hsum := sum_put
      (r := { o with processedAt := t, lastError := "", updatedAt := t }) hfind
      (fun o => if decide (o.processedAt = 0) = true then (1 : Int) else 0)
    rw [← hput, sum_ite_one, sum_ite_one] at hsum
    simp only [hopen, hne, decide_true, decide_false, if_true, Bool.false_eq_true, if_false] at hsum
    show (markProcessed t o s.db.outbox).count (fun o => decide (o.processedAt = 0)) + 1
      = s.db.outbox.count fun o => decide (o.processedAt = 0)
    omega
  · refine ⟨hdue.1, fun x hx => ?_⟩
    have hx' : x ∈ (s.db.outbox.put { o with processedAt := t, lastError := "", updatedAt := t }).rows :=
      hput ▸ hx
    rcases mem_put hx' with rfl | ⟨hold, -⟩
    · exact hdue.2 o ho
    · exact hdue.2 x hold

/-- **The outbox can be drained** by fault-free runs that all return without an error. -/
theorem exists_drain (cal : Calendar) (n : Nat) (s : AuditSystem) (hpending : s.pending = n)
    (hdue : s.DueBy t) :
    ∃ fs : List AuditStep, (∀ f ∈ fs, f.faultFree = true) ∧
      (run (AuditSystem.step cal) s fs).pending = 0 ∧
      (run (AuditSystem.step cal) s fs).committed = s.committed ∧
      ∃ completed, (run (AuditSystem.step cal) s fs).runs = s.runs ++ completed ∧
        ∀ r ∈ completed, r.phase = .returned none := by
  -- each run takes the first row off the pending ones
  induction n generalizing s with
  | zero => exact ⟨[], by simp, hpending, rfl, [], by simp, by simp⟩
  | succ n ih =>
    obtain ⟨o, rest, hselect⟩ := exists_select hdue (by omega)
    have hmem : o ∈ s.db.outbox.select fun o => o.processedAt = 0 && o.availableAt ≤ t := by
      rw [hselect]; exact mem_cons_self
    obtain ⟨ho, hopen⟩ := mem_filter.mp hmem
    simp only [Bool.and_eq_true, decide_eq_true_eq] at hopen
    obtain ⟨hless, hdue'⟩ := delivered_spec hdue ho hopen.1
    obtain ⟨fs, hfree, hdrained, hcommitted, completed, hruns, hreturned⟩ :=
      ih (s.delivered t o) (by omega) hdue'
    refine ⟨deliverOne s.runs.length t ++ fs, fun f hf => ?_, ?_⟩
    · rcases mem_append.mp hf with hfirst | hlater
      · simp only [deliverOne, mem_cons, not_mem_nil, or_false] at hfirst
        rcases hfirst with rfl | rfl | rfl <;> rfl
      · exact hfree f hlater
    · rw [run_append, run_deliverOne cal s hselect]
      refine ⟨hdrained, hcommitted, completedRun s.db.outbox t o :: completed, ?_, ?_⟩
      · rw [hruns, AuditSystem.delivered, append_assoc]; rfl
      · intro r hr
        rcases mem_cons.mp hr with rfl | hr
        · rfl
        · exact hreturned r hr

/-! ## The result -/

theorem AuditSystem.Sound.eventKey_eq (h : s.Sound) (he : e ∈ s.queued) :
    e.eventKey = eventKey e.triple.1 e.triple.2.1 e.triple.2.2 := by
  obtain ⟨a, -, queuedAt, rfl⟩ := h.announced e he
  rfl

theorem AuditSystem.Sound.nodup_triples (h : s.Sound) :
    (s.audit.rows.map BillingAuditEvent.triple).Nodup := by
  have hkeys : s.audit.rows.map BillingAuditEvent.eventKey
      = (s.audit.rows.map BillingAuditEvent.triple).map fun t => eventKey t.1 t.2.1 t.2.2 := by
    rw [map_map]
    exact map_congr_left fun e he => h.eventKey_eq (h.stored e he)
  have hnodup : (s.audit.rows.map BillingAuditEvent.eventKey).Nodup := s.audit.nodup_keys
  rw [hkeys] at hnodup
  exact Nodup.of_map _ hnodup

theorem AuditSystem.Sound.count_eq_one (h : s.Sound) (hdrained : s.pending = 0)
    (ha : a ∈ s.committed) : (s.audit.rows.map BillingAuditEvent.triple).count a.triple = 1 := by
  obtain ⟨e, he, hreports⟩ := h.kept a ha
  obtain ⟨o, ho, rfl⟩ := mem_map.mp he
  have hmarked : o.processedAt ≠ 0 := by
    have hall := countP_eq_zero.mp hdrained o ho
    simpa using hall
  refine count_eq_one_of_mem h.nodup_triples ?_
  exact mem_map.mpr ⟨o.auditEvent, h.processed o ho hmarked, triple_of_reports hreports⟩

/-- **Audit delivery.** In every reachable state, whatever fails and whichever runs stop: what is
stored was committed, no triple is stored twice, a marked row has its event stored with the same
payload, no committed row is ever lost from the queue, and fault-free runs can deliver each
committed triple exactly once. -/
theorem audit_delivery (cal : Calendar) (db : Database) (es : List AuditStep) :
    let s := run (AuditSystem.step cal) (AuditSystem.start db) es
    (∀ e ∈ s.audit.rows, ∃ a ∈ s.committed,
      e.triple = a.triple ∧ e.payload = a.ledger.eventPayload) ∧
    (s.audit.rows.map BillingAuditEvent.triple).Nodup ∧
    (∀ o ∈ s.db.outbox.rows, o.processedAt ≠ 0 → ∃ e ∈ s.audit.rows,
      e.eventKey = o.eventKey ∧ e.triple = o.auditEvent.triple ∧ e.payload = o.payload) ∧
    (∀ a ∈ s.committed, ∃ o ∈ s.db.outbox.rows,
      o.auditEvent.triple = a.triple ∧ o.payload = a.ledger.eventPayload) ∧
    (∀ fs, ∀ o ∈ s.db.outbox.rows, ∃ o' ∈ (run (AuditSystem.step cal) s fs).db.outbox.rows,
      o'.auditEvent = o.auditEvent) ∧
    (∃ fs : List AuditStep, (∀ f ∈ fs, f.faultFree = true) ∧
      let s' := run (AuditSystem.step cal) s fs
      s'.committed = s.committed ∧
      (∀ a ∈ s.committed, (s'.audit.rows.map BillingAuditEvent.triple).count a.triple = 1) ∧
      ∃ completed, s'.runs = s.runs ++ completed ∧ ∀ r ∈ completed, r.phase = .returned none) := by
  intro s
  have h : s.Sound := run_invariant_all (sound_step cal) es (sound_start db)
  refine ⟨fun e he => ?_, h.nodup_triples, fun o ho hmarked => ?_, fun a ha => ?_, fun fs o ho => ?_,
    ?_⟩
  · obtain ⟨a, ha, hreports⟩ := h.announced e (h.stored e he)
    exact ⟨a, ha, triple_of_reports hreports, payload_of_reports hreports⟩
  · exact ⟨o.auditEvent, h.processed o ho hmarked, rfl, rfl, rfl⟩
  · obtain ⟨e, he, hreports⟩ := h.kept a ha
    obtain ⟨o, ho, rfl⟩ := mem_map.mp he
    exact ⟨o, ho, triple_of_reports hreports, payload_of_reports hreports⟩
  · exact mem_map.mp (queued_subset_run cal h fs (mem_map_of_mem ho))
  · obtain ⟨t, hdue⟩ := exists_dueBy s
    obtain ⟨fs, hfree, hdrained, hcommitted, completed⟩ := exists_drain cal s.pending s rfl hdue
    refine ⟨fs, hfree, hcommitted, fun a ha => ?_, completed⟩
    have h' : (run (AuditSystem.step cal) s fs).Sound := run_invariant_all (sound_step cal) fs h
    exact h'.count_eq_one hdrained (hcommitted.symm ▸ ha)

/-- **The audit trail belongs to the ledgers.** Whatever fails, each stored event has exactly one
ledger of its request, at the version of the event or a later one. -/
theorem audited_has_ledger (cal : Calendar) (db : Database) (es : List AuditStep) :
    let s := run (AuditSystem.step cal) (AuditSystem.start db) es
    ∀ e ∈ s.audit.rows, ∃ l ∈ s.db.ledgers.rows, e.payload.version ≤ l.version ∧
      ∀ m ∈ s.db.ledgers.rows, m.requestID = e.requestID ↔ m = l := by
  intro s e he
  have h : s.Sound := run_invariant_all (sound_step cal) es (sound_start db)
  obtain ⟨a, ha, _, rfl⟩ := h.announced e (h.stored e he)
  obtain ⟨l, hl, hid, hversion⟩ := h.ledgers.covered a ha
  refine ⟨l, hl, hversion, fun m hm => ⟨fun hm' => ?_, fun hml => hml ▸ hid⟩⟩
  exact h.ledgers.unique m hm l hl (hm'.trans hid.symm)

end RenewApi.Billing
