import RenewApi.Billing.Coverage
import RenewApi.Tasks.Submission
import RenewApi.Tasks.Terminal

/-! # A submission among pollers

`RelayTask` persists the prepared row before it asks the upstream, so pollers see the row before it
has an upstream id; `GetUpstreamTaskID` then falls back to the public id.

* **`SubmitState.killed`**: a poll with a copy that has no upstream id has failed the submitted task
  or refunded its ledger. -/

namespace RenewApi.Billing

open Relational Table Option TaskBillingColumns TaskSystem Bool

variable {cal : Calendar} {a : PollingAdaptor} {now k : Int} {s : TaskSystem} {db db' : Database}
  {e : TaskEvent} {ledgerID : Nat} {answer : PollAnswer} {copy : Task}

/-- How far a submission is. -/
inductive SubmitPhase
  | reserved
  | prepared (taskID : Int)
  | accepted (taskID : Int) (info : RelayInfo) (result : TaskSubmitResult)
  | acknowledged (taskID : Int) (quota : Int)
  | settled (taskID : Int)
  | givenUp
  /-- The upstream has accepted the task, but this was not recorded or not settled. -/
  | failed (taskID : Int) (e : DbError)

/-- The row of the submission. -/
def SubmitPhase.task? : SubmitPhase → Option Int
  | .reserved | .givenUp => none
  | .prepared k | .accepted k _ _ | .acknowledged k _ | .settled k | .failed k _ => some k

/-- The submission has its row and has not finished. -/
def SubmitPhase.unsettled : SubmitPhase → Bool
  | .prepared _ | .accepted _ _ _ | .acknowledged _ _ => true
  | .reserved | .settled _ | .givenUp | .failed _ _ => false

/-- A submission among pollers. -/
structure SubmitState where
  system : TaskSystem
  phase : SubmitPhase
  killed : Bool

/-- One step of the submission or of a poller. -/
inductive SubmitEvent
  | prepare (platform : TaskPlatform) (info : RelayInfo)
  /-- The upstream accepts the task; the request is described by the accepting attempt. -/
  | accept (info : RelayInfo) (result : TaskSubmitResult)
  | acknowledge
  | settle
  | giveUp
  | poller (e : PollerEvent)

structure TimedSubmitEvent where
  now : Int
  event : SubmitEvent

/-- The task with a given id has failed. -/
def Database.failed (db : Database) (id : Int) : Bool :=
  (db.tasks.find? id).any (·.status = .failure)

/-- The ledger with a given id is refunded. -/
def Database.refunded (db : Database) (id : Nat) : Bool :=
  (db.ledgers.find? id).any (fun l => l.state = .refunded)

/-- A poll of a row that asks the upstream with the local id, because its copy has no upstream
id. -/
def TaskEvent.blind (id : Int) : TaskEvent → Bool
  | .poll _ (.sweep _) => false
  | .poll copy _ => copy.id = id && copy.privateData.upstreamTaskID = ""
  | _ => false

/-- The task has turned to a failure, or its ledger to refunded. -/
def killedBetween (db db' : Database) (ledgerID : Nat) (id : Int) : Bool :=
  (db'.failed id && !db.failed id) || (db'.refunded ledgerID && !db.refunded ledgerID)

/-- A call of the submission failed after the acceptance: the ledger is marked for its settlement in
a transaction of its own. -/
def SubmitState.fail (s : SubmitState) (db : Database) (ledgerID : Nat) (k quota : Int)
    (e : DbError) : SubmitState :=
  { s with
    system := { s.system with
      db := db, pending := ⟨ledgerID, .settle, quota, e.text⟩ :: s.system.pending }
    phase := .failed k e }

/-- **One step of a submission among pollers.** Events that do not fit the phase do nothing. -/
def SubmitState.step (cfg : TaskSettings) (cal : Calendar) (a : PollingAdaptor) (ledgerID : Nat)
    (s : SubmitState) (e : TimedSubmitEvent) : SubmitState :=
  match e.event, s.phase with
  | .prepare platform info, .reserved =>
    match transaction (bindBillingLedgerTask e.now ledgerID
        (some (preparedTask cfg e.now platform info))) s.system.db with
    | (db, .ok task) =>
      { s with system := { s.system with db := db }, phase := .prepared task.id }
    | (db, .error _) => { s with system := { s.system with db := db } }
  | .accept info result, .prepared k => { s with phase := .accepted k info result }
  | .acknowledge, .accepted k info result =>
    match transaction (acknowledgeBillingLedgerTask e.now ledgerID result.quota
        (some { relayedTask cfg e.now result info with id := k })) s.system.db with
    | (db, .ok _) =>
      { s with system := { s.system with db := db }, phase := .acknowledged k result.quota }
    | (db, .error err) => s.fail db ledgerID k result.quota err
  | .settle, .acknowledged k quota =>
    match transaction (settleBillingLedger e.now ledgerID quota []) s.system.db with
    | (db, .ok _) => { s with system := { s.system with db := db }, phase := .settled k }
    | (db, .error err) => s.fail db ledgerID k quota err
  | .giveUp, .reserved | .giveUp, .prepared _ =>
    match transaction (refundBillingLedger e.now ledgerID "request failed before settlement")
        s.system.db with
    | (db, .ok _) => { s with system := { s.system with db := db }, phase := .givenUp }
    | (db, .error err) =>
      { s with
        system := { s.system with
          db := db, pending := ⟨ledgerID, .refund, 0, err.text⟩ :: s.system.pending }
        phase := .givenUp }
  | .poller event, phase =>
    let system := s.system.step cal a ⟨e.now, event⟩
    { s with
      system := system
      killed := s.killed || phase.task?.any (fun k =>
        event.1.blind k && killedBetween s.system.db system.db ledgerID k) }
  | _, _ => s

def PollAnswer.fails (a : PollingAdaptor) (now : Int) (db : Database) (copy : Task)
    (answer : PollAnswer) : Bool :=
  (answer.apply a now db copy).1.status = .failure && (answer.apply a now db copy).2 ≠ .nothing

/-! ## Refunds -/

theorem live_exec {op : LedgerOp} (hop : ∀ input, op ≠ .reserve input)
    (hleads : op.ledger? db = some ledgerID → ∀ l l', op.leads l l' → l'.state ≠ .refunded)
    (h : db.refunded ledgerID = false) : (op.exec cal now db).refunded ledgerID = false := by
  unfold Database.refunded at h ⊢
  cases op.exec_outcome cal now db with
  | quiet ledgers _ => rw [ledgers]; exact h
  | create input _ hreserve => exact absurd hreserve (hop input)
  | rewrite l l' target leads hrewrite =>
    rw [hrewrite.find?_eq]
    by_cases hid : ledgerID = l.id
    · subst hid
      simpa using hleads target l l' leads
    · rw [if_neg hid]
      exact h

theorem status_of_spares (hspares : answer.fails a now db copy = false)
    (hdecision : (answer.apply a now db copy).2 ≠ .nothing) :
    (answer.apply a now db copy).1.status ≠ .failure := by
  intro hs
  simp [PollAnswer.fails, hs, hdecision] at hspares

/-- **A poller refunds a ledger only by an answer that fails a copy of its task.** -/
theorem PollerWrite.live (h : PollerWrite cal a now s db' e)
    (hcopies : ∀ c ∈ s.copies, s.db.bound c.id c.billingLedgerID)
    (hspares : ∀ copy answer, e = .poll copy answer → copy ∈ s.copies →
      copy.billingLedgerID = ledgerID → answer.fails a now s.db copy = false)
    (hlive : s.db.refunded ledgerID = false) : db'.refunded ledgerID = false := by
  cases h with
  | quiet same => rw [same]; exact hlive
  | update _ _ _ _ db => rw [db]; exact hlive
  | bulk _ _ db => rw [db]; exact hlive
  | mark m db =>
    rw [db]
    refine live_exec (by rintro _ ⟨⟩) (fun _ l l' hleads => ?_) hlive
    have hstate : l'.state = .reconcileRequired := hleads.1
    rw [hstate]
    decide
  | finish copy answer held _ _ _ _ decision goal db =>
    rw [db]
    refine live_exec (by rintro _ ⟨⟩) (fun htarget l l' hleads => ?_) hlive
    -- the ledger that the call addresses is the one the copy is bound to
    obtain ⟨current, hfind, hcurrent⟩ :=
      bound_of_held hcopies a now held answer
    rw [LedgerOp.ledger?, hfind, map_some, hcurrent, ite_self,
      (answer.apply_spec a now s.db copy).ledgerID] at htarget
    have hsaved := hspares copy answer rfl held (some.inj htarget)
    rcases finalizeGoal_eq_some goal with ⟨hfailure, -⟩ | ⟨-, rfl⟩
    · exact absurd hfailure (status_of_spares hsaved (by simp [decision]))
    · have hstate : l'.state = .settled := hleads.2
      rw [hstate]
      decide

theorem PollerWrite.failed (h : PollerWrite cal a now s db' (.poll copy answer))
    (hspares : answer.fails a now s.db copy = false) (hfailed : db'.failed copy.id = true) :
    s.db.failed copy.id = true := by
  have hspec := answer.apply_spec a now s.db copy
  cases h with
  | quiet same => rw [same] at hfailed; exact hfailed
  | update _ _ held decision db =>
    have hstatus := status_of_spares hspares (by simp [decision])
    unfold Database.failed at hfailed ⊢
    obtain ⟨t', hfind, hfailure⟩ := (any_eq_true _ _).mp hfailed
    rw [db] at hfind
    rcases mem_updateWithStatus (mem_of_find? hfind) with hold | ⟨t, -, -, -, rfl⟩
    · have hid : t'.id = copy.id := key_of_find? hfind
      have hrow : s.db.tasks.find? copy.id = some t' := hid ▸ find?_of_mem hold
      rw [hrow]
      exact hfailure
    · exact absurd (by simpa using hfailure) hstatus
  | finish _ _ _ _ target reason desired decision _ db =>
    have hstatus := status_of_spares hspares (by simp [decision])
    rcases exec_updateTask_status cal now s.db (answer.apply a now s.db copy).1 copy.status desired
      target reason with hsame | hwritten
    · rw [db, hsame] at hfailed
      exact hfailed
    · obtain ⟨t', hfind, hfailure⟩ := (any_eq_true _ _).mp hfailed
      rw [db] at hfind
      have hid : t'.id = copy.id := key_of_find? hfind
      have hsame := hwritten t' (mem_of_find? hfind) (hid.trans hspec.id.symm)
      exact absurd (hsame.symm.trans (by simpa using hfailure)) hstatus

/-! ## The submission -/

/-- **The submission has its row**: it is the only one bound to the ledger, and the ledger is not
refunded. -/
structure PreparedRow (db : Database) (ledgerID : Nat) (k : Int) : Prop where
  ledger : ledgerID ≠ 0
  pos : 0 < k
  bound : db.bound k ledgerID
  only : ∀ t ∈ db.tasks.rows, t.billingLedgerID = ledgerID → t.id = k
  known : (db.ledgers.find? ledgerID).isSome
  live : db.refunded ledgerID = false

theorem PreparedRow.locks (h : PreparedRow db ledgerID k) :
    ∃ l, db.ledgers.find? ledgerID = some l ∧ lockBillingLedgerTx db ledgerID = .ok l ∧
      l.state ≠ .refunded := by
  obtain ⟨l, hfind⟩ := isSome_iff_exists.mp h.known
  refine ⟨l, hfind, lockBillingLedgerTx_eq_ok.mpr ⟨h.ledger, hfind⟩, fun hstate => ?_⟩
  have hlive := h.live
  rw [Database.refunded, hfind] at hlive
  simp [hstate] at hlive

theorem PreparedRow.of_bindings (h : PreparedRow db ledgerID k) (hbindings : SameBindings db db')
    (hknown : (db'.ledgers.find? ledgerID).isSome) (hlive : db'.refunded ledgerID = false) :
    PreparedRow db' ledgerID k where
  ledger := h.ledger
  pos := h.pos
  bound := hbindings.bound h.bound
  only t' ht' hledger := by
    obtain ⟨t, ht, hid, hsame⟩ := hbindings.rows t' ht'
    exact hid.trans (h.only t ht (hsame.symm.trans hledger))
  known := hknown
  live := hlive

variable {quota : Int} {task : Task}

/-- **An acknowledgement of the row goes through.** -/
theorem PreparedRow.acknowledge (h : PreparedRow db ledgerID k) (now : Int) (hquota : 0 ≤ quota)
    (htask : task.id = k) :
    ∃ r, acknowledgeBillingLedgerTask now ledgerID quota (some task) db = .ok r := by
  obtain ⟨l, -, hlock, hlive⟩ := h.locks
  obtain ⟨current, hfind, hbound⟩ := h.bound
  have hpos : ¬ task.id ≤ 0 := by rw [htask]; exact not_le.mpr h.pos
  unfold acknowledgeBillingLedgerTask
  dsimp only
  rw [if_neg hpos, if_neg (not_lt.mpr hquota), hlock, htask, hfind]
  dsimp only [bind, Except.bind]
  rw [if_neg hlive, if_neg (not_not.mpr hbound)]
  split <;> exact ⟨_, rfl⟩

/-- The ledger can be settled at `quota`: it is already, or the charged rows can take it. -/
def Database.canSettle (db : Database) (ledgerID : Nat) (quota : Int) : Prop :=
  ∀ l ∈ db.ledgers.find? ledgerID,
    (l.state = .settled ∧ l.appliedQuota = quota) ∨ db.Affords l quota
  deriving Decidable

/-- **A settlement that the charged rows can take goes through.** -/
theorem PreparedRow.settle (h : PreparedRow db ledgerID k) (now : Int) (hquota : 0 ≤ quota)
    (hsettle : db.canSettle ledgerID quota) :
    ∃ r, settleBillingLedger now ledgerID quota [] db = .ok r := by
  obtain ⟨l, hfind, hlock, hlive⟩ := h.locks
  unfold settleBillingLedger
  rw [if_neg (not_lt.mpr hquota)]
  have hmutate : ∃ p, mutateLockedBillingLedgerTx now db l .settle quota (assignChannelHook [])
      = .ok p := by
    by_cases hdone : l.state = .settled ∧ l.appliedQuota = quota
    · refine ⟨(db, l, false), ?_⟩
      unfold mutateLockedBillingLedgerTx
      rw [if_neg (by decide), if_neg hlive, if_pos ⟨rfl, hdone⟩]
    · obtain ⟨db', l', hok⟩ := mutateLockedBillingLedgerTx_succeeds now (.inl rfl) hlive
        (fun hsettled => hdone hsettled.2) ((hsettle l hfind).resolve_left hdone)
        (fun db₁ l₁ => ⟨db₁.tasks, l₁.lastError, (rfl : assignChannelHook [] db₁ l₁ = .ok (db₁, l₁))⟩)
      exact ⟨_, hok⟩
  obtain ⟨p, hp⟩ := hmutate
  exact ⟨_, bind_eq_ok.mpr ⟨l, hlock, bind_eq_ok.mpr ⟨p, hp, rfl⟩⟩⟩

def SubmitPhase.Holds (db : Database) (ledgerID : Nat) : SubmitPhase → Prop
  | .reserved => ∀ t ∈ db.tasks.rows, t.billingLedgerID ≠ ledgerID
  | .prepared k | .accepted k _ _ => PreparedRow db ledgerID k
  | .acknowledged k quota => PreparedRow db ledgerID k ∧ 0 ≤ quota
  | .settled _ | .givenUp => True
  | .failed _ _ => False

/-- **The invariant of a submission that pollers spare.** -/
structure SubmitState.Sound (ledgerID : Nat) (s : SubmitState) : Prop where
  copies : ∀ c ∈ s.system.copies, s.system.db.bound c.id c.billingLedgerID
  phase : s.phase.Holds s.system.db ledgerID
  spared : s.killed = false

section

variable (a : PollingAdaptor) (ledgerID : Nat) (s : SubmitState) (e : TimedSubmitEvent)

/-- **The condition on one step.** The acknowledged quota is not negative; the settlement is
affordable; no poll of the row before it, and none ever with a copy without an upstream id, is
answered with a failure. -/
def TimedSubmitEvent.spares : Prop :=
  match e.event, s.phase with
  | .acknowledge, .accepted _ _ result => 0 ≤ result.quota
  | .settle, .acknowledged _ quota => s.system.db.canSettle ledgerID quota
  | .poller ⟨.poll copy answer, _⟩, phase =>
    phase.task? = some copy.id →
      (phase.unsettled || (TaskEvent.poll copy answer).blind copy.id) = true →
      answer.fails a e.now s.system.db copy = false
  | _, _ => True

instance TimedSubmitEvent.decidableSpares : Decidable (e.spares a ledgerID s) := by
  unfold TimedSubmitEvent.spares
  split <;> infer_instance

end

/-! ## One step -/

theorem PollerWrite.known (h : PollerWrite cal a now s db' e)
    (hknown : (s.db.ledgers.find? ledgerID).isSome) : (db'.ledgers.find? ledgerID).isSome := by
  cases h with
  | quiet same => rw [same]; exact hknown
  | update _ _ _ _ db => rw [db]; exact hknown
  | bulk _ _ db => rw [db]; exact hknown
  | mark m db => rw [db]; exact isSome_ledger_exec _ hknown
  | finish _ _ _ _ _ _ _ _ _ db =>
    rw [db]
    exact isSome_ledger_exec _ hknown

theorem SubmitPhase.Holds.poller {phase : SubmitPhase} (h : phase.Holds s.db ledgerID)
    (hwrite : PollerWrite cal a now s db' e)
    (hcopies : ∀ c ∈ s.copies, s.db.bound c.id c.billingLedgerID)
    (hspares : ∀ copy answer, e = .poll copy answer → phase.task? = some copy.id →
      phase.unsettled = true → answer.fails a now s.db copy = false) : phase.Holds db' ledgerID := by
  have hbindings := hwrite.bindings hcopies
  -- only the row of the submission is bound to its ledger, so other polls leave the ledger alone
  have hrow : ∀ k, PreparedRow s.db ledgerID k → phase.task? = some k → phase.unsettled = true →
      PreparedRow db' ledgerID k := by
    intro k hprepared htask hunsettled
    refine hprepared.of_bindings hbindings (hwrite.known hprepared.known)
      (hwrite.live hcopies (fun copy answer he held hledger => ?_) hprepared.live)
    refine hspares copy answer he ?_ hunsettled
    obtain ⟨t, hfind, hbound⟩ := hcopies copy held
    have hid : t.id = copy.id := key_of_find? hfind
    rw [htask, ← hid, hprepared.only t (mem_of_find? hfind) (hbound.trans hledger)]
  cases phase with
  | reserved =>
    intro t' ht' hledger
    obtain ⟨t, ht, -, hsame⟩ := hbindings.rows t' ht'
    exact h t ht (hsame.symm.trans hledger)
  | prepared k => exact hrow k h rfl rfl
  | accepted k => exact hrow k h rfl rfl
  | acknowledged k => exact ⟨hrow k h.1 rfl rfl, h.2⟩
  | settled k => trivial
  | givenUp => trivial
  | failed k e => exact h

theorem PreparedRow.of_bind {task' : Task} (hid : task.id = 0)
    (hunbound : ∀ t ∈ db.tasks.rows, t.billingLedgerID ≠ ledgerID)
    (h : bindBillingLedgerTask now ledgerID (some task) db = .ok (db', task')) (cal : Calendar) :
    PreparedRow db' ledgerID task'.id := by
  obtain ⟨hpos, hfresh, htasks, hledger, -⟩ := bindBillingLedgerTask_creates hid hunbound h
  obtain ⟨t, l, -, hlock, hreserved, -⟩ := bindBillingLedgerTask_eq_ok h
  have hexec : (LedgerOp.bind ledgerID (some task)).exec cal now db = db' := by
    rw [LedgerOp.exec, transaction_ok h]
  obtain ⟨h0, hfind⟩ := lockBillingLedgerTx_eq_ok.mp hlock
  refine ⟨h0, hpos, ⟨task', ?_, hledger⟩, fun t' ht' hbound => ?_, ?_, ?_⟩
  · rw [htasks, find?_insert hfresh, key_task, if_pos rfl]
  · rw [htasks] at ht'
    rcases mem_insert ht' with rfl | hold
    · rfl
    · exact absurd hbound (hunbound t' hold)
  · rw [← hexec]
    exact isSome_ledger_exec _ (by rw [hfind]; rfl)
  · rw [← hexec]
    refine live_exec (by rintro _ ⟨⟩) (fun _ l l' hleads => ?_) ?_
    · have hstate : l'.state = .reserved := hleads.2
      rw [hstate]
      decide
    · rw [Database.refunded, hfind]
      simp [hreserved]

theorem PreparedRow.of_acknowledge {p : BillingLedger × Task}
    (hprepared : PreparedRow db ledgerID k)
    (h : acknowledgeBillingLedgerTask now ledgerID quota (some task) db = .ok (db', p))
    (cal : Calendar) : PreparedRow db' ledgerID k := by
  have hexec : (LedgerOp.acknowledge ledgerID quota (some task)).exec cal now db = db' := by
    rw [LedgerOp.exec, transaction_ok h]
  rw [← hexec]
  refine hprepared.of_bindings (sameBindings_exec rfl (by rintro _ ⟨⟩))
    (isSome_ledger_exec _ hprepared.known) ?_
  refine live_exec (by rintro _ ⟨⟩) (fun _ l l' hleads => ?_) hprepared.live
  have hstate : l'.state = .reconcileRequired := hleads.1
  rw [hstate]
  decide

theorem copies_bound_exec {copies : List Task} (op : LedgerOp) (hexec : op.exec cal now db = db')
    (hfinished : op.finished? = none) (h : ∀ c ∈ copies, db.bound c.id c.billingLedgerID) :
    ∀ c ∈ copies, db'.bound c.id c.billingLedgerID := by
  intro c hc
  rw [← hexec]
  exact bound_exec (fun p hp => by rw [hfinished] at hp; cases hp) (h c hc)

/-- **A poll that spares the submission does not kill it.** -/
theorem spared_poller {e : PollerEvent}
    (hcopies : ∀ c ∈ s.copies, s.db.bound c.id c.billingLedgerID)
    (hspares : ∀ copy answer, e.1 = .poll copy answer → k = copy.id → e.1.blind k = true →
      answer.fails a now s.db copy = false) :
    (e.1.blind k && killedBetween s.db (s.step cal a ⟨now, e.1⟩).db ledgerID k) = false := by
  by_contra hkilled
  simp only [not_eq_false, and_eq_true] at hkilled
  obtain ⟨hblind, hkilled⟩ := hkilled
  have hwrite := s.pollerWrite cal a now e
  -- only polls of the row are blind
  obtain ⟨copy, answer, he, hid⟩ : ∃ copy answer, e.1 = .poll copy answer ∧ k = copy.id := by
    obtain ⟨event, hpolling⟩ := e
    cases event with
    | poll copy answer =>
      refine ⟨copy, answer, rfl, ?_⟩
      cases answer <;> simp [TaskEvent.blind] at hblind <;> exact hblind.1.symm
    | _ => cases hblind
  subst hid
  have hfails := hspares copy answer he rfl hblind
  rw [he] at hwrite hkilled
  simp only [killedBetween, or_eq_true, and_eq_true, not_eq_true'] at hkilled
  rcases hkilled with ⟨hfailed, hbefore⟩ | ⟨hrefunded, hbefore⟩
  · rw [hwrite.failed hfails hfailed] at hbefore
    cases hbefore
  · have hlive := hwrite.live hcopies (fun copy' answer' heq _ _ => by
      obtain ⟨rfl, rfl⟩ := TaskEvent.poll.inj heq
      exact hfails) hbefore
    rw [hlive] at hrefunded
    cases hrefunded

theorem SubmitState.sound_step {cfg : TaskSettings} {s : SubmitState} {e : TimedSubmitEvent}
    (he : e.spares a ledgerID s) (h : s.Sound ledgerID) :
    (s.step cfg cal a ledgerID e).Sound ledgerID := by
  obtain ⟨now, event⟩ := e
  obtain ⟨system, phase, killed⟩ := s
  obtain ⟨hcopies, hphase, hspared⟩ := h
  dsimp only at hcopies hphase hspared
  cases event with
  | prepare platform info =>
    cases phase with
    | reserved =>
      unfold SubmitState.step
      dsimp only
      cases hbind : bindBillingLedgerTask now ledgerID
          (some (preparedTask cfg now platform info)) system.db with
      | error err =>
        rw [transaction_error hbind]
        exact ⟨hcopies, hphase, hspared⟩
      | ok p =>
        rw [transaction_ok hbind]
        have hexec : (LedgerOp.bind ledgerID (some (preparedTask cfg now platform info))).exec cal
            now system.db = p.1 := by rw [LedgerOp.exec, transaction_ok hbind]
        exact ⟨copies_bound_exec _ hexec rfl hcopies, .of_bind rfl hphase hbind cal, hspared⟩
    | _ => exact ⟨hcopies, hphase, hspared⟩
  | accept => cases phase <;> exact ⟨hcopies, hphase, hspared⟩
  | acknowledge =>
    cases phase with
    | accepted k info result =>
      obtain ⟨⟨db', p⟩, hack⟩ := PreparedRow.acknowledge hphase now he
        (rfl : Task.id { relayedTask cfg now result info with id := k } = k)
      unfold SubmitState.step
      dsimp only
      rw [transaction_ok hack]
      have hexec : (LedgerOp.acknowledge ledgerID result.quota
          (some { relayedTask cfg now result info with id := k })).exec cal now system.db = db' := by
        rw [LedgerOp.exec, transaction_ok hack]
      exact ⟨copies_bound_exec _ hexec rfl hcopies,
        ⟨PreparedRow.of_acknowledge hphase hack cal, he⟩, hspared⟩
    | _ => exact ⟨hcopies, hphase, hspared⟩
  | settle =>
    cases phase with
    | acknowledged k quota =>
      obtain ⟨⟨db', l⟩, hsettle⟩ := hphase.1.settle now hphase.2 he
      unfold SubmitState.step
      dsimp only
      rw [transaction_ok hsettle]
      have hexec : (LedgerOp.settle ledgerID quota []).exec cal now system.db = db' := by
        rw [LedgerOp.exec, transaction_ok hsettle]
      exact ⟨copies_bound_exec _ hexec rfl hcopies, trivial, hspared⟩
    | _ => exact ⟨hcopies, hphase, hspared⟩
  | giveUp =>
    have hexec : (LedgerOp.refund ledgerID "request failed before settlement").exec cal now system.db
        = (transaction (refundBillingLedger now ledgerID "request failed before settlement")
            system.db).1 := rfl
    have hbound := copies_bound_exec _ hexec rfl hcopies
    cases phase with
    | reserved | prepared =>
      unfold SubmitState.step
      dsimp only
      split <;> next heq => rw [heq] at hbound; exact ⟨hbound, trivial, hspared⟩
    | _ => exact ⟨hcopies, hphase, hspared⟩
  | poller event =>
    have hwrite := system.pollerWrite cal a now event
    have hspares : ∀ copy answer, event.1 = .poll copy answer → phase.task? = some copy.id →
        (phase.unsettled || event.1.blind copy.id) = true →
        answer.fails a now system.db copy = false := by
      obtain ⟨event, hpolling⟩ := event
      rintro copy answer rfl
      exact he
    refine ⟨fun c hc => ?_, ?_, ?_⟩
    · exact (hwrite.bindings hcopies).bound (mem_copies_poller hcopies event c hc)
    · exact hphase.poller hwrite hcopies fun copy answer hevent htask hunsettled =>
        hspares copy answer hevent htask (by rw [hunsettled]; rfl)
    · show (killed || _) = false
      rw [hspared, Bool.false_or]
      cases htask : phase.task? with
      | none => rfl
      | some k =>
        refine spared_poller hcopies fun copy answer hevent hid hblind => ?_
        subst hid
        exact hspares copy answer hevent htask (by rw [hblind, Bool.or_true])

/-- **Pollers do not kill a submission** in runs that spare it. Over every interleaving of one
submission with the events of any number of pollers in which the acknowledged quota is not negative,
the settlement is affordable, and no poll of the submitted row before it, nor any with a copy
without an upstream id, is answered with a failure: acknowledgement and settlement never fail, and
no poll with the local id turns the task to a failure or refunds its ledger. -/
theorem polling_spares_submission (cfg : TaskSettings) (cal : Calendar) (a : PollingAdaptor)
    (ledgerID : Nat) (system : TaskSystem) (events : List TimedSubmitEvent)
    (hunbound : ∀ t ∈ system.db.tasks.rows, t.billingLedgerID ≠ ledgerID)
    (hcopies : ∀ c ∈ system.copies, system.db.bound c.id c.billingLedgerID)
    (hspares : Along (SubmitState.step cfg cal a ledgerID) (fun s e => e.spares a ledgerID s)
      ⟨system, .reserved, false⟩ events) :
    let s := run (SubmitState.step cfg cal a ledgerID) ⟨system, .reserved, false⟩ events
    (∀ k e, s.phase ≠ .failed k e) ∧ s.killed = false := by
  intro s
  have hstart : SubmitState.Sound ledgerID ⟨system, .reserved, false⟩ := ⟨hcopies, hunbound, rfl⟩
  have hreached : s.Sound ledgerID :=
    run_invariant (fun _ _ hC hI => SubmitState.sound_step hC hI) hspares hstart
  refine ⟨fun k e hfailed => ?_, hreached.spared⟩
  have hphase := hreached.phase
  rw [hfailed] at hphase
  exact hphase

/-! ## Sample runs -/

def SubmitPhase.error? : SubmitPhase → Option DbError
  | .failed _ e => some e
  | _ => none

/-- The sample system once the quota of the request is reserved. -/
def sampleReserved : TaskSystem :=
  ⟨(LedgerOp.reserve (sampleReservation "r1" .wallet 30)).exec sampleCalendar 2000 sampleDatabase, [], []⟩

/-- The sample request as its attempt describes it. -/
def sampleInfo : RelayInfo :=
  ((sampleAttempt 1 "k1" (.ok ("up_1", "accepted"))).describe sampleSettings sampleRelay.info).1

/-- The sample submission among the given events. -/
def sampleSubmitted (es : List TimedSubmitEvent) : SubmitState :=
  run (SubmitState.step sampleSettings sampleCalendar sampleAdaptor 1)
    ⟨sampleReserved, .reserved, false⟩ es

/-- The row as it is prepared. -/
def samplePrepared : Task :=
  (sampleSubmitted [⟨2001, .prepare (.channelType "24") sampleInfo⟩]).system.db.tasks.rows.headD
    sampleTask

/-- The task is accepted, and the prepared row is polled before it is acknowledged. -/
def sampleRace (body : String) : List TimedSubmitEvent :=
  [⟨2001, .prepare (.channelType "24") sampleInfo⟩, ⟨2002, .poller ⟨.read 1, rfl⟩⟩,
   ⟨2003, .accept sampleInfo ⟨"up_1", "accepted", .channelType "24", 30⟩⟩,
   ⟨2004, .poller ⟨.poll samplePrepared (.video body), rfl⟩⟩, ⟨2005, .acknowledge⟩]

/-- A poller sees the prepared task running; the submission goes through. -/
theorem polling_spares_submission_sample :
    let s := sampleSubmitted (sampleRace "running" ++ [⟨2006, .settle⟩])
    (s.system.db.ledgers.rows.map fun l => l.state) = [.settled] ∧
      (∀ k e, s.phase ≠ .failed k e) ∧ s.killed = false := by
  refine ⟨by decide +kernel, ?_⟩
  exact polling_spares_submission sampleSettings sampleCalendar sampleAdaptor 1 sampleReserved _
    (by decide +kernel) (fun c hc => absurd hc List.not_mem_nil) (by decide +kernel)

/-- **A poll kills a task that is being submitted.** The poller reads the prepared row and asks for
the local id, which the upstream does not know: the task fails and its ledger is refunded. The
acknowledgement of the task, accepted in the meantime, fails. -/
theorem poll_kills_submission :
    let s := sampleSubmitted (sampleRace "unknown id")
    samplePrepared.getUpstreamTaskID = samplePrepared.taskID ∧ s.killed = true ∧
    s.phase.error?
      = some (.message "refunded billing ledger cannot acknowledge an upstream task") ∧
    (s.system.db.tasks.rows.map fun t => (t.status, t.privateData.upstreamTaskID))
      = [(.failure, "")] ∧
    (s.system.db.ledgers.rows.map fun l => l.state) = [.refunded] := by
  decide +kernel

end RenewApi.Billing
