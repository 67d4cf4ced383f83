import Mathlib.Data.Fin.VecNotation
import Mathlib.Tactic.FinCases
import RenewApi.Billing.Locks
import RenewApi.Locking.Machine
import RenewApi.Tasks.Polling

/-! # Wait cycles of ledger and task transactions

Any number of the transactions of `RenewApi.Billing.Locks` at the same time. Most of them lock their
ledger first and the tasks bound to it afterwards; `UpdateTaskWithBilling` locks the task first.

Under `SameEntry` and `TokenOrder` no reachable state has a wait cycle. Without the first, a task
update and an acknowledgement of the same task wait for each other. -/

namespace RenewApi.Billing

open Relational Locking List Table LockRow

variable {task : Task} {fromStatus : TaskStatus} {desired : DesiredState} {target : Int}
  {hook : BeforeSave} {hookLocks : Database → BillingLedger → List LockRow} {call : BillingCall}
  {reason : String}

/-- Which ledger the tasks and the Midjourney tasks are bound to; `0` is none. -/
structure Binding where
  task : Int → Nat
  midjourney : Int → Nat

/-- No row is bound to another ledger than the binding says. -/
structure Binding.Fits (b : Binding) (db : Database) : Prop where
  tasks : ∀ t ∈ db.tasks.rows, t.billingLedgerID = 0 ∨ t.billingLedgerID = b.task t.id
  midjourneys : ∀ m ∈ db.midjourneys.rows,
    m.billingLedgerID = 0 ∨ m.billingLedgerID = b.midjourney m.id

/-- A caller of `UpdateTaskWithBilling` names no other ledger for its task. -/
def Binding.FitsCall (b : Binding) : BillingCall → Prop
  | .updateTask task _ _ _ _ =>
    task.billingLedgerID = 0 ∨ task.billingLedgerID = b.task task.id
  | _ => True

/-- The ledger that a row belongs to; `0` for the accounts. -/
def LockRow.owner (b : Binding) : LockRow → Nat
  | .ledger id => id
  | .task id => b.task id
  | .midjourney id => b.midjourney id
  | _ => 0

section

variable {b : Binding} {now : Int} {db db' : Database} {l l' : BillingLedger} {id : Nat}

section

variable (h : b.Fits db)
include h

theorem Binding.Fits.of_tables (htasks : db'.tasks = db.tasks)
    (hmidjourneys : db'.midjourneys = db.midjourneys) : b.Fits db' :=
  ⟨by rw [htasks]; exact h.tasks, by rw [hmidjourneys]; exact h.midjourneys⟩

section

variable (htask : task.billingLedgerID = 0 ∨ task.billingLedgerID = b.task task.id)
include htask

theorem Binding.Fits.putTask : b.Fits { db with tasks := db.tasks.put task } := by
  refine ⟨fun t ht => ?_, h.midjourneys⟩
  rcases mem_put ht with rfl | hold
  · exact htask
  · exact h.tasks t hold.1

theorem Binding.Fits.updateTaskRow (hrow : updateTaskRow now db task fromStatus = .ok db') :
    b.Fits db' := by
  obtain ⟨-, -, -, rfl⟩ := updateTaskRow_eq_ok.mp hrow
  exact h.putTask htask

end

theorem Binding.Fits.failPendingTasks (id : Nat) (reason : String) :
    b.Fits (failPendingTasks now db id reason) := by
  refine ⟨fun t ht => ?_, h.midjourneys⟩
  obtain ⟨t₀, ht₀, rfl⟩ := mem_map.mp ht
  split <;> exact h.tasks t₀ ht₀

theorem Binding.Fits.updateBoundTasks (id : Nat) (state : LedgerState) (version : Int)
    (quota : Option Int) : b.Fits (updateBoundTasks now db id state version quota) := by
  constructor
  · intro t ht
    obtain ⟨t₀, ht₀, rfl⟩ := mem_map.mp ht
    split <;> exact h.tasks t₀ ht₀
  · intro m hm
    obtain ⟨m₀, hm₀, rfl⟩ := mem_map.mp hm
    split <;> exact h.midjourneys m₀ hm₀

end

section

variable (b : Binding)

/-- **What a hook may do to bound rows**: ask for rows of its ledger and keep the binding. -/
structure HookFits (id : Nat) (hook : BeforeSave)
    (hookLocks : Database → BillingLedger → List LockRow) : Prop where
  frame : hook.Frame
  owned : ∀ db l, b.Fits db → l.id = id → ∀ r ∈ hookLocks db l, r.owner b = id
  keeps : ∀ db l db' l', b.Fits db → l.id = id → hook db l = .ok (db', l') → b.Fits db'

theorem hookFits_assignChannel (id : Nat) (selected : List Int) :
    HookFits b id (assignChannelHook selected) (fun _ _ => []) where
  frame := frame_assignChannelHook selected
  owned _ _ _ _ r hr := by cases hr
  keeps db l db' l' h _ hhook := by
    obtain ⟨l₁, -, hhook⟩ := bind_eq_ok.mp hhook
    cases hhook
    exact h

theorem hookFits_refund (hid : id ≠ 0) (now : Int) (reason : String) :
    HookFits b id (refundHook now reason) pendingTaskLocks where
  frame := frame_refundHook now reason
  owned db l h hl r hr := by
    obtain ⟨t, ht, rfl⟩ := mem_map.mp hr
    obtain ⟨hmem, hmatch⟩ := mem_filter.mp ht
    simp only [Bool.and_eq_true, decide_eq_true_eq] at hmatch
    have hbound : t.billingLedgerID = id := hmatch.1.trans hl
    exact ((h.tasks t hmem).resolve_left (hbound ▸ hid)).symm.trans hbound
  keeps db l db' l' h _ hhook := by
    obtain ⟨message, heq⟩ := refundHook_eq now reason db l
    rw [heq] at hhook
    cases hhook
    exact h.failPendingTasks l.id reason

theorem hookFits_replay (hid : id ≠ 0) (now : Int) (desired : DesiredState)
    (reason : String) : HookFits b id
      (if desired = .refund then refundHook now reason else fun db ledger => .ok (db, ledger))
      (if desired = .refund then pendingTaskLocks else fun _ _ => []) := by
  split
  · exact hookFits_refund b hid now reason
  · refine ⟨frame_id, fun _ _ _ _ _ hr => absurd hr not_mem_nil, fun db l db' l' h _ hhook => ?_⟩
    cases hhook
    exact h

theorem hookFits_updateTask (fromStatus : TaskStatus) (desired : DesiredState) (target : Int)
    (reason : String) (hid : b.task task.id = id) :
    HookFits b id (updateTaskHook now task fromStatus desired target reason)
      (fun _ _ => [.task task.id]) where
  frame := frame_updateTaskHook now task fromStatus desired target reason
  owned _ _ _ _ r hr := by
    obtain rfl := mem_singleton.mp hr
    exact hid
  keeps db l db' l' h hl hhook := by
    obtain ⟨db₁, hrow, hhook⟩ := bind_eq_ok.mp hhook
    cases hhook
    obtain ⟨message, hreason⟩ := withRefundReason_eq l desired reason
    refine h.updateTaskRow (.inr ?_) hrow
    rw [hreason]
    exact hl.trans hid.symm

end

theorem fits_transition {changed : Bool} (hhookFits : HookFits b l.id hook hookLocks)
    (h : b.Fits db)
    (hmutate : mutateLockedBillingLedgerTx now db l desired target hook
      = .ok (db', l', changed)) : b.Fits db' := by
  obtain ⟨-, ⟨-, rfl, -⟩ |
    ⟨-, -, db₁, l₁, db₂, l₂, db₃, l₃, hbalances, hhook, hcounters, rfl, rfl⟩⟩ :=
    mutateLockedBillingLedgerTx_cases hmutate
  · exact h
  obtain ⟨⟨_, _, _, hl₁⟩, hleg⟩ := applyTransitionBalances_eq_ok hbalances
  obtain ⟨-, hmove, -⟩ := applyTransitionCounters_eq_ok hcounters
  have hid₁ : l₁.id = l.id := by rw [hl₁]; rfl
  have h₁ : b.Fits db₁ := h.of_tables hleg.move.tasks hleg.move.midjourneys
  have h₂ : b.Fits db₂ := hhookFits.keeps db₁ l₁ db₂ l₂ h₁ hid₁ hhook
  have h₃ : b.Fits db₃ := h₂.of_tables hmove.tasks hmove.midjourneys
  obtain ⟨records, hmark⟩ := markSubscriptionPreConsumeRefundedTx_eq now db₃ l₃.requestID
  rw [hmark]
  refine Binding.Fits.of_tables (Binding.Fits.updateBoundTasks ?_ _ _ _ _) rfl rfl
  split <;> exact h₃.of_tables rfl rfl

/-- The task that `UpdateTaskWithBilling` writes names the ledger of the row. -/
theorem Binding.FitsCall.bound {current : Task}
    (hcall : b.FitsCall (.updateTask task fromStatus desired target reason)) (h : b.Fits db)
    (hcurrent : db.tasks.find? task.id = some current) :
    (task.boundTo current).billingLedgerID = 0 ∨
      (task.boundTo current).billingLedgerID = b.task task.id := by
  dsimp only
  split
  · have hkey : current.id = task.id := key_of_find? hcurrent
    rw [← hkey]
    exact h.tasks current (mem_of_find? hcurrent)
  · exact hcall

/-- **The calls keep the binding**: whatever commits first, the next transaction reads rows bound as
before. -/
theorem Binding.fits_exec (cal : Calendar) (hcall : b.FitsCall call) (h : b.Fits db) :
    b.Fits (call.op.exec cal now db) := by
  have hwork := call.op.exec_work cal now db
  generalize call.op.exec cal now db = db' at hwork ⊢
  generalize hop : call.op = op at hwork
  cases hwork with
  | nothing => exact h
  | @acknowledge _ _ _ _ _ task' hok =>
    obtain ⟨t, l, current, -, hlock, -, hcurrent, hbound, htask', hwrite⟩ :=
      acknowledgeBillingLedgerTask_eq_ok hok
    have hrow : b.Fits { db with tasks := db.tasks.put task' } := by
      refine h.putTask ?_
      rw [htask']
      show l.id = 0 ∨ l.id = b.task current.id
      rw [(find?_of_lock hlock).1, ← hbound]
      exact h.tasks current (mem_of_find? hcurrent)
    rcases hwrite with ⟨-, -, -, rfl⟩ | ⟨-, -, rfl⟩
    · exact hrow
    · exact hrow.of_tables rfl rfl
  | transition kind hlock hmutate =>
    have hid := (lockBillingLedgerTx_eq_ok.mp hlock).1
    cases kind with
    | settle _ selected => exact fits_transition (hookFits_assignChannel b _ selected) h hmutate
    | refund reason => exact fits_transition (hookFits_refund b hid now reason) h hmutate
    | replay reason => exact fits_transition (hookFits_replay b hid now _ reason) h hmutate
    | updateTask fromStatus _ _ reason found bound_eq ledger =>
      cases call <;> cases hop
      subst bound_eq
      have hfits := (hcall.bound h found).resolve_left (ledger ▸ hid)
      exact fits_transition (hookFits_updateTask b fromStatus _ _ reason
        (hfits.symm.trans ledger.symm)) h hmutate
    | _ => cases call <;> cases hop
  | @mark _ l desired quota channel message =>
    have hsaved : b.Fits (saveLedger db (BillingLedger.requireReconcile { l with channelID := channel }
      now desired quota message)) := h.of_tables rfl rfl
    exact hsaved.updateBoundTasks _ _ _ _
  | taskRow found bound_eq written_eq row =>
    cases call <;> cases hop
    subst bound_eq
    have hfits := hcall.bound h found
    rcases written_eq with ⟨rfl, h0⟩ | ⟨l, hlock, -, rfl⟩
    · exact h.updateTaskRow (.inl h0) row
    · rw [← (find?_of_lock hlock).1] at hfits
      exact h.updateTaskRow hfits row
  | _ => cases call <;> cases hop

end

/-! ## The shape of the sequences -/

def BillingLedger.fundingRow (l : BillingLedger) : LockRow :=
  if l.fundingSource = .subscription then .subscription l.subscriptionID else .user l.userID

/-- The accounts that a transition of a ledger may lock, in their order. -/
def BillingLedger.legs (l : BillingLedger) (channel : Int) : List LockRow :=
  [l.fundingRow, .token l.tokenID, .user l.userID, .channel channel, .preConsume l.requestID]

/-- Rows of one ledger mixed with accounts in a given order. -/
structure Within (b : Binding) (id : Nat) (accounts rows : List LockRow) : Prop where
  owned : ∀ r ∈ rows, r.owner b = 0 ∨ r.owner b = id
  ordered : (rows.filter fun r => r.owner b = 0).Sublist accounts

/-- **A sequence that enters a ledger**: its first row belongs to the ledger, and so do all others
but the accounts. -/
def Entered (b : Binding) (rows : List LockRow) : Prop :=
  ∃ (entry : LockRow) (rest : List LockRow) (l : BillingLedger) (channel : Int),
    rows = entry :: rest ∧ entry.owner b = l.id ∧ l.id ≠ 0 ∧ Within b l.id (l.legs channel) rest

section

variable {b : Binding} {id : Nat} {accounts accounts' rows rows' : List LockRow} {now : Int}
  {db : Database} {l : BillingLedger}

theorem Within.nil (b : Binding) (id : Nat) (accounts : List LockRow) : Within b id accounts [] :=
  ⟨fun _ h => absurd h not_mem_nil, nil_sublist _⟩

theorem Within.append (h : Within b id accounts rows) (h' : Within b id accounts' rows') :
    Within b id (accounts ++ accounts') (rows ++ rows') where
  owned r hr := (mem_append.mp hr).elim (h.owned r) (h'.owned r)
  ordered := by
    rw [filter_append]
    exact h.ordered.append h'.ordered

theorem Within.of_owned (hid : id ≠ 0) (h : ∀ r ∈ rows, r.owner b = id) : Within b id [] rows where
  owned r hr := .inr (h r hr)
  ordered := by
    rw [filter_eq_nil_iff.mpr fun r hr => by simp [h r hr, hid]]

theorem Within.of_accounts (h : rows.Sublist accounts) (hfree : ∀ r ∈ accounts, r.owner b = 0) :
    Within b id accounts rows where
  owned r hr := .inl (hfree r (h.subset hr))
  ordered := filter_sublist.trans h

theorem Within.onSuccess {α : Type} {statement : Except DbError α} {next : α → List LockRow}
    (h : ∀ a, statement = .ok a → Within b id accounts (next a)) :
    Within b id accounts (onSuccess statement next) := by
  cases statement with
  | error e => exact .nil b id accounts
  | ok a => exact h a rfl

theorem balanceLocks_sublist (now : Int) (db : Database) (l : BillingLedger) (delta : Int) :
    (balanceLocks now db l delta).Sublist [l.fundingRow, .token l.tokenID] := by
  have htoken {α : Type} (statement : Except DbError α) :
      (onSuccess statement fun _ => tokenLocks l delta).Sublist [.token l.tokenID] := by
    cases statement with
    | error e => exact nil_sublist _
    | ok a =>
      show (tokenLocks l delta).Sublist _
      unfold tokenLocks
      split
      · exact nil_sublist _
      · exact Sublist.refl _
  unfold balanceLocks BillingLedger.fundingRow
  by_cases h0 : delta = 0
  · rw [if_pos h0]
    exact nil_sublist _
  rw [if_neg h0]
  by_cases hsub : l.fundingSource = .subscription
  · rw [if_pos hsub, if_pos hsub]
    split
    · exact nil_sublist _
    · exact (htoken _).cons_cons _
  · rw [if_neg hsub, if_neg hsub]
    exact (htoken _).cons_cons _

theorem transitionBalanceLocks_within (b : Binding) (id : Nat) (now : Int) (db : Database)
    (l : BillingLedger) (target : Int) :
    Within b id [l.fundingRow, .token l.tokenID] (transitionBalanceLocks now db l target) := by
  refine .of_accounts ?_ fun r hr => ?_
  · unfold transitionBalanceLocks
    split
    · exact balanceLocks_sublist now db l _
    · exact nil_sublist _
  · simp only [mem_cons, not_mem_nil, or_false, BillingLedger.fundingRow] at hr
    rcases hr with rfl | rfl
    · split <;> rfl
    · rfl

theorem transitionCounterLocks_within (b : Binding) (id : Nat) (db : Database) (l : BillingLedger)
    (target : Int) :
    Within b id [.user l.userID, .channel l.channelID] (transitionCounterLocks db l target) := by
  unfold transitionCounterLocks counterLocks
  split
  · show Within b id ([.user l.userID] ++ [.channel l.channelID]) _
    refine Within.append (.of_accounts ?_ (by simp [owner]))
      (Within.onSuccess fun _ _ => .of_accounts ?_ (by simp [owner]))
    · split
      · exact Sublist.refl _
      · exact nil_sublist _
    · split
      · exact Sublist.refl _
      · exact nil_sublist _
  · exact .nil b id _

theorem preConsumeLocks_within (b : Binding) (id : Nat) (db : Database) (requestID : String) :
    Within b id [.preConsume requestID] (preConsumeLocks db requestID) := by
  refine .of_accounts ?_ (by simp [owner])
  unfold preConsumeLocks
  split
  · exact nil_sublist _
  · split
    · exact nil_sublist _
    · split
      · exact nil_sublist _
      · exact Sublist.refl _

theorem owner_of_boundLocks (h : b.Fits db) (hid : id ≠ 0) :
    ∀ r ∈ boundLocks db id, r.owner b = id := by
  intro r hr
  rcases mem_append.mp hr with hr | hr
  · obtain ⟨t, ht, rfl⟩ := mem_map.mp hr
    obtain ⟨hmem, hbound⟩ := mem_filter.mp ht
    rw [decide_eq_true_eq] at hbound
    exact ((h.tasks t hmem).resolve_left (hbound ▸ hid)).symm.trans hbound
  · obtain ⟨m, hm, rfl⟩ := mem_map.mp hr
    obtain ⟨hmem, hbound⟩ := mem_filter.mp hm
    rw [decide_eq_true_eq] at hbound
    exact ((h.midjourneys m hmem).resolve_left (hbound ▸ hid)).symm.trans hbound

theorem saveLocks_within (h : b.Fits db) (hid : id ≠ 0) :
    Within b id [] (.ledger id :: boundLocks db id) := by
  refine .of_owned hid fun r hr => ?_
  rcases mem_cons.mp hr with rfl | hr
  · rfl
  · exact owner_of_boundLocks h hid r hr

/-- **The rows of a transition**: accounts in the order of the legs, and rows of the ledger. -/
theorem transitionLocks_within (hhookFits : HookFits b l.id hook hookLocks) (h : b.Fits db)
    (hid : l.id ≠ 0) :
    ∃ channel, Within b l.id (l.legs channel)
      (transitionLocks now db l desired target hook hookLocks) := by
  unfold transitionLocks
  by_cases hdesired : desired ≠ .settle ∧ desired ≠ .refund
  · exact ⟨0, by rw [if_pos hdesired]; exact .nil b _ _⟩
  rw [if_neg hdesired]
  by_cases hlive : l.state = .refunded
  · exact ⟨0, by rw [if_pos hlive]; exact .nil b _ _⟩
  rw [if_neg hlive]
  by_cases hopen : desired = .settle ∧ l.state = .settled ∧ l.appliedQuota = target
  · exact ⟨0, by rw [if_pos hopen]; exact .nil b _ _⟩
  rw [if_neg hopen]
  dsimp only
  have hbalanceRows : Within b l.id [l.fundingRow, .token l.tokenID]
      (transitionBalanceLocks now db (l.open desired target) target) :=
    transitionBalanceLocks_within b l.id now db (l.open desired target) target
  cases hbalances : applyTransitionBalances now db (l.open desired target) target with
  | error e => exact ⟨0, hbalanceRows.append (.nil b l.id _)⟩
  | ok r₁ =>
    obtain ⟨db₁, l₁⟩ := r₁
    obtain ⟨⟨_, _, _, hl₁⟩, hleg⟩ := applyTransitionBalances_eq_ok hbalances
    have hid₁ : l₁.id = l.id := by rw [hl₁]; rfl
    have h₁ : b.Fits db₁ := h.of_tables hleg.move.tasks hleg.move.midjourneys
    have hhookRows : Within b l.id [] (hookLocks db₁ l₁) :=
      .of_owned hid (hhookFits.owned db₁ l₁ h₁ hid₁)
    rw [onSuccess_ok]
    cases hhook : hook db₁ l₁ with
    | error e => exact ⟨0, hbalanceRows.append (hhookRows.append (.nil b l.id _))⟩
    | ok r₂ =>
      obtain ⟨db₂, l₂⟩ := r₂
      obtain ⟨-, ⟨channel, _, hl₂⟩, -⟩ := hhookFits.frame hhook
      have h₂ : b.Fits db₂ := hhookFits.keeps db₁ l₁ db₂ l₂ h₁ hid₁ hhook
      have hcounterRows : Within b l.id [.user l.userID, .channel channel]
          (transitionCounterLocks db₂ l₂ target) := by
        have := transitionCounterLocks_within b l.id db₂ l₂ target
        rwa [hl₂, hl₁] at this ⊢
      refine ⟨channel, hbalanceRows.append (hhookRows.append (hcounterRows.append
        (Within.onSuccess fun r₃ hcounters => ?_)))⟩
      obtain ⟨db₃, l₃⟩ := r₃
      obtain ⟨⟨_, _, _, hl₃⟩, hmove, -⟩ := applyTransitionCounters_eq_ok hcounters
      have h₃ : b.Fits db₃ := h₂.of_tables hmove.tasks hmove.midjourneys
      have hid₃ : l₃.id = l.id := by rw [hl₃, hl₂, hl₁]; rfl
      have hrequest : l₃.requestID = l.requestID := by rw [hl₃, hl₂, hl₁]; rfl
      have hrefundRows : Within b l.id [.preConsume l.requestID]
          (if desired = .refund ∧ l₃.fundingSource = .subscription then
            preConsumeLocks db₃ l₃.requestID else []) := by
        split
        · exact hrequest ▸ preConsumeLocks_within b l.id db₃ l₃.requestID
        · exact .nil b l.id _
      exact hrefundRows.append (hid₃ ▸ saveLocks_within h₃ (hid₃ ▸ hid))

theorem lone_nil : Lone ([] : List LockRow) := fun _ h => absurd h not_mem_nil

theorem lone_singleton (r : LockRow) : Lone [r] := by
  intro x hx y hy
  rw [mem_singleton.mp hx, mem_singleton.mp hy]

theorem ledgerLocks_cases {next : BillingLedger → List LockRow}
    (h : ∀ l, lockBillingLedgerTx db id = .ok l → l.id = id → id ≠ 0 →
      ∃ channel, Within b l.id (l.legs channel) (next l)) :
    Lone (ledgerLocks db id next) ∨ Entered b (ledgerLocks db id next) := by
  unfold ledgerLocks
  cases hlock : lockBillingLedgerTx db id with
  | error e => exact .inl lone_nil
  | ok l =>
    have hne : id ≠ 0 := (lockBillingLedgerTx_eq_ok.mp hlock).1
    have hid : l.id = id := (find?_of_lock hlock).1
    obtain ⟨channel, hwithin⟩ := h l hlock hid hne
    exact .inr ⟨.ledger id, next l, l, channel, rfl, hid.symm, hid ▸ hne, hwithin⟩

theorem Within.legs_of_owned (hid : l.id ≠ 0) (h : ∀ r ∈ rows, r.owner b = l.id) :
    ∃ channel, Within b l.id (l.legs channel) rows :=
  ⟨0, fun r hr => .inr (h r hr), (Within.of_owned hid h).ordered.trans (nil_sublist _)⟩

theorem acknowledgeLocks_cases (h : b.Fits db) (target : Int) (task : Task) :
    Lone (acknowledgeLocks db id target task) ∨ Entered b (acknowledgeLocks db id target task) := by
  refine ledgerLocks_cases fun l hlock hid hne => Within.legs_of_owned (hid ▸ hne) ?_
  split
  · exact fun _ hr => absurd hr not_mem_nil
  split
  · exact fun _ hr => absurd hr not_mem_nil
  next current hcurrent =>
  by_cases hbound : current.billingLedgerID ≠ id
  · rw [if_pos hbound]
    exact fun _ hr => absurd hr not_mem_nil
  rw [if_neg hbound]
  have howner : (LockRow.task task.id).owner b = l.id := by
    have hkey : current.id = task.id := key_of_find? hcurrent
    have hfits := h.tasks current (mem_of_find? hcurrent)
    rw [not_not.mp hbound, hkey] at hfits
    exact (hfits.resolve_left hne).symm.trans hid.symm
  split
  · exact fun r hr => mem_singleton.mp hr ▸ howner
  · intro r hr
    rcases mem_cons.mp hr with rfl | hr
    · exact howner
    · exact mem_singleton.mp hr ▸ rfl

/-- A task update asks for its task, or enters the ledger of the task there. -/
theorem updateTaskLocks_cases (h : b.Fits db)
    (hcall : b.FitsCall (.updateTask task fromStatus desired target reason)) :
    Lone (updateTaskLocks now db task fromStatus desired target reason) ∨
      Entered b (updateTaskLocks now db task fromStatus desired target reason) := by
  unfold updateTaskLocks
  cases hcurrent : db.tasks.find? task.id with
  | none => exact .inl lone_nil
  | some current =>
    dsimp only
    by_cases hlost : current.status ≠ fromStatus
    · rw [if_pos hlost]
      exact .inl (lone_singleton _)
    rw [if_neg hlost]
    have hfits := hcall.bound h hcurrent
    have hkey : (task.boundTo current).id = task.id := rfl
    rw [← hkey] at hfits
    generalize task.boundTo current = bound at hfits hkey
    unfold boundTaskLocks ledgerLocks
    by_cases h0 : bound.billingLedgerID = 0
    · rw [if_pos h0]
      exact .inl (lone_singleton _)
    rw [if_neg h0]
    cases hlock : lockBillingLedgerTx db bound.billingLedgerID with
    | error e => exact .inl (lone_singleton _)
    | ok l =>
      have hid : l.id = bound.billingLedgerID := (find?_of_lock hlock).1
      have hne : l.id ≠ 0 := hid ▸ h0
      have howner : b.task bound.id = l.id := (hfits.resolve_left h0).symm.trans hid.symm
      have hnext : ∃ channel, Within b l.id (l.legs channel)
          (if terminalLedgerMatches l desired target then [.task bound.id]
           else transitionLocks now db l desired target
            (updateTaskHook now bound fromStatus desired target reason)
            fun _ _ => [.task bound.id]) := by
        split
        · exact Within.legs_of_owned hne fun r hr => mem_singleton.mp hr ▸ howner
        · exact transitionLocks_within
            (hookFits_updateTask b fromStatus desired target reason howner) h hne
      obtain ⟨channel, hwithin⟩ := hnext
      have hledger : Within b l.id [] [.ledger bound.billingLedgerID] :=
        .of_owned hne fun r hr => mem_singleton.mp hr ▸ hid.symm
      exact .inr ⟨.task task.id, _, l, channel, rfl, hkey ▸ howner, hne, hledger.append hwithin⟩

/-- **Every call asks for one row at most, or enters a ledger.** -/
theorem BillingCall.locks_cases (h : b.Fits db) (hcall : b.FitsCall call) :
    Lone (call.locks now db) ∨ Entered b (call.locks now db) := by
  cases call with
  | acknowledge id target task =>
    cases task with
    | none => exact .inl lone_nil
    | some task =>
      rw [BillingCall.locks]
      split
      · exact .inl lone_nil
      split
      · exact .inl lone_nil
      · exact acknowledgeLocks_cases h target task
  | settle id target selected =>
    rw [BillingCall.locks]
    split
    · exact .inl lone_nil
    · exact ledgerLocks_cases fun l _ hid hne =>
        transitionLocks_within (hid ▸ hookFits_assignChannel b id selected) h (hid ▸ hne)
  | refund id reason =>
    exact ledgerLocks_cases fun l _ hid hne =>
      transitionLocks_within (hookFits_refund b (hid ▸ hne) now reason) h (hid ▸ hne)
  | markForReconcile id =>
    rw [BillingCall.locks]
    split
    · exact .inl lone_nil
    refine ledgerLocks_cases fun l _ hid hne => ?_
    split
    · exact ⟨0, .nil b l.id _⟩
    · refine ⟨0, .onSuccess fun l₁ hassign => ?_⟩
      have hid₁ : l₁.id = l.id := by
        split_ifs at hassign with hsettle
        · obtain ⟨⟨channel, rfl⟩, -⟩ := assignBillingSettlementChannel_eq_ok hassign
          rfl
        · rw [Except.ok.inj hassign]
      have hsave : Within b l.id [] (.ledger l₁.id :: boundLocks db l₁.id) :=
        hid₁ ▸ saveLocks_within h (hid₁.trans hid ▸ hne)
      exact ⟨hsave.owned, hsave.ordered.trans (nil_sublist _)⟩
  | replay id _ desired _ reason =>
    rw [BillingCall.locks]
    split
    · exact .inl lone_nil
    refine ledgerLocks_cases fun l _ hid hne => ?_
    split
    · exact ⟨0, .nil b l.id _⟩
    · exact transitionLocks_within (hookFits_replay b (hid ▸ hne) now desired reason) h (hid ▸ hne)
  | updateTask =>
    rw [BillingCall.locks]
    split
    · exact .inl lone_nil
    · exact updateTaskLocks_cases h hcall

end

/-! ## The discipline -/

def LockRow.guardedBy (b : Binding) (entry : Nat → LockRow) (r : LockRow) : Option LockRow :=
  if r.owner b = 0 ∨ r = entry (r.owner b) then none else some (entry (r.owner b))

/-- The order of the accounts; `userFirst` says whether users come before tokens. -/
def LockRow.rank (userFirst : Int → Prop) [DecidablePred userFirst] : LockRow → Nat
  | .ledger _ | .task _ | .midjourney _ => 0
  | .subscription _ => 1
  | .token id => if userFirst id then 4 else 2
  | .user _ => 3
  | .channel _ => 5
  | .preConsume _ => 6

section

variable {b : Binding} {entry : Nat → LockRow} {userFirst : Int → Prop} [DecidablePred userFirst]
  {r : LockRow} {rows : List LockRow} {l : BillingLedger} {channel : Int}

theorem unguarded_iff : r.guardedBy b entry = none ↔ r.owner b = 0 ∨ r = entry (r.owner b) := by
  unfold guardedBy
  split
  · simp_all
  · simp_all

theorem rank_of_owner (h : r.owner b ≠ 0) : r.rank userFirst = 0 := by
  cases r <;> first | rfl | exact absurd rfl h

theorem legs_pairwise (userFirst : Int → Prop) [DecidablePred userFirst] (l : BillingLedger)
    (channel : Int) :
    (l.legs channel).Pairwise fun x y => x ≠ y →
      x.rank userFirst < y.rank userFirst ∨ (∃ u t, x = .user u ∧ y = .token t) ∨
        ∃ t u, x = .token t ∧ y = .user u := by
  unfold BillingLedger.legs BillingLedger.fundingRow
  by_cases hfirst : userFirst l.tokenID
  · split <;> simp [rank, hfirst]
  · split <;> simp [rank, hfirst]

theorem rank_pos_of_legs (h : r ∈ l.legs channel) : 0 < r.rank userFirst := by
  have hrank : (l.legs channel).Forall fun x => 0 < x.rank userFirst := by
    unfold BillingLedger.legs BillingLedger.fundingRow
    by_cases hfirst : userFirst l.tokenID
    · split <;> simp [rank, hfirst]
    · split <;> simp [rank, hfirst]
  exact forall_iff_forall_mem.mp hrank r h

/-- **A sequence that enters its ledger by the common entry is orderly**, if it locks tokens and
users in order. -/
theorem Entered.orderly (h : Entered b rows) (hentry : ∀ e ∈ rows.head?, entry (e.owner b) = e)
    (huser : ∀ u t, LocksAfter (.user u) (.token t) rows → userFirst t)
    (htoken : ∀ t u, LocksAfter (.token t) (.user u) rows → ¬ userFirst t) :
    Orderly (guardedBy b entry) (rank userFirst) rows := by
  obtain ⟨e, rest, l, channel, rfl, howner, hid, hwithin⟩ := h
  have he : entry l.id = e := by
    rw [← howner]
    exact hentry e rfl
  -- an unguarded row that is not the entry is an account
  have haccount : ∀ x ∈ rest, x.guardedBy b entry = none → x ≠ e → x.owner b = 0 := by
    intro x hx hfree hne
    rcases hwithin.owned x hx with h0 | hown
    · exact h0
    · have hx' := (unguarded_iff.mp hfree).resolve_left (hown ▸ hid)
      rw [hown, he] at hx'
      exact absurd hx' hne
  constructor
  · intro x hx g hg
    have hguarded : ¬ (x.owner b = 0 ∨ x = entry (x.owner b)) := by
      intro hfree
      rw [unguarded_iff.mpr hfree] at hg
      cases hg
    rw [guardedBy, if_neg hguarded] at hg
    have hg : entry (x.owner b) = g := Option.some.inj hg
    rcases mem_cons.mp hx with rfl | hx
    · exact absurd (.inr (hentry x rfl).symm) hguarded
    · have hown : x.owner b = l.id :=
        (hwithin.owned x hx).resolve_left fun h0 => hguarded (.inl h0)
      have hne : e ≠ x := fun hex => hguarded (.inr (by rw [hown, he, hex]))
      rw [hown, he] at hg
      exact locksAfter_cons.mpr ⟨hne, .inl ⟨hg.symm, hx⟩⟩
  · intro x y hxy hx hy
    obtain ⟨hey, hcases⟩ := locksAfter_cons.mp hxy
    have hyrest : y ∈ rest := hcases.elim And.right LocksAfter.mem_right
    have hy0 : y.owner b = 0 := haccount y hyrest hy hey.symm
    by_cases hxe : x = e
    · rw [hxe, rank_of_owner (howner ▸ hid)]
      exact rank_pos_of_legs
        (hwithin.ordered.subset (mem_filter.mpr ⟨hyrest, decide_eq_true hy0⟩))
    · have hafter : LocksAfter x y rest := hcases.resolve_left fun hhead => hxe hhead.1
      have hx0 : x.owner b = 0 := haccount x hafter.mem_left hx hxe
      have hlegs := (hafter.filter (decide_eq_true hx0)
        (decide_eq_true hy0)).of_pairwise ((legs_pairwise userFirst l channel).sublist hwithin.ordered)
      rcases hlegs hxy.ne with hlt | ⟨u, t, rfl, rfl⟩ | ⟨t, u, rfl, rfl⟩
      · exact hlt
      · simp [rank, huser u t hxy]
      · simp [rank, htoken t u hxy]

end

/-! ## Concurrent transactions -/

/-- A transaction in progress: its call, when it runs, and the rows as it reads them. Others may
commit before it has locked a row, so every transaction has its own view. -/
structure BillingTx where
  call : BillingCall
  now : Int
  view : Database

def BillingTx.locks (tx : BillingTx) : List LockRow := tx.call.locks tx.now tx.view

/-- It reads and writes tasks under the ledger they are bound to. -/
def Binding.FitsTx (b : Binding) (tx : BillingTx) : Prop := b.Fits tx.view ∧ b.FitsCall tx.call

section

variable {ι : Type*} {txs : ι → BillingTx} {b : Binding}

/-- **One entry per ledger**: of the transactions that ask for more than one row, those on one
ledger start with the same row. -/
def SameEntry (b : Binding) (txs : ι → BillingTx) : Prop :=
  ∀ i j, ¬ Lone (txs i).locks → ¬ Lone (txs j).locks →
    ∀ e ∈ (txs i).locks.head?, ∀ e' ∈ (txs j).locks.head?, e.owner b = e'.owner b → e = e'

/-- **One order of tokens and users**: a token that is locked while a user is held is never held
when a user is locked. -/
def TokenOrder (txs : ι → BillingTx) : Prop :=
  ∀ i j t u v, LocksAfter (.user u) (.token t) (txs i).locks →
    ¬ LocksAfter (.token t) (.user v) (txs j).locks

/-- The call that locks its task before the ledger of the task. -/
def BillingCall.isTaskUpdate : BillingCall → Bool
  | .updateTask _ _ _ _ _ => true
  | _ => false

theorem SameEntry.exists_entry (h : SameEntry b txs) :
    ∃ entry : Nat → LockRow, ∀ i, ¬ Lone (txs i).locks →
      ∀ e ∈ (txs i).locks.head?, entry (e.owner b) = e := by
  have hchoice : ∀ id, ∃ entry : LockRow, ∀ i, ¬ Lone (txs i).locks →
      ∀ e ∈ (txs i).locks.head?, e.owner b = id → entry = e := by
    intro id
    by_cases hsome : ∃ i, ¬ Lone (txs i).locks ∧ ∃ e ∈ (txs i).locks.head?, e.owner b = id
    · obtain ⟨i, hi, e, he, hown⟩ := hsome
      exact ⟨e, fun j hj e' he' hown' => h i j hi hj e he e' he' (hown.trans hown'.symm)⟩
    · exact ⟨.ledger id, fun i hi e he hown => absurd ⟨i, hi, e, he, hown⟩ hsome⟩
  choose entry hentry using hchoice
  exact ⟨entry, fun i hi e he => hentry (e.owner b) i hi e he rfl⟩

/-- Every call but a task update starts with a ledger. -/
theorem BillingCall.head_locks (h : call.isTaskUpdate = false) {now : Int} {db : Database}
    {e : LockRow} (he : e ∈ (call.locks now db).head?) : ∃ id, e = .ledger id := by
  have hledger : ∀ id next, e ∈ (ledgerLocks db id next).head? → ∃ id, e = .ledger id := by
    intro id next he
    unfold ledgerLocks at he
    cases hlock : lockBillingLedgerTx db id with
    | error err => rw [hlock] at he; cases he
    | ok l =>
      rw [hlock, onSuccess_ok] at he
      exact ⟨id, (Option.some.inj he).symm⟩
  cases call with
  | acknowledge _ _ task =>
    cases task with
    | none => cases he
    | some task =>
      rw [BillingCall.locks] at he
      split at he
      · cases he
      split at he
      · cases he
      · exact hledger _ _ he
  | refund => exact hledger _ _ he
  | updateTask => cases h
  | _ =>
    rw [BillingCall.locks] at he
    split at he
    · cases he
    · exact hledger _ _ he

theorem sameEntry_of_not_taskUpdate (h : ∀ i, (txs i).call.isTaskUpdate = false) :
    SameEntry b txs := by
  intro i j _ _ e he e' he' howner
  obtain ⟨id, rfl⟩ := BillingCall.head_locks (h i) he
  obtain ⟨id', rfl⟩ := BillingCall.head_locks (h j) he'
  exact congrArg ledger howner

variable [Fintype ι] [DecidableEq ι]

/-- **No wait cycle.** Any number of transactions, on any ledgers and their bound tasks: if those on
one ledger enter it by the same row and tokens and users are locked in one order, no transaction
ever waits, through others, for itself. -/
theorem no_wait_cycle (b : Binding) (txs : ι → BillingTx) (hfits : ∀ i, b.FitsTx (txs i))
    (hentry : SameEntry b txs) (htokens : TokenOrder txs) (es : List (LockEvent ι)) :
    ¬ Deadlocked (run step (start fun i => (txs i).locks) es) := by
  classical
  obtain ⟨entry, hentry⟩ := hentry.exists_entry
  refine not_deadlocked_of_orderly (guardedBy b entry)
    (rank fun t => ∃ i u, LocksAfter (.user u) (.token t) (txs i).locks) _ (fun i => ?_) es
  by_cases hlone : Lone (txs i).locks
  · exact .inl hlone
  · right
    have hentered : Entered b (txs i).locks :=
      (BillingCall.locks_cases (hfits i).1 (hfits i).2).resolve_left hlone
    refine hentered.orderly (hentry i hlone) (fun u t h => ⟨i, u, h⟩) ?_
    rintro t v hafter ⟨j, u, hbefore⟩
    exact htokens j i t u v hbefore hafter

end

/-! ## Sample transactions -/

/-- The sample user with a reservation of each funding source and a pending task on the first. -/
def sampleBound : Database :=
  run (fun db (c : LedgerCall) => c.step sampleCalendar db) sampleDatabase
    [⟨2000, .reserve (sampleReservation "r1" .wallet 30)⟩,
     ⟨2001, .reserve (sampleReservation "r2" .subscription 10)⟩, ⟨2002, .bind 1 (some sampleTask)⟩]

/-- Every sample task is bound to the first ledger. -/
def sampleBinding : Binding := ⟨fun _ => 1, fun _ => 0⟩

theorem sampleBinding_fits : sampleBinding.Fits sampleBound :=
  ⟨by decide +kernel, by decide +kernel⟩

/-- The upstream has accepted the pending task. -/
def sampleAcknowledge : BillingTx := ⟨.acknowledge 1 30 (some acceptedTask), 2003, sampleBound⟩

/-- A sweep fails the pending task and refunds it. -/
def sampleTimeout : BillingTx :=
  ⟨.updateTask { sampleTask with id := 1, status := .failure } .notStart .refund 0 "timeout", 2003,
    sampleBound⟩

/-- The settlement of one of the two ledgers. -/
def sampleSettle (id : Nat) : BillingTx := ⟨.settle id 25 [], 2003, sampleBound⟩

theorem locks_sampleAcknowledge : sampleAcknowledge.locks = [.ledger 1, .task 1, .ledger 1] := by
  decide +kernel

/-- A settlement and an acknowledgement of the same ledger: one waits, and no cycle arises. -/
theorem no_wait_cycle_settle :
    let s := run step (start fun i : Fin 2 => (![sampleSettle 1, sampleAcknowledge] i).locks)
      [.acquire 0, .acquire 1]
    WaitsFor s 1 0 ∧ ¬ Deadlocked s := by
  refine ⟨by decide +kernel, no_wait_cycle sampleBinding _ (fun i => ?_)
    (sameEntry_of_not_taskUpdate fun i => ?_) (fun i j t u v _ hafter => ?_) _⟩
  · fin_cases i <;> exact ⟨sampleBinding_fits, trivial⟩
  · fin_cases i <;> rfl
  · fin_cases j
    · have hafter : LocksAfter (.token t) (.user v) (sampleSettle 1).locks := hafter
      rw [show (sampleSettle 1).locks = [.ledger 1, .user 1, .token 1, .user 1, .channel 1, .ledger 1,
        .task 1] by decide +kernel] at hafter
      simp only [locksAfter_cons] at hafter
      simp at hafter
      exact hafter.1 hafter.2.2.symm
    · have hafter : LocksAfter (.token t) (.user v) sampleAcknowledge.locks := hafter
      rw [locks_sampleAcknowledge] at hafter
      simp [locksAfter_cons] at hafter

/-- **A wait cycle**: the sweep has locked the task and asks for its ledger, the acknowledgement the
other way round. -/
theorem task_update_wait_cycle :
    let txs : Fin 2 → BillingTx := ![sampleTimeout, sampleAcknowledge]
    (∀ i, sampleBinding.FitsTx (txs i)) ∧ TokenOrder txs ∧
      Deadlocked (run step (start fun i => (txs i).locks) [.acquire 0, .acquire 1]) := by
  refine ⟨fun i => ?_, fun i j t u v _ hafter => ?_, ?_⟩
  · fin_cases i
    · exact ⟨sampleBinding_fits, .inl rfl⟩
    · exact ⟨sampleBinding_fits, trivial⟩
  · fin_cases j
    · have hafter : LocksAfter (.token t) (.user v) sampleTimeout.locks := hafter
      rw [show sampleTimeout.locks = [.task 1, .ledger 1, .user 1, .token 1, .task 1, .ledger 1, .task 1]
        by decide +kernel] at hafter
      simp [locksAfter_cons] at hafter
    · have hafter : LocksAfter (.token t) (.user v) sampleAcknowledge.locks := hafter
      rw [locks_sampleAcknowledge] at hafter
      simp [locksAfter_cons] at hafter
  · refine ⟨0, .tail (b := 1) (.single ?_) ?_⟩
    · decide +kernel
    · decide +kernel

/-- A second cycle: a wallet is charged before the token, and the user of a subscription is counted
after it. -/
example : Deadlocked (run step (start fun i : Fin 2 => (![sampleSettle 1, sampleSettle 2] i).locks)
    [.acquire 0, .acquire 0, .acquire 1, .acquire 1, .acquire 1]) := by
  refine ⟨0, .tail (b := 1) (.single ?_) ?_⟩
  · decide +kernel
  · decide +kernel

end RenewApi.Billing
