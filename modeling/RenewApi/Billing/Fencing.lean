import RenewApi.Billing.Outcome

/-! # Fencing and absorption

The version of a ledger row is a fencing token. A caller that decided something from a row it read
earlier passes the version it saw; when the row has been changed since, by anybody, the call must do
nothing. -/

namespace RenewApi.Billing

open Relational Option LedgerOp LedgerCall

variable (cal : Calendar) (db : Database) (c : LedgerCall) {id : Nat} {l : BillingLedger}

/-- **One call keeps a row or raises its version**, and keeps a refunded row. -/
theorem version_step (h : db.ledgers.find? id = some l) :
    ∃ l', (c.step cal db).ledgers.find? id = some l' ∧ (l' = l ∨ l.version < l'.version) ∧
      (l.state = .refunded → l' = l) := by
  cases c.step_outcome cal db with
  | quiet hledgers _ => exact ⟨l, by rw [hledgers]; exact h, .inl rfl, fun _ => rfl⟩
  | rewrite m m' _ _ hrewrite =>
    rw [hrewrite.find?_eq]
    by_cases hid : id = m.id
    · -- the rewritten row is `l` itself
      have hml : l = m := by
        rw [hid, hrewrite.found] at h
        exact (some.inj h).symm
      subst hml
      refine ⟨m', if_pos hid, .inr ?_, fun href => absurd href hrewrite.live⟩
      rw [hrewrite.version]
      exact Int.lt_succ l.version
    · exact ⟨l, by rw [if_neg hid]; exact h, .inl rfl, fun _ => rfl⟩
  | create input m _ _ _ hcreate =>
    refine ⟨l, ?_, .inl rfl, fun _ => rfl⟩
    have hne : id ≠ Row.key m := by
      rintro rfl
      have hfresh : db.ledgers.find? (Row.key m) = none := hcreate.fresh
      rw [hfresh] at h
      cases h
    rw [hcreate.ledgers, Table.find?_insert hcreate.fresh, if_neg hne]
    exact h

theorem quiet_of_refunded (h : db.ledgers.find? id = some l) (href : l.state = .refunded)
    (hop : c.op.ledger? db = some id) :
    (c.step cal db).ledgers = db.ledgers ∧ (c.step cal db).charged = db.charged := by
  cases c.step_outcome cal db with
  | quiet hledgers hcharged => exact ⟨hledgers, hcharged⟩
  | rewrite m m' htarget _ hrewrite =>
    have hid : m.id = id := some.inj (htarget.symm.trans hop)
    have hml : some m = some l := by rw [← hrewrite.found, hid, h]
    exact absurd ((some.inj hml) ▸ href) hrewrite.live
  | create _ _ _ hunknown =>
    rw [hunknown] at hop
    cases hop

theorem version_run (calls : List LedgerCall) (h : db.ledgers.find? id = some l) :
    ∃ l', (run (step cal) db calls).ledgers.find? id = some l' ∧
      (l' = l ∨ l.version < l'.version) ∧ (l.state = .refunded → l' = l) := by
  refine run_invariant_all (I := fun d : Database => ∃ l', d.ledgers.find? id = some l' ∧
    (l' = l ∨ l.version < l'.version) ∧ (l.state = .refunded → l' = l)) ?_ calls
    ⟨l, h, .inl rfl, fun _ => rfl⟩
  rintro d c ⟨l₁, hfind, hkept, href⟩
  obtain ⟨l₂, hfind₂, hkept₂, href₂⟩ := version_step cal d c hfind
  refine ⟨l₂, hfind₂, ?_, fun hl => ?_⟩
  · rcases hkept₂ with rfl | hlt₂
    · exact hkept
    · rcases hkept with rfl | hlt
      · exact .inr hlt₂
      · exact .inr (hlt.trans hlt₂)
  · have hl₁ : l₁ = l := href hl
    rw [href₂ (hl₁ ▸ hl), hl₁]

theorem version_lt_of_changed (before after : List LedgerCall) {snapshot current : BillingLedger}
    (hread : db.ledgers.find? id = some snapshot)
    (hlater : (run (step cal) db before).ledgers.find? id = some current)
    (hchanged : current ≠ snapshot) :
    ∃ l, (run (step cal) db (before ++ after)).ledgers.find? id = some l ∧
      snapshot.version < l.version := by
  obtain ⟨l₁, hfind₁, hkept₁, -⟩ := version_run cal db before hread
  obtain rfl : l₁ = current := some.inj (hfind₁.symm.trans hlater)
  have hlt₁ := hkept₁.resolve_left hchanged
  obtain ⟨l₂, hfind₂, hkept₂, -⟩ := version_run cal _ after hlater
  refine ⟨l₂, by rw [run_append]; exact hfind₂, ?_⟩
  rcases hkept₂ with rfl | hlt₂
  · exact hlt₁
  · exact hlt₁.trans hlt₂

/-! ## The fenced operations -/

section

variable {cal : Calendar} {now : Int} {db : Database} {id : Nat} {l : BillingLedger} {version : Int}
  (hfind : db.ledgers.find? id = some l) (hversion : l.version ≠ version)
include hfind hversion

theorem version_of_lock {m : BillingLedger} (hlock : lockBillingLedgerTx db id = .ok m) :
    m.version ≠ version := by
  have hm : some m = some l := by rw [← (lockBillingLedgerTx_eq_ok.mp hlock).2, hfind]
  rw [some.inj hm]
  exact hversion

variable (kind : LedgerKind) (desired : DesiredState) (cutoff : Int) (reason : String)
  (cause : Option String)

theorem refundStaleReserved_of_version :
    (refundStaleReserved id kind version cutoff reason).exec cal now db = db := by
  refine transaction_cases (P := fun d => d = db) rfl fun d changed h => ?_
  rcases refundStaleReservedBillingLedger_eq_ok h with rfl | ⟨m, _, hlock, hstale, -⟩
  · rfl
  · exact absurd hstale.2.2.1 (version_of_lock hfind hversion hlock)

theorem markStaleReserved_of_version :
    (markStaleReserved id kind version cutoff cause).exec cal now db = db := by
  refine transaction_cases (P := fun d => d = db) rfl fun d u h => ?_
  rcases markStaleReservedBillingLedgerForReconcile_eq_ok h with rfl | ⟨m, hlock, hstale, -⟩
  · rfl
  · exact absurd hstale.2.2.1 (version_of_lock hfind hversion hlock)

theorem replay_of_version (target : Int) (reason : String) :
    (replay id version desired target reason).exec cal now db = db := by
  refine transaction_cases (P := fun d => d = db) rfl fun d changed h => ?_
  rcases replayBillingLedgerReconcile_eq_ok h with rfl | ⟨m, _, hlock, hawaits, -⟩
  · rfl
  · exact absurd hawaits.2.1 (version_of_lock hfind hversion hlock)

theorem markReconcileRetry_of_version (quota : Int) (cause : Option String) :
    (markReconcileRetry id version desired quota cause).exec cal now db = db := by
  refine transaction_cases (P := fun d => d = db) rfl fun d changed h => ?_
  rcases markBillingLedgerReconcileRetry_eq_ok h with rfl | ⟨m, hlock, hawaits, -⟩
  · rfl
  · exact absurd hawaits.2.1 (version_of_lock hfind hversion hlock)

end

/-- **Fencing and absorption.** In every state, and so after every run: a call that changes a ledger
row raises its version; a refunded row never changes again, and a call on its behalf changes no
ledger and no charged row; once a row has been changed after it was read, the stale-reservation and
replay functions called with the version that was read change nothing at all. -/
theorem ledger_fencing (cal : Calendar) (db : Database) :
    (∀ (c : LedgerCall) (id : Nat) (l : BillingLedger), db.ledgers.find? id = some l →
      ∃ l', (c.step cal db).ledgers.find? id = some l' ∧ (l' ≠ l → l.version < l'.version)) ∧
    (∀ (calls : List LedgerCall) (id : Nat) (l : BillingLedger), db.ledgers.find? id = some l →
      l.state = .refunded →
      let later := run (LedgerCall.step cal) db calls
      later.ledgers.find? id = some l ∧
        ∀ c : LedgerCall, c.op.ledger? later = some id →
          (c.step cal later).ledgers = later.ledgers ∧
            (c.step cal later).charged = later.charged) ∧
    (∀ (before after : List LedgerCall) (id : Nat) (snapshot current : BillingLedger),
      db.ledgers.find? id = some snapshot →
      (run (LedgerCall.step cal) db before).ledgers.find? id = some current → current ≠ snapshot →
      let later := run (LedgerCall.step cal) db (before ++ after)
      ∀ (now : Int) (kind : LedgerKind) (cutoff : Int) (reason : String) (cause : Option String)
        (desired : DesiredState) (quota : Int),
        (LedgerOp.refundStaleReserved id kind snapshot.version cutoff reason).exec cal now later
            = later ∧
          (LedgerOp.markStaleReserved id kind snapshot.version cutoff cause).exec cal now later
            = later ∧
          (LedgerOp.replay id snapshot.version desired quota reason).exec cal now later = later ∧
          (LedgerOp.markReconcileRetry id snapshot.version desired quota cause).exec cal now later
            = later) := by
  refine ⟨fun c id l hl => ?_, fun calls id l hl href => ?_,
    fun before after id snapshot current hread hlater hchanged => ?_⟩
  · obtain ⟨l', hfind, hkept, -⟩ := version_step cal db c hl
    exact ⟨l', hfind, fun hne => hkept.resolve_left hne⟩
  · obtain ⟨l', hfind, -, habsorbed⟩ := version_run cal db calls hl
    rw [habsorbed href] at hfind
    exact ⟨hfind, fun c hop => quiet_of_refunded cal _ c hfind href hop⟩
  · obtain ⟨l, hfind, hlt⟩ := version_lt_of_changed cal db before after hread hlater hchanged
    intro later now kind cutoff reason cause desired quota
    exact ⟨refundStaleReserved_of_version hfind hlt.ne' kind cutoff reason,
      markStaleReserved_of_version hfind hlt.ne' kind cutoff cause,
      replay_of_version hfind hlt.ne' desired quota reason,
      markReconcileRetry_of_version hfind hlt.ne' desired quota cause⟩

/-- The first ledger of the sample run as the reservation left it. -/
def sampleSnapshot : BillingLedger :=
  { (sampleReservation "r1" .wallet 30).newLedger 1 2000 with
    fundingState := .applied, tokenState := .applied, subscriptionState := .notApplicable }

/-- The reservation is raised and settled after it was listed as stale; the sweep then refunds
nothing. -/
theorem ledger_fencing_sample :
    let later := run (LedgerCall.step sampleCalendar) sampleDatabase sampleCalls
    (LedgerOp.refundStaleReserved 1 .request 1 5000 "stale").exec sampleCalendar 6000 later
      = later := by
  have hread : (run (step sampleCalendar) sampleDatabase (sampleCalls.take 1)).ledgers.find?
      1 = some sampleSnapshot := by decide +kernel
  have hlater : (run (step sampleCalendar)
      (run (step sampleCalendar) sampleDatabase (sampleCalls.take 1))
      ((sampleCalls.drop 1).take 2)).ledgers.find? 1
        = some { sampleSnapshot with
          reservedQuota := 40, appliedQuota := 40, desiredQuota := 40, version := 2
          updatedAt := 2002 } := by decide +kernel
  have h := (ledger_fencing sampleCalendar _).2.2 _ (sampleCalls.drop 3) 1 _ _ hread hlater
    (by decide) 6000 .request 5000 "stale" none .unset 0
  have hcalls : sampleCalls.take 1 ++ ((sampleCalls.drop 1).take 2 ++ sampleCalls.drop 3)
      = sampleCalls := rfl
  exact h.1

end RenewApi.Billing
