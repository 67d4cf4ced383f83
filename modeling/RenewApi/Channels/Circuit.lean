import RenewApi.Relational.Transaction

/-! # The anti-poison circuit of a channel

`service/anti_poison_health.go` for one channel. Every function runs under one mutex, so a run is a
sequence of whole calls.

Times and durations are nanoseconds. -/

namespace RenewApi.AntiPoison

open Relational Function

/-- What the functions read of the configuration of a channel. -/
structure Config where
  enabled : Bool
  profile : String
  probeTTLSeconds : Int
  productionRouting : Bool
  scheduledProbeOnly : Bool
  hardFailuresToQuarantine : Int
  softFailuresToDegrade : Int
  deriving DecidableEq

inductive CircuitState where
  | closed
  | opened
  | halfOpen
  deriving DecidableEq

/-- The risk of an answer. -/
inductive RiskLevel where
  | hard
  | suspicious
  | soft
  | other (text : String)
  deriving DecidableEq

/-- **`antiPoisonHealthState`**. A time that was never set is `none`. -/
structure Health where
  profile : String
  circuit : CircuitState
  successCount : Nat
  hardFailures : Nat
  suspiciousFailures : Nat
  consecutiveHard : Nat
  consecutiveSuspicious : Nat
  lastRiskLevel : RiskLevel
  lastRiskSignal : String
  lastProbeOK : Bool
  lastProbeAt : Option Int
  lastFirstByteLatencyMs : Int
  lastTotalLatencyMs : Int
  openedAt : Option Int
  halfOpenAfter : Int
  deriving DecidableEq

/-- `time.Second`. -/
def second : Int := 1000000000

section

variable (cfg : Config)

/-- **`antiPoisonHalfOpenAfter`**; a `time.Duration` is a number of 64 bits and wraps around. -/
def antiPoisonHalfOpenAfter : Int :=
  if 0 < cfg.probeTTLSeconds then Int.bmod (cfg.probeTTLSeconds * second) (2 ^ 64) else 30 * second

/-- **`antiPoisonStateLocked`**: the record of the channel, made if there is none. -/
def stateLocked (health : Option Health) : Health :=
  let st := health.getD
    { profile := cfg.profile, circuit := .closed, successCount := 0, hardFailures := 0
      suspiciousFailures := 0, consecutiveHard := 0, consecutiveSuspicious := 0
      lastRiskLevel := .other "", lastRiskSignal := "", lastProbeOK := false, lastProbeAt := none
      lastFirstByteLatencyMs := 0, lastTotalLatencyMs := 0, openedAt := none
      halfOpenAfter := antiPoisonHalfOpenAfter cfg }
  if st.halfOpenAfter ≤ 0 then { st with halfOpenAfter := antiPoisonHalfOpenAfter cfg } else st

/-! ## The calls -/

/-- **`RecordAntiPoisonSuccess`**: closes the circuit, whatever its state. -/
def recordSuccess (firstByteLatencyMs totalLatencyMs : Int) (health : Option Health) : Health :=
  { stateLocked cfg health with
    profile := cfg.profile
    circuit := .closed
    successCount := (stateLocked cfg health).successCount + 1
    consecutiveHard := 0
    consecutiveSuspicious := 0
    lastRiskLevel := .other ""
    lastRiskSignal := ""
    lastFirstByteLatencyMs := firstByteLatencyMs
    lastTotalLatencyMs := totalLatencyMs }

/-- **`RecordAntiPoisonProbeResult`**: a good probe closes a circuit that is half open. -/
def recordProbeResult (ok : Bool) (now : Int) (health : Option Health) : Health :=
  let st := { stateLocked cfg health with
    profile := cfg.profile, lastProbeOK := ok, lastProbeAt := some now }
  if ok ∧ st.circuit = .halfOpen then
    { st with circuit := .closed, consecutiveHard := 0, consecutiveSuspicious := 0 }
  else st

def shouldOpenAntiPoisonCircuit (st : Health) : Bool :=
  if cfg.profile = "trusted" then false
  else if cfg.profile = "quarantine" then true
  else if 0 < cfg.hardFailuresToQuarantine ∧ cfg.hardFailuresToQuarantine ≤ st.consecutiveHard then
    true
  else 0 < cfg.softFailuresToDegrade ∧ cfg.softFailuresToDegrade ≤ st.consecutiveSuspicious

end

def countRisk (level : RiskLevel) (st : Health) : Health :=
  match level with
  | .hard =>
    { st with
      hardFailures := st.hardFailures + 1
      consecutiveHard := st.consecutiveHard + 1
      consecutiveSuspicious := 0 }
  | .suspicious =>
    { st with
      suspiciousFailures := st.suspiciousFailures + 1
      consecutiveSuspicious := st.consecutiveSuspicious + 1 }
  | .soft => { st with suspiciousFailures := st.suspiciousFailures + 1 }
  | .other _ => st

section

variable (cfg : Config) (level : RiskLevel) (signal : String)

/-- The record with a risk, before the circuit is looked at. -/
def withRisk (health : Option Health) : Health :=
  countRisk level
    { stateLocked cfg health with
      profile := cfg.profile, lastRiskLevel := level, lastRiskSignal := signal }

def recordRisk (now : Int) (health : Option Health) : Health :=
  let st := withRisk cfg level signal health
  if shouldOpenAntiPoisonCircuit cfg st then { st with circuit := .opened, openedAt := some now }
  else st

end

def Health.mayHalfOpen (st : Health) (now : Int) : Bool :=
  match st.openedAt with
  | none => true
  | some opened => st.halfOpenAfter ≤ now - opened

/-- **`ChannelAntiPoisonCircuitAllowsProduction`**: the answer, and the record afterwards. -/
def allowsProduction (cfg : Config) (now : Int) (health : Option Health) : Bool × Option Health :=
  if !cfg.enabled then (true, health)
  else if !cfg.productionRouting || cfg.scheduledProbeOnly then (false, health)
  else
    let st := stateLocked cfg health
    if st.circuit = .opened then
      if st.mayHalfOpen now then (true, some { st with circuit := .halfOpen })
      else (false, some st)
    else (true, some st)

/-! ## Runs -/

/-- What a request or a probe does. -/
inductive Call (ρ : Type*) where
  | ask (r : ρ)
  | success (r : ρ) (firstByteLatencyMs totalLatencyMs : Int)
  | risk (r : ρ) (level : RiskLevel) (signal : String)
  | probe (ok : Bool)
  deriving DecidableEq

/-- The channel: the clock, its record, and the requests that were let through and have not
reported. -/
structure Circuit (ρ : Type*) where
  clock : Int
  health : Option Health
  admitted : ρ → Bool

namespace Circuit

variable {ρ : Type*} [DecidableEq ρ] (cfg : Config) {w : Int} {s : Circuit ρ}

section

variable (s : Circuit ρ)

/-- Time passes. -/
def wait (delay : Nat) : Circuit ρ := { s with clock := s.clock + delay }

/-- One call. A request reports once, after it was let through. -/
def act (call : Call ρ) : Circuit ρ :=
  match call with
  | .ask r =>
    let answer := allowsProduction cfg s.clock s.health
    { s with health := answer.2, admitted := update s.admitted r answer.1 }
  | .success r firstByteLatencyMs totalLatencyMs =>
    if s.admitted r then
      { s with
        health := some (recordSuccess cfg firstByteLatencyMs totalLatencyMs s.health)
        admitted := update s.admitted r false }
    else s
  | .risk r level signal =>
    if s.admitted r then
      { s with
        health := some (recordRisk cfg level signal s.clock s.health)
        admitted := update s.admitted r false }
    else s
  | .probe ok => { s with health := some (recordProbeResult cfg ok s.clock s.health) }

/-- **One step**: a call, some time after the step before. -/
def step (e : Nat × Call ρ) : Circuit ρ := (s.wait e.1).act cfg e.2

/-- Whether a request would be let through now. -/
def allows : Bool := (allowsProduction cfg s.clock s.health).1

def Opens (call : Call ρ) : Prop :=
  ∃ r level signal, call = .risk r level signal ∧ s.admitted r = true ∧
    shouldOpenAntiPoisonCircuit cfg (withRisk cfg level signal s.health) = true

/-- The circuit is open and may not be half open yet. -/
def InWindow : Prop :=
  ∃ st, s.health = some st ∧ st.circuit = .opened ∧ st.mayHalfOpen s.clock = false

/-- A success is not reported to a circuit within its window. -/
def Timely (e : Nat × Call ρ) : Prop :=
  ∀ r first total, e.2 = .success r first total → s.admitted r = true → ¬(s.wait e.1).InWindow

end

/-- A channel that was never asked for. -/
def start (clock : Int) : Circuit ρ := ⟨clock, none, fun _ => false⟩

/-- **Whenever the circuit opens, it refuses until it may be half open**: in every state reached
before that time, and at every time until then. -/
def RefusesWhileOpen (s₀ : Circuit ρ) (es : List (Nat × Call ρ)) : Prop :=
  ∀ before d call middle after, es = before ++ (d, call) :: (middle ++ after) →
    ((run (step cfg) s₀ before).wait d).Opens cfg call →
    ∀ delay, let s := (run (step cfg) s₀ (before ++ (d, call) :: middle)).wait delay
      s.clock < ((run (step cfg) s₀ before).wait d).clock + antiPoisonHalfOpenAfter cfg →
        s.allows cfg = false

/-! ## The invariant -/

/-- What holds in every state: the record has the configured duration and was not opened in the
future, and requests are let through only where the channel takes production traffic. -/
structure Sound (s : Circuit ρ) : Prop where
  duration : ∀ st, s.health = some st → st.halfOpenAfter = antiPoisonHalfOpenAfter cfg
  past : ∀ st, s.health = some st → ∀ opened, st.openedAt = some opened → opened ≤ s.clock
  routing : ∀ r, s.admitted r = true →
    cfg.enabled = true → cfg.productionRouting = true ∧ cfg.scheduledProbeOnly = false

variable {cfg} {st : Health} {call : Call ρ}

omit [DecidableEq ρ] in
theorem sound_start (clock : Int) : (start clock : Circuit ρ).Sound cfg :=
  ⟨fun _ h => (nomatch h), fun _ h => (nomatch h), fun _ h => (nomatch h)⟩

omit [DecidableEq ρ] in
theorem Sound.wait (h : s.Sound cfg) (delay : Nat) : (s.wait delay).Sound cfg := by
  refine ⟨h.duration, fun st hst opened hopened => ?_, h.routing⟩
  have hpast := h.past st hst opened hopened
  show opened ≤ s.clock + delay
  omega

omit [DecidableEq ρ] in
theorem Sound.locked (h : s.Sound cfg) :
    (stateLocked cfg s.health).halfOpenAfter = antiPoisonHalfOpenAfter cfg ∧
      (∀ opened, (stateLocked cfg s.health).openedAt = some opened → opened ≤ s.clock) ∧
      ∀ st, s.health = some st → stateLocked cfg s.health = st := by
  cases hst : s.health with
  | none =>
    refine ⟨?_, ?_, fun _ h => (nomatch h)⟩
    · rw [stateLocked]
      split <;> rfl
    · intro opened hopened
      rw [stateLocked] at hopened
      split at hopened <;> cases hopened
  | some st =>
    have hlocked : stateLocked cfg (some st) = st := by
      rw [stateLocked, Option.getD_some, ← h.duration st hst]
      split <;> rfl
    rw [hlocked]
    exact ⟨h.duration st hst, h.past st hst, fun _ heq => Option.some.inj heq⟩

theorem withRisk_frame (cfg : Config) (level : RiskLevel) (signal : String) (health : Option Health) :
    (withRisk cfg level signal health).circuit = (stateLocked cfg health).circuit ∧
      (withRisk cfg level signal health).openedAt = (stateLocked cfg health).openedAt ∧
      (withRisk cfg level signal health).halfOpenAfter =
        (stateLocked cfg health).halfOpenAfter := by
  cases level <;> exact ⟨rfl, rfl, rfl⟩

omit [DecidableEq ρ] in
theorem Sound.replace {admitted : ρ → Bool}
    (hduration : st.halfOpenAfter = antiPoisonHalfOpenAfter cfg)
    (hpast : ∀ opened, st.openedAt = some opened → opened ≤ s.clock)
    (hrouting : ∀ r, admitted r = true →
      cfg.enabled = true → cfg.productionRouting = true ∧ cfg.scheduledProbeOnly = false) :
    Sound cfg { s with health := some st, admitted := admitted } := by
  refine ⟨fun st' hst' => ?_, fun st' hst' => ?_, hrouting⟩
  · cases hst'
    exact hduration
  · cases hst'
    exact hpast

/-- **Every call keeps the invariant.** -/
theorem Sound.act (h : s.Sound cfg) (call : Call ρ) : (s.act cfg call).Sound cfg := by
  obtain ⟨hduration, hpast, -⟩ := h.locked
  cases call with
  | ask r =>
    rw [Circuit.act, allowsProduction]
    split
    · next hdisabled =>
      refine ⟨h.duration, h.past, fun r' hr' henabled => ?_⟩
      rw [henabled] at hdisabled
      cases hdisabled
    · split
      · refine ⟨h.duration, h.past, fun r' hr' => ?_⟩
        dsimp only at hr'
        by_cases hr : r' = r
        · rw [hr, update_self] at hr'
          cases hr'
        · rw [update_of_ne hr] at hr'
          exact h.routing r' hr'
      · next hroutes =>
        simp only [Bool.or_eq_true, Bool.not_eq_true', not_or, Bool.not_eq_false,
          Bool.not_eq_true] at hroutes
        dsimp only
        split
        · split <;> exact .replace hduration hpast fun _ _ _ => hroutes
        · exact .replace hduration hpast fun _ _ _ => hroutes
  | success r =>
    rw [Circuit.act]
    split
    · next hadmitted => exact .replace hduration hpast fun _ _ => h.routing r hadmitted
    · exact h
  | risk r level signal =>
    obtain ⟨-, hopenedAt, hhalf⟩ := withRisk_frame cfg level signal s.health
    rw [Circuit.act]
    split
    · next hadmitted =>
      refine .replace ?_ ?_ fun _ _ => h.routing r hadmitted
      · rw [recordRisk]
        split <;> exact hhalf.trans hduration
      · rw [recordRisk]
        split
        · rintro opened ⟨⟩
          exact le_refl _
        · rw [hopenedAt]
          exact hpast
    · exact h
  | probe ok =>
    rw [Circuit.act, recordProbeResult]
    split <;> exact .replace hduration hpast h.routing

theorem Sound.step (h : s.Sound cfg) (e : Nat × Call ρ) : (s.step cfg e).Sound cfg :=
  (h.wait e.1).act e.2

theorem sound_run (clock : Int) (es : List (Nat × Call ρ)) :
    (run (step cfg) (start clock) es).Sound cfg :=
  run_invariant_all (fun _ e h => h.step e) es (sound_start clock)

/-! ## The window -/

omit [DecidableEq ρ] in
theorem inWindow_iff : s.InWindow ↔ ∃ st opened, s.health = some st ∧
    st.circuit = .opened ∧ st.openedAt = some opened ∧ s.clock < opened + st.halfOpenAfter := by
  constructor
  · rintro ⟨st, hst, hcircuit, hshut⟩
    cases hopened : st.openedAt with
    | none => simp [Health.mayHalfOpen, hopened] at hshut
    | some opened =>
      simp only [Health.mayHalfOpen, hopened, decide_eq_false_iff_not, not_le] at hshut
      exact ⟨st, opened, hst, hcircuit, hopened, by omega⟩
  · rintro ⟨st, opened, hst, hcircuit, hopened, hclock⟩
    refine ⟨st, hst, hcircuit, ?_⟩
    simp only [Health.mayHalfOpen, hopened, decide_eq_false_iff_not, not_le]
    omega

omit [DecidableEq ρ] in
theorem Sound.refuses (h : s.Sound cfg) (henabled : cfg.enabled = true) (hwindow : s.InWindow) :
    allowsProduction cfg s.clock s.health = (false, s.health) := by
  obtain ⟨st, hst, hcircuit, hshut⟩ := hwindow
  have hlocked := h.locked.2.2 st hst
  rw [allowsProduction, if_neg (by simp [henabled])]
  split
  · rfl
  · rw [hlocked, if_pos hcircuit, hshut, hst]
    rfl

omit [DecidableEq ρ] in
theorem allows_of_closed (hst : s.health = some st) (hcircuit : st.circuit = .closed)
    (hrouting : cfg.productionRouting = true) (hprobe : cfg.scheduledProbeOnly = false) :
    s.allows cfg = true := by
  have hlocked : (stateLocked cfg (some st)).circuit = .closed := by
    rw [stateLocked, Option.getD_some]
    split <;> exact hcircuit
  rw [allows, allowsProduction, hst, hrouting, hprobe]
  split
  · rfl
  · rw [if_neg (by decide)]
    rw [if_neg (by rw [hlocked]; decide)]

/-- **What a call does within the window**: unless it reports a success, the circuit stays open,
perhaps for longer. -/
theorem Sound.stays (h : s.Sound cfg) (henabled : cfg.enabled = true) {opened : Int}
    (hst : s.health = some st) (hcircuit : st.circuit = .opened)
    (hopened : st.openedAt = some opened) (hclock : s.clock < opened + st.halfOpenAfter)
    (hcall : ∀ r first total, call = .success r first total → s.admitted r = false) :
    ∃ st' opened', (s.act cfg call).health = some st' ∧ st'.circuit = .opened ∧
      st'.openedAt = some opened' ∧ opened ≤ opened' ∧ st'.halfOpenAfter = st.halfOpenAfter := by
  have hlocked := h.locked.2.2 st hst
  cases call with
  | ask r =>
    have hwindow := inWindow_iff.mpr ⟨st, opened, hst, hcircuit, hopened, hclock⟩
    refine ⟨st, opened, ?_, hcircuit, hopened, le_refl _, rfl⟩
    rw [Circuit.act, h.refuses henabled hwindow]
    exact hst
  | success r first total =>
    refine ⟨st, opened, ?_, hcircuit, hopened, le_refl _, rfl⟩
    rw [Circuit.act, hcall r first total rfl]
    exact hst
  | risk r level signal =>
    rw [Circuit.act]
    split
    · obtain ⟨hframe, hopenedAt, hhalf⟩ := withRisk_frame cfg level signal s.health
      rw [hlocked] at hframe hopenedAt hhalf
      rw [recordRisk]
      split
      · -- opened again, now
        exact ⟨_, s.clock, rfl, rfl, rfl, h.past st hst opened hopened, hhalf⟩
      · exact ⟨_, opened, rfl, hframe.trans hcircuit, hopenedAt.trans hopened, le_refl _, hhalf⟩
    · exact ⟨st, opened, hst, hcircuit, hopened, le_refl _, rfl⟩
  | probe ok =>
    -- a good probe closes a circuit that is half open only
    have hnot : ¬(ok = true ∧ (stateLocked cfg s.health).circuit = .halfOpen) := by
      rw [hlocked, hcircuit]
      exact fun hboth => (nomatch hboth.2)
    refine ⟨_, opened, rfl, ?_, ?_, le_refl _, ?_⟩
    · rw [recordProbeResult, if_neg hnot, hlocked]
      exact hcircuit
    · rw [recordProbeResult, if_neg hnot, hlocked]
      exact hopened
    · rw [recordProbeResult, if_neg hnot, hlocked]

theorem clock_act (s : Circuit ρ) (call : Call ρ) : (s.act cfg call).clock = s.clock := by
  cases call with
  | ask r => rfl
  | success | risk =>
    rw [act]
    split <;> rfl
  | probe ok => rfl

/-- The circuit is shut until a time `w`, unless that has passed. -/
def ShutUntil (w : Int) (s : Circuit ρ) : Prop :=
  w ≤ s.clock ∨ ∃ st opened, s.health = some st ∧ st.circuit = .opened ∧
    st.openedAt = some opened ∧ w ≤ opened + st.halfOpenAfter

omit [DecidableEq ρ] in
theorem ShutUntil.inWindow (h : ShutUntil w s) (hclock : s.clock < w) : s.InWindow := by
  rcases h with hpassed | ⟨st, opened, hst, hcircuit, hopened, hw⟩
  · omega
  · exact inWindow_iff.mpr ⟨st, opened, hst, hcircuit, hopened, by omega⟩

omit [DecidableEq ρ] in
theorem ShutUntil.wait (h : ShutUntil w s) (delay : Nat) : ShutUntil w (s.wait delay) := by
  rcases h with hpassed | hshut
  · left
    show w ≤ s.clock + delay
    omega
  · exact Or.inr hshut

/-- **A timely step keeps the circuit shut.** -/
theorem ShutUntil.step (h : ShutUntil w s) (hsound : s.Sound cfg) (henabled : cfg.enabled = true)
    {e : Nat × Call ρ} (htimely : s.Timely e) : ShutUntil w (s.step cfg e) := by
  have hsound' := hsound.wait e.1
  have hshut := h.wait e.1
  by_cases hpassed : w ≤ (s.wait e.1).clock
  · left
    rw [Circuit.step, clock_act]
    exact hpassed
  · have hwindow := hshut.inWindow (not_le.mp hpassed)
    rcases hshut with hle | ⟨st, opened, hst, hcircuit, hopened, hw⟩
    · exact absurd hle hpassed
    have hcall : ∀ r first total, e.2 = .success r first total → (s.wait e.1).admitted r = false := by
      intro r first total heq
      by_contra hadmitted
      exact htimely r first total heq (by simpa [Circuit.wait] using hadmitted) hwindow
    obtain ⟨st', opened', hst', hcircuit', hopened', hle, hhalf⟩ :=
      hsound'.stays henabled hst hcircuit hopened (by omega) hcall
    exact Or.inr ⟨st', opened', hst', hcircuit', hopened', by omega⟩

theorem Sound.shutUntil_of_opens (h : s.Sound cfg) (hopens : s.Opens cfg call) :
    ShutUntil (s.clock + antiPoisonHalfOpenAfter cfg) (s.act cfg call) := by
  obtain ⟨r, level, signal, rfl, hadmitted, hshould⟩ := hopens
  obtain ⟨-, -, hhalf⟩ := withRisk_frame cfg level signal s.health
  right
  refine ⟨{ withRisk cfg level signal s.health with circuit := .opened, openedAt := some s.clock },
    s.clock, ?_, rfl, rfl, ?_⟩
  · rw [Circuit.act, if_pos hadmitted, recordRisk, if_pos hshould]
  · rw [hhalf, h.locked.1]

variable (cfg)

/-- **An open circuit refuses until it may be half open**, in every run in which no success is
reported to it within that time; and such a success lets traffic through at once. -/
theorem refuses_while_open (henabled : cfg.enabled = true) (clock : Int) :
    (∀ es, Along (step cfg) Timely (start clock : Circuit ρ) es →
      RefusesWhileOpen cfg (start clock) es) ∧
    ∀ es e, let s : Circuit ρ := run (step cfg) (start clock) es
      (s.wait e.1).InWindow → ((s.step cfg e).allows cfg = false ↔ s.Timely e) := by
  refine ⟨fun es halong before d call middle after hsplit hopens delay => ?_, fun es e => ?_⟩
  · intro s hclock
    set s₁ := (run (step cfg) (start clock : Circuit ρ) before).wait d with hs₁
    have hsound₁ : s₁.Sound cfg := (sound_run clock before).wait d
    -- the rest of the run keeps the circuit shut, and keeps the invariant
    have hrest : Along (step cfg) Timely (s₁.act cfg call) middle := by
      rw [hsplit] at halong
      exact (along_append.mp (along_append.mp halong).2.2).1
    have hrun : ShutUntil (s₁.clock + antiPoisonHalfOpenAfter cfg)
          (run (step cfg) (s₁.act cfg call) middle) ∧
        (run (step cfg) (s₁.act cfg call) middle).Sound cfg :=
      run_invariant (I := fun t => ShutUntil (s₁.clock + antiPoisonHalfOpenAfter cfg) t ∧
          t.Sound cfg)
        (fun t e htimely ht => ⟨ht.1.step ht.2 henabled htimely, ht.2.step e⟩)
        hrest ⟨hsound₁.shutUntil_of_opens hopens, hsound₁.act call⟩
    have hs : s = (run (step cfg) (s₁.act cfg call) middle).wait delay := by
      show (run (step cfg) _ _).wait delay = _
      rw [run_append]
      rfl
    rw [hs] at hclock ⊢
    rw [allows, (hrun.2.wait delay).refuses henabled ((hrun.1.wait delay).inWindow hclock)]
  · intro s hwindow
    have hsound₀ : s.Sound cfg := sound_run clock es
    have hsound := hsound₀.wait e.1
    obtain ⟨st, opened, hst, hcircuit, hopened, hclock⟩ := inWindow_iff.mp hwindow
    constructor
    · intro hrefuses r first total hcall hadmitted _
      obtain ⟨hrouting, hprobe⟩ := hsound.routing r hadmitted henabled
      have hhealth : (s.step cfg e).health =
          some (recordSuccess cfg first total (s.wait e.1).health) := by
        rw [step, hcall, act, if_pos (show (s.wait e.1).admitted r = true from hadmitted)]
      have hallows : (s.step cfg e).allows cfg = true :=
        allows_of_closed hhealth rfl hrouting hprobe
      rw [hallows] at hrefuses
      cases hrefuses
    · intro htimely
      -- it is shut beyond the time of the step
      have hshut : ShutUntil ((s.wait e.1).clock + 1) s :=
        Or.inr ⟨st, opened, hst, hcircuit, hopened, by omega⟩
      have hwindow' := (hshut.step hsound₀ henabled htimely).inWindow (by rw [step, clock_act]; omega)
      rw [allows, (hsound₀.step e).refuses henabled hwindow']

end Circuit

/-! ## A request from before the opening -/

/-- Two hard failures open the circuit, for a minute. -/
def strictConfig : Config where
  enabled := true
  profile := "unknown"
  probeTTLSeconds := 60
  productionRouting := true
  scheduledProbeOnly := false
  hardFailuresToQuarantine := 2
  softFailuresToDegrade := 0

/-- Three requests are let through, and the first two fail. -/
def twoHardFailures : List (Nat × Call Nat) :=
  [(0, .ask 0), (0, .ask 1), (0, .ask 2), (5, .risk 0 .hard "response_proof"),
    (5, .risk 1 .hard "response_proof")]

/-- Asking again within the minute is in vain. -/
theorem refuses_while_open_strictConfig :
    ((run (Circuit.step strictConfig) (Circuit.start 1)
      (twoHardFailures ++ [(100, .ask 3)])).wait 1000).allows strictConfig = false := by
  have htimely : Along (Circuit.step strictConfig) Circuit.Timely (Circuit.start 1)
      (twoHardFailures ++ [(100, .ask 3)]) := by
    refine along_of_forall (fun e he s r first total heq => ?_) _
    simp only [twoHardFailures, List.cons_append, List.nil_append, List.mem_cons, List.not_mem_nil,
      or_false] at he
    rcases he with rfl | rfl | rfl | rfl | rfl | rfl <;> cases heq
  exact (Circuit.refuses_while_open strictConfig rfl 1).1 _ htimely
    (twoHardFailures.take 4) 5 (.risk 1 .hard "response_proof") [(100, .ask 3)] [] rfl
    ⟨1, .hard, "response_proof", rfl, by decide, by decide⟩ 1000 (by decide)

/-- **The third request reports a success, and the circuit is closed at once**: a moment after it
was opened for a minute, it lets the next request through. -/
theorem late_success_closes_circuit :
    ¬Circuit.RefusesWhileOpen strictConfig (Circuit.start 1)
      (twoHardFailures ++ [(100, .success 2 10 20)]) := by
  intro h
  have hrefused := h (twoHardFailures.take 4) 5 (.risk 1 .hard "response_proof")
    [(100, .success 2 10 20)] [] rfl ⟨1, .hard, "response_proof", rfl, by decide, by decide⟩ 0
    (by decide)
  revert hrefused
  decide

end RenewApi.AntiPoison
