import Mathlib.Data.Finset.Card
import RenewApi.Sessions.Caches

/-! # The recovery budget of a session

`consumeSessionRecoveryBudget` (`service/session_route_recovery.go`): a session may change its route
a bounded number of times in a row, counted in an entry of the recovery chain cache by
compare-and-swap. -/

namespace RenewApi.Sessions

open Relational Concurrent List Option CacheOp

variable {max : Int}

structure StreamRecoverySetting where
  maxCrossRequestRouteChanges : Int
  sessionNegativeTTLSeconds : Int

/-- What a call reports: the channel that failed, and the token of the failure. -/
structure Failure where
  channelID : Int
  failureToken : String
  deriving DecidableEq

/-- What a call returns. -/
structure Answer where
  used : Int
  max : Int
  allowed : Bool
  deriving DecidableEq

/-- The failure that an entry was last stored for. -/
def SessionRecoveryChain.failure (chain : SessionRecoveryChain) : Failure :=
  ⟨chain.lastChannelID, chain.lastFailureToken⟩

/-- The entry with one more route change. -/
def SessionRecoveryChain.charge (chain : SessionRecoveryChain) (f : Failure) : SessionRecoveryChain :=
  { chain with
    routeChanges := chain.routeChanges + 1
    lastChannelID := f.channelID
    lastFailureToken := f.failureToken }

/-- `time.Time.Unix` of a clock in nanoseconds. -/
def unix (clock : Int) : Int := clock / 1000000000

/-- The compare-and-swap of an attempt. -/
def swapIn (max : Int) (key : String) (expected : Option SessionRecoveryChain)
    (next : SessionRecoveryChain) (again : CacheProgram Answer) : CacheProgram Answer :=
  .call (.compareAndSwap .recoveryChain key expected next) fun
    | .error _ => .done ⟨0, max, false⟩
    | .ok true => .done ⟨next.routeChanges, max, true⟩
    | .ok false => again

/-- The entry of a session that has none yet: the zero value with the time of the failure. -/
def swapFirst (max : Int) (key : String) (f : Failure) (again : CacheProgram Answer) :
    CacheProgram Answer :=
  .call .now fun clock =>
    swapIn max key none (SessionRecoveryChain.charge ⟨unix clock, 0, 0, ""⟩ f) again

/-- The loop of `consumeSessionRecoveryBudget`, with the attempts that are left. -/
def attempt (max : Int) (key : String) (f : Failure) : Nat → CacheProgram Answer
  | 0 => .done ⟨0, max, false⟩
  | attempts + 1 =>
    .call (.get .recoveryChain key) fun
      | .error _ => .done ⟨0, max, false⟩
      | .ok (some current) =>
        if SessionRecoveryChain.failure current = f then
          .done ⟨current.routeChanges, max, current.routeChanges ≤ max⟩
        else if max ≤ current.routeChanges then .done ⟨current.routeChanges, max, false⟩
        else
          swapIn max key (some current) (SessionRecoveryChain.charge current f)
            (attempt max key f attempts)
      | .ok none => swapFirst max key f (attempt max key f attempts)

def consumeSessionRecoveryBudget (setting : Option StreamRecoverySetting) (key : String)
    (f : Failure) : CacheProgram Answer :=
  match setting with
  | none => .done ⟨0, 0, false⟩
  | some setting =>
    let max := setting.maxCrossRequestRouteChanges
    if max ≤ 0 then .done ⟨0, max, false⟩
    else if key = "" then .done ⟨0, max, false⟩
    else attempt max key f 8

/-! ## Stages -/

def routeChanges (chain : Option SessionRecoveryChain) : Int :=
  (chain.map SessionRecoveryChain.routeChanges).getD 0

def lastFailure (chain : Option SessionRecoveryChain) : Option Failure :=
  chain.map SessionRecoveryChain.failure

/-- `next` charges the failure `f` to an entry that was not stored for it. -/
structure Charges (max : Int) (f : Failure) (expected : Option SessionRecoveryChain)
    (next : SessionRecoveryChain) : Prop where
  failure : next.failure = f
  grows : next.routeChanges = routeChanges expected + 1
  bound : next.routeChanges ≤ max
  fresh : lastFailure expected ≠ some f

/-- What can be left of a call for the failure `f`. -/
inductive Stage (max : Int) (key : String) (f : Failure) : CacheProgram Answer → Prop
  | ended (a : Answer) : Stage max key f (.done a)
  | reads (attempts : Nat) (hmax : 0 < max) : Stage max key f (attempt max key f attempts)
  | stamps (attempts : Nat) (hmax : 0 < max) :
      Stage max key f (swapFirst max key f (attempt max key f attempts))
  | swaps (attempts : Nat) (hmax : 0 < max) {expected next} (hcharges : Charges max f expected next) :
      Stage max key f (swapIn max key expected next (attempt max key f attempts))

theorem stage_consume (setting : Option StreamRecoverySetting) (key : String) (f : Failure) :
    Stage ((setting.map StreamRecoverySetting.maxCrossRequestRouteChanges).getD 0) key f
      (consumeSessionRecoveryBudget setting key f) := by
  cases setting with
  | none => exact .ended _
  | some =>
    rw [consumeSessionRecoveryBudget]
    split
    · exact .ended _
    · next hmax =>
      split
      · exact .ended _
      · exact .reads 8 (not_le.mp hmax)

variable {f : Failure}

/-- **All that a step of a call can do**, from the entry `chain`: the entry afterwards, and what is
then left of the call. -/
inductive Advance (max : Int) (key : String) (f : Failure) (chain : Option SessionRecoveryChain) :
    Option SessionRecoveryChain → CacheProgram Answer → Prop
  | goesOn {rest} (hrest : Stage max key f rest)
      (hrunning : ∀ a, rest ≠ .done a) : Advance max key f chain chain rest
  | refused {a} (h : a.allowed = false) : Advance max key f chain chain (.done a)
  | repeats (h : lastFailure chain = some f) :
      Advance max key f chain chain
        (.done ⟨routeChanges chain, max, routeChanges chain ≤ max⟩)
  | charged {next} (h : Charges max f chain next)
      (hkey : fullKey Cache.recoveryChain.space key ≠ "") :
      Advance max key f chain (some next) (.done ⟨next.routeChanges, max, true⟩)

theorem Advance.again {key : String} {chain : Option SessionRecoveryChain} (attempts : Nat)
    (hmax : 0 < max) : Advance max key f chain chain (attempt max key f attempts) := by
  cases attempts with
  | zero => exact .refused rfl
  | succ n => exact .goesOn (.reads (n + 1) hmax) (fun a => nofun)

/-- **A call that has not returned advances.** -/
theorem Stage.advance {key : String} {p : CacheProgram Answer} (h : Stage max key f p)
    (hrunning : ∀ a, p ≠ .done a) (m : Moment) (s : Caches) :
    Advance max key f (s.at .recoveryChain key) ((p.step (exec m) s).1.at .recoveryChain key)
      (p.step (exec m) s).2 := by
  cases h with
  | ended a => exact absurd rfl (hrunning a)
  | stamps attempts hmax =>
    refine .goesOn (.swaps attempts hmax ⟨rfl, rfl, ?_, nofun⟩) (fun a => nofun)
    show (0 : Int) + 1 ≤ max
    omega
  | reads attempts hmax =>
    cases attempts with
    | zero => exact absurd rfl (hrunning _)
    | succ attempts =>
      rw [attempt, Program.step_call]
      rcases exec_get_cases m .recoveryChain key s with ⟨-, hget⟩ | hget | ⟨-, hget⟩
      · rw [hget]
        exact .goesOn (.stamps attempts hmax) (fun a => nofun)
      · rw [hget]
        cases s.at .recoveryChain key with
        | none => exact .goesOn (.stamps attempts hmax) (fun a => nofun)
        | some current =>
          dsimp only
          split
          · next hsame => exact .repeats (congrArg some hsame)
          · next hne =>
            split
            · exact .refused rfl
            · next hlt =>
              refine .goesOn (.swaps attempts hmax ⟨rfl, rfl, ?_, fun h => hne (some.inj h)⟩)
                (fun a => nofun)
              show current.routeChanges + 1 ≤ max
              omega
      · rw [hget]
        exact .refused rfl
  | @swaps attempts hmax expected next hcharges =>
    rw [swapIn, Program.step_call]
    rcases exec_compareAndSwap_cases m .recoveryChain key expected next s with
      hswap | hswap | ⟨hkey, hexpected, hswap⟩
    · rw [hswap]
      exact .again attempts hmax
    · rw [hswap]
      exact .refused rfl
    · rw [hswap]
      rw [Caches.at_put_self, hexpected]
      exact .charged hcharges hkey

/-! ## Calls that share an entry -/

/-- A call: the failure it was made for, and what is left of it. -/
structure BudgetCall where
  failure : Failure
  rest : CacheProgram Answer

/-- What happens to a call. -/
inductive BudgetEvent where
  | start (f : Failure)
  | go (m : Moment)

section

variable {ι : Type*} [DecidableEq ι] (setting : Option StreamRecoverySetting) (key : String)
  {chain' : Option SessionRecoveryChain}

def maxRouteChanges : Int :=
  (setting.map StreamRecoverySetting.maxCrossRequestRouteChanges).getD 0

/-- A call is made, or takes a step. -/
def budgetAct : BudgetEvent → Caches → Option BudgetCall → Caches × Option BudgetCall
  | .start f, s, none => (s, some ⟨f, consumeSessionRecoveryBudget setting key f⟩)
  | .start _, s, some call => (s, some call)
  | .go _, s, none => (s, none)
  | .go m, s, some call =>
    let after := call.rest.step (CacheOp.exec m) s
    (after.1, some ⟨call.failure, after.2⟩)

abbrev Budgets (ι : Type*) := World ι Caches (Option BudgetCall)

/-- One step of one call. -/
abbrev budgetStep (w : Budgets ι) (e : ι × BudgetEvent) : Budgets ι := w.step (budgetAct setting key) e

def Budgets.start : Budgets ι := ⟨Caches.empty, fun _ => none⟩

/-- The entry of the session. -/
def Budgets.chain (w : Budgets ι) : Option SessionRecoveryChain := w.shared.at .recoveryChain key

/-- The step returns the answer `a` to a call for the failure `f`. -/
def Answers (w : Budgets ι) (e : ι × BudgetEvent) (f : Failure) (a : Answer) : Prop :=
  (budgetStep setting key w e).threads e.1 = some ⟨f, .done a⟩ ∧ w.threads e.1 ≠ some ⟨f, .done a⟩

/-- **The budget is respected** in a state of the calls, and by every step from it. -/
structure Respected (w : Budgets ι) : Prop where
  bound : ∀ chain, w.chain key = some chain → chain.routeChanges ≤ maxRouteChanges setting
  /-- A call that is allowed for another failure than the last stored one is charged with one
  change. -/
  charged : ∀ e f a, Answers setting key w e f a → a.allowed = true →
    lastFailure (w.chain key) ≠ some f →
      routeChanges ((budgetStep setting key w e).chain key) = routeChanges (w.chain key) + 1 ∧
        lastFailure ((budgetStep setting key w e).chain key) = some f
  unchanged : ∀ e, (∀ f a, Answers setting key w e f a → a.allowed = true →
    lastFailure (w.chain key) = some f) → (budgetStep setting key w e).chain key = w.chain key
  /-- A call that reads its own failure as the last stored one is allowed, with the changes so far. -/
  repeats : ∀ i f next m, w.threads i = some ⟨f, .call (.get .recoveryChain key) next⟩ →
    m.reachable = true → lastFailure (w.chain key) = some f →
      Answers setting key w (i, .go m) f
        ⟨routeChanges (w.chain key), maxRouteChanges setting, true⟩
  distinct : ∀ fs : Finset Failure,
    (∀ f ∈ fs, ∃ i a, w.threads i = some ⟨f, .done a⟩ ∧ a.allowed = true) →
      fs.card ≤ (maxRouteChanges setting).toNat

variable {setting key}

/-- The failures that an entry was stored for, the last one first. -/
structure StoredFor (chain : Option SessionRecoveryChain) (history : List Failure) : Prop where
  length : (history.length : Int) = routeChanges chain
  head : history.head? = lastFailure chain

/-- What holds in every state: the calls are at their stages, and what was allowed is in the history
of the entry. -/
structure Counted (setting : Option StreamRecoverySetting) (key : String) (w : Budgets ι) : Prop where
  stages : ∀ i call, w.threads i = some call →
    Stage (maxRouteChanges setting) key call.failure call.rest
  bound : ∀ chain, w.chain key = some chain → chain.routeChanges ≤ maxRouteChanges setting
  named : ∀ chain, w.chain key = some chain → fullKey Cache.recoveryChain.space key ≠ ""
  stored : ∃ history, StoredFor (w.chain key) history ∧
    ∀ i f a, w.threads i = some ⟨f, .done a⟩ → a.allowed = true → f ∈ history

omit [DecidableEq ι] in
variable {w : Budgets ι} {a : Answer}

/-- One call changes: it is at a stage, and the history of the entry contains its failure if it was
allowed. -/
theorem Counted.replace {w' : Budgets ι} (hw : Counted setting key w) {i : ι}
    {rest : CacheProgram Answer} (hthread : w'.threads i = some ⟨f, rest⟩)
    (hother : ∀ j, j ≠ i → w'.threads j = w.threads j)
    (hstage : Stage (maxRouteChanges setting) key f rest)
    (hbound : ∀ chain, w'.chain key = some chain → chain.routeChanges ≤ maxRouteChanges setting)
    (hnamed : ∀ chain, w'.chain key = some chain → fullKey Cache.recoveryChain.space key ≠ "")
    (hstored : ∀ history, StoredFor (w.chain key) history →
      ∃ history', StoredFor (w'.chain key) history' ∧
      history ⊆ history' ∧ ∀ a, rest = .done a → a.allowed = true → f ∈ history') :
    Counted setting key w' := by
  obtain ⟨history, hhistory, hallowed⟩ := hw.stored
  obtain ⟨history', hhistory', hsub, hown⟩ := hstored history hhistory
  refine ⟨fun j call hj => ?_, hbound, hnamed, history', hhistory', fun j f' a hj ha => ?_⟩
  · by_cases hji : j = i
    · rw [hji, hthread] at hj
      cases hj
      exact hstage
    · rw [hother j hji] at hj
      exact hw.stages j call hj
  · by_cases hji : j = i
    · rw [hji, hthread] at hj
      cases hj
      exact hown a rfl ha
    · rw [hother j hji] at hj
      exact hsub (hallowed j f' a hj ha)

/-- **What a step of the calls can do**: nothing, the beginning of a call, or the advance of one. -/
theorem budgetStep_cases (hw : Counted setting key w) (e : ι × BudgetEvent) :
    budgetStep setting key w e = w ∨
      (∃ f, w.threads e.1 = none ∧ (budgetStep setting key w e).shared = w.shared ∧
        (budgetStep setting key w e).threads e.1 =
          some ⟨f, consumeSessionRecoveryBudget setting key f⟩) ∨
      ∃ call rest, w.threads e.1 = some call ∧ (∀ a, call.rest ≠ .done a) ∧
        (budgetStep setting key w e).threads e.1 = some ⟨call.failure, rest⟩ ∧
        Advance (maxRouteChanges setting) key call.failure (w.chain key)
          ((budgetStep setting key w e).chain key) rest := by
  obtain ⟨i, x⟩ := e
  have hsame : ∀ x, budgetAct setting key x w.shared (w.threads i) = (w.shared, w.threads i) →
      budgetStep setting key w (i, x) = w := by
    intro x hx
    show World.mk _ (Function.update _ _ _) = w
    rw [hx, Function.update_eq_self]
  cases x with
  | start f =>
    cases hcall : w.threads i with
    | none =>
      refine .inr (.inl ⟨f, rfl, ?_, ?_⟩)
      · rw [World.shared_step, hcall]
        rfl
      · rw [World.threads_step_self, hcall]
        rfl
    | some call => exact .inl (hsame _ (by rw [hcall]; rfl))
  | go m =>
    cases hcall : w.threads i with
    | none => exact .inl (hsame _ (by rw [hcall]; rfl))
    | some call =>
      obtain ⟨f, rest⟩ := call
      by_cases hended : ∃ a, rest = .done a
      · obtain ⟨a, rfl⟩ := hended
        exact .inl (hsame _ (by rw [hcall]; rfl))
      · have hrunning : ∀ a, rest ≠ .done a := fun a ha => hended ⟨a, ha⟩
        have hact : budgetAct setting key (.go m) w.shared (w.threads i) =
            ((rest.step (exec m) w.shared).1, some ⟨f, (rest.step (exec m) w.shared).2⟩) := by
          rw [hcall]
          rfl
        have hchain : (budgetStep setting key w (i, .go m)).chain key =
            (rest.step (exec m) w.shared).1.at .recoveryChain key :=
          congrArg (·.1.at .recoveryChain key) hact
        refine .inr (.inr ⟨⟨f, rest⟩, (rest.step (exec m) w.shared).2, rfl, hrunning, ?_, ?_⟩)
        · rw [World.threads_step_self, hact]
        · rw [hchain]
          exact (hw.stages i _ hcall).advance hrunning m w.shared

theorem consume_not_allowed (h : consumeSessionRecoveryBudget setting key f = .done a) :
    a.allowed = false := by
  unfold consumeSessionRecoveryBudget at h
  cases setting with
  | none =>
    cases h
    rfl
  | some =>
    dsimp only at h
    split at h
    · cases h
      rfl
    · split at h <;> cases h
      rfl

variable {rest : CacheProgram Answer} {chain : Option SessionRecoveryChain}
  {next : (get .recoveryChain key).Result → CacheProgram Answer} {e : ι × BudgetEvent}

section

variable (h : Advance max key f chain chain' rest)
include h

theorem Advance.stage : Stage max key f rest := by
  cases h with
  | goesOn hrest _ => exact hrest
  | _ => exact .ended _

theorem Advance.bound {P : SessionRecoveryChain → Prop}
    (hP : ∀ next, next.routeChanges ≤ max → fullKey Cache.recoveryChain.space key ≠ "" → P next)
    (hchain : ∀ c, chain = some c → P c) : ∀ c, chain' = some c → P c := by
  cases h with
  | charged hcharges hkey =>
    rintro _ ⟨⟩
    exact hP _ hcharges.bound hkey
  | _ => exact hchain

theorem Advance.storedFor {history : List Failure} (hhistory : StoredFor chain history) :
    ∃ history', StoredFor chain' history' ∧
      history ⊆ history' ∧ ∀ a, rest = .done a → a.allowed = true → f ∈ history' := by
  cases h with
  | goesOn _ hrunning => exact ⟨history, hhistory, fun _ h => h, fun a ha => absurd ha (hrunning a)⟩
  | refused hrefused =>
    refine ⟨history, hhistory, fun _ h => h, fun a ha hallowed => ?_⟩
    cases ha
    rw [hrefused] at hallowed
    cases hallowed
  | repeats hlast =>
    exact ⟨history, hhistory, fun _ h => h, fun _ _ _ =>
      mem_of_head? (hhistory.head.trans hlast)⟩
  | charged hcharges _ =>
    refine ⟨f :: history, ⟨?_, ?_⟩, subset_cons_self f history, fun _ _ _ => mem_cons_self⟩
    · rw [length_cons, Nat.cast_add_one, hhistory.length]
      exact hcharges.grows.symm
    · exact congrArg some hcharges.failure.symm

end

theorem Counted.step (hw : Counted setting key w) (e : ι × BudgetEvent) :
    Counted setting key (budgetStep setting key w e) := by
  have hother : ∀ j, j ≠ e.1 → (budgetStep setting key w e).threads j = w.threads j :=
    fun j hj => World.threads_step_of_ne w hj
  rcases budgetStep_cases hw e with hsame | ⟨f, -, hshared, hthread⟩ |
    ⟨call, rest, -, -, hthread, hadvance⟩
  · rw [hsame]
    exact hw
  · have hchain : (budgetStep setting key w e).chain key = w.chain key := by
      rw [Budgets.chain, hshared, Budgets.chain]
    refine hw.replace hthread hother (stage_consume setting key f) ?_ ?_ fun history hhistory => ?_
    · rw [hchain]
      exact hw.bound
    · rw [hchain]
      exact hw.named
    · rw [hchain]
      refine ⟨history, hhistory, fun _ h => h, fun a ha hallowed => ?_⟩
      rw [consume_not_allowed ha] at hallowed
      cases hallowed
  · exact hw.replace hthread hother hadvance.stage (hadvance.bound (fun _ h _ => h) hw.bound)
      (hadvance.bound (fun _ _ h => h) hw.named) fun _ => hadvance.storedFor

/-- **Which answer a step returns**, and what it does to the entry. -/
theorem Counted.answers (hw : Counted setting key w) (ha : Answers setting key w e f a)
    (hallowed : a.allowed = true) : Advance (maxRouteChanges setting) key f (w.chain key)
      ((budgetStep setting key w e).chain key) (.done a) := by
  obtain ⟨hdone, hnew⟩ := ha
  rcases budgetStep_cases hw e with hsame | ⟨f', -, -, hthread⟩ | ⟨call, rest, -, -, hthread, hadvance⟩
  · rw [hsame] at hdone
    exact absurd hdone hnew
  · rw [hthread] at hdone
    obtain ⟨rfl, hconsume⟩ := BudgetCall.mk.inj (some.inj hdone)
    rw [consume_not_allowed hconsume] at hallowed
    cases hallowed
  · rw [hthread] at hdone
    obtain ⟨rfl, rfl⟩ := BudgetCall.mk.inj (some.inj hdone)
    exact hadvance

theorem Counted.unchanged (hw : Counted setting key w)
    (h : ∀ f a, Answers setting key w e f a → a.allowed = true → lastFailure (w.chain key) = some f) :
    (budgetStep setting key w e).chain key = w.chain key := by
  rcases budgetStep_cases hw e with hsame | ⟨f, -, hshared, -⟩ |
    ⟨call, rest, hcall, hrunning, hthread, hadvance⟩
  · rw [hsame]
  · rw [Budgets.chain, hshared, Budgets.chain]
  · generalize hchain' : (budgetStep setting key w e).chain key = chain' at hadvance
    cases hadvance with
    | charged hcharges _ =>
      refine absurd (h call.failure _ ⟨hthread, fun hended => ?_⟩ rfl) hcharges.fresh
      rw [hcall] at hended
      exact hrunning _ (BudgetCall.mk.inj (some.inj hended)).2
    | _ => rfl

theorem Stage.eq_attempt (h : Stage max key f (.call (.get .recoveryChain key) next)) :
    ∃ attempts, Program.call (get .recoveryChain key) next = attempt max key f (attempts + 1) := by
  generalize hp : Program.call (get .recoveryChain key) next = p at h ⊢
  cases h with
  | reads attempts _ =>
    cases attempts with
    | zero => cases hp
    | succ attempts => exact ⟨attempts, rfl⟩
  | _ => cases hp

/-- **A failure that is reported again is allowed**, with the changes so far. -/
theorem Counted.repeats (hw : Counted setting key w) {i : ι} {m : Moment}
    (hcall : w.threads i = some ⟨f, .call (.get .recoveryChain key) next⟩)
    (hreachable : m.reachable = true) (hlast : lastFailure (w.chain key) = some f) :
    Answers setting key w (i, .go m) f ⟨routeChanges (w.chain key), maxRouteChanges setting, true⟩ := by
  obtain ⟨attempts, hattempt⟩ := (hw.stages i _ hcall).eq_attempt
  rw [hattempt] at hcall
  obtain ⟨chain, hchain, hfailure⟩ : ∃ chain, w.chain key = some chain ∧ chain.failure = f :=
    map_eq_some_iff.mp hlast
  have hget : exec m (.get .recoveryChain key) w.shared = (w.shared, .ok (some chain)) := by
    rcases exec_get_cases m .recoveryChain key w.shared with ⟨hblank, -⟩ | hget | ⟨hdown, -⟩
    · exact absurd hblank (hw.named chain hchain)
    · exact hget.trans (congrArg (fun r => (w.shared, Except.ok r)) hchain)
    · rw [hreachable] at hdown
      cases hdown
  have hstep : (attempt (maxRouteChanges setting) key f (attempts + 1)).step (exec m) w.shared =
      (w.shared, .done ⟨chain.routeChanges, maxRouteChanges setting, true⟩) := by
    rw [attempt, Program.step_call, hget]
    dsimp only
    rw [if_pos hfailure, decide_eq_true (hw.bound chain hchain)]
  refine ⟨?_, fun hended => ?_⟩
  · rw [World.threads_step_self, hcall, hchain]
    exact congrArg (fun r => some (BudgetCall.mk f r.2)) hstep
  · rw [hcall] at hended
    cases (BudgetCall.mk.inj (some.inj hended)).2

variable (setting key)

/-- **The recovery budget is respected in every interleaving of calls.** -/
theorem budget_respected (es : List (ι × BudgetEvent)) :
    Respected setting key (run (budgetStep setting key) (Budgets.start : Budgets ι) es) := by
  have hw : Counted setting key (run (budgetStep setting key) (Budgets.start : Budgets ι) es) :=
    run_invariant_all (fun _ e h => h.step e) es
      ⟨fun _ _ h => (nomatch h), fun _ h => (nomatch h), fun _ h => (nomatch h), [], ⟨rfl, rfl⟩,
        fun _ _ _ h => (nomatch h)⟩
  refine ⟨hw.bound, fun e f a ha hallowed hother => ?_, fun e he => hw.unchanged he,
    fun i f next m => hw.repeats, fun fs hfs => ?_⟩
  · have hadvance := hw.answers ha hallowed
    generalize (budgetStep setting key _ e).chain key = chain' at hadvance ⊢
    cases hadvance with
    | goesOn _ hrunning => exact absurd rfl (hrunning a)
    | refused hrefused =>
      rw [hrefused] at hallowed
      cases hallowed
    | repeats hlast => exact absurd hlast hother
    | charged hcharges _ => exact ⟨hcharges.grows, congrArg some hcharges.failure⟩
  · -- the failures are among those that the entry was stored for, and these are bounded
    obtain ⟨history, hhistory, hallowed⟩ := hw.stored
    have hsub : fs ⊆ history.toFinset := by
      intro f hf
      obtain ⟨i, a, hi, ha⟩ := hfs f hf
      exact mem_toFinset.mpr (hallowed i f a hi ha)
    have hcard : fs.card ≤ history.length :=
      (Finset.card_le_card hsub).trans (toFinset_card_le history)
    have hlength := hhistory.length
    cases hchain : Budgets.chain key (run (budgetStep setting key) Budgets.start es) with
    | none =>
      rw [hchain, routeChanges, map_none, getD_none] at hlength
      omega
    | some chain =>
      have hbound := hw.bound chain hchain
      rw [hchain, routeChanges, map_some, getD_some] at hlength
      omega

end

end RenewApi.Sessions
