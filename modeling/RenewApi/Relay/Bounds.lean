import RenewApi.Relay.Loop

/-! # The relay loops are bounded

Whatever the environment answers, the loops of a request finish, dispatch at most `MaxSwitches + 1`
times, and do not dispatch again once the response is committed to the client. -/

namespace RenewApi.Relay

open List

namespace RelayState

variable {r : Round} {s s' : RelayState} {env : RelayEnvironment} {e : NewAPIError}

/-- The ranking of the attempt loop. -/
def budget (s : RelayState) : Nat :=
  (s.failover.maxSwitches + 1 - s.failover.attemptCount) + s.claudeThinking.canFallBack.toNat

inductive Advance (s : RelayState) : RoundExit → RelayState → Prop
  /-- No dispatch. Another round follows only the Claude thinking fallback, which is used up by
  it. -/
  | quiet {x s'} (hfailover : s'.failover = s.failover)
      (hdispatches : s'.dispatches = s.dispatches)
      (hcommitted : s'.clientCommitted = s.clientCommitted) (hplan : s'.routePlan = s.routePlan)
      (hthinking : s'.claudeThinking.canFallBack.toNat ≤ s.claudeThinking.canFallBack.toNat)
      (hagain : x = .again →
        s'.claudeThinking.canFallBack.toNat < s.claudeThinking.canFallBack.toNat) :
      Advance s x s'
  /-- One attempt is dispatched. Another round follows only an uncommitted response. -/
  | dispatched {x s'} (channelID : Int)
      (hbudget : s.failover.attemptCount < s.failover.maxSwitches + 1)
      (hcount : s'.failover.attemptCount = s.failover.attemptCount + 1)
      (hmax : s'.failover.maxSwitches = s.failover.maxSwitches)
      (hdispatches : s'.dispatches = s.dispatches ++ [⟨channelID, s'.clientCommitted⟩])
      (hplan : s'.routePlan = s.routePlan)
      (hthinking : s'.claudeThinking.canFallBack.toNat ≤ s.claudeThinking.canFallBack.toNat)
      (hagain : x = .again → s'.clientCommitted = false) :
      Advance s x s'

theorem beginAttempt_granted {same : Bool} {channel : Channel} {fs : ChannelFailoverState}
    (h : s.beginAttempt r same channel = (fs, true)) :
    s.failover.attemptCount < s.failover.maxSwitches + 1 ∧
      fs.attemptCount = s.failover.attemptCount + 1 ∧ fs.maxSwitches = s.failover.maxSwitches := by
  unfold beginAttempt at h
  split at h
  · rcases s.failover.beginMappedCandidate_cases r.now channel.id channel.name channel.priority
      ((s.modelMappingRoute.candidates[s.modelMappingRoute.index]?).getD "") with
      hrefused | ⟨hbudget, _, _, hgranted⟩
    · rw [hrefused] at h
      cases h
    · rw [hgranted] at h
      cases h
      exact ⟨hbudget, rfl, rfl⟩
  · rcases s.failover.begin_cases r.now channel.id channel.name channel.priority with
      hrefused | ⟨hbudget, _, hgranted⟩
    · rw [hrefused] at h
      cases h
    · rw [hgranted] at h
      cases h
      exact ⟨hbudget, rfl, rfl⟩

section

variable (r : Round) (channel : Channel) (fs : ChannelFailoverState) (s : RelayState)

theorem failover_dispatch :
    (s.dispatch r channel fs).failover.attemptCount = fs.attemptCount ∧
      (s.dispatch r channel fs).failover.maxSwitches = fs.maxSwitches := by
  obtain ⟨hcount, _, hmax, _⟩ := fs.finish_keeps r.redact r.later
    (r.dispatch.err.or r.dispatch.streamErr) r.dispatch.upstreamRequestID
    (r.dispatch.streamStatus.elim "" (·.timeoutStage))
  exact ⟨hcount, hmax⟩

end

theorem not_committed_of_retryNextMapped {cursor : ModelMappingRouteCursor}
    (h : s.retryNextMappedModelCandidate env r e = some cursor) : s.clientCommitted = false := by
  unfold retryNextMappedModelCandidate at h
  split at h
  · cases h
  · next hguard =>
    simp only [Bool.or_eq_true, not_or, Bool.not_eq_true] at hguard
    tauto

section

variable (env : RelayEnvironment) (route : RelayModelRoles)

theorem afterDispatch_spec (r : Round) (channel : Channel) (s : RelayState) :
    let out := s.afterDispatch env route r channel
    out.2.failover = s.failover ∧ out.2.dispatches = s.dispatches ∧
      out.2.clientCommitted = s.clientCommitted ∧ out.2.routePlan = s.routePlan ∧
      out.2.claudeThinking = s.claudeThinking ∧ (out.1 = .again → s.clientCommitted = false) := by
  unfold afterDispatch
  cases s.newAPIError with
  | none => exact ⟨rfl, rfl, rfl, rfl, rfl, fun h => nomatch h⟩
  | some err =>
    dsimp only
    split
    · next cursor hmapped =>
      refine ⟨rfl, rfl, rfl, rfl, rfl, fun _ => ?_⟩
      split at hmapped
      · cases hmapped
      · exact not_committed_of_retryNextMapped hmapped
    · refine ⟨rfl, rfl, rfl, rfl, rfl, fun hagain => ?_⟩
      split at hagain
      · next hretry =>
        simp only [retryDecision, Bool.and_eq_true, Bool.not_eq_true'] at hretry
        tauto
      · cases hagain

theorem canFallBack_ite_sanitize (b : Bool) (t : ClaudeThinking) :
    (if b then t.sanitize else t).canFallBack.toNat ≤ t.canFallBack.toNat := by
  cases b with
  | true => simp
  | false => exact Nat.le_refl _

/-- From the selected channel on, a round ends without a dispatch or dispatches once. -/
theorem attemptOn_advance (r : Round) (same : Bool) (channel : Channel) (s : RelayState) :
    Advance s (s.attemptOn env route r same channel).1 (s.attemptOn env route r same channel).2 := by
  unfold attemptOn
  cases r.beforeChannelCall with
  | some e => exact .quiet rfl rfl rfl rfl (Nat.le_refl _) (fun h => nomatch h)
  | none =>
    cases r.claudeBodyErr.or (r.encryptedBodyErr.or r.bodyErr) with
    | some e => exact .quiet rfl rfl rfl rfl (canFallBack_ite_sanitize _ _) (fun h => nomatch h)
    | none =>
      dsimp only
      split
      · exact .quiet rfl rfl rfl rfl (canFallBack_ite_sanitize _ _) (fun h => nomatch h)
      · next fs hbegan =>
        obtain ⟨hbudget, hcount, hmax⟩ := beginAttempt_granted hbegan
        obtain ⟨hfailover, hdispatches, hcommitted, hplan, hthinking, hagain⟩ :=
          afterDispatch_spec env route r channel
            (RelayState.dispatch r channel fs
              { s with claudeThinking :=
                  if r.claudeSanitized then s.claudeThinking.sanitize else s.claudeThinking })
        refine .dispatched channel.id hbudget ?_ ?_ ?_ hplan ?_ ?_
        · rw [hfailover, (failover_dispatch _ _ _ _).1, hcount]
        · rw [hfailover, (failover_dispatch _ _ _ _).2, hmax]
        · rw [hdispatches, hcommitted]
          rfl
        · rw [hthinking]
          exact canFallBack_ite_sanitize _ _
        · rw [hcommitted]
          exact hagain

/-- **A round ends without a dispatch or dispatches once.** -/
theorem attemptRound_advance (s : RelayState) :
    Advance s (s.attemptRound env route).1 (s.attemptRound env route).2 := by
  unfold attemptRound
  dsimp only
  split
  · exact .quiet rfl rfl rfl rfl (Nat.le_refl _) (fun h => nomatch h)
  · split
    · next channel _ =>
      -- The remembered channel and the pinned parameters are not part of what `Advance` speaks about.
      rcases attemptOn_advance env route (env.round s.rounds) true channel _ with
        ⟨h1, h2, h3, h4, h5, h6⟩ | ⟨c, h1, h2, h3, h4, h5, h6, h7⟩
      · exact .quiet h1 h2 h3 h4 h5 h6
      · exact .dispatched c h1 h2 h3 h4 h5 h6 h7
    · split
      · split
        · next hfall =>
          refine .quiet rfl rfl rfl rfl (by simp) (fun _ => ?_)
          simp only [ClaudeThinking.canFallBack_sanitize]
          rw [hfall]
          exact Nat.one_pos
        · exact .quiet rfl rfl rfl rfl (Nat.le_refl _) (fun h => nomatch h)
      · exact .quiet rfl rfl rfl rfl (Nat.le_refl _) (fun h => nomatch h)
      · next channel _ =>
        split
        · exact .quiet rfl rfl rfl rfl (Nat.le_refl _) (fun h => nomatch h)
        · rcases attemptOn_advance env route (env.round s.rounds) false channel _ with
            ⟨h1, h2, h3, h4, h5, h6⟩ | ⟨c, h1, h2, h3, h4, h5, h6, h7⟩
          · exact .quiet h1 h2 h3 h4 h5 h6
          · exact .dispatched c h1 h2 h3 h4 h5 h6 h7

end

theorem Advance.budget_lt (h : Advance s .again s') : s'.budget < s.budget := by
  rcases h with ⟨hfailover, _, _, _, _, hagain⟩ | ⟨_, hbudget, hcount, hmax, _, _, hthinking, _⟩
  · have := hagain rfl
    unfold budget
    rw [hfailover]
    omega
  · unfold budget
    omega

/-! ## The invariant -/

/-- **The dispatches of a request**: as many as attempts were granted, none after a committed
one. -/
structure Sound (s : RelayState) : Prop where
  maxSwitches : s.failover.maxSwitches = maxChannelSwitches
  count : s.dispatches.length = s.failover.attemptCount
  budget : s.failover.attemptCount ≤ s.failover.maxSwitches + 1
  earlier : ∀ d ∈ s.dispatches.dropLast, d.committed = false
  last : ∀ d, s.dispatches.getLast? = some d → d.committed = s.clientCommitted

/-- Another attempt may be dispatched. -/
structure Ready (s : RelayState) : Prop extends Sound s where
  uncommitted : s.dispatches ≠ [] → s.clientCommitted = false

theorem Ready.uncommitted_of_mem (h : s.Ready) {d : Dispatched} (hd : d ∈ s.dispatches) :
    d.committed = false := by
  rcases eq_nil_or_concat s.dispatches with hnil | ⟨ds, d', hds⟩
  · rw [hnil] at hd
    cases hd
  · rw [concat_eq_append] at hds
    have hlast := h.last d' (by rw [hds, getLast?_concat])
    have hearlier := h.earlier
    rw [hds, dropLast_concat] at hearlier
    rw [hds, mem_append, mem_singleton] at hd
    rcases hd with hd | rfl
    · exact hearlier d hd
    · rw [hlast]
      exact h.uncommitted (by rw [hds]; simp)

/-- **A round keeps the invariant**, and the loop goes on only from a state that may dispatch. -/
theorem Advance.sound {x : RoundExit} (h : Advance s x s') (hs : s.Ready) :
    s'.Sound ∧ (x = .again → s'.Ready) := by
  rcases h with ⟨hfailover, hdispatches, hcommitted, _, _, _⟩ |
    ⟨c, hbudget, hcount, hmax, hdispatches, _, _, hagain⟩
  · have hsound : s'.Sound :=
      ⟨by rw [hfailover]; exact hs.maxSwitches, by rw [hfailover, hdispatches]; exact hs.count,
        by rw [hfailover]; exact hs.budget, by rw [hdispatches]; exact hs.earlier,
        by rw [hdispatches, hcommitted]; exact hs.last⟩
    refine ⟨hsound, fun _ => ⟨hsound, ?_⟩⟩
    rw [hdispatches, hcommitted]
    exact hs.uncommitted
  · have hsound : s'.Sound := by
      refine ⟨hmax.trans hs.maxSwitches, ?_, ?_, ?_, ?_⟩
      · rw [hdispatches, length_append, length_singleton, hs.count, hcount]
      · rw [hcount, hmax]
        exact hbudget
      · -- The dispatches before this one are those of the head of the round.
        rw [hdispatches, dropLast_concat]
        exact fun d hd => hs.uncommitted_of_mem hd
      · intro d hd
        rw [hdispatches, getLast?_concat, Option.some.injEq] at hd
        rw [← hd]
    exact ⟨hsound, fun hx => ⟨hsound, fun _ => hagain hx⟩⟩

theorem Sound.congr (h : s.Sound) (hfailover : s'.failover = s.failover)
    (hdispatches : s'.dispatches = s.dispatches)
    (hcommitted : s'.clientCommitted = s.clientCommitted) : s'.Sound :=
  ⟨by rw [hfailover]; exact h.maxSwitches, by rw [hfailover, hdispatches]; exact h.count,
    by rw [hfailover]; exact h.budget, by rw [hdispatches]; exact h.earlier,
    by rw [hdispatches, hcommitted]; exact h.last⟩

/-! ## The attempt loop -/

variable {fuel : Nat}

theorem attemptLoop_mono (env : RelayEnvironment) (route : RelayModelRoles)
    {out : Bool × RelayState} (h : s.attemptLoop env route fuel = some out) (n : Nat) :
    s.attemptLoop env route (fuel + n) = some out := by
  induction fuel generalizing s with
  | zero => cases h
  | succ fuel ih =>
    rw [Nat.add_right_comm]
    unfold attemptLoop at h ⊢
    split at h
    · next hguard =>
      rw [if_pos hguard]
      split at h
      · exact h
      · exact h
      · exact ih h
    · next hguard =>
      rw [if_neg hguard]
      exact h

/-- **The attempt loop ends** within its budget, in a sound state with the same plan. -/
theorem attemptLoop_spec (env : RelayEnvironment) (route : RelayModelRoles) (hs : s.Ready)
    (hfuel : s.budget < fuel) :
    ∃ returned s', s.attemptLoop env route fuel = some (returned, s') ∧ s'.Sound ∧
      s'.routePlan = s.routePlan := by
  -- The budget of the state bounds the rounds, so the induction is on the fuel.
  induction fuel generalizing s with
  | zero => exact absurd hfuel (Nat.not_lt_zero _)
  | succ fuel ih =>
    unfold attemptLoop
    split
    · have hadvance := attemptRound_advance env route s
      have hplan : (s.attemptRound env route).2.routePlan = s.routePlan := by
        rcases hadvance with ⟨_, _, _, hplan, _, _⟩ | ⟨_, _, _, _, _, hplan, _, _⟩ <;> exact hplan
      rcases hround : s.attemptRound env route with ⟨x, s'⟩
      rw [hround] at hadvance hplan
      obtain ⟨hsound, hready⟩ := hadvance.sound hs
      cases x with
      | returned => exact ⟨true, s', rfl, hsound, hplan⟩
      | left => exact ⟨false, s', rfl, hsound, hplan⟩
      | again =>
        have hlt : s'.budget < fuel := by
          have hless : s'.budget < s.budget := hadvance.budget_lt
          omega
        have hr := hready rfl
        obtain ⟨returned, s'', hloop, hsound', hplan'⟩ :=
          ih (s := { s' with retryParam := s'.retryParam.increaseRetry })
            ⟨hr.toSound.congr rfl rfl rfl, hr.uncommitted⟩ hlt
        exact ⟨returned, s'', hloop, hsound', hplan'.trans hplan⟩
    · exact ⟨false, s, rfl, hs.toSound, rfl⟩

/-! ## The route loop -/

theorem Sound.budget_lt (h : s.Sound) : s.budget < maxChannelSwitches + 3 := by
  have hbool : s.claudeThinking.canFallBack.toNat ≤ 1 := Bool.toNat_le _
  unfold RelayState.budget
  rw [h.maxSwitches]
  omega

theorem tryNextRoute_spec {turn : RouteTurn} (h : s.tryNextRoute env turn e = true) :
    s.clientCommitted = false ∧ s.routePlan.index + 1 < s.routePlan.routes.length := by
  simp only [tryNextRoute, Bool.and_eq_true, Bool.not_eq_true', Bool.or_eq_false_iff,
    RelayRoutePlan.hasNext, decide_eq_true_eq] at h
  exact ⟨h.2.1, h.1.1.2⟩

/-- **The route loop ends** in a sound state once its fuel covers the routes that are left, and more
fuel changes nothing. -/
theorem routeLoop_spec (env : RelayEnvironment) (hs : s.Ready)
    (hfuel : s.routePlan.routes.length - s.routePlan.index < fuel) :
    ∃ s', s'.Sound ∧ ∀ n m,
      s.routeLoop env (maxChannelSwitches + 3 + n) (fuel + m) = some s' := by
  induction fuel generalizing s with
  | zero => exact absurd hfuel (Nat.not_lt_zero _)
  | succ fuel ih =>
    -- Each continuation moves the plan on, to a state that may dispatch.
    have hnext : ∀ s' : RelayState, s'.Ready → s'.routePlan = s.routePlan →
        s.routePlan.index + 1 < s.routePlan.routes.length →
        ∃ s'', s''.Sound ∧ ∀ n m,
          RelayState.routeLoop env (maxChannelSwitches + 3 + n) (fuel + m)
            { s' with routePlan := s'.routePlan.advance } = some s'' := by
      intro s' hs' hplan hhas
      refine ih (s := { s' with routePlan := s'.routePlan.advance })
        ⟨hs'.toSound.congr rfl rfl rfl, hs'.uncommitted⟩ ?_
      show s'.routePlan.routes.length - (s'.routePlan.index + 1) < fuel
      rw [hplan]
      omega
    have hunfold : ∀ m, fuel + 1 + m = (fuel + m) + 1 := fun m => by omega
    simp only [hunfold, routeLoop]
    cases hcurrent : s.routePlan.current with
    | none => exact ⟨s, hs.toSound, fun _ _ => rfl⟩
    | some route =>
      cases hswitch : (if 0 < s.routePlan.index then (env.turn s.routePlan.index).switchErr
          else none) with
      | some e =>
        dsimp only
        split
        · next hskip =>
          rw [Bool.and_eq_true, RelayRoutePlan.hasNext, decide_eq_true_eq] at hskip
          exact hnext { s with newAPIError := some e }
            ⟨hs.toSound.congr rfl rfl rfl, hs.uncommitted⟩ rfl (of_decide_eq_true hskip.2)
        · exact ⟨{ s with newAPIError := some e }, hs.toSound.congr rfl rfl rfl, fun _ _ => rfl⟩
      | none =>
        obtain ⟨returned, s', hloop, hsound, hplan⟩ :=
          attemptLoop_spec env route
            (s := s.enterRoute (env.turn s.routePlan.index) route)
            ⟨hs.toSound.congr rfl rfl rfl, hs.uncommitted⟩
            (hs.toSound.congr rfl rfl rfl : Sound (s.enterRoute _ route)).budget_lt
        simp only [attemptLoop_mono env route hloop]
        cases returned with
        | true => exact ⟨s', hsound, fun _ _ => rfl⟩
        | false =>
          dsimp only
          split
          · exact ⟨s', hsound, fun _ _ => rfl⟩
          · split
            · next htry =>
              obtain ⟨huncommitted, hhas⟩ := tryNextRoute_spec htry
              rw [hplan] at hhas
              exact hnext s' ⟨hsound, fun _ => huncommitted⟩ hplan hhas
            · exact ⟨s', hsound, fun _ _ => rfl⟩

/-- **The relay loops are bounded.** Whatever the environment answers, some state is reached with
every sufficient amount of fuel. By then at most `MaxSwitches + 1` attempts were dispatched, and
none after one that had committed the response. -/
theorem relay_bounded (env : RelayEnvironment) (plan : RelayRoutePlan) (param : RetryParam)
    (thinking : ClaudeThinking) (cursor : ModelMappingRouteCursor)
    (streamStatus : Option StreamStatus) (written : Bool) :
    ∃ s, (∀ n m, (start plan param thinking cursor streamStatus written).routeLoop env
        (maxChannelSwitches + 3 + n) (plan.routes.length + 1 + m) = some s) ∧
      s.failover.maxSwitches = maxChannelSwitches ∧
      s.dispatches.length ≤ s.failover.maxSwitches + 1 ∧
      ∀ earlier d later, s.dispatches = earlier ++ d :: later → d.committed = true → later = [] := by
  have hstart : (start plan param thinking cursor streamStatus written).Ready :=
    ⟨⟨rfl, rfl, Nat.zero_le _, fun _ hd => (nomatch hd), fun _ hd => (nomatch hd)⟩,
      fun hne => absurd rfl hne⟩
  have hfuel : plan.routes.length - plan.index < plan.routes.length + 1 := by omega
  obtain ⟨s, hsound, hloop⟩ := routeLoop_spec env hstart hfuel
  refine ⟨s, hloop, hsound.maxSwitches, ?_, ?_⟩
  · rw [hsound.count]
    exact hsound.budget
  · intro earlier d later hsplit hcommitted
    by_contra hlater
    -- A dispatch with something after it is not the last one.
    have hmem : d ∈ s.dispatches.dropLast := by
      rw [hsplit, dropLast_append_of_ne_nil (cons_ne_nil d later), dropLast_cons_of_ne_nil hlater]
      simp
    rw [hsound.earlier d hmem] at hcommitted
    cases hcommitted

end RelayState

end RenewApi.Relay
