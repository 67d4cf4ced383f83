import RenewApi.Channels.Alike
import RenewApi.Channels.Offers

/-! # Which channels a request gets

Whether `CacheGetRandomSatisfiedChannel` returns permitted channels only (`onlyPermitted_iff`), and
whether it misses none (`complete_iff`). -/

namespace RenewApi.Channels

open Relational Text Draw List Bool

variable {mode : Mode} {env : RoutingEnv} {p : RetryParam} {state : GroupState} {id : Int}
  {g : String} {place : String × Int} {draws : Nat → Nat}

/-- A chosen profile that a draw by weight returns. -/
def Weighed (S : Set Profile) (n : Nat) (id : Int) : Prop :=
  ∃ x, Chosen S n x ∧ x.id = id ∧ (0 < x.weight ∨ ∀ y, Chosen S n y → y.weight = 0)

/-- **The channels that a draw returns**, from the state it reads: those chosen among the
candidates, by weight in cache mode, where the normalised name comes second. -/
def Mode.Drawable (mode : Mode) (now : Int) (q : DrawRequest) (g m : String) (id : Int) : Prop :=
  match mode with
  | .cache routing _ statuses =>
    Weighed (cacheProfiles routing statuses now q g m) q.index id ∨
      cacheProfiles routing statuses now q g m = ∅ ∧
        (formatMatchingModelName m ≠ "" ∧ formatMatchingModelName m ≠ m) ∧
        Weighed (cacheProfiles routing statuses now q g (formatMatchingModelName m)) q.index id
  | .database tables _ => ∃ x, Chosen (abilityProfiles tables now q g m) q.index x ∧ x.id = id

theorem Mode.exists_getRandomSatisfiedChannel_iff {now : Int} {q : DrawRequest} {m : String} :
    (∃ draw, mode.getRandomSatisfiedChannel now q g m draw = .ok (some id)) ↔
      mode.Drawable now q g m id := by
  cases mode with
  | cache routing keyed statuses =>
    show (∃ draw, drawFromCache routing statuses now q g m draw = .ok (some id)) ↔ _
    rw [exists_drawFromCache_iff, exists_selectRandom_iff, exists_selectRandom_iff]
    rfl
  | database tables positive =>
    exact exists_getChannel_iff fun c hc => (positive c hc).ne'

theorem exists_pick_urn_iff {excluded : List Int} :
    (∃ draw, (mode.urn env p place).pick excluded draw = some id) ↔
      mode.Drawable env.now ⟨place.2, excluded, p.providerRoutingPolicy⟩ place.1 p.modelName id := by
  rw [← Mode.exists_getRandomSatisfiedChannel_iff]
  simp only [mode.getRandomSatisfiedChannel_eq env p, Except.ok.injEq]

/-! ## Barred channels -/

section

variable (mode : Mode) (env : RoutingEnv) (p : RetryParam)

/-- **A channel may serve a request** in a group. -/
structure Permitted (g : String) (id : Int) : Prop where
  production : env.productionRoutingAllowed id = true
  circuit : env.circuitAllowsProduction id = true
  session : env.shouldAvoidChannelForSession id = false
  notExcluded : id ∉ p.excludedChannelIds
  policy : ∃ c, mode.cacheGetChannel id = some c ∧ policyMatches p.providerRoutingPolicy c = true
  model : channelSupportsRequiredModelForGroup mode env p id g = true

/-- Every channel that a request can get is permitted. -/
def OnlyPermitted (state : GroupState) : Prop :=
  ∀ draws g id, (cacheGetRandomSatisfiedChannel mode env p state draws).Answers g id →
    Permitted mode env p g id

/-- A channel passes the checks that the draw itself does not make. -/
def Cleared (g : String) (id : Int) : Prop :=
  env.productionRoutingAllowed id = true ∧ env.circuitAllowsProduction id = true ∧
    env.shouldAvoidChannelForSession id = false ∧
    channelSupportsRequiredModelForGroup mode env p id g = true

/-- All that a draw returns in the first group that still offers something is cleared. -/
def DrawsCleared (state : GroupState) : Prop :=
  ∀ before place after, searchedGroups env p state = before ++ place :: after →
    (∀ earlier ∈ before, ∀ id,
      mode.Offers env.now p.providerRoutingPolicy earlier.1 p.modelName id →
        id ∈ p.excludedChannelIds) →
    ∀ id, mode.Drawable env.now ⟨place.2, p.excludedChannelIds, p.providerRoutingPolicy⟩ place.1
      p.modelName id → Cleared mode env p place.1 id

end

theorem of_channelMatchesRetryRequirements (h : channelMatchesRetryRequirements env p id = true) :
    env.productionRoutingAllowed id = true ∧ env.circuitAllowsProduction id = true ∧
      env.shouldAvoidChannelForSession id = false := by
  simp only [channelMatchesRetryRequirements, and_eq_true, not_eq_true'] at h
  exact ⟨h.1.2, h.2, h.1.1.1.1.1.1.1⟩

theorem permitted_of_preferred (heligible : preferredEligible mode env p = true)
    (hserves : preferredServes mode env p g = true) :
    Permitted mode env p g p.preferredChannelId := by
  simp only [preferredEligible, and_eq_true, not_eq_true', decide_eq_false_iff_not,
    Option.any_eq_true] at heligible
  obtain ⟨⟨-, hnot⟩, c, hc, ⟨-, hpolicy⟩, hmatches⟩ := heligible
  -- the channel is found under its own id
  have hid : c.id = p.preferredChannelId := by
    cases mode with
    | cache _ keyed => exact keyed _ c hc
    | database => exact Table.key_of_find? hc
  rw [hid] at hmatches
  obtain ⟨hproduction, hcircuit, hsession⟩ := of_channelMatchesRetryRequirements hmatches
  rw [preferredServes, and_eq_true] at hserves
  exact ⟨hproduction, hcircuit, hsession, hnot, ⟨c, hc, hpolicy⟩, hserves.2⟩

theorem fits_of_unfiltered (h : p.unfiltered env = true) : p.fits mode env = fun _ _ => true :=
  funext fun _ => funext fun _ => by rw [RetryParam.fits, h, Bool.true_or]

/-- **Barred channels get no traffic exactly when the draws that nobody checks are cleared**: those
of a request without an extra requirement that is not refused and whose preferred channel does not
answer. -/
theorem onlyPermitted_iff (mode : Mode) (env : RoutingEnv) (p : RetryParam) (state : GroupState) :
    OnlyPermitted mode env p state ↔
      (p.unfiltered env = true → ¬PreferredAnswers mode env p → ¬Refused p →
        DrawsCleared mode env p state) := by
  constructor
  · intro honly hunfiltered hpreferred hrefused before place after hgroups hexhausted id hdrawable
    -- the draw is the answer, for suitable random numbers
    obtain ⟨draws, hsearch⟩ : ∃ draws, searchPlaces mode env p draws (searchedGroups env p state)
        p.excludedChannelIds 0 = some (place, id) := by
      unfold searchPlaces
      rw [fits_of_unfiltered hunfiltered]
      exact exists_searchUrns_true_iff.mpr
        ⟨before, after, hgroups, hexhausted, exists_pick_urn_iff.mpr hdrawable⟩
    have hanswer := (answers_iff_searchPlaces hpreferred hrefused).mpr ⟨place.2, hsearch⟩
    have hpermitted := honly draws place.1 id hanswer
    exact ⟨hpermitted.production, hpermitted.circuit, hpermitted.session, hpermitted.model⟩
  · intro hcleared draws g id hanswer
    by_cases hpreferred : PreferredAnswers mode env p
    · -- a preferred channel is checked before it is taken
      obtain ⟨rfl, hserves⟩ := answers_of_preferredAnswers hpreferred hanswer
      exact permitted_of_preferred hpreferred.1 hserves
    · by_cases hrefused : Refused p
      · exact absurd hanswer (not_answers_of_refused hpreferred hrefused)
      · obtain ⟨retry, hsearch⟩ := (answers_iff_searchPlaces hpreferred hrefused).mp hanswer
        obtain ⟨hoffers, hnot, hfits⟩ := of_searchUrns_eq_some hsearch
        have hclear : Cleared mode env p g id := by
          by_cases hunfiltered : p.unfiltered env = true
          · -- nobody checks the draw: it comes from the first group that is not exhausted
            rw [searchPlaces, fits_of_unfiltered hunfiltered] at hsearch
            obtain ⟨before, after, hgroups, hexhausted, hpick⟩ :=
              exists_searchUrns_true_iff.mp ⟨draws, hsearch⟩
            exact hcleared hunfiltered hpreferred hrefused before (g, retry) after hgroups hexhausted
              id (exists_pick_urn_iff.mp hpick)
          · -- with an extra requirement the draw was checked
            rw [RetryParam.fits, Bool.eq_false_iff.mpr hunfiltered, Bool.false_or,
              and_eq_true] at hfits
            obtain ⟨hproduction, hcircuit, hsession⟩ := of_channelMatchesRetryRequirements hfits.1
            exact ⟨hproduction, hcircuit, hsession, hfits.2⟩
        exact ⟨hclear.1, hclear.2.1, hclear.2.2.1, hnot, hoffers.policyMatches, hclear.2.2.2⟩

/-- A service that has nothing against any channel, with two auto groups. -/
def openEnv : RoutingEnv where
  now := 0
  shouldAvoidChannelForSession _ := false
  productionRoutingAllowed _ := true
  circuitAllowsProduction _ := true
  supportsClaudeThinking _ := true
  routesToTextEndpoint _ := false
  normalizationEnabled := false
  protocolSupported _ := true
  responsesSupported _ := true
  responsesAllowed _ := true
  equalFold a b := a == b
  autoGroups := ["default", "vip"]
  usableGroup _ := true
  crossGroupRetry := false
  retryTimes := 0

/-- A first attempt for a group, without any extra requirement. -/
def firstAttempt (group : String) : RetryParam where
  tokenGroup := group
  modelName := "gpt-4o"
  retry := none
  resetNextTry := false
  excludedChannelIds := []
  preferredChannelId := 0
  strictPreferredChannel := false
  requireClaudeThinkingSupport := false
  requireOpenAIResponsesSupport := false
  textClient := true
  lastSelectedChannelId := 0
  providerRoutingPolicy := none
  responsesRequirement := none
  requiredModelName := ""

def singleChannel : RoutingTables where
  channels :=
    { rows := [{ id := 1, group := "default", models := "gpt-4o" }]
      nodup_keys := by decide }
  abilities := [⟨"default", "gpt-4o", 1, true, none, 0, none⟩]
  statuses := Table.empty

/-- The one channel is kept out of production by its settings, and a plain request gets it. -/
theorem barred_channel_is_returned :
    ¬OnlyPermitted (.database singleChannel (by decide))
      { openEnv with productionRoutingAllowed := fun _ => false } (firstAttempt "default")
      ⟨none, none⟩ := by
  intro h
  have hanswer : (cacheGetRandomSatisfiedChannel (.database singleChannel (by decide))
      { openEnv with productionRoutingAllowed := fun _ => false } (firstAttempt "default")
      ⟨none, none⟩ fun _ => 0).Answers "default" 1 := ⟨by decide, by decide⟩
  exact absurd (h _ _ _ hanswer).production false_ne_true

/-! ## Completeness -/

/-- **A channel is eligible** for a request in a group. -/
def Eligible (mode : Mode) (env : RoutingEnv) (p : RetryParam) (g : String) (id : Int) : Prop :=
  mode.Offers env.now p.providerRoutingPolicy g p.modelName id ∧ id ∉ p.excludedChannelIds ∧
    channelMatchesRetryRequirements env p id = true ∧
    channelSupportsRequiredModelForGroup mode env p id g = true

/-- The auto groups at or after the one where the last attempt stopped. -/
def resumedGroups (env : RoutingEnv) (state : GroupState) : List String :=
  env.getUserAutoGroup.drop (state.autoGroupIndex.getD 0)

section

variable (mode : Mode) (env : RoutingEnv) (p : RetryParam)

/-- If some group has an eligible channel, the request gets a channel, whatever is drawn. -/
def Complete (state : GroupState) : Prop :=
  (∃ g ∈ resumedGroups env state, ∃ id, Eligible mode env p g id) →
    ∀ draws, ∃ g id, (cacheGetRandomSatisfiedChannel mode env p state draws).Answers g id

/-- What the search of a place can draw next to the excluded channels. -/
def drawnAt (place : String × Int) (excluded : List Int) (id : Int) : Prop :=
  mode.Drawable env.now ⟨place.2, excluded, p.providerRoutingPolicy⟩ place.1 p.modelName id

/-- What the group of a place offers. -/
def offeredAt (place : String × Int) : Set Int :=
  {id | mode.Offers env.now p.providerRoutingPolicy place.1 p.modelName id}

/-- **The search can miss everything**: in each group ineligible channels can be drawn one after the
other until the attempts or the channels are used up. What one group rejects is excluded from the
next. -/
def Overlooked (state : GroupState) : Prop :=
  Missable (drawnAt mode env p) (offeredAt mode env p) (p.fits mode env)
    requirementFilterMaxAttempts (searchedGroups env p state) p.excludedChannelIds

/-- Fewer ineligible channels than the search makes attempts can be drawn one after the other from a
group, whatever the groups before it have rejected. -/
def FewIneligible (before : List (String × Int)) (place : String × Int) : Prop :=
  InTime (drawnAt mode env p) (offeredAt mode env p) (p.fits mode env) requirementFilterMaxAttempts
    before place p.excludedChannelIds

/-- A channel is eligible in the group of a place, and no group before that one offers it. -/
def Unhidden (before : List (String × Int)) (place : String × Int) : Prop :=
  ∃ id, Eligible mode env p place.1 id ∧ ∀ earlier ∈ before, id ∉ offeredAt mode env p earlier

end

section

theorem map_fst_searchedGroups (hauto : p.tokenGroup = "auto") :
    (searchedGroups env p state).map Prod.fst = resumedGroups env state := by
  rw [searchedGroups, if_pos hauto, resumedGroups]
  cases env.getUserAutoGroup.drop (state.autoGroupIndex.getD 0) with
  | nil => rfl
  | cons g rest => simp [Function.comp_def]

theorem answers_iff_of_not_preferred (hpreferred : p.preferredChannelId ≤ 0) :
    (∃ g id, (cacheGetRandomSatisfiedChannel mode env p state draws).Answers g id) ↔
      ∃ answer, searchPlaces mode env p draws (searchedGroups env p state) p.excludedChannelIds 0 =
        some answer := by
  have hnot : ¬PreferredAnswers mode env p := fun h =>
    absurd (preferredEligible_pos h.1) (not_lt.mpr hpreferred)
  have hrefused : ¬Refused p := fun h => absurd h.2 (not_lt.mpr hpreferred)
  constructor
  · rintro ⟨g, id, h⟩
    obtain ⟨retry, h⟩ := (answers_iff_searchPlaces hnot hrefused).mp h
    exact ⟨_, h⟩
  · rintro ⟨⟨⟨g, retry⟩, id⟩, h⟩
    exact ⟨g, id, (answers_iff_searchPlaces hnot hrefused).mpr ⟨retry, h⟩⟩

theorem eligible_iff (hfiltered : p.unfiltered env = false) (place : String × Int) (id : Int) :
    Eligible mode env p place.1 id ↔ id ∈ (mode.urn env p place).content ∧
      id ∉ p.excludedChannelIds ∧ p.fits mode env place id = true := by
  rw [RetryParam.fits, hfiltered, Bool.false_or, Bool.and_eq_true]
  rfl

section

variable (hauto : p.tokenGroup = "auto") (hpreferred : p.preferredChannelId ≤ 0)
include hauto hpreferred

theorem complete_of_unfiltered
    (hunfiltered : p.unfiltered env = true) : Complete mode env p state := by
  rintro ⟨g, hg, id, hoffers, hnot, -⟩ draws
  rw [answers_iff_of_not_preferred hpreferred]
  rw [← map_fst_searchedGroups hauto] at hg
  obtain ⟨place, hplace, rfl⟩ := mem_map.mp hg
  cases hsearch : searchPlaces mode env p draws (searchedGroups env p state) p.excludedChannelIds 0 with
  | some answer => exact ⟨answer, rfl⟩
  | none =>
    rw [searchPlaces, fits_of_unfiltered hunfiltered] at hsearch
    exact absurd (mem_excluded_of_searchUrns_true hsearch place hplace id hoffers) hnot

end

end

theorem drawnAt_iff (place : String × Int) (excluded : List Int) (id : Int) :
    drawnAt mode env p place excluded id ↔
      ∃ draw, (mode.urn env p place).pick excluded draw = some id :=
  exists_pick_urn_iff.symm

theorem complete_iff_not_overlooked (hpreferred : p.preferredChannelId ≤ 0) :
    Complete mode env p state ↔
      ((∃ g ∈ resumedGroups env state, ∃ id, Eligible mode env p g id) →
        ¬Overlooked mode env p state) := by
  have hnone : (∃ draws, searchPlaces mode env p draws (searchedGroups env p state)
      p.excludedChannelIds 0 = none) ↔ Overlooked mode env p state :=
    exists_searchUrns_eq_none_iff drawnAt_iff
  refine forall_congr' fun _ => ?_
  simp only [answers_iff_of_not_preferred hpreferred, ← hnone, not_exists, ← ne_eq,
    Option.ne_none_iff_exists']

/-- **An automatic search is complete** when it has no extra requirement, or when some eligible
channel is offered by no earlier group and its group has few ineligible channels before it. When all
groups have few of them this is exact. In general the search is complete exactly if no draws make it
miss everything. -/
theorem complete_iff (hauto : p.tokenGroup = "auto") (hpreferred : p.preferredChannelId ≤ 0) :
    ((p.unfiltered env = true ∨ ∃ before place after,
        searchedGroups env p state = before ++ place :: after ∧
          Unhidden mode env p before place ∧ FewIneligible mode env p before place) →
      Complete mode env p state) ∧
    ((∀ before place after, searchedGroups env p state = before ++ place :: after →
        FewIneligible mode env p before place) →
      (Complete mode env p state ↔ p.unfiltered env = true ∨
        ((∃ g ∈ resumedGroups env state, ∃ id, Eligible mode env p g id) →
          ∃ before place after, searchedGroups env p state = before ++ place :: after ∧
            Unhidden mode env p before place))) ∧
    (Complete mode env p state ↔
      ((∃ g ∈ resumedGroups env state, ∃ id, Eligible mode env p g id) →
        ¬Overlooked mode env p state)) := by
  by_cases hunfiltered : p.unfiltered env = true
  · have hcomplete : Complete mode env p state := complete_of_unfiltered hauto hpreferred hunfiltered
    exact ⟨fun _ => hcomplete, fun _ => iff_of_true hcomplete (Or.inl hunfiltered),
      complete_iff_not_overlooked hpreferred⟩
  · have hfiltered := eq_false_iff.mpr hunfiltered
    have hmiss : ∀ before place after, searchedGroups env p state = before ++ place :: after →
        Unhidden mode env p before place → FewIneligible mode env p before place →
        ¬Overlooked mode env p state := by
      rintro before place after hplaces ⟨id, heligible, hbefore⟩ hfew
      obtain ⟨hoffers, hnot, hfits⟩ := (eligible_iff hfiltered place id).mp heligible
      unfold Overlooked
      rw [hplaces]
      exact not_missable drawnAt_iff hoffers hnot hfits hbefore hfew
    refine ⟨fun h => ?_, fun hfew => ⟨fun hcomplete => Or.inr fun hsome => ?_, fun h => ?_⟩,
      complete_iff_not_overlooked hpreferred⟩
    · obtain ⟨before, place, after, hplaces, hunhidden, hfew⟩ := h.resolve_left hunfiltered
      exact (complete_iff_not_overlooked hpreferred).mpr fun _ =>
        hmiss before place after hplaces hunhidden hfew
    · obtain ⟨answer, hsearch⟩ :=
        (answers_iff_of_not_preferred hpreferred).mp (hcomplete hsome fun _ => 0)
      obtain ⟨before, place, after, id, hplaces, hoffers, hnot, hfits, hbefore⟩ :=
        fresh_of_searchUrns drawnAt_iff hfew hsearch
      exact ⟨before, place, after, hplaces, id,
        (eligible_iff hfiltered place id).mpr ⟨hoffers, hnot, hfits⟩, hbefore⟩
    · refine (complete_iff_not_overlooked hpreferred).mpr fun hsome => ?_
      obtain ⟨before, place, after, hplaces, hunhidden⟩ := h.resolve_left hunfiltered hsome
      exact hmiss before place after hplaces hunhidden (hfew before place after hplaces)

/-- An automatic request that needs thinking support, for a required model. -/
def thinkingAttempt (required : String) : RetryParam :=
  { firstAttempt "auto" with requireClaudeThinkingSupport := true, requiredModelName := required }

/-- Three channels for one model, the first of a higher priority. -/
def threeChannels : RoutingTables where
  channels :=
    { rows := [1, 2, 3].map fun id => { id := id, group := "default", models := "gpt-4o" }
      nodup_keys := by decide }
  abilities := [⟨"default", "gpt-4o", 1, true, some 10, 0, none⟩,
    ⟨"default", "gpt-4o", 2, true, none, 0, none⟩, ⟨"default", "gpt-4o", 3, true, none, 0, none⟩]
  statuses := Table.empty

/-- The channel of the highest priority is the only one that fits. It is drawn first, so the others
are not. -/
theorem complete_iff_threeChannels :
    Complete (.database threeChannels (by decide)) { openEnv with supportsClaudeThinking := (· == 1) }
      (thinkingAttempt "") ⟨none, none⟩ := by
  refine (complete_iff rfl (by decide)).1
    (Or.inr ⟨[], ("default", 0), [("vip", 0)], by decide, ⟨1, ?_, ?_⟩, ?_⟩)
  · exact ⟨⟨⟨"default", "gpt-4o", 1, true, some 10, 0, none⟩, by decide, rfl⟩, by decide, by decide,
      by decide⟩
  · exact fun earlier hearlier => absurd hearlier not_mem_nil
  · intro excluded ids _ hback hids
    have hnone : excluded = [] := eq_nil_iff_forall_not_mem.mpr fun x hx => by
      simpa [thinkingAttempt, firstAttempt] using hback x hx
    subst hnone
    cases ids with
    | nil => decide
    | cons id ids =>
      -- the first draw is of the highest priority, and that channel fits
      obtain ⟨⟨x, hx, rfl⟩, hmisfit, -⟩ := hids
      obtain ⟨a, ⟨ha, hlevel, -⟩, rfl⟩ := (chosen_iff fun _ => rfl).mp hx
      have hrows : a ∈ threeChannels.abilities := (by decide : candidateAbilities threeChannels 0
        ⟨0, [], none⟩ "default" "gpt-4o" = threeChannels.abilities) ▸ ha
      simp only [threeChannels, mem_cons, not_mem_nil] at hrows
      rcases hrows with rfl | rfl | rfl | hnil
      · exact absurd hmisfit (by decide)
      · exact absurd hlevel (by decide)
      · exact absurd hlevel (by decide)
      · exact hnil.elim

/-- One channel in both auto groups, whose second model is disabled in the first group. -/
def twoGroups : RoutingTables where
  channels :=
    { rows := [{ id := 1, group := "default,vip", models := "gpt-4o,gpt-4o-mini" }]
      nodup_keys := by decide }
  abilities := [⟨"default", "gpt-4o", 1, true, none, 0, none⟩,
    ⟨"default", "gpt-4o-mini", 1, true, none, 0, none⟩, ⟨"vip", "gpt-4o", 1, true, none, 0, none⟩,
    ⟨"vip", "gpt-4o-mini", 1, true, none, 0, none⟩]
  statuses :=
    { rows := [⟨1, "default", "gpt-4o-mini", channelStatusManuallyDisabled, 0⟩]
      nodup_keys := by decide }

/-- The first group rejects the channel, and the second, where it is eligible, does not get it
back. -/
theorem rejected_channel_stays_hidden :
    ¬Complete (.database twoGroups (by decide)) openEnv (thinkingAttempt "gpt-4o-mini")
      ⟨none, none⟩ := by
  intro h
  have heligible : Eligible (.database twoGroups (by decide)) openEnv (thinkingAttempt "gpt-4o-mini")
      "vip" 1 :=
    ⟨⟨⟨"vip", "gpt-4o", 1, true, none, 0, none⟩, by decide, rfl⟩, by decide, by decide, by decide⟩
  obtain ⟨g, id, hanswer, -⟩ := h ⟨"vip", by decide, 1, heligible⟩ fun _ => 0
  have hnone : (cacheGetRandomSatisfiedChannel (.database twoGroups (by decide)) openEnv
      (thinkingAttempt "gpt-4o-mini") ⟨none, none⟩ fun _ => 0).answer = .ok none := by decide
  cases hanswer

end RenewApi.Channels
