import RenewApi.Channels.Routing
import RenewApi.Channels.Support
import RenewApi.Channels.Urns

/-! # The choice of a channel as a search through urns

Each group of a request is an urn (`Mode.urn`) that holds the channels a draw for the group can
return at all (`Mode.Offers`). Unless the preferred channel answers or the request is refused, the
choice is the search through the urns of `searchedGroups` (`cacheGetRandomSatisfiedChannel_eq`). -/

namespace RenewApi.Channels

open Relational Text Draw List

variable {id now : Int} {g m : String} {q : DrawRequest}

/-- The channels that draws for a group and a model can return when nothing is excluded; in cache
mode also under the normalised model name. -/
def Mode.Offers (mode : Mode) (now : Int) (policy : Option ChannelRoutingPolicy) (g m : String)
    (id : Int) : Prop :=
  match mode with
  | .cache routing _ statuses =>
    ∃ name, (name = m ∨ name = formatMatchingModelName m ∧ name ≠ "") ∧
      ∃ c ∈ cacheCandidates routing statuses now ⟨0, [], policy⟩ g name, c.id = id
  | .database tables _ =>
    ∃ a ∈ candidateAbilities tables now ⟨0, [], policy⟩ g m, a.channelId = id

theorem mem_cacheCandidates {routing : RoutingCache} {statuses : Table ChannelModelStatus}
    {c : Channel} : c ∈ cacheCandidates routing statuses now q g m ↔
      c ∈ cacheCandidates routing statuses now ⟨0, [], q.policy⟩ g m ∧ c.id ∉ q.excluded := by
  simp only [cacheCandidates, mem_filter, selectable, Bool.and_eq_true, Bool.not_eq_true',
    decide_eq_false_iff_not, not_mem_nil, decide_false]
  tauto

theorem mem_filterChannelIDsByModelStatus_of_mem {statuses : Table ChannelModelStatus}
    {ids ids' : List Int} (h : id ∈ ids) (h' : id ∈ ids') :
    id ∈ filterChannelIDsByModelStatus statuses now ids g m ↔
      id ∈ filterChannelIDsByModelStatus statuses now ids' g m := by
  unfold filterChannelIDsByModelStatus
  dsimp only
  split
  · exact iff_of_true h h'
  · rw [mem_filter, mem_filter, decide_eq_true_iff, decide_eq_true_iff]
    refine and_congr (iff_of_true h h') (not_congr ?_)
    simp only [mem_map, mem_filter, Table.select, Bool.and_eq_true, decide_eq_true_eq]
    refine exists_congr fun r => and_congr_left fun hr => ?_
    subst hr
    simp only [h, h', true_and]

/-- Exclusions only leave rows out. -/
theorem mem_candidateAbilities_excluded {tables : RoutingTables} {a : Ability} :
    a ∈ candidateAbilities tables now q g m ↔
      a ∈ candidateAbilities tables now ⟨0, [], q.policy⟩ g m ∧ a.channelId ∉ q.excluded := by
  rw [mem_candidateAbilities, mem_candidateAbilities]
  have hstatus : a ∈ tables.abilities ∧ a.group = g ∧ a.model = m ∧ a.enabled = true →
      a.channelId ∉ q.excluded →
      ∀ {ids : List Int}, ids = ((enabledAbilities tables.abilities g m).filter
          (·.channelId ∉ ([] : List Int))).map Ability.channelId →
      (a.channelId ∈ filterChannelIDsByModelStatus tables.statuses now
          (((enabledAbilities tables.abilities g m).filter (·.channelId ∉ q.excluded)).map
            Ability.channelId) (normalizeChannelModelStatusGroup g) (trimSpace m) ↔
        a.channelId ∈ filterChannelIDsByModelStatus tables.statuses now ids
          (normalizeChannelModelStatusGroup g) (trimSpace m)) := by
    rintro hrow hnot ids rfl
    have hmem := mem_enabledAbilities.mpr hrow
    apply mem_filterChannelIDsByModelStatus_of_mem
    · exact mem_map_of_mem (mem_filter.mpr ⟨hmem, by simpa using hnot⟩)
    · exact mem_map_of_mem (mem_filter.mpr ⟨hmem, by simp⟩)
  constructor
  · rintro ⟨hrow, hnot, hallowed, hchannel⟩
    exact ⟨⟨hrow, not_mem_nil, (hstatus hrow hnot rfl).mp hallowed, hchannel⟩, hnot⟩
  · rintro ⟨⟨hrow, -, hallowed, hchannel⟩, hnot⟩
    exact ⟨hrow, hnot, (hstatus hrow hnot rfl).mpr hallowed, hchannel⟩

/-! ## One draw -/

section

variable {q : DrawRequest} (routing : RoutingCache) (tables : RoutingTables)
  (statuses : Table ChannelModelStatus) (draw : Nat)

theorem selectRandom_spec : (cacheCandidates routing statuses now q g m = [] ∧
      selectRandomChannelFromSnapshot routing statuses now q g m draw = .ok none) ∨
    ∃ c ∈ cacheCandidates routing statuses now q g m,
      selectRandomChannelFromSnapshot routing statuses now q g m draw = .ok (some c.id) := by
  rcases selectRandom_cases draw with h | ⟨p, id, -, hdraw, w, hw, hpos⟩
  · exact Or.inl h
  · right
    obtain ⟨c, hc, rfl, -⟩ := exists_mem_smoothedWeights.mp ⟨w, hw, hpos⟩
    exact ⟨c, (mem_filter.mp (mem_keepBest.mp hc).1).1, hdraw⟩

/-- A draw from the cache returns a candidate under one of the names of the model, as long as there
is one. -/
theorem drawFromCache_spec : (drawFromCache routing statuses now q g m draw = .ok none ∧
      ∀ name, (name = m ∨ name = formatMatchingModelName m ∧ name ≠ "") →
        cacheCandidates routing statuses now q g name = []) ∨
    ∃ name, (name = m ∨ name = formatMatchingModelName m ∧ name ≠ "") ∧
      ∃ c ∈ cacheCandidates routing statuses now q g name,
        drawFromCache routing statuses now q g m draw = .ok (some c.id) := by
  rw [drawFromCache]
  rcases selectRandom_spec (m := m) routing statuses draw with ⟨hnil, hdraw⟩ | ⟨c, hc, hdraw⟩
  · rw [hdraw]
    by_cases hname : formatMatchingModelName m = "" ∨ formatMatchingModelName m = m
    · -- the normalised name is no second name
      rw [if_pos hname]
      refine Or.inl ⟨rfl, ?_⟩
      rintro name (hm | ⟨hm, hne⟩)
      · rw [hm]
        exact hnil
      · rcases hname with h | h
        · exact absurd (hm.trans h) hne
        · rw [hm, h]
          exact hnil
    · rw [if_neg hname]
      rw [not_or] at hname
      rcases selectRandom_spec routing statuses draw with
        ⟨hnil', hdraw'⟩ | ⟨c, hc, hdraw'⟩
      · refine Or.inl ⟨hdraw', ?_⟩
        rintro name (hm | ⟨hm, -⟩)
        · rw [hm]
          exact hnil
        · rw [hm]
          exact hnil'
      · exact Or.inr ⟨_, Or.inr ⟨rfl, hname.1⟩, c, hc, hdraw'⟩
  · rw [hdraw]
    exact Or.inr ⟨m, Or.inl rfl, c, hc, rfl⟩

/-- The rows that a draw is between are candidates, and there are some when there are candidates. -/
theorem drawnAbilities_spec (now : Int) (q : DrawRequest) (g m : String) :
    (∀ a ∈ drawnAbilities tables now q g m, ∃ b ∈ candidateAbilities tables now q g m,
      b.channelId = a.channelId) ∧
    (drawnAbilities tables now q g m = [] → candidateAbilities tables now q g m = []) := by
  constructor
  · intro a ha
    obtain ⟨⟨b, hb, hprofile⟩, -, -⟩ := chosen_abilityProfiles_iff.mpr ⟨a, ha, rfl⟩
    exact ⟨b, hb, congrArg Profile.id hprofile⟩
  · intro hnil
    by_contra hne
    -- the level that the index names has a row, and its best rank has one too
    cases hlevel : level (levels ((candidateAbilities tables now q g m).map abilityPriority)) q.index
      with
    | none =>
      obtain ⟨a, ha⟩ := exists_mem_of_ne_nil _ hne
      have hin := mem_levels.mpr (mem_map_of_mem (f := abilityPriority) ha)
      rw [level_eq_none_iff.mp hlevel] at hin
      exact not_mem_nil hin
    | some p =>
      obtain ⟨a, ha, rfl⟩ := mem_map.mp (mem_levels.mp (mem_of_level hlevel))
      have hselect := mem_selectAbilitiesByRetryPriority.mpr ⟨ha, hlevel⟩
      unfold drawnAbilities keepBestProviderRoutingAbilityOrderRank at hnil
      split at hnil
      · rw [hnil] at hselect
        exact not_mem_nil hselect
      · exact keepBest_ne_nil _ (ne_nil_of_mem hselect) hnil

/-- A draw in the database returns the channel of a candidate row, as long as there is one. -/
theorem getChannel_spec : (getChannelExcludingWithPolicy tables now q g m draw = .ok none ∧
      candidateAbilities tables now q g m = []) ∨
    ∃ a ∈ candidateAbilities tables now q g m,
      getChannelExcludingWithPolicy tables now q g m draw = .ok (some a.channelId) := by
  obtain ⟨hdrawn, hnil⟩ := drawnAbilities_spec tables now q g m
  rw [getChannelExcludingWithPolicy]
  cases hrows : drawnAbilities tables now q g m with
  | nil => exact Or.inl ⟨rfl, hnil hrows⟩
  | cons first rest =>
    right
    dsimp only
    generalize hweights : ((first :: rest).map fun a => (a.channelId, a.weight + 10)) = weights
    generalize hid : (pickLe weights (draw % total weights)).getD 0 = id
    -- whoever is drawn, and the first row when that is channel zero, is a candidate
    obtain ⟨b, hb, hchannel⟩ : ∃ b ∈ candidateAbilities tables now q g m,
        b.channelId = if id = 0 then first.channelId else id := by
      split_ifs with hzero
      · exact hdrawn first (hrows ▸ mem_cons_self)
      · cases hpick : pickLe weights (draw % total weights) with
        | none =>
          rw [hpick] at hid
          exact absurd hid.symm hzero
        | some id' =>
          rw [hpick, Option.getD_some] at hid
          subst hid
          obtain ⟨w, hw⟩ := mem_of_pickLe hpick
          rw [← hweights] at hw
          obtain ⟨a, ha, heq⟩ := mem_map.mp hw
          cases heq
          exact hdrawn a (hrows ▸ ha)
    obtain ⟨-, -, -, c, hc, -⟩ := mem_candidateAbilities.mp hb
    rw [← hchannel, hc]
    exact ⟨b, hb, rfl⟩

end

/-- **One draw** finds something that the group offers and that is not excluded, if there is such a
channel, and never fails. -/
theorem Mode.getRandomSatisfiedChannel_spec (mode : Mode) (now : Int) (q : DrawRequest)
    (g m : String) (draw : Nat) :
    (mode.getRandomSatisfiedChannel now q g m draw = .ok none ∧
      ∀ id, mode.Offers now q.policy g m id → id ∈ q.excluded) ∨
    ∃ id, mode.getRandomSatisfiedChannel now q g m draw = .ok (some id) ∧
      mode.Offers now q.policy g m id ∧ id ∉ q.excluded := by
  cases mode with
  | cache routing keyed statuses =>
    rcases drawFromCache_spec routing statuses draw with ⟨hdraw, hnil⟩ | ⟨name, hname, c, hc, hdraw⟩
    · refine Or.inl ⟨hdraw, ?_⟩
      rintro _ ⟨name, hname, c, hc, rfl⟩
      by_contra hnot
      have hmem := mem_cacheCandidates.mpr ⟨hc, hnot⟩
      rw [hnil name hname] at hmem
      exact not_mem_nil hmem
    · obtain ⟨hc, hnot⟩ := mem_cacheCandidates.mp hc
      exact Or.inr ⟨c.id, hdraw, ⟨name, hname, c, hc, rfl⟩, hnot⟩
  | database tables =>
    rcases getChannel_spec tables draw with ⟨hdraw, hnil⟩ | ⟨a, ha, hdraw⟩
    · refine Or.inl ⟨hdraw, ?_⟩
      rintro _ ⟨a, ha, rfl⟩
      by_contra hnot
      have hmem := mem_candidateAbilities_excluded.mpr ⟨ha, hnot⟩
      rw [hnil] at hmem
      exact not_mem_nil hmem
    · obtain ⟨ha, hnot⟩ := mem_candidateAbilities_excluded.mp ha
      exact Or.inr ⟨a.channelId, hdraw, ⟨a, ha, rfl⟩, hnot⟩

theorem Mode.Offers.policyMatches {mode : Mode} {policy : Option ChannelRoutingPolicy}
    (h : mode.Offers now policy g m id) :
    ∃ c, mode.cacheGetChannel id = some c ∧ Channels.policyMatches policy c = true := by
  cases mode with
  | cache _ keyed =>
    obtain ⟨name, -, c, hc, rfl⟩ := h
    obtain ⟨hentry, hselectable⟩ := mem_filter.mp hc
    rw [snapshotEntries, (perm_insertionSort _ _).mem_iff] at hentry
    obtain ⟨id, -, hfind⟩ := mem_filterMap.mp hentry
    rw [selectable, Bool.and_eq_true] at hselectable
    refine ⟨c, ?_, hselectable.2⟩
    rw [keyed id c hfind]
    exact hfind
  | database =>
    obtain ⟨a, ha, rfl⟩ := h
    obtain ⟨-, -, -, c, hc, -, hpolicy⟩ := mem_candidateAbilities.mp ha
    exact ⟨c, hc, hpolicy⟩

/-! ## Groups as urns -/

section

variable (mode : Mode) (env : RoutingEnv) (p : RetryParam)

/-- **The urn of a group**, for a retry index. -/
def Mode.urn (place : String × Int) : Urn Int Nat where
  content := {id | mode.Offers env.now p.providerRoutingPolicy place.1 p.modelName id}
  pick excluded draw :=
    match mode.getRandomSatisfiedChannel env.now ⟨place.2, excluded, p.providerRoutingPolicy⟩ place.1
        p.modelName draw with
    | .ok answer => answer
    | .error _ => none
  pick_some := by
    intro excluded draw id h
    rcases mode.getRandomSatisfiedChannel_spec env.now ⟨place.2, excluded, p.providerRoutingPolicy⟩
      place.1 p.modelName draw with ⟨heq, -⟩ | ⟨id', heq, hoffers, hnot⟩
    · rw [heq] at h
      cases h
    · rw [heq] at h
      cases h
      exact ⟨hoffers, hnot⟩
  pick_none := by
    intro excluded draw h
    rcases mode.getRandomSatisfiedChannel_spec env.now ⟨place.2, excluded, p.providerRoutingPolicy⟩
      place.1 p.modelName draw with ⟨-, hall⟩ | ⟨id', heq, -⟩
    · exact hall
    · rw [heq] at h
      cases h

theorem Mode.getRandomSatisfiedChannel_eq (g : String) (retry : Int) (excluded : List Int)
    (draw : Nat) :
    mode.getRandomSatisfiedChannel env.now ⟨retry, excluded, p.providerRoutingPolicy⟩ g p.modelName
      draw = .ok ((mode.urn env p (g, retry)).pick excluded draw) := by
  unfold Mode.urn
  dsimp only
  rcases mode.getRandomSatisfiedChannel_spec env.now ⟨retry, excluded, p.providerRoutingPolicy⟩ g
    p.modelName draw with ⟨heq, -⟩ | ⟨id, heq, -⟩
  · rw [heq]
  · rw [heq]

/-- What a drawn channel has to pass: nothing without extra requirements. -/
def RetryParam.fits (place : String × Int) (id : Int) : Bool :=
  p.unfiltered env || (channelMatchesRetryRequirements env p id &&
    channelSupportsRequiredModelForGroup mode env p id place.1)

theorem requirementLoop_eq (hfiltered : p.unfiltered env = false) (draws : Nat → Nat) (g : String)
    (retry : Int) (bound : Nat) (excluded : List Int) (n : Nat) :
    requirementLoop mode env p draws g retry bound excluded n =
      let outcome := reject (mode.urn env p (g, retry)) (p.fits mode env (g, retry)) draws bound
        excluded n
      ⟨.ok outcome.found, outcome.excluded, outcome.used⟩ := by
  induction bound generalizing excluded n with
  | zero => rfl
  | succ bound ih =>
    rw [requirementLoop, reject, mode.getRandomSatisfiedChannel_eq]
    cases (mode.urn env p (g, retry)).pick excluded (draws n) with
    | none => rfl
    | some id =>
      have hfits : p.fits mode env (g, retry) id = (channelMatchesRetryRequirements env p id &&
          channelSupportsRequiredModelForGroup mode env p id g) := by
        rw [RetryParam.fits, hfiltered, Bool.false_or]
      dsimp only
      rw [hfits]
      split
      · rfl
      · exact ih (id :: excluded) (n + 1)

/-- **The draw with requirements is a search with rejection.** -/
theorem getRandomSatisfiedChannelWithRequirements_eq (draws : Nat → Nat) (g : String) (retry : Int)
    (excluded : List Int) (n : Nat) :
    getRandomSatisfiedChannelWithRequirements mode env p draws g retry excluded n =
      let outcome := reject (mode.urn env p (g, retry)) (p.fits mode env (g, retry)) draws
        requirementFilterMaxAttempts excluded n
      ⟨.ok outcome.found, outcome.excluded, outcome.used⟩ := by
  rw [getRandomSatisfiedChannelWithRequirements]
  by_cases h : p.unfiltered env = true
  · have hfits : p.fits mode env (g, retry) = fun _ => true :=
      funext fun id => by rw [RetryParam.fits, h, Bool.true_or]
    rw [if_pos h, hfits, requirementFilterMaxAttempts, reject_true,
      mode.getRandomSatisfiedChannel_eq]
  · rw [if_neg h]
    exact requirementLoop_eq mode env p (Bool.eq_false_iff.mpr h) draws g retry _ excluded n

end

/-! ## The whole choice -/

def Choice.Answers (choice : Choice) (g : String) (id : Int) : Prop :=
  choice.answer = .ok (some id) ∧ choice.group = g

section

variable (mode : Mode) (env : RoutingEnv) (p : RetryParam) {draws : Nat → Nat}

/-- The groups that a request searches, with the retry index of each: the first goes on where the
last attempt stopped. -/
def searchedGroups (state : GroupState) : List (String × Int) :=
  if p.tokenGroup = "auto" then
    match env.getUserAutoGroup.drop (state.autoGroupIndex.getD 0) with
    | [] => []
    | g :: rest => (g, p.getRetry) :: rest.map (·, 0)
  else [(p.tokenGroup, p.getRetry)]

/-- The search through urns with which a request is answered. -/
def searchPlaces (draws : Nat → Nat) (places : List (String × Int)) (excluded : List Int) (n : Nat) :
    Option ((String × Int) × Int) :=
  searchUrns (mode.urn env p) (p.fits mode env) requirementFilterMaxAttempts draws places excluded n

variable {mode env p} {first : Nat} (groups : List String) {i : Nat} {g' : String}
  {state : GroupState}

theorem answers_takeChannel {priorityRetry id' : Int} :
    (takeChannel env i g priorityRetry p id).Answers g' id' ↔ g = g' ∧ id = id' := by
  unfold takeChannel Choice.Answers
  split
  · simp only [Except.ok.injEq, Option.some.injEq, and_comm]
  · simp only [Except.ok.injEq, Option.some.injEq, and_comm]

/-- **One group of the search**: an answer ends it, and otherwise it goes on with the next group,
what was rejected staying excluded. -/
theorem answers_searchGroups_cons {rest : List String} {excluded : List Int} {retry : Option Int}
    {n : Nat} {place : String × Int} (hplace : place = (g, if i > first then 0 else retry.getD 0))
    {tail : List (String × Int)}
    (ih : ∀ excluded state n, (searchGroups mode env draws first rest (i + 1)
        { p with excludedChannelIds := excluded, retry := some 0 } state none n).Answers g' id ↔
        ∃ retry, searchPlaces mode env p draws tail excluded n = some ((g', retry), id)) :
    (searchGroups mode env draws first (g :: rest) i
      { p with excludedChannelIds := excluded, retry := retry } state none n).Answers g' id ↔
      ∃ retry, searchPlaces mode env p draws (place :: tail) excluded n = some ((g', retry), id) := by
  subst hplace
  rw [searchGroups, searchPlaces, searchUrns, getRandomSatisfiedChannelWithRequirements_eq]
  -- neither the urn nor what fits looks at the retry state of the request
  have hurn : mode.urn env { p with excludedChannelIds := excluded, retry := retry } =
      mode.urn env p := rfl
  have hfits : RetryParam.fits mode env { p with excludedChannelIds := excluded, retry := retry } =
      p.fits mode env := rfl
  rw [hurn, hfits]
  dsimp only [RetryParam.getRetry]
  cases (reject (mode.urn env p (g, if i > first then 0 else retry.getD 0))
      (p.fits mode env (g, if i > first then 0 else retry.getD 0)) draws
      requirementFilterMaxAttempts excluded n).found with
  | none => exact ih _ _ _
  | some x =>
    rw [answers_takeChannel]
    constructor
    · rintro ⟨rfl, rfl⟩
      exact ⟨_, rfl⟩
    · rintro ⟨retry', h⟩
      cases h
      exact ⟨rfl, rfl⟩

theorem answers_searchGroups_rest (hi : first < i) (excluded : List Int) (state : GroupState)
    (n : Nat) : (searchGroups mode env draws first groups i
      { p with excludedChannelIds := excluded, retry := some 0 } state none n).Answers g id ↔
      ∃ retry, searchPlaces mode env p draws (groups.map (·, 0)) excluded n =
        some ((g, retry), id) := by
  induction groups generalizing i excluded state n with
  | nil =>
    constructor
    · rintro ⟨h, -⟩
      cases h
    · rintro ⟨retry, h⟩
      cases h
  | cons g' rest ih =>
    exact answers_searchGroups_cons (by rw [if_pos hi])
      fun excluded state n => ih (Nat.lt_succ_of_lt hi) excluded state n

theorem answers_searchGroups_first (first : Nat) (state : GroupState) :
    (searchGroups mode env draws first groups first p state none 0).Answers g id ↔
      ∃ retry, searchPlaces mode env p draws
        (match groups with
          | [] => []
          | g :: rest => (g, p.getRetry) :: rest.map (·, 0)) p.excludedChannelIds 0 =
        some ((g, retry), id) := by
  cases groups with
  | nil =>
    constructor
    · rintro ⟨h, -⟩
      cases h
    · rintro ⟨retry, h⟩
      cases h
  | cons g' rest =>
    exact answers_searchGroups_cons (by rw [if_neg (Nat.lt_irrefl first)]; rfl)
      fun excluded state n => answers_searchGroups_rest rest (Nat.lt_succ_self first) excluded state n

/-- The preferred channel is taken: it passes every check in the token's group, or, for a request
that does not insist on that group, in one of the user's groups. -/
def PreferredAnswers (mode : Mode) (env : RoutingEnv) (p : RetryParam) : Prop :=
  preferredEligible mode env p = true ∧
    (preferredServes mode env p p.tokenGroup = true ∨
      p.strictPreferredChannel = false ∧ p.tokenGroup = "auto" ∧
        ∃ g ∈ env.getUserAutoGroup, preferredServes mode env p g = true)

/-- A request that insists on its preferred channel takes no other. -/
def Refused (p : RetryParam) : Prop := p.strictPreferredChannel = true ∧ 0 < p.preferredChannelId

theorem preferredEligible_pos (h : preferredEligible mode env p = true) :
    0 < p.preferredChannelId := by
  simp only [preferredEligible, Bool.and_eq_true, decide_eq_true_eq] at h
  exact h.1.1

/-- A preferred channel that is taken is the answer, in a group that it serves. -/
theorem answers_of_preferredAnswers (h : PreferredAnswers mode env p)
    (hanswer : (cacheGetRandomSatisfiedChannel mode env p state draws).Answers g id) :
    id = p.preferredChannelId ∧ preferredServes mode env p g = true := by
  obtain ⟨heligible, hserves⟩ := h
  rw [cacheGetRandomSatisfiedChannel] at hanswer
  by_cases htoken : preferredServes mode env p p.tokenGroup = true
  · rw [if_pos (by rw [heligible, htoken]; rfl)] at hanswer
    obtain ⟨hid, hg⟩ := hanswer
    cases hid
    cases hg
    exact ⟨rfl, htoken⟩
  · obtain ⟨hstrict, hauto, g', hg', hserves⟩ := hserves.resolve_left htoken
    have hgroups : env.autoGroups ≠ [] := by
      rintro hnil
      rw [RoutingEnv.getUserAutoGroup, hnil] at hg'
      exact not_mem_nil hg'
    -- one of the user's groups is served, so the search for one finds it
    have hfind : (env.getUserAutoGroup.find? (preferredServes mode env p)).isSome = true :=
      find?_isSome.mpr ⟨g', hg', hserves⟩
    obtain ⟨g'', hfound⟩ := Option.isSome_iff_exists.mp hfind
    rw [if_neg (by rw [Bool.and_eq_true]; exact fun h => htoken h.2),
      if_neg (by rw [hstrict]; exact Bool.false_ne_true), if_pos hauto, if_neg hgroups, heligible,
      hfound] at hanswer
    obtain ⟨hid, hg⟩ := hanswer
    cases hid
    cases hg
    exact ⟨rfl, find?_some hfound⟩

theorem not_answers_of_refused (h : ¬PreferredAnswers mode env p) (hrefused : Refused p) :
    ¬(cacheGetRandomSatisfiedChannel mode env p state draws).Answers g id := by
  rw [cacheGetRandomSatisfiedChannel, if_neg, if_pos]
  · rintro ⟨hid, -⟩
    cases hid
  · rw [Bool.and_eq_true, decide_eq_true_eq]
    exact hrefused
  · rw [Bool.and_eq_true]
    exact fun hboth => h ⟨hboth.1, Or.inl hboth.2⟩

/-- **Every other request is answered by the search through its groups.** -/
theorem answers_iff_searchPlaces (h : ¬PreferredAnswers mode env p) (hrefused : ¬Refused p) :
    (cacheGetRandomSatisfiedChannel mode env p state draws).Answers g id ↔
      ∃ retry, searchPlaces mode env p draws (searchedGroups env p state) p.excludedChannelIds 0 =
        some ((g, retry), id) := by
  rw [cacheGetRandomSatisfiedChannel, if_neg, if_neg]
  · unfold searchedGroups
    by_cases hauto : p.tokenGroup = "auto"
    · rw [if_pos hauto, if_pos hauto]
      by_cases hgroups : env.autoGroups = []
      · -- without auto groups there is nothing to search
        rw [RoutingEnv.getUserAutoGroup, hgroups]
        constructor
        · rintro ⟨hid, -⟩
          cases hid
        · rintro ⟨retry, hid⟩
          rw [filter_nil, drop_nil] at hid
          cases hid
      · rw [if_neg hgroups]
        have hsearch := @answers_searchGroups_first id g mode env p draws
          (env.getUserAutoGroup.drop (state.autoGroupIndex.getD 0)) (state.autoGroupIndex.getD 0) state
        cases heligible : preferredEligible mode env p with
        | false => exact hsearch
        | true =>
          have hstrict : p.strictPreferredChannel = false := by
            by_contra hstrict
            exact hrefused ⟨by simpa using hstrict, preferredEligible_pos heligible⟩
          cases hfind : env.getUserAutoGroup.find? (preferredServes mode env p) with
          | none => exact hsearch
          | some g' =>
            exact absurd ⟨heligible, Or.inr ⟨hstrict, hauto, g', mem_of_find?_eq_some hfind,
              find?_some hfind⟩⟩ h
    · rw [if_neg hauto, if_neg hauto, searchPlaces, searchUrns,
        getRandomSatisfiedChannelWithRequirements_eq]
      dsimp only
      cases (reject (mode.urn env p (p.tokenGroup, p.getRetry))
          (p.fits mode env (p.tokenGroup, p.getRetry)) draws requirementFilterMaxAttempts
          p.excludedChannelIds 0).found with
      | none =>
        constructor
        · rintro ⟨hid, -⟩
          cases hid
        · rintro ⟨retry, hid⟩
          cases hid
      | some x =>
        constructor
        · rintro ⟨hid, hg⟩
          cases hid
          cases hg
          exact ⟨_, rfl⟩
        · rintro ⟨retry, hid⟩
          cases hid
          exact ⟨rfl, rfl⟩
  · rw [Bool.and_eq_true, decide_eq_true_eq]
    exact hrefused
  · rw [Bool.and_eq_true]
    exact fun hboth => h ⟨hboth.1, Or.inl hboth.2⟩

end

end RenewApi.Channels
