import RenewApi.Channels.Selection

/-! # Choosing a channel for a request

`CacheGetRandomSatisfiedChannel`, the layer above the draw: it knows the token's group, the retry
state, a preferred channel and the requirements of the request.

* **Auto groups**: the groups of the user are searched in order, from the one where the last attempt
  stopped.

What other parts of the service know about a channel is given by the environment. -/

namespace RenewApi.Channels

open Relational Text Draw

/-- Channels are read from the cache, whose map is keyed by the channels' own ids, or from the
tables, whose ids are positive. -/
inductive Mode where
  | cache (routing : RoutingCache) (keyed : ∀ id c, routing.channelsIDM id = some c → c.id = id)
      (statuses : Table ChannelModelStatus)
  | database (tables : RoutingTables) (positive : ∀ c ∈ tables.channels.rows, 0 < c.id)

namespace Mode

section

variable (mode : Mode)

def getRandomSatisfiedChannel (now : Int) (q : DrawRequest) (g m : String)
    (draw : Nat) : Except String (Option Int) :=
  match mode with
  | .cache routing _ statuses => drawFromCache routing statuses now q g m draw
  | .database tables _ => getChannelExcludingWithPolicy tables now q g m draw

def cacheGetChannel (id : Int) : Option Channel :=
  match mode with
  | .cache routing _ _ => routing.channelsIDM id
  | .database tables _ => tables.channels.find? id

/-- Whether the index or the ability rows list a channel for a group and exactly this model. -/
def lists (g m : String) (id : Int) : Bool :=
  match mode with
  | .cache routing _ _ => (snapshotEntries routing g m).any (·.id == id)
  | .database tables _ =>
    tables.abilities.any fun a => a.group == g && a.model == m && a.channelId == id && a.enabled

def isChannelEnabledForGroupModel (g m : String) (id : Int) : Bool :=
  if g = "" ∨ m = "" ∨ id ≤ 0 then false
  else
    let normalized := formatMatchingModelName m
    mode.lists g m id || (normalized != "" && normalized != m && mode.lists g normalized id)

def isChannelModelDisabledForGroup (now : Int) (id : Int) (g m : String) : Bool :=
  if id ≤ 0 ∨ trimSpace m = "" then false
  else
    match mode with
    | .cache _ _ statuses =>
      isChannelModelStatusDisabledByCacheKey statuses now (channelModelStatusCacheKey id g m)
    | .database tables _ =>
      (tables.statuses.find? (channelModelStatusCacheKey id g m)).any
        (isChannelModelStatusDisabled · now)

end

end Mode

/-! ## Requests -/

/-- What the rest of the service knows: the session and protocol answers about a channel, the
settings, and where the last attempt of the request stopped. -/
structure RoutingEnv where
  now : Int
  /-- `ShouldAvoidChannelForSession`. -/
  shouldAvoidChannelForSession : Int → Bool
  /-- `antipoison.ProductionRoutingAllowed` for the channel's settings. -/
  productionRoutingAllowed : Int → Bool
  /-- `ChannelAntiPoisonCircuitAllowsProduction` for the channel's settings. -/
  circuitAllowsProduction : Int → Bool
  /-- `ChannelSupportsClaudeThinking`. -/
  supportsClaudeThinking : Int → Bool
  /-- `ResolveModelRouteDecision` answers with a normalised text endpoint. -/
  routesToTextEndpoint : Int → Bool
  /-- `ModelEndpointNormalizationEnabled`. -/
  normalizationEnabled : Bool
  /-- `EvaluateChannelProtocolCapability` for the client's format: supported. -/
  protocolSupported : Int → Bool
  /-- `EvaluateChannelProtocolCapability` for the Responses format: supported and not lossy. -/
  responsesSupported : Int → Bool
  /-- `responsesRequirementDecision`: allowed. -/
  responsesAllowed : Int → Bool
  /-- `strings.EqualFold`. -/
  equalFold : String → String → Bool
  /-- `setting.GetAutoGroups`. -/
  autoGroups : List String
  /-- `GetUserUsableGroups` holds the group. -/
  usableGroup : String → Bool
  crossGroupRetry : Bool
  retryTimes : Int

def RoutingEnv.getUserAutoGroup (env : RoutingEnv) : List String :=
  env.autoGroups.filter env.usableGroup

/-- **`RetryParam`**, as far as the choice of a channel reads it. -/
structure RetryParam where
  tokenGroup : String
  modelName : String
  retry : Option Int
  resetNextTry : Bool
  excludedChannelIds : List Int
  preferredChannelId : Int
  strictPreferredChannel : Bool
  requireClaudeThinkingSupport : Bool
  requireOpenAIResponsesSupport : Bool
  /-- `TextEndpointForClient` knows the client's format. -/
  textClient : Bool
  lastSelectedChannelId : Int
  providerRoutingPolicy : Option ChannelRoutingPolicy
  /-- The Responses requirement, if any, and whether it needs the compaction capability. -/
  responsesRequirement : Option Bool
  requiredModelName : String

/-- What the context of a request keeps between attempts. -/
structure GroupState where
  autoGroup : Option String
  autoGroupIndex : Option Nat

/-- The retry index of a request, `0` when there is none. -/
def RetryParam.getRetry (p : RetryParam) : Int := p.retry.getD 0

def channelMatchesRetryRequirements (env : RoutingEnv) (p : RetryParam) (id : Int) : Bool :=
  !env.shouldAvoidChannelForSession id &&
  (!p.requireClaudeThinkingSupport || env.supportsClaudeThinking id || env.routesToTextEndpoint id) &&
  (!(env.normalizationEnabled && p.textClient) || env.protocolSupported id) &&
  (!(p.responsesRequirement == some true) || env.responsesAllowed id) &&
  (!p.requireOpenAIResponsesSupport || env.responsesSupported id) &&
  (!(p.responsesRequirement == none) || env.responsesAllowed id) &&
  env.productionRoutingAllowed id && env.circuitAllowsProduction id

def channelSupportsRequiredModelForGroup (mode : Mode) (env : RoutingEnv) (p : RetryParam)
    (id : Int) (g : String) : Bool :=
  if p.requiredModelName = "" ∨ env.equalFold p.requiredModelName p.modelName then true
  else
    mode.isChannelEnabledForGroupModel g p.requiredModelName id &&
      !mode.isChannelModelDisabledForGroup env.now id g p.requiredModelName

/-- A request without extra requirements takes the draw as it comes. -/
def RetryParam.unfiltered (env : RoutingEnv) (p : RetryParam) : Bool :=
  !p.requireClaudeThinkingSupport && !p.requireOpenAIResponsesSupport &&
    p.responsesRequirement == none && !env.normalizationEnabled

def requirementFilterMaxAttempts : Nat := 64

/-! ## Drawing with requirements -/

/-- The answer of a search, the channels excluded by then and the random numbers used. -/
structure Searched where
  answer : Except String (Option Int)
  excluded : List Int
  used : Nat

/-- The loop that excludes drawn channels until one fits. -/
def requirementLoop (mode : Mode) (env : RoutingEnv) (p : RetryParam) (draws : Nat → Nat)
    (g : String) (retry : Int) : Nat → List Int → Nat → Searched
  | 0, excluded, n => ⟨.ok none, excluded, n⟩
  | attempts + 1, excluded, n =>
    match mode.getRandomSatisfiedChannel env.now ⟨retry, excluded, p.providerRoutingPolicy⟩ g
        p.modelName (draws n) with
    | .ok (some id) =>
      if channelMatchesRetryRequirements env p id &&
          channelSupportsRequiredModelForGroup mode env p id g then
        ⟨.ok (some id), excluded, n + 1⟩
      else requirementLoop mode env p draws g retry attempts (id :: excluded) (n + 1)
    | answer => ⟨answer, excluded, n + 1⟩

section

variable (mode : Mode) (env : RoutingEnv) (p : RetryParam)

/-- With extra requirements a drawn channel that does not fit is excluded and the draw repeated, at
most 64 times. -/
def getRandomSatisfiedChannelWithRequirements (draws : Nat → Nat) (g : String) (retry : Int)
    (excluded : List Int) (n : Nat) : Searched :=
  if p.unfiltered env then
    ⟨mode.getRandomSatisfiedChannel env.now ⟨retry, excluded, p.providerRoutingPolicy⟩ g p.modelName
      (draws n), excluded, n + 1⟩
  else requirementLoop mode env p draws g retry requirementFilterMaxAttempts excluded n

/-! ## The choice -/

/-- The answer to a request and the state it leaves behind. -/
structure Choice where
  answer : Except String (Option Int)
  group : String
  param : RetryParam
  state : GroupState

/-- The preferred channel passes every check that does not depend on the group. -/
def preferredEligible : Bool :=
  p.preferredChannelId > 0 && !(p.preferredChannelId ∈ p.excludedChannelIds) &&
    (mode.cacheGetChannel p.preferredChannelId).any fun c =>
      c.status == channelStatusEnabled && policyMatches p.providerRoutingPolicy c &&
        channelMatchesRetryRequirements env p c.id

def preferredServes (g : String) : Bool :=
  mode.isChannelEnabledForGroupModel g p.modelName p.preferredChannelId &&
    !mode.isChannelModelDisabledForGroup env.now p.preferredChannelId g p.modelName &&
    channelSupportsRequiredModelForGroup mode env p p.preferredChannelId g

end

/-- A channel found in the auto group at index `i`. Once the retries of a group are used up the next
one follows. -/
def takeChannel (env : RoutingEnv) (i : Nat) (g : String) (priorityRetry : Int) (p : RetryParam)
    (id : Int) : Choice :=
  if env.crossGroupRetry && priorityRetry ≥ env.retryTimes then
    ⟨.ok (some id), g,
      { p with retry := some 0, resetNextTry := true, lastSelectedChannelId := id },
      ⟨some g, some (i + 1)⟩⟩
  else ⟨.ok (some id), g, { p with lastSelectedChannelId := id }, ⟨some g, some i⟩⟩

/-- The search through the auto groups from index `i` on; only the group `first`, where it starts,
uses the retry index of the request. -/
def searchGroups (mode : Mode) (env : RoutingEnv) (draws : Nat → Nat) (first : Nat) :
    List String → Nat → RetryParam → GroupState → Option String → Nat → Choice
  | [], _, p, state, lastError, _ =>
    let answer := match lastError with
      | some e => .error e
      | none => .ok none
    ⟨answer, p.tokenGroup, p, state⟩
  | g :: rest, i, p, state, lastError, n =>
    let priorityRetry := if i > first then 0 else p.getRetry
    let searched := getRandomSatisfiedChannelWithRequirements mode env p draws g priorityRetry
      p.excludedChannelIds n
    let p := { p with excludedChannelIds := searched.excluded }
    match searched.answer with
    | .ok (some id) => takeChannel env i g priorityRetry p id
    | .ok none =>
      searchGroups mode env draws first rest (i + 1) { p with retry := some 0 }
        { state with autoGroupIndex := some (i + 1) } lastError searched.used
    | .error e =>
      searchGroups mode env draws first rest (i + 1) { p with retry := some 0 }
        { state with autoGroupIndex := some (i + 1) } (some e) searched.used

def cacheGetRandomSatisfiedChannel (mode : Mode) (env : RoutingEnv) (p : RetryParam)
    (state : GroupState) (draws : Nat → Nat) : Choice :=
  if preferredEligible mode env p && preferredServes mode env p p.tokenGroup then
    ⟨.ok (some p.preferredChannelId), p.tokenGroup,
      { p with lastSelectedChannelId := p.preferredChannelId }, state⟩
  else if p.strictPreferredChannel && p.preferredChannelId > 0 then
    ⟨.ok none, p.tokenGroup, p, state⟩
  else if p.tokenGroup = "auto" then
    if env.autoGroups = [] then
      ⟨.error "auto groups is not enabled", p.tokenGroup, p, state⟩
    else
      match preferredEligible mode env p, env.getUserAutoGroup.find? (preferredServes mode env p) with
      | true, some g =>
        ⟨.ok (some p.preferredChannelId), g,
          { p with lastSelectedChannelId := p.preferredChannelId }, { state with autoGroup := some g }⟩
      | _, _ =>
        let first := state.autoGroupIndex.getD 0
        searchGroups mode env draws first (env.getUserAutoGroup.drop first) first p state none 0
  else
    let searched := getRandomSatisfiedChannelWithRequirements mode env p draws p.tokenGroup p.getRetry
      p.excludedChannelIds 0
    let p := { p with excludedChannelIds := searched.excluded }
    match searched.answer with
    | .ok (some id) => ⟨.ok (some id), p.tokenGroup, { p with lastSelectedChannelId := id }, state⟩
    | answer => ⟨answer, p.tokenGroup, p, state⟩

end RenewApi.Channels
