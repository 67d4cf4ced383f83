import RenewApi.Channels.Draw
import RenewApi.Channels.Rebuild

/-! # Drawing a channel

The two ways to draw a channel for a group and a model, and what they read.

* **Model status**: a channel can be disabled for one model in one group.

A random number `rand.Intn(n)` is `draw % n` for an arbitrary number `draw`. -/

namespace RenewApi.Channels

open Relational Text Draw

/-- A row of `channel_model_statuses`; its other columns are not read by routing. -/
structure ChannelModelStatus where
  channelId : Int
  group : String
  modelName : String
  status : Int
  disabledUntil : Int
  deriving DecidableEq

instance instRowChannelModelStatus : Row ChannelModelStatus (Int × String × String) :=
  ⟨fun r => (r.channelId, r.group, r.modelName)⟩

@[simp] theorem key_channelModelStatus (r : ChannelModelStatus) :
    Row.key r = (r.channelId, r.group, r.modelName) := rfl

/-- An empty group and the group `auto`, in any case, stand for `default`. -/
def normalizeChannelModelStatusGroup (group : String) : String :=
  let group := trimSpace group
  if group = "" ∨ group.toList.map Char.toLower = "auto".toList then "default" else group

/-- The key of a status: the source joins its parts by a zero byte, which none of them holds. -/
def channelModelStatusCacheKey (channelId : Int) (group modelName : String) :
    Int × String × String :=
  (channelId, normalizeChannelModelStatusGroup group, trimSpace modelName)

/-- A row as the cache keeps it. -/
def normalizeChannelModelStatusRecord (r : ChannelModelStatus) : ChannelModelStatus :=
  { r with
    group := normalizeChannelModelStatusGroup r.group
    modelName := trimSpace r.modelName
    status := if r.status = 0 then channelStatusEnabled else r.status }

def isChannelModelStatusDisabled (r : ChannelModelStatus) (now : Int) : Bool :=
  if r.status = channelStatusManuallyDisabled then true
  else if r.status = channelStatusAutoDisabled then r.disabledUntil ≤ 0 || now < r.disabledUntil
  else false

def storedUnder (key : Int × String × String) (r : ChannelModelStatus) : Bool :=
  0 < r.channelId ∧ r.modelName ≠ "" ∧
    channelModelStatusCacheKey r.channelId r.group r.modelName = key

section

variable (statuses : Table ChannelModelStatus)

/-- **`ReloadChannelModelStatusCache`**: the map from keys to normalised rows; a later row replaces
an earlier one. -/
def reloadChannelModelStatusCache : Int × String × String → Option ChannelModelStatus := fun key =>
  (statuses.rows.map normalizeChannelModelStatusRecord).reverse.find? (storedUnder key)

def isChannelModelStatusDisabledByCacheKey (now : Int) (key : Int × String × String) : Bool :=
  (reloadChannelModelStatusCache statuses key).any (isChannelModelStatusDisabled · now)

/-- **`FilterChannelIDsByModelStatus`** with the cache off: the ids no row disables. -/
def filterChannelIDsByModelStatus (now : Int)
    (channelIDs : List Int) (group modelName : String) : List Int :=
  let group := normalizeChannelModelStatusGroup group
  let modelName := trimSpace modelName
  if modelName = "" then channelIDs
  else
    let records := statuses.select fun r =>
      r.channelId ∈ channelIDs && r.modelName == modelName && r.group == group &&
        (r.status == channelStatusAutoDisabled || r.status == channelStatusManuallyDisabled)
    let disabled := (records.filter (isChannelModelStatusDisabled · now)).map
      ChannelModelStatus.channelId
    channelIDs.filter (· ∉ disabled)

end

/-- What a routing policy looks at. -/
structure ProviderView where
  id : Int
  type : Int
  name : String
  tag : Option String
  baseURL : Option String
  deriving DecidableEq

/-- The part of a channel that a routing policy looks at. -/
def Channel.view (c : Channel) : ProviderView := ⟨c.id, c.type, c.name, c.tag, c.baseURL⟩

/-- **`ChannelRoutingPolicy`**: which channels a request accepts and in which order of
preference. -/
structure ChannelRoutingPolicy where
  isEmpty : Bool
  admits : ProviderView → Bool
  orderRank : ProviderView → Int

section

variable (policy : Option ChannelRoutingPolicy)

/-- A policy that is absent or empty is not applied. -/
def policyEmpty : Bool := policy.all (·.isEmpty)

/-- `Matches`, with an absent or empty policy matching everything. -/
def policyMatches (c : Channel) : Bool :=
  policyEmpty policy || policy.all (·.admits c.view)

/-- `OrderRank`, `0` for an absent or empty policy. -/
def policyRank (c : Channel) : Int :=
  if policyEmpty policy then 0 else (policy.map (·.orderRank c.view)).getD 0

end

/-- `strings.Contains`. -/
def contains (text part : List Char) : Bool :=
  text.tails.any (part.isPrefixOf ·)

def handleThinkingBudgetModel (name start wildcard : String) : String :=
  if start.toList.isPrefixOf name.toList && contains name.toList "-thinking-".toList then wildcard
  else name

/-- **`FormatMatchingModelName`**: families of model names that share one entry. -/
def formatMatchingModelName (name : String) : String :=
  let starts (name start : String) : Bool := start.toList.isPrefixOf name.toList
  let name :=
    if starts name "gemini-2.5-flash-lite" then
      handleThinkingBudgetModel name "gemini-2.5-flash-lite" "gemini-2.5-flash-lite-thinking-*"
    else if starts name "gemini-2.5-flash" then
      handleThinkingBudgetModel name "gemini-2.5-flash" "gemini-2.5-flash-thinking-*"
    else if starts name "gemini-2.5-pro" then
      handleThinkingBudgetModel name "gemini-2.5-pro" "gemini-2.5-pro-thinking-*"
    else name
  let name := if starts name "gpt-4-gizmo" then "gpt-4-gizmo-*" else name
  if starts name "gpt-4o-gizmo" then "gpt-4o-gizmo-*" else name

/-! ## Cache mode -/

structure RoutingTables where
  channels : Table Channel
  abilities : List Ability
  statuses : Table ChannelModelStatus

/-- One question to the router, apart from the group and the model. -/
structure DrawRequest where
  retry : Int
  excluded : List Int
  policy : Option ChannelRoutingPolicy

/-- The retry index that is used: exclusions and negative indexes restart from the top. -/
def DrawRequest.index (q : DrawRequest) : Nat :=
  if q.excluded ≠ [] then 0 else q.retry.toNat

def selectable (statuses : Table ChannelModelStatus) (now : Int) (q : DrawRequest) (g m : String)
    (c : Channel) : Bool :=
  !(c.id ∈ q.excluded) && c.type != channelTypeMock &&
    !isChannelModelStatusDisabledByCacheKey statuses now (channelModelStatusCacheKey c.id g m) &&
    policyMatches q.policy c

def snapshotEntries (cache : RoutingCache) (g m : String) : List Channel :=
  ((cache.bucket g m).filterMap cache.channelsIDM).insertionSort
    fun c c' => c'.getPriority ≤ c.getPriority

/-- The weights a draw in the cache uses: equal ones when all are zero, scaled ones when they are
small. -/
def smoothedWeights (best : List Channel) : List (Int × Nat) :=
  let sumWeight := (best.map Channel.getWeight).sum
  let smoothingFactor := if sumWeight ≠ 0 ∧ sumWeight / best.length < 10 then 100 else 1
  let smoothingAdjustment := if sumWeight = 0 then 100 else 0
  best.map fun c => (c.id, c.getWeight * smoothingFactor + smoothingAdjustment)

/-- The buckets of group and model that hold a selectable entry, by descending priority. -/
def availableBuckets (cache : RoutingCache) (statuses : Table ChannelModelStatus) (now : Int)
    (q : DrawRequest) (g m : String) : List (Int × List Channel) :=
  (runs Channel.getPriority (snapshotEntries cache g m)).filter fun b =>
    b.2.any (selectable statuses now q g m)

/-- The draw among the selectable entries of a bucket: the only candidate is returned at once,
otherwise those of the best rank are drawn from by weight. -/
def drawFromBucket (q : DrawRequest) (g m : String) (totalCandidates : Nat) (priority : Int)
    (candidates : List Channel) (draw : Nat) : Except String (Option Int) :=
  match candidates with
  | [] => .error s!"no channel found, group: {g}, model: {m}, priority: {priority}"
  | c :: _ =>
    if totalCandidates = 1 then .ok (some c.id)
    else
      let weights := smoothedWeights (keepBest (policyRank q.policy) candidates)
      match pickLt weights (draw % total weights) with
      | some id => .ok (some id)
      | none => .error s!"channel not found, group: {g}, model: {m}, priority: {priority}"

section

variable (cache : RoutingCache) (statuses : Table ChannelModelStatus) (now : Int) (q : DrawRequest)
  (g m : String) (draw : Nat)

/-- **`selectRandomChannelFromSnapshot`**; `ok none` is "not found". -/
def selectRandomChannelFromSnapshot : Except String (Option Int) :=
  let available := availableBuckets cache statuses now q g m
  let ok := selectable statuses now q g m
  let totalCandidates := (available.map fun b => (b.2.filter ok).length).sum
  match level available q.index with
  | none => .ok none
  | some bucket => drawFromBucket q g m totalCandidates bucket.1 (bucket.2.filter ok) draw

/-- **`GetRandomSatisfiedChannelExcludingWithPolicy`** with the memory cache on. -/
def drawFromCache : Except String (Option Int) :=
  match selectRandomChannelFromSnapshot cache statuses now q g m draw with
  | .error e => .error e
  | .ok (some id) => .ok (some id)
  | .ok none =>
    let normalizedModel := formatMatchingModelName m
    if normalizedModel = "" ∨ normalizedModel = m then .ok none
    else selectRandomChannelFromSnapshot cache statuses now q g normalizedModel draw

end

/-! ## Database mode -/

/-- The priority of an ability row, `0` when the column is null. -/
def abilityPriority (a : Ability) : Int := a.priority.getD 0

/-- The rows of a group and a model that are enabled, by descending priority and weight. -/
def enabledAbilities (abilities : List Ability) (g m : String) : List Ability :=
  (abilities.filter fun a => a.group == g && a.model == m && a.enabled).insertionSort fun a b =>
    abilityPriority b < abilityPriority a ∨ abilityPriority b = abilityPriority a ∧ b.weight ≤ a.weight

/-- **`filterChannelModelStatusAbilities`** for rows of one group and one model. -/
def filterChannelModelStatusAbilities (statuses : Table ChannelModelStatus) (now : Int)
    (g m : String) (abilities : List Ability) : List Ability :=
  let allowed := filterChannelIDsByModelStatus statuses now (abilities.map Ability.channelId)
    (normalizeChannelModelStatusGroup g) (trimSpace m)
  abilities.filter (·.channelId ∈ allowed)

/-- **`filterRandomSelectableAbilities`**: only rows of channels that exist and are no mocks. -/
def filterRandomSelectableAbilities (channels : Table Channel) (abilities : List Ability) :
    List Ability :=
  abilities.filter fun a => (channels.find? a.channelId).any (·.type != channelTypeMock)

section

variable (channels : Table Channel) (policy : Option ChannelRoutingPolicy)

/-- The rank of a row's channel; a row without a channel ranks last. -/
def routingRank (a : Ability) : Int :=
  ((channels.find? a.channelId).map (policyRank policy)).getD (2 ^ 63 - 1)

/-- **`filterProviderRoutingAbilities`**: the rows whose channel the policy accepts, by rank. -/
def filterProviderRoutingAbilities (abilities : List Ability) : List Ability :=
  if policyEmpty policy then abilities
  else
    (abilities.filter fun a => (channels.find? a.channelId).any (policyMatches policy)).insertionSort
      fun a b => routingRank channels policy a ≤ routingRank channels policy b

end

/-- **`selectAbilitiesByRetryPriority`**: the rows of the level that the retry index names. -/
def selectAbilitiesByRetryPriority (abilities : List Ability) (index : Nat) : List Ability :=
  let priorities := levels (abilities.map abilityPriority)
  match priorities[min index (priorities.length - 1)]? with
  | none => []
  | some target => abilities.filter (abilityPriority · = target)

def keepBestProviderRoutingAbilityOrderRank (channels : Table Channel)
    (policy : Option ChannelRoutingPolicy) (abilities : List Ability) : List Ability :=
  if abilities.length < 2 ∨ policyEmpty policy then abilities
  else keepBest (routingRank channels policy) abilities

section

variable (tables : RoutingTables) (now : Int) (q : DrawRequest) (g m : String)

/-- The rows that are left after all filters. -/
def candidateAbilities : List Ability :=
  let abilities := (enabledAbilities tables.abilities g m).filter (·.channelId ∉ q.excluded)
  let abilities := filterChannelModelStatusAbilities tables.statuses now g m abilities
  let abilities := filterRandomSelectableAbilities tables.channels abilities
  filterProviderRoutingAbilities tables.channels q.policy abilities

/-- The rows a draw in the database is between. -/
def drawnAbilities : List Ability :=
  keepBestProviderRoutingAbilityOrderRank tables.channels q.policy
    (selectAbilitiesByRetryPriority (candidateAbilities tables now q g m) q.index)

/-- The draw of the database mode: the ability rows, filtered step by step; the level chosen by the
retry index; the best rank; a draw by weight plus ten. -/
def getChannelExcludingWithPolicy (draw : Nat) : Except String (Option Int) :=
  match drawnAbilities tables now q g m with
  | [] => .ok none
  | first :: rest =>
    let weights := (first :: rest).map fun a => (a.channelId, a.weight + 10)
    let id := (pickLe weights (draw % total weights)).getD 0
    -- the draw starts from id zero, and zero is taken for "nobody was drawn"
    let id := if id = 0 then first.channelId else id
    match tables.channels.find? id with
    | none => .error "record not found"
    | some _ => .ok (some id)

end

end RenewApi.Channels
