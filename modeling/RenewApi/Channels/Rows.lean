import Mathlib.Data.Finmap
import Mathlib.Data.List.Sort
import RenewApi.Channels.Text
import RenewApi.Relational.Table

/-! # Channels and abilities

The rows that routing works on, with the readers of their text columns.

* **Channel**: one upstream account. `Group` and `Models` are comma-separated lists, `ModelMapping`
  and `Key` are texts of their own.
* **Codec**: what the JSON decoder answers about the two columns that may hold JSON. Of the model
  mapping, routing uses the sources only; the parser trims each of them and rejects an empty one. -/

namespace RenewApi.Channels

open Relational Text List

/-- `common.ChannelStatusEnabled`. -/
def channelStatusEnabled : Int := 1

/-- `common.ChannelStatusManuallyDisabled`. -/
def channelStatusManuallyDisabled : Int := 2

/-- `common.ChannelStatusAutoDisabled`. -/
def channelStatusAutoDisabled : Int := 3

/-- `constant.ChannelTypeMock`: the type of channels that routing never draws. -/
def channelTypeMock : Int := 58

/-- How the keys of a multi-key channel take turns; the column is a text, so it may hold other
values. -/
inductive MultiKeyMode where
  | random
  | polling
  | unknown (name : String)
  deriving DecidableEq

/-! ## Rows -/

/-- **The JSON column `channel_info`**. The maps are indexed by the position of a key; a key without
an entry in the status list counts as enabled. -/
structure ChannelInfo where
  isMultiKey : Bool := false
  multiKeySize : Nat := 0
  multiKeyStatusList : Finmap (fun _ : Nat => Int) := ∅
  multiKeyDisabledReason : Finmap (fun _ : Nat => String) := ∅
  multiKeyDisabledTime : Finmap (fun _ : Nat => Int) := ∅
  multiKeyPollingIndex : Int := 0
  multiKeyMode : MultiKeyMode := .unknown ""
  deriving DecidableEq

/-- **A row of `channels`**, with `keys`, the parsed key list that only cached channels carry. -/
structure Channel where
  id : Int
  configVersion : Int := 1
  type : Int := 0
  key : String := ""
  openAIOrganization : Option String := none
  testModel : Option String := none
  channelTestPromptID : Int := 0
  status : Int := 1
  name : String := ""
  weight : Option Nat := none
  createdTime : Int := 0
  testTime : Int := 0
  responseTime : Int := 0
  baseURL : Option String := none
  other : String := ""
  balance : Int := 0
  balanceUpdatedTime : Int := 0
  models : String := ""
  group : String := ""
  usedQuota : Int := 0
  modelMapping : Option String := none
  statusCodeMapping : Option String := none
  priority : Option Int := none
  autoBan : Option Int := none
  otherInfo : String := ""
  tag : Option String := none
  setting : Option String := none
  paramOverride : Option String := none
  headerOverride : Option String := none
  remark : Option String := none
  channelInfo : ChannelInfo := {}
  otherSettings : String := ""
  keys : List String := []
  deriving DecidableEq

instance instRowChannel : Row Channel Int := ⟨Channel.id⟩

@[simp] theorem key_channel (c : Channel) : Row.key c = c.id := rfl

/-- **A row of `abilities`**: a channel serves a model for a group. -/
structure Ability where
  group : String
  model : String
  channelId : Int
  enabled : Bool
  priority : Option Int
  weight : Nat
  tag : Option String
  deriving DecidableEq

/-- What the JSON decoder answers about the text columns of a channel. -/
structure Codec where
  /-- `ParseModelMappingConfig` followed by `Sources`; `none` is a parse error. -/
  mappingSources : String → Option (List String)
  /-- Every source has been trimmed and is not empty (`normalizeModelMappingName`). -/
  clean_mappingSources : ∀ raw sources, mappingSources raw = some sources →
    ∀ source ∈ sources, Clean source
  /-- The elements of a JSON array; `none` is a parse error. -/
  keyArray : String → Option (List String)

/-- The codec of columns without JSON: no mapping text but the empty one parses. -/
def Codec.plain : Codec where
  mappingSources raw := if trimSpace raw = "" then some [] else none
  clean_mappingSources := by
    intro raw sources h source hsource
    split at h
    · cases h
      exact absurd hsource List.not_mem_nil
    · cases h
  keyArray _ := none

/-! ## Readers -/

variable {c : Channel} {codec : Codec} {g : String}

namespace Channel

section

variable (c : Channel)

def getPriority : Int := c.priority.getD 0

def getWeight : Nat := c.weight.getD 0

/-- The text of the model mapping, empty when the column is null. -/
def getModelMapping : String := c.modelMapping.getD ""

/-- The comma-separated values of a text column: commas are cut off both ends, then each piece is
trimmed and empty ones are dropped. -/
def listColumn (text : String) : List String :=
  if text = "" then [] else tidy (split ',' (trimChar ',' text))

def getModels : List String := listColumn c.models

def getGroups : List String := listColumn c.group

end

/-- The models the channel serves: the listed ones and the sources of its mapping, if that
parses. -/
def getRoutingModels (codec : Codec) (c : Channel) : List String :=
  match codec.mappingSources c.getModelMapping with
  | none => c.getModels
  | some sources => (c.getModels ++ sources).eraseDups.insertionSort (· ≤ ·)

/-- The keys of a channel: the parsed list if it carries one, a JSON array if the text is one,
otherwise the lines of the text. -/
def getKeys (codec : Codec) (c : Channel) : List String :=
  if c.key = "" then []
  else if c.keys ≠ [] then c.keys
  else
    let lines := split '\n' (trimChar '\n' c.key)
    if (trimSpace c.key).toList.head? = some '[' then
      (codec.keyArray (trimSpace c.key)).getD lines
    else lines

theorem listColumn_eq (text : String) : listColumn text = fields ',' text := by
  rw [listColumn]
  split
  · rename_i h
    rw [h, fields_empty]
  · exact fields_trimChar ',' text

theorem clean_of_mem_getGroups (h : g ∈ c.getGroups) : Clean g := by
  rw [getGroups, listColumn_eq] at h
  exact clean_of_mem_fields h

theorem clean_of_mem_getRoutingModels {m : String} (h : m ∈ c.getRoutingModels codec) :
    Clean m := by
  have hlisted : ∀ {m}, m ∈ c.getModels → Clean m := by
    intro m hm
    rw [getModels, listColumn_eq] at hm
    exact clean_of_mem_fields hm
  rw [getRoutingModels] at h
  split at h
  · exact hlisted h
  · rename_i sources hsources
    rw [(perm_insertionSort _ _).mem_iff, mem_eraseDups, mem_append] at h
    exact h.elim hlisted (codec.clean_mappingSources _ sources hsources m)

end Channel

/-! ## Abilities -/

/-- Keep the first of the elements that share a key; `seen` are the keys met so far. -/
def distinctBy {α κ : Type*} [DecidableEq κ] (key : α → κ) : List κ → List α → List α
  | _, [] => []
  | seen, x :: xs =>
    if key x ∈ seen then distinctBy key seen xs else x :: distinctBy key (key x :: seen) xs

section

variable {α κ : Type*} [DecidableEq κ] {key : α → κ} {l : List α} {x : α} {seen : List κ}

theorem mem_of_mem_distinctBy (h : x ∈ distinctBy key seen l) : x ∈ l := by
  induction l generalizing seen with
  | nil => exact h
  | cons y ys ih =>
    rw [distinctBy] at h
    split at h
    · exact mem_cons_of_mem _ (ih h)
    · rcases mem_cons.mp h with rfl | h
      · exact mem_cons_self
      · exact mem_cons_of_mem _ (ih h)

theorem exists_mem_distinctBy (key : α → κ) (seen : List κ) (hx : x ∈ l) (hseen : key x ∉ seen) :
    ∃ y ∈ distinctBy key seen l, key y = key x := by
  induction l generalizing seen with
  | nil => exact absurd hx not_mem_nil
  | cons y ys ih =>
    rw [distinctBy]
    by_cases hxy : key x = key y
    · rw [if_neg (hxy ▸ hseen)]
      exact ⟨y, mem_cons_self, hxy.symm⟩
    · have hys : x ∈ ys := (mem_cons.mp hx).resolve_left fun h => hxy (h ▸ rfl)
      split
      · exact ih seen hys hseen
      · obtain ⟨z, hz, hkey⟩ := ih (key y :: seen) hys (by simp [hxy, hseen])
        exact ⟨z, mem_cons_of_mem _ hz, hkey⟩

theorem mem_distinctBy_append {l' : List α} (h : x ∈ distinctBy key seen l) :
    x ∈ distinctBy key seen (l ++ l') := by
  induction l generalizing seen with
  | nil => exact absurd h not_mem_nil
  | cons y ys ih =>
    rw [cons_append, distinctBy]
    rw [distinctBy] at h
    split at h
    · rename_i hy
      rw [if_pos hy]
      exact ih h
    · rename_i hy
      rw [if_neg hy]
      rcases mem_cons.mp h with rfl | h
      · exact mem_cons_self
      · exact mem_cons_of_mem _ (ih h)

end

namespace Channel

/-- The ability row of a channel for a group and a model. -/
def ability (c : Channel) (pair : String × String) : Ability where
  group := pair.1
  model := pair.2
  channelId := c.id
  enabled := c.status == channelStatusEnabled
  priority := c.priority
  weight := c.getWeight
  tag := c.tag

/-- The key that marks a pair of group and model as expanded. Nothing keeps a bar out of either, so
two pairs can have one key. -/
def abilityKey (pair : String × String) : String := pair.1 ++ "|" ++ pair.2

/-- **The ability rows of a channel**: every model with every group, once per key. -/
def buildAbilities (codec : Codec) (c : Channel) : List Ability :=
  let pairs := (c.getRoutingModels codec).flatMap fun model => c.getGroups.map fun group =>
    (group, model)
  (distinctBy abilityKey [] pairs).map c.ability

theorem mem_of_mem_buildAbilities {a : Ability} (h : a ∈ c.buildAbilities codec) :
    a.group ∈ c.getGroups ∧ a.model ∈ c.getRoutingModels codec ∧ a = c.ability (a.group, a.model) := by
  obtain ⟨pair, hpair, rfl⟩ := mem_map.mp h
  obtain ⟨model, hmodel, hpair⟩ := mem_flatMap.mp (mem_of_mem_distinctBy hpair)
  obtain ⟨group, hgroup, rfl⟩ := mem_map.mp hpair
  exact ⟨hgroup, hmodel, rfl⟩

/-- **Every group of a channel with a model to serve has an ability row**, although keys may clash:
at the first model all keys differ. -/
theorem exists_ability_of_mem_getGroups (hg : g ∈ c.getGroups)
    (hmodels : c.getRoutingModels codec ≠ []) : ∃ a ∈ c.buildAbilities codec, a.group = g := by
  obtain ⟨model, rest, hcons⟩ := exists_cons_of_ne_nil hmodels
  have hfirst : (g, model) ∈ c.getGroups.map fun group => (group, model) :=
    mem_map_of_mem hg
  obtain ⟨pair, hpair, hkey⟩ := exists_mem_distinctBy abilityKey [] hfirst not_mem_nil
  refine ⟨c.ability pair, ?_, ?_⟩
  · rw [buildAbilities, hcons]
    exact mem_map_of_mem (mem_distinctBy_append hpair)
  · obtain ⟨group, -, rfl⟩ := mem_map.mp (mem_of_mem_distinctBy hpair)
    exact (String.append_left_inj _).mp ((String.append_left_inj _).mp hkey)

end Channel

end RenewApi.Channels
