import Mathlib.Data.List.Basic

/-! # Cleaning tool schemas

For channels that read a part of JSON Schema only, `pkg/compat/toolschema` removes the other
keywords from the parameters of each tool.

* **`cleanAny`** — the cleaner. It treats all objects alike.
* **`prune`** — what it is for: keywords go where a schema stands (`Position`), and a name that a
  `properties` object declares is no keyword. -/

namespace RenewApi.ToolSchema

open List

/-- A decoded JSON value. -/
inductive Value where
  | null
  /-- A number or a boolean. -/
  | atom (text : String)
  | string (s : String)
  | array (items : List Value)
  | object (fields : List (String × Value))

def unsupportedSchemaFields : List String :=
  ["$schema", "additionalProperties", "allOf", "anyOf", "default", "dependentRequired",
    "dependentSchemas", "else", "examples", "format", "if", "maxProperties", "minProperties", "not",
    "oneOf", "pattern", "patternProperties", "propertyNames", "then", "unevaluatedProperties"]

mutual

/-- The cleaned value, which is stored in the place of the old one. -/
def cleanAny : Value → Value
  | .array items => .array (cleanItems items)
  | .object fields => .object (cleanSchemaMap fields)
  | v => v

def cleanItems : List Value → List Value
  | [] => []
  | v :: items => cleanAny v :: cleanItems items

def cleanSchemaMap : List (String × Value) → List (String × Value)
  | [] => []
  | (key, v) :: fields =>
    if key ∈ unsupportedSchemaFields then cleanSchemaMap fields
    else (key, cleanAny v) :: cleanSchemaMap fields

end

/-! ## Positions -/

/-- What stands at a place: a schema (or a list of them), schemas under names of the user's choice,
or data. -/
inductive Position
  | schema
  | names
  | data
  deriving DecidableEq

/-- The position of what stands under a key. -/
def Position.under (key : String) : Position → Position
  | .schema =>
    if key ∈ ["properties", "$defs", "definitions"] then .names
    else if key ∈ ["items", "prefixItems", "additionalItems", "unevaluatedItems", "contains",
      "contentSchema"] then .schema
    else .data
  | .names => .schema
  | .data => .data

mutual

/-- The value without the unsupported keywords of its schemas. -/
def prune (p : Position) : Value → Value
  | .array items => .array (pruneItems p items)
  | .object fields => .object (pruneFields p fields)
  | v => v

def pruneItems (p : Position) : List Value → List Value
  | [] => []
  | v :: items => prune p v :: pruneItems p items

def pruneFields (p : Position) : List (String × Value) → List (String × Value)
  | [] => []
  | (key, v) :: fields =>
    if key ∈ unsupportedSchemaFields ∧ p = .schema then pruneFields p fields
    else (key, prune (p.under key) v) :: pruneFields p fields

end

/-- The names in the `properties` object of a schema. -/
def declared (schema : List (String × Value)) : List String :=
  match schema.lookup "properties" with
  | some (.object properties) => properties.map Prod.fst
  | _ => []

def required (schema : List (String × Value)) : List String :=
  match schema.lookup "required" with
  | some (.array items) => items.filterMap fun
    | .string s => some s
    | _ => none
  | _ => []

mutual

/-- **No clash**: outside of schemas, no key is spelled like an unsupported keyword. -/
def Clear (p : Position) : Value → Prop
  | .array items => ClearItems p items
  | .object fields => ClearFields p fields
  | _ => True

def ClearItems (p : Position) : List Value → Prop
  | [] => True
  | v :: items => Clear p v ∧ ClearItems p items

def ClearFields (p : Position) : List (String × Value) → Prop
  | [] => True
  | (key, v) :: fields =>
    (if key ∈ unsupportedSchemaFields then p = .schema else Clear (p.under key) v) ∧ ClearFields p fields

end

/-! ## What cleaning removes -/

variable {p : Position}

theorem map_fst_pruneFields (hp : p ≠ .schema) (fields : List (String × Value)) :
    (pruneFields p fields).map Prod.fst = fields.map Prod.fst := by
  induction fields with
  | nil => rfl
  | cons field fields ih => rw [pruneFields, if_neg fun h => hp h.2, map_cons, map_cons, ih]

theorem length_cleanSchemaMap_le (fields : List (String × Value)) :
    (cleanSchemaMap fields).length ≤ fields.length := by
  induction fields with
  | nil => exact Nat.le_refl 0
  | cons field fields ih =>
    rw [cleanSchemaMap, length_cons]
    split_ifs
    · exact Nat.le_succ_of_le ih
    · exact Nat.succ_le_succ ih

mutual

theorem cleanAny_eq_prune_iff (p : Position) : ∀ v, cleanAny v = prune p v ↔ Clear p v
  | .array items => by
    rw [cleanAny, prune, Clear, Value.array.injEq]
    exact cleanItems_eq_iff p items
  | .object fields => by
    rw [cleanAny, prune, Clear, Value.object.injEq]
    exact cleanSchemaMap_eq_iff p fields
  | .null | .atom _ | .string _ => by simp only [cleanAny, prune, Clear]

theorem cleanItems_eq_iff (p : Position) : ∀ items, cleanItems items = pruneItems p items ↔
    ClearItems p items
  | [] => by simp only [cleanItems, pruneItems, ClearItems]
  | v :: items => by
    rw [cleanItems, pruneItems, ClearItems, cons.injEq, cleanAny_eq_prune_iff p v,
      cleanItems_eq_iff p items]

theorem cleanSchemaMap_eq_iff (p : Position) : ∀ fields, cleanSchemaMap fields = pruneFields p fields ↔
    ClearFields p fields
  | [] => by simp only [cleanSchemaMap, pruneFields, ClearFields]
  | (key, v) :: fields => by
    have ih := cleanSchemaMap_eq_iff p fields
    rw [cleanSchemaMap, pruneFields, ClearFields]
    by_cases hkey : key ∈ unsupportedSchemaFields
    · by_cases hp : p = .schema
      · rw [if_pos hkey, if_pos ⟨hkey, hp⟩, if_pos hkey, ih, and_iff_right hp]
      · -- the cleaner removes the key and is left with too few
        rw [if_pos hkey, if_neg fun h => hp h.2, if_pos hkey]
        refine iff_of_false (fun heq => ?_) fun h => hp h.1
        have hlen := congrArg (fun l => (l.map Prod.fst).length) heq
        rw [map_cons, map_fst_pruneFields hp, length_map, length_cons, length_map] at hlen
        exact absurd (length_cleanSchemaMap_le fields) (by omega)
    · rw [if_neg hkey, if_neg fun h => hkey h.1, if_neg hkey, cons.injEq, Prod.mk.injEq, ih,
        cleanAny_eq_prune_iff (p.under key) v, and_iff_right rfl]

end

theorem declared_pruneFields (fields : List (String × Value)) :
    declared (pruneFields .schema fields) = declared fields := by
  have hlookup : (pruneFields .schema fields).lookup "properties" =
      (fields.lookup "properties").map (prune .names) := by
    induction fields with
    | nil => rfl
    | cons field fields ih =>
      obtain ⟨key, v⟩ := field
      rw [pruneFields]
      by_cases hkey : "properties" = key
      · subst hkey
        simp [unsupportedSchemaFields, Position.under]
      · split_ifs <;> simp [lookup_cons, beq_false_of_ne hkey, ih]
  rw [declared, hlookup, declared]
  cases fields.lookup "properties" with
  | none => rfl
  | some v =>
    cases v with
    | object properties => exact map_fst_pruneFields (p := .names) nofun properties
    | _ => rfl

/-- **Cleaning removes just the unsupported keywords of schemas exactly when no name clashes with
them**; then every schema declares the properties it declared before. -/
theorem cleaning_prunes_iff (schema : Value) :
    (cleanAny schema = prune .schema schema ↔ Clear .schema schema) ∧
      ∀ fields, declared (pruneFields .schema fields) = declared fields :=
  ⟨cleanAny_eq_prune_iff _ schema, declared_pruneFields⟩

/-- The parameters of a tool that asks for a date format. -/
def formatParameters : List (String × Value) :=
  [("type", .string "object"),
    ("properties", .object [("format", .object [("type", .string "string")])]),
    ("required", .array [.string "format"])]

/-- The property `format` is required and no longer declared. -/
theorem required_property_removed :
    cleanAny (.object formatParameters) = .object (cleanSchemaMap formatParameters) ∧
    "format" ∈ required (cleanSchemaMap formatParameters) ∧ "format" ∈ declared formatParameters ∧
    "format" ∉ declared (cleanSchemaMap formatParameters) ∧
    cleanAny (.object formatParameters) ≠ prune .schema (.object formatParameters) := by
  refine ⟨rfl, by decide, by decide, by decide, fun h => ?_⟩
  have hdeclared := congrArg declared (Value.object.inj h)
  rw [declared_pruneFields] at hdeclared
  exact absurd hdeclared (by decide)

end RenewApi.ToolSchema
