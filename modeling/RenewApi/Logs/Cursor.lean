import Mathlib
import RenewApi.Concurrent.Program
import RenewApi.Relational.Keyset
import RenewApi.Relational.Table

/-! # Cursor pagination of the logs

`model/log_cursor.go`: the logs are listed newest first, one page per request, with a sealed cursor
for the page after it and one for the page before it. -/

namespace RenewApi.Logs

open Relational Concurrent Prod

/-- A row of the table `logs`. The ids are assigned by the database, from one upwards. -/
structure Log where
  id : Int
  userId : Int
  createdAt : Int
  type : Int
  content : String
  username : String
  tokenName : String
  modelName : String
  channelId : Int
  group : String
  requestId : String
  upstreamRequestId : String
  /-- The fields of the JSON object in this column; `none` when it holds none. -/
  other : Option (List (String × String))
  id_pos : 0 < id
  deriving DecidableEq

instance : Row Log Int := ⟨Log.id⟩

/-- What a viewer asks for. -/
structure LogQueryFilter where
  viewerID : Int
  userID : Int
  logType : Int
  channel : Int
  logTypes : List Int
  startTimestamp : Int
  endTimestamp : Int
  modelName : String
  username : String
  tokenName : String
  group : String
  requestID : String
  upstreamRequestID : String
  deriving DecidableEq

/-- The filter is that of a user who looks at their own logs. -/
def LogQueryFilter.self (filter : LogQueryFilter) : Bool := decide (0 < filter.userID)

/-- Why a request is refused. -/
inductive LogError
  /-- `ErrInvalidLogCursor`. -/
  | invalidLogCursor
  | searchPattern (message : String)
  | database
  deriving DecidableEq

/-- The database of the logs, as far as requests depend on it, and the hash that binds cursors to
their filter and page size. -/
structure LogDB (Scope : Type) where
  /-- `Dialector.Name() == "mysql"`. -/
  mysql : Bool
  /-- `column = text`, in the collation of the database. -/
  textEq : String → String → Bool
  /-- `column LIKE pattern ESCAPE '!'`. -/
  textLike : String → String → Bool
  logCursorScope : LogQueryFilter → Int → Scope
  scope_injective : Function.Injective2 logCursorScope

variable {Scope : Type}

def sanitizeLikePattern (input : String) : Except LogError String :=
  let escaped := input.toList.flatMap fun c => if c = '!' then ['!', '!'] else [c]
  let escaped := escaped.flatMap fun c => if c = '_' then ['!', '_'] else [c]
  if ['%', '%'] <:+: escaped then
    .error (.searchPattern "搜索模式中不允许包含连续的 % 通配符")
  else if escaped.count '%' > 2 then
    .error (.searchPattern "搜索模式中最多允许包含 2 个 % 通配符")
  else if escaped.count '%' > 0 ∧ (String.ofList (escaped.filter (· ≠ '%'))).utf8ByteSize < 2 then
    .error (.searchPattern "使用模糊搜索时，关键词长度至少为 2 个字符")
  else .ok (String.ofList escaped)

/-- A condition on the rows. -/
abbrev Condition := Log → Bool

section

variable (db : LogDB Scope)

def applyExplicitLogTextFilter (column : Log → String) (value : String) :
    Except LogError Condition :=
  if value = "" then .ok fun _ => true
  else if '%' ∈ value.toList then do
    let pattern ← sanitizeLikePattern value
    .ok fun r => db.textLike pattern (column r)
  else .ok fun r => db.textEq (column r) value

/-- A condition that a filter puts only if it holds a value. -/
def whenSet (set : Bool) (condition : Condition) : Condition := fun r => !set || condition r

/-- The types of logs that the queries name. -/
def logTypeUnknown : Int := 0

@[inherit_doc logTypeUnknown] def logTypeError : Int := 5

/-- The condition that a filter puts on a row, or the reason why it is refused. -/
def logQuery (filter : LogQueryFilter) : Except LogError Condition := do
  let modelName ← applyExplicitLogTextFilter db Log.modelName filter.modelName
  let username ← applyExplicitLogTextFilter db Log.username filter.username
  .ok fun r =>
    whenSet (0 < filter.userID) (·.userId == filter.userID) r
      && whenSet (filter.logType != logTypeUnknown) (·.type == filter.logType) r
      && whenSet (!filter.logTypes.isEmpty) (fun r => filter.logTypes.contains r.type) r
      && modelName r && username r
      && whenSet (filter.tokenName != "") (fun r => db.textEq r.tokenName filter.tokenName) r
      && whenSet (filter.requestID != "") (fun r => db.textEq r.requestId filter.requestID) r
      && whenSet (filter.upstreamRequestID != "")
        (fun r => db.textEq r.upstreamRequestId filter.upstreamRequestID) r
      && whenSet (filter.group != "") (fun r => db.textEq r.group filter.group) r
      && whenSet (filter.startTimestamp != 0) (fun r => filter.startTimestamp ≤ r.createdAt) r
      && whenSet (filter.endTimestamp != 0) (·.createdAt ≤ filter.endTimestamp) r
      && whenSet (filter.channel != 0) (·.channelId == filter.channel) r

def Matches (filter : LogQueryFilter) (r : Log) : Prop :=
  ∃ base, logQuery db filter = .ok base ∧ base r = true

/-! ## Cursors -/

structure LogCursor (Scope : Type) where
  version : Int
  scope : Scope
  snapshotID : Int
  id : Int
  createdAt : Int
  newer : Bool
  deriving DecidableEq

/-- The parameter `cursor` of a request. -/
inductive Token (Scope : Type)
  | none
  /-- A cursor that was sealed by `encodeLogCursor`. -/
  | sealed (value : LogCursor Scope)
  | other (text : String)
  deriving DecidableEq

/-- `encodeLogCursor`. Tokens that only differ in their nonce are not told apart. -/
def encodeLogCursor (value : LogCursor Scope) : Token Scope := .sealed value

def decodeLogCursor [DecidableEq Scope] (token : Token Scope) (scope : Scope) :
    Except LogError (LogCursor Scope) :=
  match token with
  | .sealed value =>
    if value.version ≠ 1 ∨ value.scope ≠ scope ∨ value.id ≤ 0 ∨ value.snapshotID < value.id then
      .error .invalidLogCursor
    else .ok value
  | .none | .other _ => .error .invalidLogCursor

/-- `a op b` for the operator of a direction. -/
def beyond (newer : Bool) (a b : Int) : Bool := if newer then b < a else a < b

/-- `logCursorBoundary`: the rows on the far side of a position. -/
def logCursorBoundary (self : Bool) (value : LogCursor Scope) : Condition := fun r =>
  if self then
    if value.newer then value.id < r.id && r.id ≤ value.snapshotID
    else beyond value.newer r.id value.id
  else
    r.id ≤ value.snapshotID &&
      if !db.mysql then
        -- the comparison of rows `(logs.created_at, logs.id) op (?, ?)`
        beyond value.newer r.createdAt value.createdAt ||
          r.createdAt == value.createdAt && beyond value.newer r.id value.id
      else
        (beyond value.newer r.createdAt value.createdAt || r.createdAt == value.createdAt) &&
          (beyond value.newer r.createdAt value.createdAt ||
            r.createdAt == value.createdAt && beyond value.newer r.id value.id)

end

/-- Whether a row may stand before another: by `logs.id` in the view of a user, by `logs.created_at,
logs.id` in that of an administrator, in either direction. -/
def logOrder (self newer : Bool) (a b : Log) : Bool :=
  if self then a.id == b.id || beyond (!newer) a.id b.id
  else beyond (!newer) a.createdAt b.createdAt ||
    a.createdAt == b.createdAt && (a.id == b.id || beyond (!newer) a.id b.id)

/-! ## Requests -/

/-- A page, with its rows as they are stored. -/
structure LogCursorPage (Scope : Type) where
  rows : List Log
  pageSize : Int
  nextCursor : Token Scope
  previousCursor : Token Scope
  deriving DecidableEq

/-- A statement of a request. -/
inductive Statement
  /-- `SELECT id ORDER BY id DESC LIMIT 1`. -/
  | maxId
  /-- `SELECT * WHERE condition ORDER BY order LIMIT limit`. -/
  | find (condition : Condition) (order : Log → Log → Bool) (limit : Nat)
  /-- `SELECT id WHERE condition LIMIT 1`. -/
  | pluck (condition : Condition)

/-- What the database answers, if it does. -/
def Statement.Result : Statement → Type
  | .maxId => Option (List Int)
  | .find .. => Option (List Log)
  | .pluck _ => Option (List Int)

/-- A statement on a table, or its failure. Statements of requests only read. -/
def Statement.exec (fault : Bool) : (s : Statement) → Table Log → Table Log × s.Result
  | .maxId, t =>
    (t, if fault then none
      else some (((t.rows.map Log.id).insertionSort (fun a b => b ≤ a)).take 1))
  | .find condition order limit, t =>
    (t, if fault then none else
      some (((t.rows.filter condition).insertionSort fun a b => order a b).take limit))
  | .pluck condition, t =>
    (t, if fault then none else some (((t.rows.filter condition).take 1).map Log.id))

abbrev LogProgram := Program Statement Statement.Result

/-- The position of a row, under the snapshot of another position. -/
def LogCursor.boundary (position : LogCursor Scope) (row : Log) (newer : Bool) : LogCursor Scope where
  version := 1
  scope := position.scope
  snapshotID := position.snapshotID
  id := row.id
  createdAt := row.createdAt
  newer := newer

/-- A page that starts with one row and ends with another, with the cursors that it has. -/
def pageOf (position : LogCursor Scope) (size : Int) (items : List Log) (first last : Log)
    (hasNext hasPrevious : Bool) : LogCursorPage Scope where
  rows := items
  pageSize := size
  nextCursor := if hasNext then encodeLogCursor (position.boundary last false) else .none
  previousCursor := if hasPrevious then encodeLogCursor (position.boundary first true) else .none

section

variable (db : LogDB Scope) (self : Bool) (base : Condition) (position : LogCursor Scope)
  (hasCursor : Bool) (size : Int)

/-- The second half of `getLogCursorPage`: the cursors of a page whose rows were read. -/
def withCursors (items : List Log) (more : Bool) :
    LogProgram (Except LogError (LogCursorPage Scope)) :=
  match items.head?, items.getLast? with
  | some first, some last =>
    if hasCursor then
      let opposite :=
        if position.newer then position.boundary last false else position.boundary first true
      .call (.pluck fun r => base r && logCursorBoundary db self opposite r) fun
        | none => .done (.error .database)
        | some ids =>
          if position.newer then
            .done (.ok (pageOf position size items first last (!ids.isEmpty) more))
          else .done (.ok (pageOf position size items first last more (!ids.isEmpty)))
    else .done (.ok (pageOf position size items first last more false))
  | _, _ =>
    -- deletions may have emptied the page; its newer boundary still leads out of it
    .done (.ok
      { rows := []
        pageSize := size
        nextCursor := .none
        previousCursor := if hasCursor then encodeLogCursor { position with newer := true } else .none })

/-- The first half of `getLogCursorPage`: the rows of a page, from what was found for it. -/
def turnPage :
    Option (List Log) → LogProgram (Except LogError (LogCursorPage Scope))
  | none => .done (.error .database)
  | some found =>
    -- one row more than the page holds was asked for, to see whether there is one
    let more := decide (size < found.length)
    let items := if more then found.take size.toNat else found
    let items := if position.newer then items.reverse else items
    withCursors db self base position hasCursor size items more

end

def getLogCursorPageAt (db : LogDB Scope) (filter : LogQueryFilter) (position : LogCursor Scope)
    (hasCursor : Bool) (size : Int) : LogProgram (Except LogError (LogCursorPage Scope)) :=
  match logQuery db filter with
  | .error e => .done (.error e)
  | .ok base =>
    let condition := fun r => base r &&
      if hasCursor then logCursorBoundary db filter.self position r else r.id ≤ position.snapshotID
    .call (.find condition (logOrder filter.self position.newer) (size + 1).toNat)
      (turnPage db filter.self base position hasCursor size)

/-- The position of a request for the latest logs. -/
def LogCursor.latest (scope : Scope) (snapshotID : Int) : LogCursor Scope where
  version := 1
  scope := scope
  snapshotID := snapshotID
  id := 0
  createdAt := 0
  newer := false

/-- A request, as a program of its statements. Others may write in between, and every statement may
fail. -/
def getLogCursorPage [DecidableEq Scope] (db : LogDB Scope) (filter : LogQueryFilter)
    (token : Token Scope) (size : Int) : LogProgram (Except LogError (LogCursorPage Scope)) :=
  if size < 1 ∨ 100 < size ∨ filter.viewerID ≤ 0 then .done (.error .invalidLogCursor)
  else if token = .none then
    .call .maxId fun
      | none => .done (.error .database)
      | some ids =>
        getLogCursorPageAt db filter (.latest (db.logCursorScope filter size) (ids.headD 0)) false size
  else
    match decodeLogCursor token (db.logCursorScope filter size) with
    | .error e => .done (.error e)
    | .ok position => getLogCursorPageAt db filter position true size

def publicModelCapacityMessage : String :=
  "Selected model is at capacity. Please try a different model."

/-- `formatUserLogs`: what a user gets to see of their logs, which is not their ids. -/
def formatUserLogs (logs : List Log) (startIdx : Nat) : List Log :=
  let hidden := ["admin_info", "stream_status", "channel_name", "channel_id", "channel_type",
    "risk_reason", "anti_poison_evidence_path", "real_error", "attempts"]
  logs.mapIdx fun i r =>
    { r with
      upstreamRequestId := ""
      content := if r.type = logTypeError then publicModelCapacityMessage else r.content
      other :=
        if r.type = logTypeError then
          some [("error_code", "model_capacity"), ("error_type", "server_error")]
        else r.other.map fun fields => fields.filter fun field => !hidden.contains field.1
      id := startIdx + i + 1
      id_pos := by omega }

/-- The items of a page, as they are sent. -/
def LogCursorPage.items (page : LogCursorPage Scope) (filter : LogQueryFilter) : List Log :=
  if filter.self then formatUserLogs page.rows 0 else page.rows

/-! ## The order of the listing -/

/-- The key that a listing is ordered by: a user's logs by their id, all logs by their time
first. -/
def logKey (self : Bool) (r : Log) : ℤ ×ₗ ℤ := toLex (if self then 0 else r.createdAt, r.id)

/-- The key of a position. -/
def LogCursor.key (self : Bool) (value : LogCursor Scope) : ℤ ×ₗ ℤ :=
  toLex (if self then 0 else value.createdAt, value.id)

variable (db : LogDB Scope) (self newer : Bool) (l : List Log) (position : LogCursor Scope)
  {value : LogCursor Scope} (a r b : Log)

@[simp] theorem key_boundary : (position.boundary r newer).key self = logKey self r := rfl

@[simp] theorem newer_boundary : (position.boundary r newer).newer = newer := rfl

@[simp] theorem snapshotID_boundary :
    (position.boundary r newer).snapshotID = position.snapshotID := rfl

theorem logKey_lt : logKey self a < logKey self b ↔
      if self then a.id < b.id
      else a.createdAt < b.createdAt ∨ a.createdAt = b.createdAt ∧ a.id < b.id := by
  cases self <;> simp [logKey, Lex.toLex_lt_toLex]

theorem logOrder_iff : logOrder self newer a b = true ↔
      if newer then logKey self a ≤ logKey self b else logKey self b ≤ logKey self a := by
  cases self <;> cases newer <;>
    simp [logOrder, beyond, logKey, Lex.toLex_le_toLex] <;> omega

theorem sort_logOrder_older :
    l.insertionSort (fun a b => logOrder self false a b) = descend (logKey self) l := by
  simp only [logOrder_iff]
  rfl

theorem sort_logOrder_newer :
    l.insertionSort (fun a b => logOrder self true a b) = ascend (logKey self) l := by
  simp only [logOrder_iff]
  rfl

/-- **Older rows**: those of the snapshot with a smaller key. A user's position is in the snapshot
anyway. -/
theorem logCursorBoundary_older (hnewer : value.newer = false)
    (hsnapshot : value.id ≤ value.snapshotID) (r : Log) : logCursorBoundary db self value r =
      (decide (r.id ≤ value.snapshotID) && decide (logKey self r < value.key self)) := by
  rw [Bool.eq_iff_iff]
  cases self
  · cases hdb : db.mysql
    · simp [logCursorBoundary, beyond, logKey, LogCursor.key, Lex.toLex_lt_toLex, hnewer, hdb]
    · simp [logCursorBoundary, beyond, logKey, LogCursor.key, Lex.toLex_lt_toLex, hnewer]
      omega
  · simp [logCursorBoundary, beyond, logKey, LogCursor.key, Lex.toLex_lt_toLex, hnewer]
    omega

/-- **Newer rows**: those of the snapshot with a larger key. -/
theorem logCursorBoundary_newer (hnewer : value.newer = true) (r : Log) :
    logCursorBoundary db self value r =
      (decide (r.id ≤ value.snapshotID) && decide (value.key self < logKey self r)) := by
  rw [Bool.eq_iff_iff]
  cases self
  · cases hdb : db.mysql
    · simp [logCursorBoundary, beyond, logKey, LogCursor.key, Lex.toLex_lt_toLex, hnewer, hdb]
      omega
    · simp [logCursorBoundary, beyond, logKey, LogCursor.key, Lex.toLex_lt_toLex, hnewer, hdb]
      omega
  · simp [logCursorBoundary, logKey, LogCursor.key, Lex.toLex_lt_toLex, hnewer]
    omega

/-- **The listing**: the rows of a snapshot that meet a condition, newest first. -/
def listing (self : Bool) (base : Condition) (snapshot : Int) (t : Table Log) : List Log :=
  descend (logKey self) (t.rows.filter fun r => base r && decide (r.id ≤ snapshot))

section

variable (self : Bool) (base : Condition) (t : Table Log)

theorem mem_listing {self : Bool} {base : Condition} {t : Table Log} {snapshot : Int} {r : Log} :
    r ∈ listing self base snapshot t ↔ r ∈ t.rows ∧ base r = true ∧ r.id ≤ snapshot := by
  simp [listing]

theorem nodup_keys_filter (p : Condition) : ((t.rows.filter p).map (logKey self)).Nodup :=
  List.pairwise_map.mpr ((List.pairwise_map.mp (t.nodup_keys.sublist (List.filter_sublist.map _))).imp
    fun hne heq => hne (congrArg (fun k => (ofLex k).2) heq))

theorem descending_listing (snapshot : Int) :
    Descending (logKey self) (listing self base snapshot t) :=
  descending_descend (nodup_keys_filter self t _)

theorem descend_filter_listing (snapshot : Int) (p : Condition) :
    descend (logKey self) (t.rows.filter fun r => base r && (decide (r.id ≤ snapshot) && p r)) =
      (listing self base snapshot t).filter p := by
  rw [listing, ← descend_filter (nodup_keys_filter self t _), List.filter_filter]
  congr 2
  funext r
  rw [← Bool.and_assoc, Bool.and_comm]

variable (db : LogDB Scope) {value : LogCursor Scope}

theorem sort_boundary_older (hnewer : value.newer = false) (hsnapshot : value.id ≤ value.snapshotID) :
    (t.rows.filter fun r => base r && logCursorBoundary db self value r).insertionSort
      (fun a b => logOrder self false a b) =
      (listing self base value.snapshotID t).filter fun r => decide (logKey self r < value.key self) := by
  rw [sort_logOrder_older, ← descend_filter_listing]
  simp only [logCursorBoundary_older db self hnewer hsnapshot]

theorem sort_boundary_newer (hnewer : value.newer = true) :
    (t.rows.filter fun r => base r && logCursorBoundary db self value r).insertionSort
      (fun a b => logOrder self true a b) =
      ((listing self base value.snapshotID t).filter
        fun r => decide (value.key self < logKey self r)).reverse := by
  rw [sort_logOrder_newer, ascend_eq_reverse_descend (nodup_keys_filter self t _),
    ← descend_filter_listing]
  simp only [logCursorBoundary_newer db self hnewer]

theorem sort_latest (snapshot : Int) :
    (t.rows.filter fun r => base r && decide (r.id ≤ snapshot)).insertionSort
      (fun a b => logOrder self false a b) =
      listing self base snapshot t := sort_logOrder_older self _

end

end RenewApi.Logs
