import RenewApi.Channels.MultiKey
import RenewApi.Relational.StaleWrites

/-! # The writers of a channel row

Three kinds of calls read the row of a channel and store it back later.

* **Polling** (`GetNextEnabledKey` with the memory cache off): stores the whole `channel_info` of
  the copy.
* **Status updates** (`UpdateChannelStatus`): everything but the key is stored back.
* **Edits** (`UpdateChannel`): a transaction checks the version of the row and stores every
  configuration column where the version is still the same (`UpdateConfigTx`).

Statements of the database are atomic and interleave freely. -/

namespace RenewApi.Channels

open Relational Text Option

/-- The columns of a channel row. The parts of `channel_info` count as columns of their own. -/
inductive Column where
  | type | key | openAIOrganization | testModel | channelTestPromptID | status | name | weight
  | createdTime | testTime | responseTime | baseURL | other | balance | balanceUpdatedTime
  | models | group | usedQuota | modelMapping | statusCodeMapping | priority | autoBan
  | otherInfo | tag | setting | paramOverride | headerOverride | remark | otherSettings
  | configVersion | isMultiKey | multiKeySize | multiKeyStatusList | multiKeyDisabledReason
  | multiKeyDisabledTime | multiKeyPollingIndex | multiKeyMode
  deriving DecidableEq

inductive ColumnValue where
  | int (value : Int)
  | nat (value : Nat)
  | text (value : String)
  | optInt (value : Option Int)
  | optNat (value : Option Nat)
  | optText (value : Option String)
  | flag (value : Bool)
  | statuses (value : StatusList)
  | reasons (value : Finmap fun _ : Nat => String)
  | mode (value : MultiKeyMode)
  deriving DecidableEq

def column (col : Column) (c : Channel) : ColumnValue :=
  match col with
  | .type => .int c.type
  | .key => .text c.key
  | .openAIOrganization => .optText c.openAIOrganization
  | .testModel => .optText c.testModel
  | .channelTestPromptID => .int c.channelTestPromptID
  | .status => .int c.status
  | .name => .text c.name
  | .weight => .optNat c.weight
  | .createdTime => .int c.createdTime
  | .testTime => .int c.testTime
  | .responseTime => .int c.responseTime
  | .baseURL => .optText c.baseURL
  | .other => .text c.other
  | .balance => .int c.balance
  | .balanceUpdatedTime => .int c.balanceUpdatedTime
  | .models => .text c.models
  | .group => .text c.group
  | .usedQuota => .int c.usedQuota
  | .modelMapping => .optText c.modelMapping
  | .statusCodeMapping => .optText c.statusCodeMapping
  | .priority => .optInt c.priority
  | .autoBan => .optInt c.autoBan
  | .otherInfo => .text c.otherInfo
  | .tag => .optText c.tag
  | .setting => .optText c.setting
  | .paramOverride => .optText c.paramOverride
  | .headerOverride => .optText c.headerOverride
  | .remark => .optText c.remark
  | .otherSettings => .text c.otherSettings
  | .configVersion => .int c.configVersion
  | .isMultiKey => .flag c.channelInfo.isMultiKey
  | .multiKeySize => .nat c.channelInfo.multiKeySize
  | .multiKeyStatusList => .statuses c.channelInfo.multiKeyStatusList
  | .multiKeyDisabledReason => .reasons c.channelInfo.multiKeyDisabledReason
  | .multiKeyDisabledTime => .statuses c.channelInfo.multiKeyDisabledTime
  | .multiKeyPollingIndex => .int c.channelInfo.multiKeyPollingIndex
  | .multiKeyMode => .mode c.channelInfo.multiKeyMode

/-- The column is a part of `channel_info`. -/
def Column.ofInfo : Column → Bool
  | .isMultiKey | .multiKeySize | .multiKeyStatusList | .multiKeyDisabledReason
  | .multiKeyDisabledTime | .multiKeyPollingIndex | .multiKeyMode => true
  | _ => false

/-! ## Polling -/

def enabledIndexes (keys : List String) (list : StatusList) : List Nat :=
  (List.range keys.length).filter (keyEnabled list)

/-- What `GetNextEnabledKey` answers, the copy it leaves, and whether it stores the copy. -/
structure NextKey where
  answer : Except String (String × Nat)
  copy : Channel
  saves : Bool

section

variable (codec : Codec) (c : Channel) (stored : Int) (draw : Nat)

/-- **`GetNextEnabledKey`** with the memory cache off: `stored` is the polling index of the row,
`draw` the random number of the mode `random`. -/
def getNextEnabledKey : NextKey :=
  if !c.channelInfo.isMultiKey then ⟨.ok (c.key, 0), c, false⟩
  else
    let keys := c.getKeys codec
    let enabled := enabledIndexes keys c.channelInfo.multiKeyStatusList
    let key (i : Nat) : String × Nat := (keys.getD i "", i)
    if keys = [] then ⟨.error "no keys available", c, false⟩
    else
      match enabled with
      | [] => ⟨.error "no enabled keys", c, false⟩
      | first :: _ =>
        match c.channelInfo.multiKeyMode with
        | .random => ⟨.ok (key (enabled.getD (draw % enabled.length) 0)), c, false⟩
        | .polling =>
          -- the index of the row, although all the rest is read from the copy
          let start := if stored < 0 ∨ keys.length ≤ stored then 0 else stored.toNat
          let turns := (List.range keys.length).map fun i => (start + i) % keys.length
          match turns.find? (keyEnabled c.channelInfo.multiKeyStatusList) with
          | some i =>
            ⟨.ok (key i), { c with channelInfo :=
              { c.channelInfo with multiKeyPollingIndex := ((i + 1) % keys.length : Nat) } }, true⟩
          | none => ⟨.ok (key first), c, true⟩
        | .unknown _ => ⟨.ok (key first), c, false⟩

theorem column_getNextEnabledKey {col : Column} (h : col ≠ .multiKeyPollingIndex) :
    column col (getNextEnabledKey codec c stored draw).copy = column col c := by
  unfold getNextEnabledKey
  dsimp only
  split
  · rfl
  · split
    · rfl
    · split
      · rfl
      · split
        · rfl
        · split
          · cases col <;> first | rfl | exact absurd rfl h
          · rfl
        · rfl

end

/-! ## Edits -/

/-- **An edit**: the fields present in the request, the key mode and key action, and the version
expected. -/
structure Edit where
  present : Column → Bool
  patch : Channel
  multiKeyMode : Option MultiKeyMode
  clearKey : Bool
  expected : Option Int

/-- What the rest of the service decides about an edit. -/
structure EditEnv where
  accepts : Edit → Channel → Channel → Bool
  composeKey : Edit → Channel → String
  /-- The transaction goes on: the mapping may change so, and `BuildChangeSet` finds a change. -/
  changed : Edit → Channel → Channel → Bool

/-- **`mergePatchChannelWithOrigin`**: the fields that are present, on top of the row that was
read. -/
def mergePatchChannelWithOrigin (present : Column → Bool) (patch origin : Channel) : Channel :=
  { origin with
    type := if present .type then patch.type else origin.type
    key := if present .key then patch.key else origin.key
    openAIOrganization := if present .openAIOrganization then patch.openAIOrganization
      else origin.openAIOrganization
    testModel := if present .testModel then patch.testModel else origin.testModel
    channelTestPromptID := if present .channelTestPromptID then patch.channelTestPromptID
      else origin.channelTestPromptID
    status := if present .status then patch.status else origin.status
    name := if present .name then patch.name else origin.name
    weight := if present .weight then patch.weight else origin.weight
    createdTime := if present .createdTime then patch.createdTime else origin.createdTime
    testTime := if present .testTime then patch.testTime else origin.testTime
    responseTime := if present .responseTime then patch.responseTime else origin.responseTime
    baseURL := if present .baseURL then patch.baseURL else origin.baseURL
    other := if present .other then patch.other else origin.other
    balance := if present .balance then patch.balance else origin.balance
    balanceUpdatedTime := if present .balanceUpdatedTime then patch.balanceUpdatedTime
      else origin.balanceUpdatedTime
    models := if present .models then patch.models else origin.models
    group := if present .group then patch.group else origin.group
    usedQuota := if present .usedQuota then patch.usedQuota else origin.usedQuota
    modelMapping := if present .modelMapping then patch.modelMapping else origin.modelMapping
    statusCodeMapping := if present .statusCodeMapping then patch.statusCodeMapping
      else origin.statusCodeMapping
    priority := if present .priority then patch.priority else origin.priority
    autoBan := if present .autoBan then patch.autoBan else origin.autoBan
    otherInfo := if present .otherInfo then patch.otherInfo else origin.otherInfo
    tag := if present .tag then patch.tag else origin.tag
    setting := if present .setting then patch.setting else origin.setting
    paramOverride := if present .paramOverride then patch.paramOverride else origin.paramOverride
    headerOverride := if present .headerOverride then patch.headerOverride else origin.headerOverride
    remark := if present .remark then patch.remark else origin.remark
    otherSettings := if present .otherSettings then patch.otherSettings else origin.otherSettings }

def Edit.updateKey (edit : Edit) : Bool := edit.present .key || edit.clearKey

/-- The row that an edit proposes. -/
def Edit.merged (env : EditEnv) (edit : Edit) (origin : Channel) : Channel :=
  { mergePatchChannelWithOrigin edit.present edit.patch origin with
    key := if edit.updateKey then env.composeKey edit origin else origin.key
    channelInfo := { origin.channelInfo with
      multiKeyMode := edit.multiKeyMode.getD origin.channelInfo.multiKeyMode } }

/-- The number of keys in a key column, as `UpdateConfigTx` counts them. -/
def countKeys (codec : Codec) (key : String) : Nat :=
  if key = "" then 0
  else
    let lines := (split '\n' (trimChar '\n' key)).length
    if (trimSpace key).toList.head? = some '[' then
      match codec.keyArray (trimSpace key) with
      | none | some [] => lines
      | some (k :: ks) => (k :: ks).length
    else lines

def belowIndex (list : StatusList) (n : Nat) : StatusList :=
  (List.range n).foldl (fun kept i =>
    match list.lookup i with
    | none => kept
    | some status => kept.insert i status) ∅

/-- A multi-key channel has its size counted again and loses the entries beyond it. -/
def resize (info : ChannelInfo) (n : Nat) : ChannelInfo :=
  if info.isMultiKey then
    { info with multiKeySize := n, multiKeyStatusList := belowIndex info.multiKeyStatusList n }
  else info

/-- The statement of **`UpdateConfigTx`**: the configuration columns, the key only on demand, and
the next version. -/
def writeConfig (row proposed : Channel) (updateKey : Bool) : Channel :=
  { row with
    type := proposed.type
    openAIOrganization := proposed.openAIOrganization
    testModel := proposed.testModel
    channelTestPromptID := proposed.channelTestPromptID
    status := proposed.status
    name := proposed.name
    weight := proposed.weight
    baseURL := proposed.baseURL
    other := proposed.other
    balance := proposed.balance
    balanceUpdatedTime := proposed.balanceUpdatedTime
    models := proposed.models
    group := proposed.group
    modelMapping := proposed.modelMapping
    statusCodeMapping := proposed.statusCodeMapping
    priority := proposed.priority
    autoBan := proposed.autoBan
    otherInfo := proposed.otherInfo
    tag := proposed.tag
    setting := proposed.setting
    paramOverride := proposed.paramOverride
    headerOverride := proposed.headerOverride
    remark := proposed.remark
    otherSettings := proposed.otherSettings
    key := if updateKey then proposed.key else row.key
    channelInfo := proposed.channelInfo
    configVersion := row.configVersion + 1 }

/-! ## The system -/

/-- Where a call stands, with the copies it has read. -/
inductive Proc where
  | idle
  | loaded (copy : Channel)
  /-- A request has chosen its key and is about to store `channel_info`; it holds the lock. -/
  | saving (copy : Channel)
  | updating (call : StatusCall) (copy : Channel)
  | writing (call : StatusCall) (copy : Channel)
  | editing (edit : Edit) (origin : Channel)
  /-- Its transaction has read the row again and found the expected version. -/
  | checked (edit : Edit) (origin : Channel) (version : Int)
  /-- `UpdateConfigTx` has counted the keys. -/
  | prepared (edit : Edit) (origin : Channel) (version : Int) (keyCount : Nat)

/-- The row of a channel, the lock of its polling, and the calls at work on it. -/
structure Writers (ρ : Type*) where
  row : Channel
  lock : Option ρ
  proc : ρ → Proc

/-- One atomic step of a call. -/
inductive WriterEvent (ρ : Type*) where
  | load (r : ρ)
  | next (r : ρ) (draw : Nat)
  | save (r : ρ)
  | read (r : ρ) (call : StatusCall)
  | handle (r : ρ)
  | write (r : ρ)
  | edit (r : ρ) (edit : Edit)
  | check (r : ρ)
  | prepare (r : ρ)
  | commit (r : ρ)

/-- What the steps depend on besides the state. -/
structure WriterEnv where
  codec : Codec
  note : Note
  edits : EditEnv

section

variable {ρ : Type*} [DecidableEq ρ] (env : WriterEnv)

/-- A call moves on. -/
def Writers.goto (s : Writers ρ) (r : ρ) (p : Proc) : Writers ρ :=
  { s with proc := Function.update s.proc r p }

def Edit.base (origin : Channel) (keyCount : Nat) : Channel :=
  { origin with channelInfo := resize origin.channelInfo keyCount }

/-- The row that `UpdateConfigTx` stores columns of. -/
def Edit.proposed (edit : Edit) (origin : Channel) (keyCount : Nat) : Channel :=
  let merged := edit.merged env.edits origin
  { merged with channelInfo := resize merged.channelInfo keyCount }

namespace Writers

variable (s : Writers ρ) (r : ρ)

/-- A request loads the channel. -/
def load : Writers ρ :=
  match s.proc r with
  | .idle => s.goto r (.loaded s.row)
  | _ => s

/-- A request chooses its key, once it has the lock; the polling index is read from the row. -/
def next (draw : Nat) : Writers ρ :=
  match s.proc r with
  | .loaded copy =>
    let next := getNextEnabledKey env.codec copy s.row.channelInfo.multiKeyPollingIndex draw
    -- another request holds the lock: this one waits
    if s.lock ≠ none then s
    else if next.saves then { s.goto r (.saving next.copy) with lock := some r }
    else s.goto r .idle
  | _ => s

/-- **`SaveChannelInfo`**, after which the lock is free. -/
def save : Writers ρ :=
  match s.proc r with
  | .saving copy =>
    { s.goto r .idle with row := { s.row with channelInfo := copy.channelInfo }, lock := none }
  | _ => s

/-- A status update reads the row; there is nothing more to do for the row when it has the
status. -/
def read (call : StatusCall) : Writers ρ :=
  match s.proc r with
  | .idle => if s.row.status = call.status then s else s.goto r (.updating call s.row)
  | _ => s

/-- It works on its copy, for several keys under the lock. -/
def handle : Writers ρ :=
  match s.proc r with
  | .updating call copy =>
    if copy.channelInfo.isMultiKey ∧ s.lock ≠ none then s else s.goto r (.writing call copy)
  | _ => s

/-- **`SaveWithoutKey`**. -/
def write : Writers ρ :=
  match s.proc r with
  | .writing call copy =>
    { s.goto r .idle with row := { updatedRow env.codec env.note copy call with key := s.row.key } }
  | _ => s

/-- An edit reads the row, and goes on if the merged row is acceptable. -/
def edit (edit : Edit) : Writers ρ :=
  match s.proc r with
  | .idle =>
    if env.edits.accepts edit s.row (edit.merged env.edits s.row) then s.goto r (.editing edit s.row)
    else s
  | _ => s

/-- Its transaction compares the version of the row with the expected one, by default the one it has
read. -/
def check : Writers ρ :=
  match s.proc r with
  | .editing edit origin =>
    if edit.expected.getD origin.configVersion ≠ s.row.configVersion then s.goto r .idle
    else if env.edits.changed edit s.row (edit.merged env.edits origin) then
      s.goto r (.checked edit origin s.row.configVersion)
    else s.goto r .idle
  | _ => s

/-- `UpdateConfigTx` counts the keys: those of the edit, or those of the row. -/
def prepare : Writers ρ :=
  match s.proc r with
  | .checked edit origin version =>
    let key := if edit.updateKey then (edit.merged env.edits origin).key else s.row.key
    s.goto r (.prepared edit origin version (countKeys env.codec key))
  | _ => s

/-- It stores the columns where the version is still the same. -/
def commit : Writers ρ :=
  match s.proc r with
  | .prepared edit origin version keyCount =>
    if s.row.configVersion = version then
      { s.goto r .idle with
        row := writeConfig s.row (edit.proposed env origin keyCount) edit.updateKey }
    else s.goto r .idle
  | _ => s

/-- **One step.** A step of a call that stands elsewhere, or that waits for the lock, does
nothing. -/
def step (e : WriterEvent ρ) : Writers ρ :=
  match e with
  | .load r => s.load r
  | .next r draw => s.next env r draw
  | .save r => s.save r
  | .read r call => s.read r call
  | .handle r => s.handle r
  | .write r => s.write env r
  | .edit r edit => s.edit env r edit
  | .check r => s.check env r
  | .prepare r => s.prepare env r
  | .commit r => s.commit env r

end Writers

end

/-! ## The writes -/

/-- What a status update is about. -/
def statusCarries : Column → Bool
  | .status | .otherInfo | .multiKeyStatusList | .multiKeyDisabledReason | .multiKeyDisabledTime => true
  | _ => false

def Edit.stores (edit : Edit) : Column → Bool
  | .key => edit.updateKey
  | .createdTime | .testTime | .responseTime | .usedQuota => false
  | _ => true

/-- What an edit is about: the fields present in the request, and the version. New keys come with a
new count of keys and status entries for those keys. -/
def Edit.carries (edit : Edit) : Column → Bool
  | .key | .multiKeySize | .multiKeyStatusList => edit.updateKey
  | .createdTime | .testTime | .responseTime | .usedQuota => false
  | .isMultiKey | .multiKeyDisabledReason | .multiKeyDisabledTime | .multiKeyPollingIndex => false
  | .multiKeyMode => edit.multiKeyMode.isSome
  | .configVersion => true
  | col => edit.present col

section

variable {ρ : Type*} [DecidableEq ρ] (env : WriterEnv) {s : Writers ρ} {r : ρ}

/-- **The writes of the row**, each with the copy it is based on. -/
def Writers.writeOf (s : Writers ρ) (e : WriterEvent ρ) : Option (StaleWrite Channel Column) :=
  match e with
  | .save r =>
    match s.proc r with
    | .saving copy =>
      some ⟨copy, (· = .multiKeyPollingIndex), Column.ofInfo,
        { s.row with channelInfo := copy.channelInfo }⟩
    | _ => none
  | .write r =>
    match s.proc r with
    | .writing call copy =>
      some ⟨copy, statusCarries, (· ≠ .key),
        { updatedRow env.codec env.note copy call with key := s.row.key }⟩
    | _ => none
  | .commit r =>
    match s.proc r with
    | .prepared edit origin version keyCount =>
      if s.row.configVersion = version then
        some ⟨Edit.base origin keyCount, edit.carries, edit.stores,
          writeConfig s.row (edit.proposed env origin keyCount) edit.updateKey⟩
      else none
    | _ => none
  | _ => none

variable (copy row : Channel) (call : StatusCall) {col : Column}

/-- An edit proposes its own values in the columns it carries and those it starts from elsewhere. -/
theorem column_proposed (edit : Edit) (origin row : Channel) (keyCount : Nat)
    (h : edit.carries col = false) :
    column col (writeConfig row (edit.proposed env origin keyCount) edit.updateKey) =
      column col (if edit.stores col then Edit.base origin keyCount else row) := by
  -- the part of `channel_info` that an edit is about is the mode
  have hinfo : (edit.proposed env origin keyCount).channelInfo =
      { resize origin.channelInfo keyCount with
        multiKeyMode := edit.multiKeyMode.getD origin.channelInfo.multiKeyMode } := by
    unfold Edit.proposed Edit.merged resize
    dsimp only
    split <;> rfl
  have hcolumn : col.ofInfo = true →
      column col (writeConfig row (edit.proposed env origin keyCount) edit.updateKey) =
        column col { origin with channelInfo := { resize origin.channelInfo keyCount with
          multiKeyMode := edit.multiKeyMode.getD origin.channelInfo.multiKeyMode } } :=
    fun hof => by cases col <;> first | (simp only [column, writeConfig, hinfo]; done) | cases hof
  cases col with
  | isMultiKey | multiKeyDisabledReason | multiKeyDisabledTime | multiKeyPollingIndex | multiKeySize
  | multiKeyStatusList =>
    rw [hcolumn rfl]
    rfl
  | multiKeyMode =>
    simp only [Edit.carries, isSome_eq_false_iff, isNone_iff_eq_none] at h
    rw [hcolumn rfl, h]
    unfold Edit.base resize
    split <;> rfl
  | key =>
    simp only [Edit.carries] at h
    simp [column, writeConfig, Edit.stores, h]
  | createdTime | testTime | responseTime | usedQuota => rfl
  | configVersion => cases h
  | _ =>
    -- a field that is not present is merged from the row that was read
    simp only [Edit.carries] at h
    simp only [column, Edit.proposed, Edit.merged, mergePatchChannelWithOrigin, h,
      Bool.false_eq_true]
    rfl

theorem column_updatedRow (h : statusCarries col = false) :
    column col { updatedRow env.codec env.note copy call with key := row.key } =
      column col (if col ≠ .key then copy else row) := by
  obtain ⟨status, otherInfo, list, reasons, times, heq⟩ := updatedRow_eq env.codec env.note copy call
  rw [heq]
  cases col with
  | status | otherInfo | multiKeyStatusList | multiKeyDisabledReason | multiKeyDisabledTime => cases h
  | _ => rfl

theorem row_save {copy : Channel} (hp : s.proc r = .saving copy) :
    (s.save r).row = { s.row with channelInfo := copy.channelInfo } := by
  rw [Writers.save, hp]

theorem row_write {call : StatusCall} {copy : Channel} (hp : s.proc r = .writing call copy) :
    (s.write env r).row =
      { updatedRow env.codec env.note copy call with key := s.row.key } := by
  rw [Writers.write, hp]

theorem row_commit {edit : Edit} {origin : Channel} {version : Int} {keyCount : Nat}
    (hp : s.proc r = .prepared edit origin version keyCount) :
    (s.commit env r).row =
      if s.row.configVersion = version then
        writeConfig s.row (edit.proposed env origin keyCount) edit.updateKey
      else s.row := by
  rw [Writers.commit, hp]
  dsimp only
  split <;> rfl

omit [DecidableEq ρ] in
/-- A write is that of a request, of a status update or of an edit. -/
theorem writeOf_eq_some {e : WriterEvent ρ} {w : StaleWrite Channel Column}
    (h : s.writeOf env e = some w) :
    (∃ r copy, e = .save r ∧ s.proc r = .saving copy ∧
      w = ⟨copy, (· = .multiKeyPollingIndex), Column.ofInfo,
        { s.row with channelInfo := copy.channelInfo }⟩) ∨
    (∃ r call copy, e = .write r ∧ s.proc r = .writing call copy ∧
      w = ⟨copy, statusCarries, (· ≠ .key),
        { updatedRow env.codec env.note copy call with key := s.row.key }⟩) ∨
    ∃ r edit origin keyCount, e = .commit r ∧
      s.proc r = .prepared edit origin s.row.configVersion keyCount ∧
      w = ⟨Edit.base origin keyCount, edit.carries, edit.stores,
        writeConfig s.row (edit.proposed env origin keyCount) edit.updateKey⟩ := by
  cases e with
  | save r =>
    cases hp : s.proc r with
    | saving copy =>
      simp only [Writers.writeOf, hp, some.injEq] at h
      exact Or.inl ⟨r, copy, rfl, hp, h.symm⟩
    | _ => simp [Writers.writeOf, hp] at h
  | write r =>
    cases hp : s.proc r with
    | writing call copy =>
      simp only [Writers.writeOf, hp, some.injEq] at h
      exact Or.inr (Or.inl ⟨r, call, copy, rfl, hp, h.symm⟩)
    | _ => simp [Writers.writeOf, hp] at h
  | commit r =>
    cases hp : s.proc r with
    | prepared edit origin _ keyCount =>
      simp only [Writers.writeOf, hp] at h
      split at h
      · rename_i hversion
        subst hversion
        exact Or.inr (Or.inr ⟨r, edit, origin, keyCount, rfl, hp, (some.inj h).symm⟩)
      · cases h
    | _ => simp [Writers.writeOf, hp] at h
  | _ => cases h

theorem writesOnly_step : WritesOnly column (Writers.row : Writers ρ → Channel) (Writers.step env)
    (Writers.writeOf env) where
  idle := by
    intro s e h
    cases e with
    | load r =>
      show (s.load r).row = s.row
      unfold Writers.load
      split <;> rfl
    | next r draw =>
      show (s.next env r draw).row = s.row
      unfold Writers.next
      split
      · dsimp only
        split
        · rfl
        · split <;> rfl
      · rfl
    | read r call =>
      show (s.read r call).row = s.row
      unfold Writers.read
      split
      · split <;> rfl
      · rfl
    | handle r =>
      show (s.handle r).row = s.row
      unfold Writers.handle
      split
      · split <;> rfl
      · rfl
    | edit r edit =>
      show (s.edit env r edit).row = s.row
      unfold Writers.edit
      split
      · split <;> rfl
      · rfl
    | check r =>
      show (s.check env r).row = s.row
      unfold Writers.check
      split
      · split
        · rfl
        · split <;> rfl
      · rfl
    | prepare r =>
      show (s.prepare env r).row = s.row
      unfold Writers.prepare
      split <;> rfl
    | save r =>
      show (s.save r).row = s.row
      unfold Writers.save
      cases hp : s.proc r with
      | saving copy =>
        simp only [Writers.writeOf, hp] at h
        cases h
      | _ => rfl
    | write r =>
      show (s.write env r).row = s.row
      unfold Writers.write
      cases hp : s.proc r with
      | writing =>
        simp only [Writers.writeOf, hp] at h
        cases h
      | _ => rfl
    | commit r =>
      show (s.commit env r).row = s.row
      cases hp : s.proc r with
      | prepared edit =>
        simp only [Writers.writeOf, hp] at h
        split at h
        · cases h
        · -- another edit was committed first
          rename_i hversion
          rw [row_commit env hp, if_neg hversion]
      | _ => rw [Writers.commit, hp]
  stored := by
    intro s e w h
    rcases writeOf_eq_some env h with ⟨r, copy, rfl, hp, rfl⟩ | ⟨r, call, copy, rfl, hp, rfl⟩ |
      ⟨r, edit, origin, keyCount, rfl, hp, rfl⟩
    · exact ⟨row_save hp, fun col _ => by cases col <;> rfl⟩
    · refine ⟨row_write env hp, fun col hcol => ?_⟩
      simpa using column_updatedRow env copy s.row call hcol
    · refine ⟨(row_commit env hp).trans (if_pos rfl), fun col hcol => ?_⟩
      exact column_proposed env edit origin s.row keyCount hcol

end

end RenewApi.Channels
