import Mathlib.Data.Int.Interval
import RenewApi.Logs.Walk

/-! # What the log pages list

What a viewer was shown at some point of their walk through the logs (`Lists`): rows that they ask
for, newest first, none twice and none that is newer than the snapshot; and, at the end, all of
them. -/

namespace RenewApi.Logs

open Relational Concurrent List

variable {Scope : Type} (db : LogDB Scope) (filter : LogQueryFilter)

/-- One row stands before another: by their ids in the view of a user, and by their times first in
that of an administrator. -/
def NewestFirst (self : Bool) (a b : Log) : Prop :=
  if self then b.id < a.id else b.createdAt < a.createdAt ∨ b.createdAt = a.createdAt ∧ b.id < a.id

/-- An item shows a row: it may hide the id and what is for administrators only. -/
structure Shows (item row : Log) : Prop where
  createdAt : item.createdAt = row.createdAt
  type : item.type = row.type
  userId : item.userId = row.userId
  username : item.username = row.username
  tokenName : item.tokenName = row.tokenName
  modelName : item.modelName = row.modelName
  channelId : item.channelId = row.channelId
  group : item.group = row.group
  requestId : item.requestId = row.requestId

/-- **What was returned** at some point of a walk. -/
structure Lists (w : Walk Scope) : Prop where
  ordered : w.rows.Pairwise (NewestFirst filter.self)
  distinct : (w.rows.map Log.id).Nodup
  /-- Only rows that the viewer asks for were returned, and none that is newer than the snapshot. -/
  asked : ∀ r ∈ w.rows, Matches db filter r ∧ ∃ snapshot, w.snapshot = some snapshot ∧ r.id ≤ snapshot
  /-- At the end, every row of the snapshot that is still there was returned once. -/
  complete : w.finished = true → ∃ snapshot, w.snapshot = some snapshot ∧
    ∀ r ∈ w.table.rows, Matches db filter r → r.id ≤ snapshot → w.rows.count r = 1
  ends : ∀ snapshot, w.snapshot = some snapshot → w.pages.length ≤ snapshot.toNat + 1
  shown : ∀ page ∈ w.pages, List.Forall₂ Shows (page.items filter) page.rows

section

variable {db filter} {size : Int} {w : Walk Scope} {base : Condition} {snapshot : Int}
  {origin : Table Log} {returned : List Log}

section

variable (h : Kept db filter size w base snapshot origin returned)
include h

theorem Kept.ordered : returned.Pairwise (NewestFirst filter.self) :=
  h.progress.descending.imp fun hlt => (logKey_lt filter.self _ _).mp hlt

theorem Kept.distinct : (returned.map Log.id).Nodup := by
  refine Nodup.map_on (fun a ha b hb hid => ?_) h.progress.descending.nodup
  exact Table.eq_of_key (h.returned_mem a ha).1 (h.returned_mem b hb).1 hid

theorem Kept.length_le : returned.length ≤ snapshot.toNat := by
  have hsub : (returned.map Log.id).toFinset ⊆ Finset.Icc 1 snapshot := by
    intro i hi
    obtain ⟨r, hr, rfl⟩ := mem_map.mp (mem_toFinset.mp hi)
    exact Finset.mem_Icc.mpr ⟨r.id_pos, (h.returned_mem r hr).2.2⟩
  have hcard := Finset.card_le_card hsub
  rwa [toFinset_card_of_nodup h.distinct, length_map, Int.card_Icc, Int.add_sub_cancel] at hcard

theorem Kept.asked (r : Log) (hr : r ∈ returned) :
    Matches db filter r ∧ ∃ snapshot, w.snapshot = some snapshot ∧ r.id ≤ snapshot :=
  ⟨⟨base, h.query, (h.returned_mem r hr).2.1⟩, snapshot, h.snapshot_eq, (h.returned_mem r hr).2.2⟩

end

theorem shows_items (filter : LogQueryFilter) (page : LogCursorPage Scope) :
    Forall₂ Shows (page.items filter) page.rows := by
  rw [LogCursorPage.items]
  split
  · refine forall₂_iff_get.mpr ⟨length_mapIdx, fun i hi hi' => ?_⟩
    simp only [formatUserLogs, get_eq_getElem, getElem_mapIdx]
    exact ⟨rfl, rfl, rfl, rfl, rfl, rfl, rfl, rfl, rfl⟩
  · exact forall₂_same.mpr fun r _ => ⟨rfl, rfl, rfl, rfl, rfl, rfl, rfl, rfl, rfl⟩

theorem lists_of_no_pages (hpages : w.pages = []) (hfin : w.finished = false) : Lists db filter w := by
  have hrows : w.rows = [] := by rw [Walk.rows, hpages]; rfl
  exact ⟨by simp [hrows], by simp [hrows], by simp [hrows], by simp [hfin], by simp [hpages],
    fun page _ => shows_items filter page⟩

/-- After the first page. -/
theorem Kept.lists (h : Kept db filter size w base snapshot origin w.rows)
    (hfull : w.pages.length * size.toNat ≤ w.rows.length + size.toNat)
    (hall : w.finished = true → AllReturned filter w base snapshot w.rows) : Lists db filter w := by
  have hone := h.proper.one_le
  refine ⟨h.ordered, h.distinct, h.asked, fun hfin => ⟨snapshot, h.snapshot_eq, ?_⟩, ?_,
    fun page _ => shows_items filter page⟩
  · rintro r hr ⟨base', hquery, hbase⟩ hle
    have hbase' : base' = base := Except.ok.inj (hquery.symm.trans h.query)
    have hmem : r ∈ w.rows := hall hfin r (mem_listing.mpr ⟨hr, hbase' ▸ hbase, hle⟩)
    exact count_eq_one_of_mem h.progress.descending.nodup hmem
  · intro snapshot' hsnapshot
    obtain rfl : snapshot' = snapshot := Option.some.inj (hsnapshot.symm.trans h.snapshot_eq)
    have hlen := h.length_le
    -- every page but the last one has at least one row
    rcases hpages : w.pages.length with _ | k
    · omega
    · rw [hpages, Nat.succ_mul] at hfull
      have hk : k ≤ k * size.toNat := Nat.le_mul_of_pos_right k (by omega)
      omega

variable [DecidableEq Scope]

/-- **Wherever a viewer is**, they were shown what they should have been shown. -/
theorem Walking.lists (h : Walking db filter size w) : Lists db filter w := by
  cases h with
  | fresh unread | latest _ unread => exact lists_of_no_pages unread.1 unread.2.2
  | under paused | turning paused =>
    have hfull := paused.full
    exact paused.toKept.lists (by omega) (by simp [paused.unfinished])
  | ended kept hfull _ _ hall => exact kept.lists hfull fun _ => hall

end

/-! ## Foreign cursors -/

section

def Bound (scope : Scope) (result : Except LogError (LogCursorPage Scope)) : Prop :=
  ∀ page, result = .ok page → ∀ cursor ∈ [page.nextCursor, page.previousCursor], cursor ≠ .none →
    ∃ value, cursor = .sealed value ∧ value.scope = scope

variable {db filter} {size : Int}

theorem bound_error (scope : Scope) (e : LogError) : Bound scope (.error e) := by
  intro page hpage
  cases hpage

theorem bound_pageOf (position : LogCursor Scope) (items : List Log) (first last : Log)
    (hasNext hasPrevious : Bool) :
    Bound position.scope (.ok (pageOf position size items first last hasNext hasPrevious)) := by
  rintro page ⟨⟩ cursor hcursor hne
  simp only [mem_cons, not_mem_nil, or_false] at hcursor
  rcases hcursor with rfl | rfl
  · cases hasNext
    · exact absurd rfl hne
    · exact ⟨_, rfl, rfl⟩
  · cases hasPrevious
    · exact absurd rfl hne
    · exact ⟨_, rfl, rfl⟩

theorem bound_withCursors (self : Bool) (base : Condition) (position : LogCursor Scope)
    (hasCursor : Bool) (items : List Log) (more : Bool) :
    (withCursors db self base position hasCursor size items more).Ends (Bound position.scope) := by
  rw [withCursors]
  split
  · split
    · refine .call fun answer => ?_
      cases answer with
      | none => exact .done (bound_error _ _)
      | some ids =>
        show Program.Ends _ (if position.newer = true then _ else _)
        split
        · exact .done (bound_pageOf _ _ _ _ _ _)
        · exact .done (bound_pageOf _ _ _ _ _ _)
    · exact .done (bound_pageOf _ _ _ _ _ _)
  · refine .done ?_
    rintro page ⟨⟩ cursor hcursor hne
    simp only [mem_cons, not_mem_nil, or_false] at hcursor
    rcases hcursor with rfl | rfl
    · exact absurd rfl hne
    · cases hasCursor
      · exact absurd rfl hne
      · exact ⟨_, rfl, rfl⟩

theorem bound_getLogCursorPageAt (position : LogCursor Scope) (hasCursor : Bool) :
    (getLogCursorPageAt db filter position hasCursor size).Ends (Bound position.scope) := by
  rw [getLogCursorPageAt]
  split
  · exact .done (bound_error _ _)
  · refine .call fun answer => ?_
    cases answer with
    | none => exact .done (bound_error _ _)
    | some => exact bound_withCursors ..

variable [DecidableEq Scope]

/-- **Cursors are bound** to the filter and the page size of the request. -/
theorem bound_getLogCursorPage (token : Token Scope) :
    (getLogCursorPage db filter token size).Ends (Bound (db.logCursorScope filter size)) := by
  rw [getLogCursorPage]
  split
  · exact .done (bound_error _ _)
  split
  · refine .call fun answer => ?_
    cases answer with
    | none => exact .done (bound_error _ _)
    | some ids => exact bound_getLogCursorPageAt (.latest _ _) false
  · split
    · exact .done (bound_error _ _)
    · next hdecode =>
      obtain ⟨-, haccepted⟩ := of_decodeLogCursor hdecode
      rw [← haccepted.scope]
      exact bound_getLogCursorPageAt ..

theorem refused_of_scope_ne {value : LogCursor Scope}
    (h : value.scope ≠ db.logCursorScope filter size) :
    getLogCursorPage db filter (.sealed value) size = .done (.error .invalidLogCursor) := by
  rw [getLogCursorPage]
  split
  · rfl
  · rw [if_neg (by simp), decodeLogCursor, if_pos (.inr (.inl h))]

end

/-! ## The contract of the cursors -/

variable [DecidableEq Scope] (size : Int)

/-- **Log cursors**: every walk lists each row of its snapshot once and in order; on a table that
does not change the way back leads through the same pages; and a cursor is refused for another
filter or page size. -/
theorem log_cursor_pages (t : Table Log) (es : List WalkEvent)
    (hes : Along (Walk.step db filter size) Walk.Beyond (Walk.start t) es) :
    Lists db filter (run (Walk.step db filter size) (Walk.start t) es) ∧
    (∀ t token page, fetch db filter token size t = .ok page → page.nextCursor ≠ .none →
      ∃ page', fetch db filter page.nextCursor size t = .ok page' ∧
        page'.previousCursor ≠ .none ∧ fetch db filter page'.previousCursor size t = .ok page) ∧
    (∀ token, (getLogCursorPage db filter token size).Ends fun result => ∀ page, result = .ok page →
      ∀ cursor ∈ [page.nextCursor, page.previousCursor], cursor ≠ .none →
        ∀ filter' size', (filter', size') ≠ (filter, size) →
          getLogCursorPage db filter' cursor size' = .done (.error .invalidLogCursor)) := by
  refine ⟨(walking_run t es hes).lists,
    fun t token page hpage hnext => fetch_previous_of_next hpage hnext,
    fun token => (bound_getLogCursorPage token).mono fun result hbound page hpage cursor hcursor hne
      filter' size' hother => ?_⟩
  obtain ⟨value, rfl, hscope⟩ := hbound page hpage cursor hcursor hne
  refine refused_of_scope_ne fun hsame => hother ?_
  obtain ⟨rfl, rfl⟩ := db.scope_injective (hscope.symm.trans hsame)
  rfl

/-- A database that compares texts byte by byte, and a hash without collisions. -/
def plainDB : LogDB (LogQueryFilter × Int) where
  mysql := false
  textEq a b := a == b
  textLike pattern value := pattern == value
  logCursorScope := Prod.mk
  scope_injective := fun _ _ _ _ h => ⟨congrArg Prod.fst h, congrArg Prod.snd h⟩

/-- A viewer who filters by nothing. -/
def everything : LogQueryFilter := ⟨1, 0, 0, 0, [], 0, 0, "", "", "", "", "", ""⟩

/-- A row of which only the id and the time matter. -/
def plainLog (id createdAt : Int) (h : 0 < id) : Log :=
  ⟨id, 1, createdAt, 2, "", "", "", "", 0, "", "", "", none, h⟩

/-- Three logs, two of them of the same second, and the last one with an older time. -/
def threeLogs : Table Log :=
  ⟨[plainLog 1 10 (by decide), plainLog 2 10 (by decide), plainLog 3 5 (by decide)], by decide⟩

/-- Pages of one row each; in the meantime the row `1` goes and a row `4` comes. -/
def busyWalk : List WalkEvent :=
  [.ask, .statement false, .insert (plainLog 4 20 (by decide)), .statement false,
    .delete fun r => r.id == 1, .ask, .statement false, .statement false]

instance (w : Walk Scope) (e : WalkEvent) : Decidable (w.Beyond e) :=
  match e with
  | .insert r =>
    match h : w.snapshot with
    | none => isTrue fun _ hs => by cases h.symm.trans hs
    | some s =>
      decidable_of_iff (s < r.id)
        ⟨fun hlt _ hs => Option.some.inj (h.symm.trans hs) ▸ hlt, fun hall => hall s h⟩
  | .delete _ | .ask | .statement _ => isTrue trivial

/-- The rows `2` and `3` are listed, and only they. -/
theorem log_cursor_pages_busyWalk :
    ((run (Walk.step plainDB everything 1) (Walk.start threeLogs) busyWalk).rows.map Log.id = [2, 3] ∧
      (run (Walk.step plainDB everything 1) (Walk.start threeLogs) busyWalk).finished = true) ∧
    Lists plainDB everything (run (Walk.step plainDB everything 1) (Walk.start threeLogs) busyWalk) :=
  ⟨by decide +kernel, (log_cursor_pages plainDB everything 1 threeLogs busyWalk (by decide +kernel)).1⟩

end RenewApi.Logs
