import RenewApi.Logs.Pages

/-! # Walking through the logs

A viewer follows the cursors for the page after, while others add and delete rows. -/

namespace RenewApi.Logs

open Relational Concurrent List

variable {Scope : Type}

/-- A viewer on their way through the logs. -/
structure Walk (Scope : Type) where
  table : Table Log
  request : Option (LogProgram (Except LogError (LogCursorPage Scope)))
  token : Token Scope
  pages : List (LogCursorPage Scope)
  finished : Bool
  snapshot : Option Int

/-- What happens. -/
inductive WalkEvent
  | insert (r : Log)
  | delete (condition : Condition)
  | ask
  | statement (fault : Bool)

namespace Walk

/-- Before the first request. -/
def start (t : Table Log) : Walk Scope := ⟨t, none, .none, [], false, none⟩

/-- The rows that were returned, in the order of the pages. -/
def rows (w : Walk Scope) : List Log := w.pages.flatMap LogCursorPage.rows

variable [DecidableEq Scope]

/-- The request goes on, or it is answered. After an error the viewer may ask again. -/
def settle (w : Walk Scope) : LogProgram (Except LogError (LogCursorPage Scope)) → Walk Scope
  | .done (.ok page) =>
    { w with
      request := none
      pages := w.pages ++ [page]
      token := page.nextCursor
      finished := decide (page.nextCursor = .none) }
  | .done (.error _) =>
    { w with
      request := none
      snapshot := if w.pages.isEmpty then none else w.snapshot }
  | .call op next => { w with request := some (.call op next) }

theorem settle_of_call {w : Walk Scope} {p : LogProgram (Except LogError (LogCursorPage Scope))}
    (h : ∃ op next, p = .call op next) : w.settle p = { w with request := some p } := by
  obtain ⟨op, next, rfl⟩ := h
  rfl

def taken : (s : Statement) → s.Result → Option Int
  | .maxId, answer => Option.map (fun ids : List Int => ids.headD 0) answer
  | .find .., _ => none
  | .pluck _, _ => none

/-- The next statement of the request. -/
def perform (w : Walk Scope) (fault : Bool) : Walk Scope :=
  match w.request with
  | some (.call op next) =>
    let answer := (op.exec fault w.table).2
    { w with snapshot := (taken op answer).or w.snapshot }.settle (next answer)
  | _ => w

/-- **One event**. -/
def step (db : LogDB Scope) (filter : LogQueryFilter) (size : Int) (w : Walk Scope) :
    WalkEvent → Walk Scope
  | .insert r => { w with table := w.table.insert r }
  | .delete condition => { w with table := w.table.deleteWhere condition }
  | .ask =>
    if w.request.isNone && !w.finished then w.settle (getLogCursorPage db filter w.token size) else w
  | .statement fault => w.perform fault

/-- Rows that are added have ids beyond the snapshot. -/
def Beyond (w : Walk Scope) : WalkEvent → Prop
  | .insert r => ∀ snapshot, w.snapshot = some snapshot → snapshot < r.id
  | _ => True

end Walk

/-! ## From the snapshot on -/

variable (db : LogDB Scope) (filter : LogQueryFilter) (size : Int) {last : Log}

section

variable (w : Walk Scope) (base : Condition) (snapshot : Int)

/-- **What holds from the snapshot on**, when some rows were returned. -/
structure Kept (origin : Table Log) (returned : List Log) : Prop where
  proper : Proper filter size
  query : logQuery db filter = .ok base
  snapshot_eq : w.snapshot = some snapshot
  within : ∀ r ∈ w.table.rows, r.id ≤ snapshot → r ∈ origin.rows
  returned_mem : ∀ r ∈ returned, r ∈ origin.rows ∧ base r = true ∧ r.id ≤ snapshot
  progress : Progress (logKey filter.self) {r | r ∈ listing filter.self base snapshot w.table} returned

def AllReturned (returned : List Log) : Prop :=
  ∀ r ∈ listing filter.self base snapshot w.table, r ∈ returned

/-- Either the page is full, or all rows of the snapshot are returned with it. -/
def Ready (items : List Log) (more : Bool) : Prop :=
  if more then items.length = size.toNat else AllReturned filter w base snapshot (w.rows ++ items)

/-- The cursor for the rows under a row. -/
def underRow (last : Log) : LogCursor Scope :=
  (LogCursor.latest (db.logCursorScope filter size) snapshot).boundary last false

/-- No page was returned yet. -/
def Unread : Prop := w.pages = [] ∧ w.token = .none ∧ w.finished = false

/-- Full pages were returned, and the next page starts under their last row. -/
structure Paused (origin : Table Log) (last : Log) : Prop
    extends Kept db filter size w base snapshot origin w.rows where
  full : w.rows.length = w.pages.length * size.toNat
  last_eq : w.rows.getLast? = some last
  token : w.token = .sealed (underRow db filter size snapshot last)
  unfinished : w.finished = false

end

section

variable {db filter size} {w w' : Walk Scope} {base : Condition} {snapshot : Int}
  {origin : Table Log} {returned items : List Log} {position : LogCursor Scope}

theorem Kept.transfer (h : Kept db filter size w base snapshot origin returned)
    (hsnapshot : w'.snapshot = w.snapshot)
    (htable : ∀ r ∈ w'.table.rows, r.id ≤ snapshot → r ∈ w.table.rows) :
    Kept db filter size w' base snapshot origin returned where
  proper := h.proper
  query := h.query
  snapshot_eq := hsnapshot.trans h.snapshot_eq
  within r hr hle := h.within r (htable r hr hle) hle
  returned_mem := h.returned_mem
  progress := h.progress.mono fun r hr => by
    obtain ⟨hmem, hbase, hle⟩ := mem_listing.mp hr
    exact mem_listing.mpr ⟨htable r hmem hle, hbase, hle⟩

theorem AllReturned.transfer (h : AllReturned filter w base snapshot returned)
    (htable : ∀ r ∈ w'.table.rows, r.id ≤ snapshot → r ∈ w.table.rows) :
    AllReturned filter w' base snapshot returned := by
  intro r hr
  obtain ⟨hmem, hbase, hle⟩ := mem_listing.mp hr
  exact h r (mem_listing.mpr ⟨htable r hmem hle, hbase, hle⟩)

theorem Paused.transfer (h : Paused db filter size w base snapshot origin last)
    (hpages : w'.pages = w.pages) (htoken : w'.token = w.token) (hfin : w'.finished = w.finished)
    (hsnapshot : w'.snapshot = w.snapshot)
    (htable : ∀ r ∈ w'.table.rows, r.id ≤ snapshot → r ∈ w.table.rows) :
    Paused db filter size w' base snapshot origin last := by
  have hrows : w'.rows = w.rows := by rw [Walk.rows, hpages, Walk.rows]
  refine ⟨hrows ▸ h.toKept.transfer hsnapshot htable, ?_, ?_, htoken.trans h.token,
    hfin.trans h.unfinished⟩
  · rw [hrows, hpages, h.full]
  · rw [hrows, h.last_eq]

/-- The rows of the next page are the first of those under the rows that were returned. -/
theorem Kept.page (h : Kept db filter size w base snapshot origin w.rows) {below : List Log}
    (hdesc : Descending (logKey filter.self) below)
    (hbelow : ∀ r, r ∈ below ↔ r ∈ listing filter.self base snapshot w.table ∧
      ∀ x ∈ w.rows, logKey filter.self r < logKey filter.self x) :
    Kept db filter size w base snapshot origin (w.rows ++ below.take size.toNat) ∧
      Ready filter size w base snapshot (below.take size.toNat) (decide (size.toNat < below.length)) := by
  refine ⟨⟨h.proper, h.query, h.snapshot_eq, h.within, fun r hr => ?_,
    h.progress.page hdesc hbelow _⟩, ?_⟩
  · rcases mem_append.mp hr with hr | hr
    · exact h.returned_mem r hr
    · obtain ⟨hmem, hbase, hle⟩ := mem_listing.mp ((hbelow r).mp (mem_of_mem_take hr)).1
      exact ⟨h.within r hmem hle, hbase, hle⟩
  · rw [Ready]
    split
    · next hmore =>
      have hlt := of_decide_eq_true hmore
      rw [length_take]
      omega
    · next hmore =>
      have hle : below.length ≤ size.toNat := by simpa using hmore
      exact h.progress.complete hbelow hle

theorem nextCursor_pageOf (hscope : position.scope = db.logCursorScope filter size)
    (hsnapshot : position.snapshotID = snapshot) {first : Log} (hlast : items.getLast? = some last)
    (more hasPrevious : Bool) :
    if more then ∃ last', items.getLast? = some last' ∧
        (pageOf position size items first last more hasPrevious).nextCursor =
          .sealed (underRow db filter size snapshot last')
      else (pageOf position size items first last more hasPrevious).nextCursor = .none := by
  cases more with
  | true =>
    refine ⟨last, hlast, ?_⟩
    rw [← hsnapshot, underRow, ← hscope]
    rfl
  | false => rfl

theorem withCursors_call {self : Bool} (hitems : items ≠ []) (more : Bool) :
    ∃ op next, withCursors db self base position true size items more = .call op next := by
  rcases items with _ | ⟨first, rest⟩
  · exact absurd rfl hitems
  · exact ⟨_, _, rfl⟩

theorem getLogCursorPageAt_call (hquery : logQuery db filter = .ok base)
    (position : LogCursor Scope) (hasCursor : Bool) :
    ∃ op next, getLogCursorPageAt db filter position hasCursor size = .call op next := by
  rw [getLogCursorPageAt, hquery]
  exact ⟨_, _, rfl⟩

end

variable [DecidableEq Scope]

/-- **Where a viewer can be**. -/
inductive Walking : Walk Scope → Prop
  | fresh {w} (unread : Unread w) (hrequest : w.request = none ∨
      Proper filter size ∧ w.request = some (getLogCursorPage db filter .none size)) : Walking w
  | latest {w base snapshot origin} (kept : Kept db filter size w base snapshot origin [])
      (unread : Unread w) (hrequest : w.request = some (getLogCursorPageAt db filter
        (.latest (db.logCursorScope filter size) snapshot) false size)) : Walking w
  | under {w base snapshot origin last} (paused : Paused db filter size w base snapshot origin last)
      (hrequest : w.request = none ∨ w.request = some (getLogCursorPageAt db filter
        (underRow db filter size snapshot last) true size)) : Walking w
  | turning {w base snapshot origin last items more}
      (paused : Paused db filter size w base snapshot origin last)
      (keptItems : Kept db filter size w base snapshot origin (w.rows ++ items)) (hitems : items ≠ [])
      (hready : Ready filter size w base snapshot items more)
      (hrequest : w.request = some (withCursors db filter.self base
        (underRow db filter size snapshot last) true size items more)) : Walking w
  | ended {w base snapshot origin} (kept : Kept db filter size w base snapshot origin w.rows)
      (hfull : w.pages.length * size.toNat ≤ w.rows.length + size.toNat)
      (hrequest : w.request = none) (hfin : w.finished = true)
      (hall : AllReturned filter w base snapshot w.rows) : Walking w

/-! ## Steps -/

section

variable {db filter size} {w : Walk Scope} {base : Condition} {snapshot : Int} {origin : Table Log}
  {more : Bool}

/-- **Writes of others**: no row of the snapshot is added. -/
theorem Walking.write (h : Walking db filter size w) (t : Table Log)
    (htable : ∀ snapshot, w.snapshot = some snapshot → ∀ r ∈ t.rows, r.id ≤ snapshot → r ∈ w.table.rows)
    : Walking db filter size { w with table := t } := by
  cases h with
  | fresh unread hrequest => exact .fresh unread hrequest
  | latest kept unread hrequest =>
    exact .latest (kept.transfer rfl (htable _ kept.snapshot_eq)) unread hrequest
  | under paused hrequest =>
    exact .under (paused.transfer rfl rfl rfl rfl (htable _ paused.snapshot_eq)) hrequest
  | @turning _ _ _ _ _ more paused keptItems hitems hready hrequest =>
    have htable := htable _ paused.snapshot_eq
    refine .turning (paused.transfer rfl rfl rfl rfl htable) (keptItems.transfer rfl htable) hitems ?_
      hrequest
    cases more with
    | true => exact hready
    | false => exact AllReturned.transfer hready htable
  | ended kept hfull hrequest hfin hall =>
    have htable := htable _ kept.snapshot_eq
    exact .ended (kept.transfer rfl htable) hfull hrequest hfin (hall.transfer htable)

theorem Walking.fresh_of_error (unread : Unread w) (e : LogError) :
    Walking db filter size (w.settle (.done (.error e))) :=
  .fresh unread (.inl rfl)

theorem Walking.of_page {page : LogCursorPage Scope}
    (kept : Kept db filter size w base snapshot origin (w.rows ++ page.rows))
    (hfull : w.rows.length = w.pages.length * size.toNat)
    (hready : Ready filter size w base snapshot page.rows more)
    (hnext : if more then ∃ last, page.rows.getLast? = some last ∧
        page.nextCursor = .sealed (underRow db filter size snapshot last)
      else page.nextCursor = .none) :
    Walking db filter size (w.settle (.done (.ok page))) := by
  have hrows : (w.settle (.done (.ok page))).rows = w.rows ++ page.rows := by
    simp [Walk.rows, Walk.settle]
  have hpages : (w.settle (.done (.ok page))).pages.length = w.pages.length + 1 := by
    simp [Walk.settle]
  have kept' : Kept db filter size (w.settle (.done (.ok page))) base snapshot origin
      (w.settle (.done (.ok page))).rows := hrows ▸ kept.transfer rfl fun r hr _ => hr
  cases more with
  | true =>
    have hlen : page.rows.length = size.toNat := hready
    obtain ⟨last, hlast, hnext⟩ := hnext
    have hlast' : (w.settle (.done (.ok page))).rows.getLast? = some last := by
      rw [hrows, getLast?_append, hlast]
      rfl
    refine .under ⟨kept', ?_, hlast', hnext, by simp [Walk.settle, hnext]⟩ (.inl rfl)
    rw [hrows, hpages, length_append, hfull, hlen, Nat.succ_mul]
  | false =>
    have hall : AllReturned filter w base snapshot (w.rows ++ page.rows) := hready
    have hnext : page.nextCursor = .none := hnext
    refine .ended kept' ?_ rfl (by simp [Walk.settle, hnext]) ?_
    · rw [hrows, hpages, length_append, Nat.succ_mul]
      omega
    · rw [hrows]
      exact hall.transfer fun r hr _ => hr

theorem Walking.of_empty (kept : Kept db filter size w base snapshot origin w.rows)
    (hfull : w.rows.length = w.pages.length * size.toNat)
    (hready : Ready filter size w base snapshot [] more) (position : LogCursor Scope)
    (hasCursor : Bool) : Walking db filter size (w.settle
      (withCursors db filter.self base position hasCursor size [] more)) := by
  have hone := kept.proper.one_le
  cases more with
  | true =>
    -- a full page is not empty
    have hlen : 0 = size.toNat := hready
    omega
  | false =>
    have keptNil : Kept db filter size w base snapshot origin (w.rows ++ []) := by
      rwa [append_nil]
    exact Walking.of_page keptNil hfull hready rfl

/-- **The first page**. -/
theorem Walking.first (kept : Kept db filter size w base snapshot origin w.rows)
    (hpages : w.pages = []) :
    Walking db filter size (w.settle (turnPage db filter.self base
      (.latest (db.logCursorScope filter size) snapshot) false size
      (some ((listing filter.self base snapshot w.table).take (size + 1).toNat)))) := by
  have hone := kept.proper.one_le
  have hrows : w.rows = [] := by rw [Walk.rows, hpages]; rfl
  have hfull : w.rows.length = w.pages.length * size.toNat := by rw [hrows, hpages]; simp
  obtain ⟨keptPage, hready⟩ := kept.page (descending_listing filter.self base w.table snapshot)
    (by simp [hrows])
  rw [turnPage_found _ _ _ _ _ (by omega), if_neg (by simp [LogCursor.latest])]
  generalize listing filter.self base snapshot w.table = l at keptPage hready ⊢
  generalize l.take size.toNat = items, decide (size.toNat < l.length) = more at keptPage hready ⊢
  rcases hitems : items with _ | ⟨first, rest⟩
  · exact Walking.of_empty kept hfull (hitems ▸ hready) _ _
  · obtain ⟨last, hlast⟩ : ∃ last, items.getLast? = some last := by
      rw [hitems]
      exact ⟨_, getLast?_eq_some_getLast (cons_ne_nil _ _)⟩
    have heq : withCursors db filter.self base (.latest (db.logCursorScope filter size) snapshot) false
        size items more = .done (.ok (pageOf (.latest (db.logCursorScope filter size) snapshot) size items
          first last more false)) := by
      simp only [withCursors, hlast]
      simp [hitems]
    rw [← hitems, heq]
    exact Walking.of_page keptPage hfull hready (nextCursor_pageOf rfl rfl hlast _ _)

/-- **The rows of the next page**. -/
theorem Walking.turn (paused : Paused db filter size w base snapshot origin last) :
    Walking db filter size (w.settle (turnPage db filter.self base (underRow db filter size snapshot last)
      true size (some ((olderThan filter.self base w.table
        (underRow db filter size snapshot last)).take (size + 1).toNat)))) := by
  have hone := paused.proper.one_le
  have hdesc : Descending (logKey filter.self)
      (olderThan filter.self base w.table (underRow db filter size snapshot last)) :=
    (descending_listing ..).filter _
  have hbelow (r : Log) : r ∈ olderThan filter.self base w.table (underRow db filter size snapshot last) ↔
      r ∈ listing filter.self base snapshot w.table ∧
        ∀ x ∈ w.rows, logKey filter.self r < logKey filter.self x := by
    rw [olderThan, mem_filter, decide_eq_true_iff, paused.progress.lt_all_iff paused.last_eq]
    rfl
  obtain ⟨keptPage, hready⟩ := paused.page hdesc hbelow
  rw [turnPage_found _ _ _ _ _ (by omega), if_neg (by simp [underRow])]
  generalize olderThan filter.self base w.table _ = l at keptPage hready ⊢
  generalize l.take size.toNat = items, decide (size.toNat < l.length) = more at keptPage hready ⊢
  by_cases hitems : items = []
  · rw [hitems] at hready ⊢
    exact Walking.of_empty paused.toKept paused.full hready _ _
  · rw [Walk.settle_of_call (withCursors_call hitems more)]
    exact .turning (paused.transfer rfl rfl rfl rfl fun r hr _ => hr)
      (keptPage.transfer rfl fun r hr _ => hr) hitems hready rfl

/-- **The viewer asks** for a page. -/
theorem Walking.ask (h : Walking db filter size w) (hnone : w.request = none)
    (hopen : w.finished = false) :
    Walking db filter size (w.settle (getLogCursorPage db filter w.token size)) := by
  cases h with
  | fresh unread =>
    rw [unread.2.1]
    by_cases hproper : Proper filter size
    · have hcall : ∃ op next, getLogCursorPage db filter .none size = .call op next := by
        rw [getLogCursorPage, if_neg (proper_iff.mp hproper)]
        exact ⟨_, _, rfl⟩
      rw [Walk.settle_of_call hcall]
      exact .fresh unread (.inr ⟨hproper, rfl⟩)
    · rw [getLogCursorPage, if_pos (not_not.mp (mt proper_iff.mpr hproper))]
      exact Walking.fresh_of_error unread _
  | latest _ _ hrequest =>
    rw [hnone] at hrequest
    cases hrequest
  | @under _ snapshot _ last paused =>
    have hle : last.id ≤ snapshot := (paused.returned_mem last (mem_of_getLast? paused.last_eq)).2.2
    have haccepted : Accepted db filter size (underRow db filter size snapshot last) :=
      Accepted.boundary rfl hle false
    rw [paused.token, getLogCursorPage_sealed paused.proper haccepted,
      Walk.settle_of_call (getLogCursorPageAt_call paused.query _ _)]
    exact .under (paused.transfer rfl rfl rfl rfl fun r hr _ => hr) (.inr rfl)
  | turning _ _ _ _ hrequest =>
    rw [hnone] at hrequest
    cases hrequest
  | ended _ _ _ hfin =>
    rw [hopen] at hfin
    cases hfin

theorem Walking.take (hproper : Proper filter size) (unread : Unread w)
    (hsnapshot : w.snapshot = some snapshot) :
    Walking db filter size (w.settle (getLogCursorPageAt db filter
      (.latest (db.logCursorScope filter size) snapshot) false size)) := by
  cases hquery : logQuery db filter with
  | error e =>
    rw [getLogCursorPageAt, hquery]
    exact Walking.fresh_of_error unread e
  | ok base =>
    rw [Walk.settle_of_call (getLogCursorPageAt_call hquery _ _)]
    exact .latest ⟨hproper, hquery, hsnapshot, fun r hr _ => hr, by simp, Progress.nil⟩ unread rfl

theorem Walking.under_of_error (paused : Paused db filter size w base snapshot origin last)
    (e : LogError) : Walking db filter size (w.settle (.done (.error e))) := by
  have hpages : w.pages ≠ [] := by
    intro hnil
    simpa [Walk.rows, hnil] using paused.last_eq
  have hsnapshot : (w.settle (.done (.error e))).snapshot = w.snapshot := by simp [Walk.settle, hpages]
  exact .under (paused.transfer rfl rfl rfl hsnapshot fun r hr _ => hr) (.inl rfl)

/-- **The next statement**. -/
theorem Walking.perform (h : Walking db filter size w) (fault : Bool) :
    Walking db filter size (w.perform fault) := by
  cases h with
  | fresh unread hrequest =>
    rcases hrequest with hrequest | ⟨hproper, hrequest⟩
    · rw [Walk.perform, hrequest]
      exact .fresh unread (.inl hrequest)
    · rw [getLogCursorPage, if_neg (proper_iff.mp hproper)] at hrequest
      rw [Walk.perform, hrequest]
      cases fault with
      | true => exact Walking.fresh_of_error unread .database
      | false => exact Walking.take hproper unread rfl
  | latest kept unread hrequest =>
    have hrows : w.rows = [] := by rw [Walk.rows, unread.1]; rfl
    rw [getLogCursorPageAt, kept.query] at hrequest
    rw [Walk.perform, hrequest]
    cases fault with
    | true => exact Walking.fresh_of_error unread .database
    | false =>
      have hfirst := Walking.first (by rwa [hrows]) unread.1
      rw [← sort_latest] at hfirst
      exact hfirst
  | under paused hrequest =>
    rcases hrequest with hrequest | hrequest
    · rw [Walk.perform, hrequest]
      exact .under paused (.inl hrequest)
    · have hle := (paused.returned_mem _ (mem_of_getLast? paused.last_eq)).2.2
      rw [getLogCursorPageAt, paused.query] at hrequest
      rw [Walk.perform, hrequest]
      cases fault with
      | true => exact Walking.under_of_error paused .database
      | false =>
        have hturn := Walking.turn paused
        rw [olderThan, ← sort_boundary_older filter.self _ w.table db rfl hle] at hturn
        exact hturn
  | @turning _ snapshot _ last items more paused keptItems hitems hready hrequest =>
    obtain ⟨first, rest, hitems'⟩ := exists_cons_of_ne_nil hitems
    have hfirst : items.head? = some first := by rw [hitems']; rfl
    have hlast' : items.getLast? = some (items.getLast hitems) := getLast?_eq_some_getLast hitems
    rw [withCursors, hfirst, hlast'] at hrequest
    rw [Walk.perform, hrequest]
    cases fault with
    | true => exact Walking.under_of_error paused .database
    | false =>
      have hpage (hasPrevious : Bool) : Walking db filter size (w.settle (.done (.ok (pageOf
          (underRow db filter size snapshot last) size items first _ more hasPrevious)))) :=
        Walking.of_page keptItems paused.full hready (nextCursor_pageOf rfl rfl hlast' _ _)
      exact hpage _
  | ended kept hfull hrequest hfin hall =>
    rw [Walk.perform, hrequest]
    exact .ended kept hfull hrequest hfin hall

theorem Walking.step (e : WalkEvent) (he : w.Beyond e) (h : Walking db filter size w) :
    Walking db filter size (w.step db filter size e) := by
  cases e with
  | insert r =>
    refine h.write _ fun snapshot hsnapshot x hx hle => ?_
    rcases Table.mem_insert hx with rfl | hx
    · exact absurd hle (not_le.mpr (he snapshot hsnapshot))
    · exact hx
  | delete => exact h.write _ fun snapshot _ r hr _ => mem_of_mem_filter hr
  | ask =>
    rw [Walk.step]
    split
    · next hask =>
      rw [Bool.and_eq_true, Option.isNone_iff_eq_none, Bool.not_eq_true'] at hask
      exact h.ask hask.1 hask.2
    · exact h
  | statement fault => exact h.perform fault

theorem walking_run (t : Table Log) (es : List WalkEvent)
    (hes : Along (Walk.step db filter size) Walk.Beyond (Walk.start t) es) :
    Walking db filter size (run (Walk.step db filter size) (Walk.start t) es) := by
  have hstep : ∀ w e, Walk.Beyond w e → Walking db filter size w →
      Walking db filter size (w.step db filter size e) := fun _ e he h => h.step e he
  exact run_invariant hstep hes (.fresh ⟨rfl, rfl, rfl⟩ (.inl rfl))

end

end RenewApi.Logs
