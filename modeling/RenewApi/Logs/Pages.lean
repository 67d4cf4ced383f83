import RenewApi.Logs.Cursor

/-! # Pages of a listing that does not change

What a request returns when nobody writes between its statements: a segment of the listing of its
snapshot.

* **Segments**: the rows of a page that is not empty are a segment of the listing, and it has a
  cursor in a direction just if rows are left there (`fetch_older`, `fetch_newer`,
  `fetch_segment`). -/

namespace RenewApi.Logs

open Relational Concurrent List

variable {Scope : Type} {page : LogCursorPage Scope} {size : Int}

theorem more_found (l : List Log) (hsize : 0 ≤ size) :
    decide (size < (l.take (size + 1).toNat).length) = decide (size.toNat < l.length) := by
  rw [decide_eq_decide, length_take]
  omega

theorem rows_found (l : List Log) (hsize : 0 ≤ size) :
    (if decide (size < (l.take (size + 1).toNat).length) = true then
      (l.take (size + 1).toNat).take size.toNat else l.take (size + 1).toNat) = l.take size.toNat := by
  rw [more_found l hsize]
  split
  · rw [take_take]
    congr 1
    omega
  · next hmore =>
    have hle : l.length ≤ size.toNat := by simpa using hmore
    rw [take_of_length_le hle, take_of_length_le (by omega)]

theorem turnPage_found (db : LogDB Scope) (self : Bool) (base : Condition)
    (position : LogCursor Scope) (hasCursor : Bool) (hsize : 0 ≤ size) (l : List Log) :
    turnPage db self base position hasCursor size (some (l.take (size + 1).toNat)) =
      withCursors db self base position hasCursor size
        (if position.newer then (l.take size.toNat).reverse else l.take size.toNat)
        (decide (size.toNat < l.length)) := by
  simp only [turnPage]
  rw [rows_found l hsize, more_found l hsize]

theorem isEmpty_pluck (l : List Log) (order : Log → Log → Bool) :
    ((l.take 1).map Log.id).isEmpty = (l.insertionSort fun a b => order a b).isEmpty := by
  rw [Bool.eq_iff_iff, List.isEmpty_iff, List.isEmpty_iff]
  cases l with
  | nil => simp
  | cons r l =>
    have hlen : ((r :: l).insertionSort fun a b => order a b).length = (r :: l).length :=
      List.length_insertionSort ..
    constructor
    · intro h
      simp at h
    · intro h
      simp [h] at hlen

/-! ## Segments -/

/-- A request that is answered with nothing in between. -/
def fetch [DecidableEq Scope] (db : LogDB Scope) (filter : LogQueryFilter) (token : Token Scope)
    (size : Int) (t : Table Log) : Except LogError (LogCursorPage Scope) :=
  ((getLogCursorPage db filter token size).alone (Statement.exec false) t).2

section

variable (db : LogDB Scope) {self hasCursor more : Bool} {base : Condition}
  {position : LogCursor Scope} {size : Int} {t : Table Log} {A P B : List Log} {first last : Log}

section

variable (hL : listing self base position.snapshotID t = A ++ P ++ B)
include hL

theorem pluck_newer (hfirst : P.head? = some first) : (((t.rows.filter fun r => base r &&
      logCursorBoundary db self (position.boundary first true) r).take 1).map Log.id).isEmpty =
        A.isEmpty := by
  obtain ⟨rest, rfl⟩ := head?_eq_some_iff.mp hfirst
  have hsplit : A ++ first :: rest ++ B = A ++ first :: (rest ++ B) := by simp
  have hdesc := descending_listing self base t position.snapshotID
  rw [isEmpty_pluck _ (logOrder self true), sort_boundary_newer self base t db rfl,
    snapshotID_boundary, hL, key_boundary, hsplit,
    Descending.filter_gt_of_split (hsplit ▸ hL ▸ hdesc), isEmpty_reverse]

theorem pluck_older (hlast : P.getLast? = some last) : (((t.rows.filter fun r => base r &&
      logCursorBoundary db self (position.boundary last false) r).take 1).map Log.id).isEmpty =
        B.isEmpty := by
  obtain ⟨front, rfl⟩ := getLast?_eq_some_iff.mp hlast
  have hsplit : A ++ (front ++ [last]) ++ B = (A ++ front) ++ last :: B := by simp
  have hdesc := descending_listing self base t position.snapshotID
  have hmem : last ∈ listing self base position.snapshotID t := by simp [hL]
  rw [isEmpty_pluck _ (logOrder self false),
    sort_boundary_older self base t db rfl (mem_listing.mp hmem).2.2,
    snapshotID_boundary, hL, key_boundary, hsplit,
    Descending.filter_lt_of_split (hsplit ▸ hL ▸ hdesc)]

/-- **The cursors of a segment**: the page has one in a direction just if rows are left there. -/
theorem withCursors_segment (hfirst : P.head? = some first) (hlast : P.getLast? = some last)
    (hmore : more = if position.newer then !A.isEmpty else !B.isEmpty)
    (hlatest : hasCursor = false → A = [] ∧ position.newer = false) :
    ((withCursors db self base position hasCursor size P more).alone (Statement.exec false) t).2 =
      .ok (pageOf position size P first last (!B.isEmpty) (!A.isEmpty)) := by
  have hnewer := pluck_newer db hL hfirst
  have holder := pluck_older db hL hlast
  simp only [withCursors, hfirst, hlast]
  cases hasCursor with
  | false =>
    obtain ⟨rfl, hdir⟩ := hlatest rfl
    rw [hmore, hdir]
    rfl
  | true =>
    cases hdir : position.newer with
    | false => simp [Statement.exec, hdir, hmore, ← hnewer]
    | true => simp [Statement.exec, hdir, hmore, ← holder]

end

/-- A page with a cursor for the page after it, as a segment of a listing. -/
structure Segment (db : LogDB Scope) (filter : LogQueryFilter) (size : Int) (t : Table Log)
    (page : LogCursorPage Scope) where
  base : Condition
  position : LogCursor Scope
  above : List Log
  below : List Log
  first : Log
  last : Log
  query : logQuery db filter = .ok base
  scope : position.scope = db.logCursorScope filter size
  listed : listing filter.self base position.snapshotID t = above ++ page.rows ++ below
  head : page.rows.head? = some first
  getLast : page.rows.getLast? = some last
  full : page.rows.length = size.toNat ∨ page.rows.length ≤ size.toNat ∧ above = []
  page_eq : page = pageOf position size page.rows first last (!below.isEmpty) (!above.isEmpty)

variable {db}

/-- A page with a cursor for the page after it is a segment, if its rows are. -/
theorem Segment.of_withCursors {filter : LogQueryFilter} (hquery : logQuery db filter = .ok base)
    (hscope : position.scope = db.logCursorScope filter size)
    (hL : listing filter.self base position.snapshotID t = A ++ P ++ B)
    (hmore : more = if position.newer then !A.isEmpty else !B.isEmpty)
    (hlatest : hasCursor = false → A = [] ∧ position.newer = false)
    (hfull : B ≠ [] → P.length = size.toNat ∨ P.length ≤ size.toNat ∧ A = [])
    (hpage : ((withCursors db filter.self base position hasCursor size P more).alone
      (Statement.exec false) t).2 = .ok page)
    (hnext : page.nextCursor ≠ .none) : Nonempty (Segment db filter size t page) := by
  rcases hP : P with _ | ⟨first, rest⟩
  · -- an empty page has no cursor for the page after it
    rw [hP] at hpage
    cases hpage
    exact absurd rfl hnext
  have hfirst : P.head? = some first := by rw [hP]; rfl
  obtain ⟨last, hlast⟩ : ∃ last, P.getLast? = some last := by
    rw [hP]
    exact ⟨_, getLast?_eq_some_getLast (cons_ne_nil _ _)⟩
  rw [withCursors_segment db hL hfirst hlast hmore hlatest] at hpage
  cases hpage
  have hB : B ≠ [] := by
    rintro rfl
    exact hnext rfl
  exact ⟨⟨base, position, A, B, first, last, hquery, hscope, hL, hfirst, hlast, hfull hB, rfl⟩⟩

end

/-! ## Requests -/

section

variable {db : LogDB Scope} {filter : LogQueryFilter} {base : Condition}
  {position : LogCursor Scope} {size : Int} {t : Table Log} {value : LogCursor Scope}
  {token : Token Scope}

/-- Requests that are not refused at once. -/
structure Proper (filter : LogQueryFilter) (size : Int) : Prop where
  one_le : 1 ≤ size
  le_hundred : size ≤ 100
  viewer : 0 < filter.viewerID

theorem proper_iff : Proper filter size ↔ ¬(size < 1 ∨ 100 < size ∨ filter.viewerID ≤ 0) := by
  constructor
  · rintro ⟨hone, hhundred, hviewer⟩
    omega
  · intro h
    exact ⟨by omega, by omega, by omega⟩

structure Accepted (db : LogDB Scope) (filter : LogQueryFilter) (size : Int)
    (value : LogCursor Scope) : Prop where
  version : value.version = 1
  scope : value.scope = db.logCursorScope filter size
  id_pos : 0 < value.id
  id_le : value.id ≤ value.snapshotID

theorem Accepted.boundary (hscope : value.scope = db.logCursorScope filter size) {r : Log}
    (hr : r.id ≤ value.snapshotID) (newer : Bool) :
    Accepted db filter size (value.boundary r newer) := ⟨rfl, hscope, r.id_pos, hr⟩

theorem alone_at_cursor (hbase : logQuery db filter = .ok base) :
    ((getLogCursorPageAt db filter position true size).alone (Statement.exec false) t).2 =
      ((turnPage db filter.self base position true size
        (some (((t.rows.filter fun r => base r && logCursorBoundary db filter.self position r).insertionSort
          (fun a b => logOrder filter.self position.newer a b)).take (size + 1).toNat))).alone
            (Statement.exec false) t).2 := by
  rw [getLogCursorPageAt, hbase]
  rfl

theorem alone_at_latest (hbase : logQuery db filter = .ok base) (scope : Scope) (snapshot : Int) :
    ((getLogCursorPageAt db filter (.latest scope snapshot) false size).alone (Statement.exec false)
        t).2 =
      ((turnPage db filter.self base (.latest scope snapshot) false size
        (some ((listing filter.self base snapshot t).take (size + 1).toNat))).alone
          (Statement.exec false) t).2 := by
  rw [getLogCursorPageAt, hbase, ← sort_latest]
  rfl

section

variable (self : Bool) (base : Condition) (t : Table Log) (position : LogCursor Scope)

/-- The rows below a position. -/
def olderThan : List Log :=
  (listing self base position.snapshotID t).filter fun r => decide (logKey self r < position.key self)

/-- The rows above a position. -/
def newerThan : List Log :=
  (listing self base position.snapshotID t).filter fun r => decide (position.key self < logKey self r)

theorem listing_eq_append_olderThan :
    ∃ A, listing self base position.snapshotID t = A ++ olderThan self base t position :=
  ⟨_, ((descending_listing self base t position.snapshotID).filter_append_filter fun a b hab ha => by
    simpa using hab.trans_lt (of_decide_eq_true ha)).symm⟩

theorem listing_eq_newerThan_append :
    ∃ B, listing self base position.snapshotID t = newerThan self base t position ++ B := by
  have hcut := (descending_listing self base t position.snapshotID).filter_append_filter
    (p := fun r => decide (logKey self r ≤ position.key self)) fun a b hab ha => by
      simpa using hab.trans (of_decide_eq_true ha)
  have hnewer : (fun r => decide (position.key self < logKey self r)) =
      fun r => !decide (logKey self r ≤ position.key self) := by
    funext r
    rw [← decide_not, decide_eq_decide, not_le]
  rw [newerThan, hnewer]
  exact ⟨_, hcut.symm⟩

end

theorem lt_length_eq (l : List Log) (n : Nat) : decide (n < l.length) = !(l.drop n).isEmpty := by
  rw [Bool.eq_iff_iff]
  simp

theorem length_take_of_drop_ne_nil {l : List Log} {n : Nat} (h : l.drop n ≠ []) :
    (l.take n).length = n := by
  rw [ne_eq, drop_eq_nil_iff] at h
  rw [length_take]
  omega

variable [DecidableEq Scope]

theorem decodeLogCursor_sealed (h : Accepted db filter size value) :
    decodeLogCursor (.sealed value) (db.logCursorScope filter size) = .ok value := by
  have hpos := h.id_pos
  have hle := h.id_le
  have hscope := h.scope
  have hversion := h.version
  rw [decodeLogCursor, if_neg]
  rintro (hne | hne | hlt | hlt)
  · exact hne hversion
  · exact hne hscope
  all_goals omega

theorem of_decodeLogCursor (h : decodeLogCursor token (db.logCursorScope filter size) = .ok value) :
    token = .sealed value ∧ Accepted db filter size value := by
  cases token with
  | none => cases h
  | other text => cases h
  | «sealed» value' =>
    rw [decodeLogCursor] at h
    split at h
    · cases h
    · next hok =>
      cases h
      push Not at hok
      exact ⟨rfl, hok.1, hok.2.1, hok.2.2.1, hok.2.2.2⟩

section

variable (h : Proper filter size)
include h

theorem getLogCursorPage_sealed (hpos : Accepted db filter size position) :
    getLogCursorPage db filter (.sealed position) size =
      getLogCursorPageAt db filter position true size := by
  rw [getLogCursorPage, if_neg (proper_iff.mp h), if_neg (by simp), decodeLogCursor_sealed hpos]

section

variable (hquery : logQuery db filter = .ok base)
include hquery

/-- **Downwards**: the first of the rows below the position. -/
theorem fetch_older (hpos : Accepted db filter size position) (hdir : position.newer = false)
    {O : List Log} (hO : olderThan filter.self base t position = O) :
    fetch db filter (.sealed position) size t =
      ((withCursors db filter.self base position true size (O.take size.toNat)
        (!(O.drop size.toNat).isEmpty)).alone (Statement.exec false) t).2 := by
  have hone := h.one_le
  rw [fetch, getLogCursorPage_sealed h hpos, alone_at_cursor hquery, hdir,
    sort_boundary_older filter.self base t db hdir hpos.id_le, ← olderThan, hO,
    turnPage_found _ _ _ _ _ (by omega), hdir, if_neg (by simp), lt_length_eq]

/-- **Upwards**: the last of the rows above the position. -/
theorem fetch_newer (hpos : Accepted db filter size position) (hdir : position.newer = true)
    {N : List Log} (hN : newerThan filter.self base t position = N) :
    fetch db filter (.sealed position) size t =
      ((withCursors db filter.self base position true size (N.drop (N.length - size.toNat))
        (!(N.take (N.length - size.toNat)).isEmpty)).alone (Statement.exec false) t).2 := by
  have hone := h.one_le
  have hmore : decide (size.toNat < N.reverse.length) = !(N.take (N.length - size.toNat)).isEmpty := by
    rw [Bool.eq_iff_iff]
    simp only [decide_eq_true_iff, length_reverse, Bool.not_eq_true', ← Bool.not_eq_true,
      isEmpty_iff_length_eq_zero, length_take]
    omega
  rw [fetch, getLogCursorPage_sealed h hpos, alone_at_cursor hquery, hdir,
    sort_boundary_newer filter.self base t db hdir, ← newerThan, hN,
    turnPage_found _ _ _ _ _ (by omega), hdir, if_pos rfl, take_reverse, reverse_reverse, hmore]

/-- **The latest logs**: the first rows of the listing of some snapshot. -/
theorem fetch_none : ∃ snapshot, fetch db filter .none size t =
      ((withCursors db filter.self base (.latest (db.logCursorScope filter size) snapshot) false size
        ((listing filter.self base snapshot t).take size.toNat)
        (!((listing filter.self base snapshot t).drop size.toNat).isEmpty)).alone
          (Statement.exec false) t).2 := by
  have hone := h.one_le
  refine ⟨(((t.rows.map Log.id).insertionSort fun a b => b ≤ a).take 1).headD 0, ?_⟩
  rw [fetch, getLogCursorPage, if_neg (proper_iff.mp h), if_pos rfl]
  show ((getLogCursorPageAt db filter (.latest _ _) false size).alone (Statement.exec false) t).2 = _
  rw [alone_at_latest hquery, turnPage_found _ _ _ _ _ (by omega), lt_length_eq]
  rfl

end

end

section

variable (hpage : fetch db filter token size t = .ok page)
include hpage

theorem proper_of_fetch : Proper filter size := by
  refine proper_iff.mpr fun hrefused => ?_
  rw [fetch, getLogCursorPage, if_pos hrefused] at hpage
  cases hpage

theorem query_of_fetch : ∃ base, logQuery db filter = .ok base := by
  cases hquery : logQuery db filter with
  | ok base => exact ⟨base, rfl⟩
  | error e =>
    have hat (position : LogCursor Scope) (hasCursor : Bool) :
        getLogCursorPageAt db filter position hasCursor size = .done (.error e) := by
      rw [getLogCursorPageAt, hquery]
    rw [fetch, getLogCursorPage, if_neg (proper_iff.mp (proper_of_fetch hpage))] at hpage
    split at hpage
    · simp only [hat] at hpage
      cases hpage
    · split at hpage
      · cases hpage
      · rw [hat] at hpage
        cases hpage

/-- **Every page with a cursor for the page after it is a segment** of the listing of its
snapshot. -/
theorem segment_of_fetch (hnext : page.nextCursor ≠ .none) :
    Nonempty (Segment db filter size t page) := by
  have h := proper_of_fetch hpage
  obtain ⟨base, hquery⟩ := query_of_fetch hpage
  cases hdecode : decodeLogCursor token (db.logCursorScope filter size) with
  | error e =>
    by_cases htoken : token = .none
    · -- a request for the latest logs
      obtain ⟨snapshot, heq⟩ := fetch_none (t := t) h hquery
      rw [htoken, heq] at hpage
      refine Segment.of_withCursors (A := []) hquery rfl ?_ rfl (fun _ => ⟨rfl, rfl⟩) ?_ hpage hnext
      · exact (take_append_drop ..).symm
      · exact fun hB => .inl (length_take_of_drop_ne_nil hB)
    · -- a token that is refused
      rw [fetch, getLogCursorPage, if_neg (proper_iff.mp h), if_neg htoken, hdecode] at hpage
      cases hpage
  | ok position =>
    obtain ⟨rfl, hpos⟩ := of_decodeLogCursor hdecode
    cases hdir : position.newer with
    | false =>
      obtain ⟨A, hA⟩ := listing_eq_append_olderThan filter.self base t position
      rw [← take_append_drop size.toNat (olderThan ..), ← append_assoc] at hA
      rw [fetch_older h hquery hpos hdir rfl] at hpage
      refine Segment.of_withCursors hquery hpos.scope hA ?_ (by simp) ?_ hpage hnext
      · rw [hdir, if_neg (by simp)]
      · exact fun hB => .inl (length_take_of_drop_ne_nil hB)
    | true =>
      obtain ⟨B, hB⟩ := listing_eq_newerThan_append filter.self base t position
      rw [fetch_newer h hquery hpos hdir rfl] at hpage
      generalize newerThan filter.self base t position = N at hB hpage
      rw [← take_append_drop (N.length - size.toNat) N] at hB
      refine Segment.of_withCursors hquery hpos.scope hB ?_ (by simp) ?_ hpage hnext
      · rw [hdir, if_pos rfl]
      · -- a page that is read upwards is full unless it ends at the top
        intro _
        rw [length_drop, take_eq_nil_iff]
        omega

/-- **There and back**: the page before the page after a page is that page. -/
theorem fetch_previous_of_next (hnext : page.nextCursor ≠ .none) :
    ∃ page', fetch db filter page.nextCursor size t = .ok page' ∧
      page'.previousCursor ≠ .none ∧ fetch db filter page'.previousCursor size t = .ok page := by
  have h := proper_of_fetch hpage
  have hone := h.one_le
  obtain ⟨seg⟩ := segment_of_fetch hpage hnext
  obtain ⟨base, position, A, B, first, last, hquery, hscope, hL, hfirst, hlast, hfull, heq⟩ := seg
  have hdesc := descending_listing filter.self base t position.snapshotID
  -- rows are left under the page, so the page after it starts with the first of them
  rcases B with _ | ⟨first', rest⟩
  · rw [heq] at hnext
    exact absurd rfl hnext
  have hlistedLast : last ∈ listing filter.self base position.snapshotID t := by
    rw [hL]
    simp [mem_of_getLast? hlast]
  have hlistedFirst : first' ∈ listing filter.self base position.snapshotID t := by
    rw [hL]
    simp
  have hacceptedNext := Accepted.boundary hscope (mem_listing.mp hlistedLast).2.2 false
  have hacceptedPrev := Accepted.boundary hscope (mem_listing.mp hlistedFirst).2.2 true
  have hnextEq : page.nextCursor = .sealed (position.boundary last false) := by rw [heq]; rfl
  have hbelow : olderThan filter.self base t (position.boundary last false) = first' :: rest := by
    obtain ⟨front, hfront⟩ := getLast?_eq_some_iff.mp hlast
    have hsplit : A ++ page.rows ++ first' :: rest = (A ++ front) ++ last :: (first' :: rest) := by
      simp [hfront]
    rw [olderThan, snapshotID_boundary, hL, key_boundary, hsplit]
    exact Descending.filter_lt_of_split (hsplit ▸ hL ▸ hdesc)
  have habove : newerThan filter.self base t (position.boundary first' true) = A ++ page.rows := by
    rw [newerThan, snapshotID_boundary, hL, key_boundary]
    exact Descending.filter_gt_of_split (hL ▸ hdesc)
  -- the page after it
  obtain ⟨n, hn⟩ : ∃ n, size.toNat = n + 1 := ⟨size.toNat - 1, by omega⟩
  have hfirst' : ((first' :: rest).take size.toNat).head? = some first' := by rw [hn]; rfl
  obtain ⟨last', hlast'⟩ : ∃ last', ((first' :: rest).take size.toNat).getLast? = some last' := by
    rw [hn]
    exact ⟨_, getLast?_eq_some_getLast (cons_ne_nil _ _)⟩
  have hL' : listing filter.self base (position.boundary last false).snapshotID t =
      (A ++ page.rows) ++ (first' :: rest).take size.toNat ++ (first' :: rest).drop size.toNat := by
    rw [snapshotID_boundary, hL, append_assoc (A ++ page.rows), take_append_drop]
  have hfetchNext := (fetch_older h hquery hacceptedNext rfl hbelow).trans
    (withCursors_segment db hL' hfirst' hlast' rfl (by simp))
  have habove_ne : (!(A ++ page.rows).isEmpty) = true := by
    have hmem := mem_of_getLast? hlast
    simp only [Bool.not_eq_true', isEmpty_eq_false_iff]
    exact fun hnil => by simp [(append_eq_nil_iff.mp hnil).2] at hmem
  rw [habove_ne] at hfetchNext
  refine ⟨_, hnextEq ▸ hfetchNext, by simp [pageOf, encodeLogCursor], ?_⟩
  -- and back: the page is full, or there is nothing above it
  have hcut : (A ++ page.rows).length - size.toNat = A.length := by
    rw [length_append]
    rcases hfull with hfull | ⟨hle, rfl⟩
    · omega
    · rw [length_nil]
      omega
  have hfetchPrev := fetch_newer h hquery hacceptedPrev rfl habove
  rw [hcut, drop_left, take_left] at hfetchPrev
  calc fetch db filter (.sealed (position.boundary first' true)) size t
      = _ := hfetchPrev
    _ = _ := withCursors_segment db hL hfirst hlast rfl (by simp)
    _ = .ok page := congrArg _ heq.symm

end

end

end RenewApi.Logs
