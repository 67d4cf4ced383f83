import Mathlib.Algebra.BigOperators.Group.List.Basic
import Mathlib.Algebra.Order.BigOperators.Group.List
import Mathlib.Algebra.Order.Group.Int
import Mathlib.Data.List.Nodup
import Mathlib.Tactic.Abel

/-! # Keyed tables

A finite list of rows, no two of which share a primary key. `Table` carries the uniqueness of its
keys as a field. -/

namespace RenewApi.Relational

open List

universe u v

/-- A row type together with its primary key. -/
class Row (R : Type u) (K : outParam (Type v)) where
  key : R → K

/-- **A table**: a list of rows with pairwise distinct primary keys. -/
structure Table (R : Type u) {K : Type v} [Row R K] where
  rows : List R
  nodup_keys : (rows.map Row.key).Nodup

namespace Table

variable {R : Type u} {K : Type v} [Row R K] {t : Table R} {k : K} {r old x : R} {p : R → Bool}
  {f : R → R}

theorem ext_rows {s : Table R} (h : s.rows = t.rows) : s = t := by
  cases s; cases t; cases h; rfl

theorem eq_of_key (hx : x ∈ t.rows) (hr : r ∈ t.rows) (h : Row.key x = Row.key r) : x = r :=
  inj_on_of_nodup_map t.nodup_keys hx hr h

def empty : Table R := ⟨[], List.nodup_nil⟩

/-! ## Statements -/

def mapRows (t : Table R) (f : R → R) (hf : ∀ r, Row.key (f r) = Row.key r) : Table R :=
  ⟨t.rows.map f, by simpa [Function.comp_def, hf] using t.nodup_keys⟩

section

variable (t : Table R) (p : R → Bool)

/-- `UPDATE … SET f WHERE p`. -/
def updateWhere (f : R → R) (hf : ∀ r, Row.key (f r) = Row.key r := by intro; rfl) : Table R :=
  t.mapRows (fun r => if p r then f r else r) (fun r => by split <;> simp [hf])

/-- `DELETE … WHERE p`. -/
def deleteWhere : Table R :=
  ⟨t.rows.filter (fun r => !p r), t.nodup_keys.sublist (List.filter_sublist.map _)⟩

/-- `SELECT COUNT(*) FROM t WHERE p`, also the number of rows an `UPDATE … WHERE p` affects. -/
def count : Nat := t.rows.countP p

end

/-- An update whose number of affected rows must be one. -/
def updateOne {ε : Type*} (t : Table R) (p : R → Bool) (f : R → R) (e : ε)
    (hf : ∀ r, Row.key (f r) = Row.key r := by intro; rfl) : Except ε (Table R) :=
  if t.count p ≠ 1 then .error e else .ok (t.updateWhere p f hf)

def select (t : Table R) (p : R → Bool) : List R := t.rows.filter p

/-- `SELECT SUM(w)`. -/
def sum {M : Type*} [AddCommMonoid M] (t : Table R) (w : R → M) : M := (t.rows.map w).sum

/-! ## Aggregates and selections -/

variable {M β : Type*} [AddCommGroup M] {w : R → M} {f : R → R}

theorem sum_congr {v : R → M} (h : ∀ r ∈ t.rows, v r = w r) : t.sum v = t.sum w := by
  rw [sum, sum, map_congr_left h]

theorem sum_eq_zero (h : ∀ r ∈ t.rows, w r = 0) : t.sum w = 0 :=
  List.sum_eq_zero (by simpa using h)

theorem sum_add (t : Table R) (v w : R → M) : t.sum (fun r => v r + w r) = t.sum v + t.sum w :=
  sum_map_add

theorem sum_neg (t : Table R) (w : R → M) : t.sum (fun r => -w r) = -t.sum w := by
  rw [sum, sum]
  induction t.rows with
  | nil => simp
  | cons r rest ih => rw [map_cons, map_cons, sum_cons, sum_cons, ih]; abel

theorem sum_ite_one (t : Table R) (p : R → Bool) :
    t.sum (fun r => if p r then (1 : Int) else 0) = t.count p := by
  rw [sum, count]
  induction t.rows with
  | nil => simp
  | cons r rest ih =>
    rw [map_cons, sum_cons, ih, countP_cons]
    by_cases hp : p r = true <;> simp [hp, add_comm]

theorem le_sum_of_mem {w : R → Int} (hw : ∀ r ∈ t.rows, 0 ≤ w r) (hr : r ∈ t.rows) :
    w r ≤ t.sum w :=
  single_le_sum (by simpa using hw) _ (mem_map_of_mem hr)

theorem select_eq_singleton (hr : r ∈ t.rows) (hp : ∀ x ∈ t.rows, p x = true ↔ x = r) :
    t.select p = [r] := by
  have hnodup : (t.select p).Nodup := (t.nodup_keys.of_map _).filter _
  refine perm_singleton.mp ((perm_ext_iff_of_nodup hnodup (nodup_singleton r)).mpr ?_)
  intro x
  rw [select, mem_filter, mem_singleton]
  constructor
  · rintro ⟨hx, hpx⟩
    exact (hp x hx).mp hpx
  · rintro rfl
    exact ⟨hr, (hp x hr).mpr rfl⟩

theorem mem_updateWhere {hf : ∀ r, Row.key (f r) = Row.key r} (h : x ∈ (t.updateWhere p f hf).rows)
    : ∃ y ∈ t.rows, x = if p y then f y else y := by
  obtain ⟨y, hy, rfl⟩ := mem_map.mp h
  exact ⟨y, hy, rfl⟩

omit [Row R K] in
theorem map_map_rows {g : R → β} (hg : ∀ r, g (f r) = g r) (rows : List R) :
    (rows.map f).map g = rows.map g := by
  rw [map_map]
  exact map_congr_left fun r _ => hg r

variable [DecidableEq K] {t' : Table R}

/-- Look a row up by its primary key. -/
def find? (t : Table R) (k : K) : Option R := t.rows.find? (fun r => decide (Row.key r = k))

/-- Overwrite the row that has the key of `r`; nothing happens when there is none. -/
def put (t : Table R) (r : R) : Table R :=
  t.mapRows (fun x => if Row.key x = Row.key r then r else x)
    (fun x => by split <;> simp_all)

/-- Add a row. A row whose key is taken is not added (`ON CONFLICT DO NOTHING`). -/
def insert (t : Table R) (r : R) : Table R :=
  if h : t.find? (Row.key r) = none then
    ⟨t.rows ++ [r], by
      have hfresh : Row.key r ∉ t.rows.map Row.key := by
        simpa [find?, List.find?_eq_none] using h
      rw [List.map_append, List.nodup_append]
      refine ⟨t.nodup_keys, by simp, ?_⟩
      rintro a ha b hb rfl
      rw [List.map_singleton, List.mem_singleton] at hb
      exact hfresh (hb ▸ ha)⟩
  else t

/-- A numeric column of the row with key `k`, `0` when there is no such row. -/
def read (t : Table R) (k : K) (g : R → Int) : Int := ((t.find? k).map g).getD 0

/-! ## Looking rows up -/

theorem key_of_find? (h : t.find? k = some r) : Row.key r = k := by
  simpa using find?_some h

theorem mem_of_find? (h : t.find? k = some r) : r ∈ t.rows :=
  mem_of_find?_eq_some h

theorem find?_eq_none_iff : t.find? k = none ↔ ∀ r ∈ t.rows, Row.key r ≠ k := by
  simp [find?]

theorem find?_of_mem (h : r ∈ t.rows) : t.find? (Row.key r) = some r := by
  cases hfind : t.find? (Row.key r) with
  | none => exact absurd rfl (find?_eq_none_iff.mp hfind r h)
  | some r' => rw [eq_of_key (mem_of_find? hfind) h (key_of_find? hfind)]

theorem eq_of_find? (h : t.find? k = some r) (hx : x ∈ t.rows) (hk : Row.key x = k) : x = r :=
  eq_of_key hx (mem_of_find? h) (hk.trans (key_of_find? h).symm)

theorem find?_mapRows (t : Table R) (f : R → R) (hf : ∀ r, Row.key (f r) = Row.key r) (k : K) :
    (t.mapRows f hf).find? k = (t.find? k).map f := by
  simp only [find?, mapRows, find?_map]
  congr 2
  funext r
  simp [hf]

theorem find?_updateWhere (t : Table R) (p : R → Bool) (f : R → R)
    (hf : ∀ r, Row.key (f r) = Row.key r) (k : K) :
    (t.updateWhere p f hf).find? k = (t.find? k).map (fun r => if p r then f r else r) :=
  find?_mapRows _ _ _ _

theorem isSome_find?_updateWhere (hf : ∀ r, Row.key (f r) = Row.key r) {k : K}
    (h : (t.find? k).isSome) : ((t.updateWhere p f hf).find? k).isSome := by
  rw [find?_updateWhere, Option.isSome_map]
  exact h

theorem find?_put (t : Table R) (r : R) (k : K) :
    (t.put r).find? k = if k = Row.key r then (t.find? k).map (fun _ => r) else t.find? k := by
  rw [put, find?_mapRows]
  cases hfind : t.find? k with
  | none => simp
  | some x =>
    have hx : Row.key x = k := key_of_find? hfind
    by_cases hk : k = Row.key r <;> simp [hx, hk]

theorem find?_put_self (h : t.find? (Row.key r) = some old) :
    (t.put r).find? (Row.key r) = some r := by
  rw [find?_put, if_pos rfl, h]; rfl

theorem find?_put_of_key (h : t.find? k = some old) (hk : Row.key r = Row.key old) :
    (t.put r).find? k = some r := by
  obtain rfl : Row.key r = k := hk.trans (key_of_find? h)
  exact find?_put_self h

theorem find?_put_of_ne (h : k ≠ Row.key r) : (t.put r).find? k = t.find? k := by
  rw [find?_put, if_neg h]

theorem rows_insert (h : t.find? (Row.key r) = none) : (t.insert r).rows = t.rows ++ [r] := by
  rw [insert, dif_pos h]

theorem insert_of_taken (h : t.find? (Row.key r) = some old) : t.insert r = t := by
  rw [insert, dif_neg (by simp [h])]

theorem find?_insert (h : t.find? (Row.key r) = none) (k : K) :
    (t.insert r).find? k = if k = Row.key r then some r else t.find? k := by
  rw [find?, rows_insert h, find?_append]
  by_cases hk : k = Row.key r
  · subst hk
    rw [show t.rows.find? _ = none from h]
    simp
  · rw [if_neg hk]
    have : ¬ Row.key r = k := fun h' => hk h'.symm
    simp [this, find?]

theorem find?_deleteWhere (t : Table R) (p : R → Bool) (k : K) :
    (t.deleteWhere p).find? k = (t.find? k).filter (fun r => !p r) := by
  cases hfind : t.find? k with
  | none =>
    rw [Option.filter_none, find?_eq_none_iff]
    intro r hr
    exact find?_eq_none_iff.mp hfind r (mem_filter.mp hr).1
  | some r =>
    have hkey := key_of_find? hfind
    by_cases hp : p r
    · simp only [Option.filter_some, hp, Bool.not_true, Bool.false_eq_true, if_false]
      rw [find?_eq_none_iff]
      intro x hx hxk
      obtain ⟨hxt, hxp⟩ := mem_filter.mp hx
      have hxr : t.find? k = some x := hxk ▸ find?_of_mem hxt
      rw [hfind, Option.some.injEq] at hxr
      simp [← hxr, hp] at hxp
    · simp only [Option.filter_some, hp, Bool.not_false, if_true]
      have hmem : r ∈ (t.deleteWhere p).rows :=
        mem_filter.mpr ⟨mem_of_find? hfind, by simp [hp]⟩
      exact hkey ▸ find?_of_mem hmem

theorem find?_deleteWhere_of_isSome (h : ((t.deleteWhere p).find? k).isSome) :
    (t.deleteWhere p).find? k = t.find? k := by
  rw [find?_deleteWhere] at h ⊢
  cases hfind : t.find? k with
  | none => rfl
  | some r =>
    rw [hfind] at h
    cases hp : p r with
    | true => simp [hp] at h
    | false => simp [hp]

theorem mem_put (h : x ∈ (t.put r).rows) : x = r ∨ (x ∈ t.rows ∧ Row.key x ≠ Row.key r) := by
  obtain ⟨y, hy, rfl⟩ := mem_map.mp h
  by_cases hkey : Row.key y = Row.key r
  · exact .inl (if_pos hkey)
  · rw [if_neg hkey]
    exact .inr ⟨hy, hkey⟩

theorem mem_put_of_ne (h : x ∈ t.rows) (hkey : Row.key x ≠ Row.key r) : x ∈ (t.put r).rows :=
  mem_map.mpr ⟨x, h, if_neg hkey⟩

theorem mem_put_self (h : old ∈ t.rows) (hkey : Row.key r = Row.key old) : r ∈ (t.put r).rows :=
  mem_map.mpr ⟨old, h, if_pos hkey.symm⟩

theorem mem_insert (h : x ∈ (t.insert r).rows) : x = r ∨ x ∈ t.rows := by
  cases hfind : t.find? (Row.key r) with
  | none =>
    rw [rows_insert hfind, mem_append, mem_singleton] at h
    exact h.symm
  | some old =>
    rw [insert_of_taken hfind] at h
    exact .inr h

theorem subset_insert (r : R) : t.rows ⊆ (t.insert r).rows := by
  intro x hx
  cases hfind : t.find? (Row.key r) with
  | none =>
    rw [rows_insert hfind]
    exact mem_append_left _ hx
  | some old =>
    rw [insert_of_taken hfind]
    exact hx

theorem put_self (h : r ∈ t.rows) : t.put r = t := by
  refine ext_rows ?_
  conv_rhs => rw [← map_id t.rows]
  refine map_congr_left fun x hx => ?_
  by_cases hkey : Row.key x = Row.key r
  · have hxr : some x = some r := by rw [← find?_of_mem hx, hkey, find?_of_mem h]
    rw [if_pos hkey, id_eq, Option.some.inj hxr]
  · rw [if_neg hkey, id_eq]

theorem put_insert {r' : R} (hkey : Row.key r' = Row.key r) (h : t.find? (Row.key r) = none) :
    (t.insert r).put r' = t.insert r' := by
  have hkeep : t.rows.map (fun x => if Row.key x = Row.key r' then r' else x) = t.rows := by
    conv_rhs => rw [← map_id t.rows]
    refine map_congr_left fun x hx => if_neg ?_
    rw [hkey]
    exact find?_eq_none_iff.mp h x hx
  refine ext_rows ?_
  rw [rows_insert (by rw [hkey]; exact h), put, mapRows]
  simp only [rows_insert h, map_append, map_singleton, hkey.symm, if_true]
  rw [hkeep]

theorem map_rows_put (h : t.find? k = some old) (hk : Row.key r = Row.key old) {f : R → β}
    (hf : f r = f old) : (t.put r).rows.map f = t.rows.map f := by
  rw [← key_of_find? h, ← hk] at h
  rw [put, mapRows, map_map]
  refine map_congr_left fun x hx => ?_
  by_cases hx' : Row.key x = Row.key r
  · have hxo : some x = some old := by rw [← find?_of_mem hx, hx', h]
    rw [Function.comp_apply, if_pos hx', hf, Option.some.inj hxo]
  · simp [hx']

theorem map_find?_of_map_rows (hf : ∀ r, Row.key (f r) = Row.key r)
    (h : t'.rows.map f = t.rows.map f) (k : K) : (t'.find? k).map f = (t.find? k).map f := by
  have hfind : ∀ s : Table R, (s.find? k).map f = (s.rows.map f).find? (fun r => Row.key r = k) := by
    intro s
    rw [find?_map]
    simp only [find?, Function.comp_def, hf]
  rw [hfind, hfind, h]

theorem read_of_find? (h : t.find? k = some r) (g : R → Int) : t.read k g = g r := by
  rw [read, h]; rfl

theorem read_nonneg {g : R → Int} (h : ∀ r ∈ t.rows, 0 ≤ g r) (k : K) : 0 ≤ t.read k g := by
  cases hfind : t.find? k with
  | none => rw [read, hfind]; exact le_rfl
  | some r => rw [read_of_find? hfind]; exact h r (mem_of_find? hfind)

theorem read_put (h : t.find? k = some old) (hk : Row.key r = Row.key old) (j : K) (g : R → Int) :
    (t.put r).read j g = t.read j g + if j = k then g r - g old else 0 := by
  obtain rfl : k = Row.key r := (key_of_find? h).symm.trans hk.symm
  by_cases hj : j = Row.key r
  · subst hj
    rw [read_of_find? (find?_put_self h), read_of_find? h, if_pos rfl]; abel
  · rw [read, find?_put_of_ne hj, if_neg hj, add_zero]; rfl

theorem read_mapRows (t : Table R) (f : R → R) (hf : ∀ r, Row.key (f r) = Row.key r) (k : K)
    (g : R → Int) (hg : ∀ r, g (f r) = g r) : (t.mapRows f hf).read k g = t.read k g := by
  rw [read, read, find?_mapRows, Option.map_map, show g ∘ f = g from funext hg]

theorem sum_map_replace {rows : List R} (hnodup : (rows.map Row.key).Nodup) (hmem : old ∈ rows)
    (hkey : Row.key old = Row.key r) (w : R → M) :
    ((rows.map (fun x => if Row.key x = Row.key r then r else x)).map w).sum
      = (rows.map w).sum - w old + w r := by
  induction rows with
  | nil => simp at hmem
  | cons x rest ih =>
    rw [map_cons, nodup_cons] at hnodup
    obtain ⟨hx, hrest⟩ := hnodup
    simp only [map_cons, sum_cons]
    rcases mem_cons.mp hmem with rfl | htail
    · -- `old` is the head: no row of the tail has its key, so the tail is unchanged
      have htail : rest.map (fun x => if Row.key x = Row.key r then r else x) = rest := by
        conv_rhs => rw [← map_id rest]
        refine map_congr_left fun y hy => if_neg fun hyr => hx ?_
        exact mem_map.mpr ⟨y, hy, hyr.trans hkey.symm⟩
      rw [if_pos hkey, htail]; abel
    · have hne : ¬ Row.key x = Row.key r := fun hxr =>
        hx (mem_map.mpr ⟨old, htail, hkey.trans hxr.symm⟩)
      rw [if_neg hne, ih hrest htail]; abel

/-- **Overwriting one row** moves an aggregate by the difference of the two rows. -/
theorem sum_put (h : t.find? (Row.key r) = some old) (w : R → M) :
    (t.put r).sum w = t.sum w - w old + w r :=
  sum_map_replace t.nodup_keys (mem_of_find? h) (key_of_find? h) w

theorem sum_insert (h : t.find? (Row.key r) = none) (w : R → M) :
    (t.insert r).sum w = t.sum w + w r := by
  simp [sum, rows_insert h]

theorem count_put (h : t.find? (Row.key r) = some old) (p : R → Bool) :
    ((t.put r).count p : Int)
      = t.count p - (if p old then 1 else 0) + if p r then 1 else 0 := by
  rw [← sum_ite_one, ← sum_ite_one, sum_put h]

theorem count_insert (h : t.find? (Row.key r) = none) (p : R → Bool) :
    ((t.insert r).count p : Int) = t.count p + if p r then 1 else 0 := by
  rw [← sum_ite_one, ← sum_ite_one, sum_insert h]

theorem count_and_ne (h : t.find? k = some r) (p : R → Bool) :
    (t.count (fun x => p x && decide (Row.key x ≠ k)) : Int)
      = t.count p - if p r then 1 else 0 := by
  have hsplit := countP_eq_countP_filter_add t.rows p fun x => decide (Row.key x = k)
  have hrow : t.rows.filter (fun x => decide (Row.key x = k)) = [r] := by
    refine select_eq_singleton (mem_of_find? h) fun x hx => ?_
    rw [decide_eq_true_iff]
    constructor
    · rintro rfl
      exact Option.some.inj ((find?_of_mem hx).symm.trans h)
    · rintro rfl
      exact key_of_find? h
  have hrest : (t.rows.filter (fun x => !decide (Row.key x = k))).countP p
      = t.count fun x => p x && decide (Row.key x ≠ k) := by
    rw [countP_filter]
    exact countP_congr fun x _ => by simp
  rw [hrow, hrest] at hsplit
  rw [show t.count p = t.rows.countP p from rfl, hsplit]
  by_cases hp : p r = true <;> simp

/-! ## Statements guarded by a key -/

/-- One row with a given key meets a condition exactly when the row found under the key does. -/
theorem count_key_eq_one_iff (hp : ∀ r, p r = true → Row.key r = k) :
    t.count p = 1 ↔ ∃ r, t.find? k = some r ∧ p r = true := by
  constructor
  · intro h
    have hpos : 0 < t.rows.countP p := by rw [count] at h; omega
    obtain ⟨r, hr, hpr⟩ := countP_pos_iff.mp hpos
    exact ⟨r, hp r hpr ▸ find?_of_mem hr, hpr⟩
  · rintro ⟨r, hr, hpr⟩
    have hall : ∀ x ∈ t.rows, p x = true → x = r := fun x hx hpx => by
      have hxk : t.find? k = some x := hp x hpx ▸ find?_of_mem hx
      rw [hr, Option.some.injEq] at hxk
      exact hxk.symm
    have hnodup : t.rows.Nodup := Nodup.of_map _ t.nodup_keys
    have hsingle : t.rows.filter p = [r] := by
      have hn : (t.rows.filter p).Nodup := hnodup.filter _
      have hmem : r ∈ t.rows.filter p := mem_filter.mpr ⟨mem_of_find? hr, hpr⟩
      cases hl : t.rows.filter p with
      | nil => simp [hl] at hmem
      | cons a rest =>
        have heq : ∀ x ∈ a :: rest, x = r := fun x hx => by
          obtain ⟨h1, h2⟩ := mem_filter.mp (hl ▸ hx)
          exact hall x h1 h2
        cases rest with
        | nil => rw [heq a (by simp)]
        | cons b tail =>
          rw [hl, nodup_cons] at hn
          exact absurd (by rw [heq a (by simp), heq b (by simp)]; simp) hn.1
    rw [count, countP_eq_length_filter, hsingle, length_singleton]

/-- An `UPDATE` whose condition pins the key and is met overwrites exactly that row. -/
theorem updateWhere_eq_put (hf : ∀ r, Row.key (f r) = Row.key r)
    (hp : ∀ r, p r = true → Row.key r = k) (hr : t.find? k = some r) (hpr : p r = true) :
    t.updateWhere p f hf = t.put (f r) := by
  refine ext_rows (map_congr_left fun x hx => ?_)
  have hkey := key_of_find? hr
  by_cases hxk : Row.key x = k
  · have hxr : x = r := by
      have := find?_of_mem hx
      rw [hxk, hr, Option.some.injEq] at this
      exact this.symm
    subst hxr
    simp [hpr, hf]
  · have hpx : p x = false := by
      rw [Bool.eq_false_iff]; exact fun h => hxk (hp x h)
    rw [if_neg (by simp [hpx]), if_neg (by rw [hf, hkey]; exact hxk)]

/-- **A guarded statement on one key** succeeds exactly when the row under the key meets its
condition, and overwrites it. -/
theorem updateOne_eq_ok {ε : Type*} {e : ε} (hf : ∀ r, Row.key (f r) = Row.key r)
    (hp : ∀ r, p r = true → Row.key r = k) : t.updateOne p f e hf = .ok t' ↔
      ∃ r, t.find? k = some r ∧ p r = true ∧ t' = t.put (f r) := by
  unfold updateOne
  by_cases hcount : t.count p = 1
  · rw [if_neg (not_not.mpr hcount), Except.ok.injEq]
    obtain ⟨r, hr, hpr⟩ := (count_key_eq_one_iff hp).mp hcount
    rw [updateWhere_eq_put hf hp hr hpr]
    constructor
    · rintro rfl; exact ⟨r, hr, hpr, rfl⟩
    · rintro ⟨x, hx, -, rfl⟩
      rw [hr, Option.some.injEq] at hx
      rw [hx]
  · rw [if_pos hcount]
    constructor
    · intro h; cases h
    · rintro ⟨r, hr, hpr, -⟩
      exact absurd ((count_key_eq_one_iff hp).mpr ⟨r, hr, hpr⟩) hcount

end Table

end RenewApi.Relational
