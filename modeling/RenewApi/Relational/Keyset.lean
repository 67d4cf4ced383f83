import Mathlib.Data.List.Sort
import Mathlib.Order.Basic

/-! # Keyset pagination

A listing in descending order of a key is read page by page, each starting at the key of a row. -/

namespace RenewApi.Relational

open List

variable {R κ : Type*} [LinearOrder κ] {key : R → κ} {l : List R}

section

variable (key : R → κ) (l : List R)

/-- The rows stand in strictly descending order of their keys. -/
def Descending : Prop := l.Pairwise fun a b => key b < key a

/-- `ORDER BY key DESC`. -/
def descend : List R := l.insertionSort fun a b => key b ≤ key a

/-- `ORDER BY key ASC`. -/
def ascend : List R := l.insertionSort fun a b => key a ≤ key b

end

@[simp] theorem mem_descend {r : R} : r ∈ descend key l ↔ r ∈ l :=
  mem_insertionSort _

@[simp] theorem mem_ascend {r : R} : r ∈ ascend key l ↔ r ∈ l :=
  mem_insertionSort _

namespace Descending

variable {A B : List R}

theorem nodup (h : Descending key l) : l.Nodup :=
  Pairwise.imp (fun hlt => fun heq => absurd (heq ▸ hlt) (lt_irrefl _)) h

theorem ext {l' : List R} (h : Descending key l) (h' : Descending key l')
    (hmem : ∀ r, r ∈ l ↔ r ∈ l') : l = l' := by
  have hperm : l.Perm l' := (perm_ext_iff_of_nodup h.nodup h'.nodup).mpr hmem
  refine hperm.eq_of_pairwise (fun a b _ _ hab hba => ?_) h h'
  exact absurd (hab.trans hba) (lt_irrefl _)

theorem filter (h : Descending key l) (p : R → Bool) : Descending key (l.filter p) :=
  Pairwise.filter p h

theorem lt_of_append (h : Descending key (A ++ B)) {a b : R} (ha : a ∈ A) (hb : b ∈ B) :
    key b < key a := (pairwise_append.mp h).2.2 a ha b hb

theorem append (hA : Descending key A) (hB : Descending key B) (h : ∀ a ∈ A, ∀ b ∈ B, key b < key a) :
    Descending key (A ++ B) :=
  pairwise_append.mpr ⟨hA, hB, h⟩

theorem filter_lt_of_split {x : R} (h : Descending key (A ++ x :: B)) :
    (A ++ x :: B).filter (fun r => decide (key r < key x)) = B := by
  have hA : A.filter (fun r => decide (key r < key x)) = [] := by
    rw [filter_eq_nil_iff]
    intro a ha
    simpa using (h.lt_of_append ha (mem_cons_self ..)).le
  have hB : B.filter (fun r => decide (key r < key x)) = B := by
    rw [filter_eq_self]
    intro b hb
    simpa using (pairwise_cons.mp (pairwise_append.mp h).2.1).1 b hb
  rw [filter_append, hA, filter_cons_of_neg (by simp), hB, nil_append]

theorem filter_gt_of_split {x : R} (h : Descending key (A ++ x :: B)) :
    (A ++ x :: B).filter (fun r => decide (key x < key r)) = A := by
  have hA : A.filter (fun r => decide (key x < key r)) = A := by
    rw [filter_eq_self]
    intro a ha
    simpa using h.lt_of_append ha (mem_cons_self ..)
  have hB : B.filter (fun r => decide (key x < key r)) = [] := by
    rw [filter_eq_nil_iff]
    intro b hb
    simpa using ((pairwise_cons.mp (pairwise_append.mp h).2.1).1 b hb).le
  rw [filter_append, hA, filter_cons_of_neg (by simp), hB, append_nil]

theorem filter_append_filter (h : Descending key l) {p : R → Bool}
    (hp : ∀ a b, key b ≤ key a → p a = true → p b = true) :
    l.filter (fun r => !p r) ++ l.filter p = l := by
  refine ext (append (h.filter _) (h.filter _) ?_) h fun r => ?_
  · intro a ha b hb
    have ha : p a ≠ true := by simpa using of_mem_filter ha
    have hb : p b = true := of_mem_filter hb
    -- were `b` not below `a`, then `a` would have the condition as well
    by_contra hlt
    exact ha (hp b a (not_lt.mp hlt) hb)
  · cases hr : p r <;> simp [hr]

end Descending

/-! ## Sorting -/

theorem descending_descend (h : (l.map key).Nodup) : Descending key (descend key l) := by
  have hsorted : (descend key l).Pairwise fun a b => key b ≤ key a := by
    exact pairwise_insertionSort _ l
  have hdistinct : (descend key l).Pairwise fun a b => key a ≠ key b :=
    pairwise_map.mp (((perm_insertionSort _ l).map key).nodup_iff.mpr h)
  exact (hsorted.and hdistinct).imp fun hab => lt_of_le_of_ne hab.1 hab.2.symm

theorem descend_filter (h : (l.map key).Nodup) (p : R → Bool) :
    descend key (l.filter p) = (descend key l).filter p := by
  have hsub : ((l.filter p).map key).Nodup := h.sublist (filter_sublist.map key)
  refine (descending_descend hsub).ext ((descending_descend h).filter p) fun r => ?_
  rw [mem_descend, mem_filter, mem_filter, mem_descend]

theorem ascend_eq_reverse_descend (h : (l.map key).Nodup) :
    ascend key l = (descend key l).reverse := by
  have hsorted : (ascend key l).Pairwise fun a b => key a ≤ key b := by
    exact pairwise_insertionSort _ l
  have hdistinct : (ascend key l).Pairwise fun a b => key a ≠ key b :=
    pairwise_map.mp (((perm_insertionSort _ l).map key).nodup_iff.mpr h)
  have hdesc : Descending key (ascend key l).reverse :=
    pairwise_reverse.mpr ((hsorted.and hdistinct).imp fun hab => lt_of_le_of_ne hab.1 hab.2)
  have heq : (ascend key l).reverse = descend key l :=
    hdesc.ext (descending_descend h) fun r => by rw [mem_reverse, mem_ascend, mem_descend]
  rw [← heq, reverse_reverse]

/-! ## Progress of a listing -/

/-- The rows that were returned so far are the topmost of all rows there are, although rows may have
gone in the meantime. -/
structure Progress (key : R → κ) (rows : Set R) (returned : List R) : Prop where
  descending : Descending key returned
  covered : ∀ r ∈ rows, r ∈ returned ∨ ∀ x ∈ returned, key r < key x

namespace Progress

variable {rows rows' : Set R} {returned : List R}

theorem nil : Progress key rows [] := ⟨Pairwise.nil, fun _ _ => .inr fun _ hx => absurd hx (by simp)⟩

theorem mono (h : Progress key rows returned) (hsub : rows' ⊆ rows) : Progress key rows' returned :=
  ⟨h.descending, fun r hr => h.covered r (hsub hr)⟩

variable {below : List R}

section

variable (h : Progress key rows returned)
include h

theorem page (hdesc : Descending key below)
    (hbelow : ∀ r, r ∈ below ↔ r ∈ rows ∧ ∀ x ∈ returned, key r < key x) (n : Nat) :
    Progress key rows (returned ++ below.take n) := by
  have hsplit : Descending key (below.take n ++ below.drop n) := by rwa [take_append_drop]
  refine ⟨h.descending.append (pairwise_append.mp hsplit).1 ?_, fun r hr => ?_⟩
  · intro a ha b hb
    exact ((hbelow b).mp (mem_of_mem_take hb)).2 a ha
  rcases h.covered r hr with hin | hlow
  · exact .inl (mem_append_left _ hin)
  -- the row is in the list below: on the page, or under it
  have hmem : r ∈ below.take n ++ below.drop n := by
    rw [take_append_drop]
    exact (hbelow r).mpr ⟨hr, hlow⟩
  rcases mem_append.mp hmem with hpage | hrest
  · exact .inl (mem_append_right _ hpage)
  · refine .inr fun x hx => ?_
    rcases mem_append.mp hx with hx | hx
    · exact hlow x hx
    · exact hsplit.lt_of_append hx hrest

/-- **The last page**: when no row is left under it, all rows there are were returned. -/
theorem complete (hbelow : ∀ r, r ∈ below ↔ r ∈ rows ∧ ∀ x ∈ returned, key r < key x) {n : Nat}
    (hlast : below.length ≤ n) : ∀ r ∈ rows, r ∈ returned ++ below.take n := by
  intro r hr
  rw [take_of_length_le hlast, mem_append]
  rcases h.covered r hr with hin | hlow
  · exact .inl hin
  · exact .inr ((hbelow r).mpr ⟨hr, hlow⟩)

theorem lt_all_iff {last : R} (hlast : returned.getLast? = some last) (r : R) :
    (∀ x ∈ returned, key r < key x) ↔ key r < key last := by
  constructor
  · intro hall
    exact hall last (mem_of_getLast? hlast)
  · intro hlt x hx
    obtain ⟨front, rfl⟩ := getLast?_eq_some_iff.mp hlast
    rcases mem_append.mp hx with hx | hx
    · exact hlt.trans (h.descending.lt_of_append hx (mem_singleton_self last))
    · rw [mem_singleton.mp hx]
      exact hlt

end

end Progress

end RenewApi.Relational
