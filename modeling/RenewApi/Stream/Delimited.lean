import Mathlib.Data.List.Infix

/-! # Cutting a stream at delimiters

A reader takes frames off its buffer, each ending with the delimiter that starts first. -/

namespace RenewApi.Framing

open List

variable {α : Type*} [DecidableEq α] {pat l : List α} {a : α}

/-- The index of the first occurrence of `pat`. -/
def index? (pat : List α) : List α → Option Nat
  | [] => if pat = [] then some 0 else none
  | a :: l => if pat <+: a :: l then some 0 else (index? pat l).map (· + 1)

theorem index?_of_prefix (h : pat <+: l) : index? pat l = some 0 := by
  cases l with
  | nil => rw [index?, if_pos (prefix_nil.mp h)]
  | cons a l => rw [index?, if_pos h]

theorem index?_cons_of_not_prefix (h : ¬ pat <+: a :: l) :
    index? pat (a :: l) = (index? pat l).map (· + 1) := by
  rw [index?, if_neg h]

/-! ## Delimiters -/

/-- Two delimiters, neither of which occurs in the other. -/
structure Delimiters (α : Type*) where
  first : List α
  second : List α
  first_ne_nil : first ≠ []
  second_ne_nil : second ≠ []
  first_not_infix : ¬ first <:+: second
  second_not_infix : ¬ second <:+: first

namespace Delimiters

variable (d : Delimiters α) {f r : List α}

/-- **The first frame of a buffer** and what follows it: the cut is behind the delimiter that starts
first. -/
def cut (l : List α) : Option (List α × List α) :=
  match index? d.first l, index? d.second l with
  | none, none => none
  | some i, none => some (l.splitAt (i + d.first.length))
  | none, some j => some (l.splitAt (j + d.second.length))
  | some i, some j =>
    if j < i then some (l.splitAt (j + d.second.length)) else some (l.splitAt (i + d.first.length))

@[simp] theorem cut_nil : d.cut [] = none := by
  simp [cut, index?, d.first_ne_nil, d.second_ne_nil]

theorem cut_of_first (h : d.first <+: l) : d.cut l = some (d.first, l.drop d.first.length) := by
  obtain ⟨r, rfl⟩ := h
  rw [cut, index?_of_prefix (prefix_append _ _)]
  cases index? d.second (d.first ++ r) <;> simp

theorem cut_of_second (h : d.second <+: l) (hfirst : ¬ d.first <+: l) :
    d.cut l = some (d.second, l.drop d.second.length) := by
  cases l with
  | nil => exact absurd (prefix_nil.mp h) d.second_ne_nil
  | cons a l =>
    rw [cut, index?_of_prefix h, index?_cons_of_not_prefix hfirst]
    obtain ⟨r, hr⟩ := h
    rw [← hr]
    cases index? d.first l <;> simp

theorem cut_cons (hfirst : ¬ d.first <+: a :: l) (hsecond : ¬ d.second <+: a :: l) :
    d.cut (a :: l) = (d.cut l).map fun fr => (a :: fr.1, fr.2) := by
  have hcomm : ∀ n m, n + 1 + m = n + m + 1 := fun n m => Nat.add_right_comm n 1 m
  rw [cut, cut, index?_cons_of_not_prefix hfirst, index?_cons_of_not_prefix hsecond]
  cases index? d.first l with
  | none =>
    cases index? d.second l with
    | none => rfl
    | some j => simp [hcomm]
  | some i =>
    cases index? d.second l with
    | none => simp [hcomm]
    | some j =>
      by_cases hji : j < i
      · simp [hji, hcomm]
      · simp [hji, hcomm]

/-- **How a buffer is cut**, by its first byte. -/
theorem cut_induction {P : List α → List α → List α → Prop}
    (first : ∀ r, P (d.first ++ r) d.first r)
    (second : ∀ r, ¬ d.first <+: d.second ++ r → P (d.second ++ r) d.second r)
    (cons : ∀ a l f r, ¬ d.first <+: a :: l → ¬ d.second <+: a :: l → d.cut l = some (f, r) →
      P l f r → P (a :: l) (a :: f) r)
    (h : d.cut l = some (f, r)) : P l f r := by
  induction l generalizing f with
  | nil => simp at h
  | cons a l ih =>
    by_cases hfirst : d.first <+: a :: l
    · rw [d.cut_of_first hfirst, Option.some.injEq] at h
      obtain ⟨rfl, rfl⟩ := h
      obtain ⟨r, hr⟩ := hfirst
      rw [← hr, drop_left]
      exact first r
    · by_cases hsecond : d.second <+: a :: l
      · rw [d.cut_of_second hsecond hfirst, Option.some.injEq] at h
        obtain ⟨rfl, rfl⟩ := h
        obtain ⟨r, hr⟩ := hsecond
        rw [← hr] at hfirst ⊢
        rw [drop_left]
        exact second r hfirst
      · rw [d.cut_cons hfirst hsecond, Option.map_eq_some_iff] at h
        obtain ⟨⟨f', r'⟩, hcut, hfr⟩ := h
        obtain ⟨rfl, rfl⟩ := hfr
        exact cons a l f' r' hfirst hsecond hcut (ih hcut)

variable {d}

section

variable (h : d.cut l = some (f, r))
include h

theorem append_of_cut : f ++ r = l := by
  refine d.cut_induction (P := fun l f r => f ++ r = l) ?_ ?_ ?_ h
  · intro r
    rfl
  · intro r _
    rfl
  · intro a l f r _ _ _ ih
    rw [cons_append, ih]

theorem infix_of_cut : d.first <:+: f ∨ d.second <:+: f := by
  refine d.cut_induction (P := fun _ f _ => d.first <:+: f ∨ d.second <:+: f) ?_ ?_ ?_ h
  · intro r
    exact .inl (infix_refl _)
  · intro r _
    exact .inr (infix_refl _)
  · intro a l f r _ _ _ ih
    rcases ih with ih | ih
    · exact .inl (infix_cons ih)
    · exact .inr (infix_cons ih)

theorem length_lt_of_cut : r.length < l.length := by
  have hne : f ≠ [] := by
    rintro rfl
    rcases infix_of_cut h with hinfix | hinfix
    · exact d.first_ne_nil (eq_nil_of_infix_nil hinfix)
    · exact d.second_ne_nil (eq_nil_of_infix_nil hinfix)
  rw [← append_of_cut h, length_append]
  have := length_pos_iff.mpr hne
  omega

end

/-- A word that only what follows the buffer completes has no delimiter before the end of the
buffer. -/
theorem not_prefix_append {b other : List α} (hcut : d.cut l = some (f, r))
    (hpat : ¬ pat <+: a :: l) (hother : ¬ other <:+: pat)
    (hcases : d.first = pat ∧ d.second = other ∨ d.first = other ∧ d.second = pat) :
    ¬ pat <+: a :: l ++ b := by
  intro hlong
  -- The buffer is shorter than the word, so it is a beginning of it.
  have hshort : a :: l <+: pat := by
    rcases prefix_or_prefix_of_prefix hlong (prefix_append (a :: l) b) with h | h
    · exact absurd h hpat
    · exact h
  have hlength : (a :: l).length ≤ pat.length := hshort.length_le
  have hf : f <:+: l := ⟨[], r, by rw [nil_append]; exact append_of_cut hcut⟩
  have hl : l <:+: pat := (infix_cons (infix_refl l)).trans hshort.isInfix
  have hword : ∀ w, w <:+: f → w ≠ pat := by
    rintro w hw rfl
    have := (hw.trans hf).length_le
    rw [length_cons] at hlength
    omega
  rcases hcases with ⟨h1, h2⟩ | ⟨h1, h2⟩
  · rcases infix_of_cut hcut with hin | hin
    · exact hword _ hin h1
    · exact hother (h2 ▸ (hin.trans hf).trans hl)
  · rcases infix_of_cut hcut with hin | hin
    · exact hother (h1 ▸ (hin.trans hf).trans hl)
    · exact hword _ hin h2

theorem cut_append (h : d.cut l = some (f, r)) (b : List α) :
    d.cut (l ++ b) = some (f, r ++ b) := by
  refine d.cut_induction (P := fun l f r => d.cut (l ++ b) = some (f, r ++ b)) ?_ ?_ ?_ h
  · intro r
    rw [append_assoc, d.cut_of_first (prefix_append _ _), drop_left]
  · intro r hfirst
    rw [append_assoc, d.cut_of_second (prefix_append _ _), drop_left]
    -- The first delimiter cannot be completed around the second one, which would be in it.
    intro hlong
    rcases prefix_or_prefix_of_prefix hlong (prefix_append d.second (r ++ b)) with h | h
    · exact d.first_not_infix h.isInfix
    · exact d.second_not_infix h.isInfix
  · intro a l f r hfirst hsecond hcut ih
    have hfirst' : ¬ d.first <+: a :: l ++ b :=
      not_prefix_append hcut hfirst d.second_not_infix (.inl ⟨rfl, rfl⟩)
    have hsecond' : ¬ d.second <+: a :: l ++ b :=
      not_prefix_append hcut hsecond d.first_not_infix (.inr ⟨rfl, rfl⟩)
    rw [cons_append] at hfirst' hsecond' ⊢
    rw [d.cut_cons hfirst' hsecond', ih]
    rfl

/-! ## Frames -/

variable (d)

/-- **One complete frame.** -/
def Frame (f : List α) : Prop := d.cut f = some (f, [])
  deriving Decidable

variable {d}

omit [DecidableEq α] in
theorem not_prefix_of_append (h : ¬ pat <+: f ++ r) : ¬ pat <+: f :=
  fun hf => h (hf.trans (prefix_append f r))

theorem frame_of_cut (h : d.cut l = some (f, r)) : d.Frame f := by
  refine d.cut_induction (P := fun _ f _ => d.Frame f) ?_ ?_ ?_ h
  · intro r
    rw [Frame, d.cut_of_first (prefix_refl _), drop_length]
  · intro r hfirst
    rw [Frame, d.cut_of_second (prefix_refl _) (not_prefix_of_append hfirst), drop_length]
  · intro a l f r hfirst hsecond hcut ih
    rw [← append_of_cut hcut] at hfirst hsecond
    rw [Frame, d.cut_cons (not_prefix_of_append hfirst) (not_prefix_of_append hsecond), ih]
    rfl

theorem Frame.cut_append (h : d.Frame f) (b : List α) : d.cut (f ++ b) = some (f, b) :=
  Delimiters.cut_append h b

theorem Frame.ne_nil (h : d.Frame f) : f ≠ [] := by
  rintro rfl
  simp [Frame] at h

/-- **All frames of a buffer**, and the beginning of the next one. -/
def cutAll (d : Delimiters α) (l : List α) : List (List α) × List α :=
  match h : d.cut l with
  | none => ([], l)
  | some (f, r) =>
    have : r.length < l.length := length_lt_of_cut h
    let rest := d.cutAll r
    (f :: rest.1, rest.2)
  termination_by l.length

theorem cutAll_of_none (h : d.cut l = none) : d.cutAll l = ([], l) := by
  rw [cutAll]
  split
  · rfl
  · next hsome => rw [h] at hsome; cases hsome

theorem cutAll_of_some (h : d.cut l = some (f, r)) :
    d.cutAll l = (f :: (d.cutAll r).1, (d.cutAll r).2) := by
  rw [cutAll]
  split
  · next hnone => rw [h] at hnone; cases hnone
  · next f' r' hsome =>
    rw [h, Option.some.injEq, Prod.mk.injEq] at hsome
    obtain ⟨rfl, rfl⟩ := hsome
    rfl

/-- **Frames do not depend on the chunks**: those of a longer buffer are those already cut and those
of the rest. -/
theorem cutAll_append (l b : List α) :
    d.cutAll (l ++ b) =
      ((d.cutAll l).1 ++ (d.cutAll ((d.cutAll l).2 ++ b)).1, (d.cutAll ((d.cutAll l).2 ++ b)).2) := by
  -- one frame at a time
  induction l using cutAll.induct d with
  | case1 l hcut => rw [cutAll_of_none hcut, nil_append]
  | case2 l f r hcut _ ih =>
    rw [cutAll_of_some hcut, cutAll_of_some (cut_append hcut b), ih, cons_append]

theorem cutAll_flatten {fs : List (List α)} (h : ∀ f ∈ fs, d.Frame f) :
    d.cutAll fs.flatten = (fs, []) := by
  induction fs with
  | nil => exact cutAll_of_none d.cut_nil
  | cons f fs ih =>
    rw [flatten_cons, cutAll_of_some ((h f mem_cons_self).cut_append fs.flatten),
      ih fun g hg => h g (mem_cons_of_mem f hg)]

theorem flatten_cutAll (l : List α) : (d.cutAll l).1.flatten ++ (d.cutAll l).2 = l := by
  induction l using cutAll.induct d with
  | case1 l hcut => rw [cutAll_of_none hcut, flatten_nil, nil_append]
  | case2 l f r hcut _ ih =>
    rw [cutAll_of_some hcut, flatten_cons, append_assoc, ih, append_of_cut hcut]

theorem cut_cutAll (l : List α) : d.cut (d.cutAll l).2 = none := by
  induction l using cutAll.induct d with
  | case1 l hcut => rw [cutAll_of_none hcut, hcut]
  | case2 l f r hcut _ ih => rw [cutAll_of_some hcut, ih]

end Delimiters

end RenewApi.Framing
