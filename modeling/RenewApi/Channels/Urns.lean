import Mathlib.Data.Set.Basic
import Mathlib.Data.List.Infix

/-! # Drawing with rejection

A search draws from a set of candidates until one fits. What does not fit is excluded from the next
draws. -/

namespace RenewApi.Draw

open List Function

variable {n : Nat}

/-- **An urn**: what it holds, and a draw that leaves the excluded candidates out. -/
structure Urn (α R : Type*) where
  content : Set α
  pick : List α → R → Option α
  pick_some : ∀ {excluded r x}, pick excluded r = some x → x ∈ content ∧ x ∉ excluded
  pick_none : ∀ {excluded r}, pick excluded r = none → ∀ x ∈ content, x ∈ excluded

/-- The outcome of a search: what was found, the exclusions by then and the random numbers used. -/
structure Outcome (α : Type*) where
  found : Option α
  excluded : List α
  used : Nat

section

variable {α R : Type*} (urn : Urn α R) (fits : α → Bool) (draws : Nat → R) {bound : Nat}

/-- Draw until something fits, at most a given number of times. -/
def reject : Nat → List α → Nat → Outcome α
  | 0, excluded, n => ⟨none, excluded, n⟩
  | bound + 1, excluded, n =>
    match urn.pick excluded (draws n) with
    | none => ⟨none, excluded, n + 1⟩
    | some x =>
      if fits x then ⟨some x, excluded, n + 1⟩ else reject bound (x :: excluded) (n + 1)

variable {urn fits draws} {excluded : List α}

/-- **What one draw of a search does**: it ends the search without an answer, it finds an answer, or
it excludes a misfit. -/
theorem reject_succ (bound : Nat) (excluded : List α) (n : Nat) :
    ((∀ x ∈ urn.content, x ∈ excluded) ∧
      reject urn fits draws (bound + 1) excluded n = ⟨none, excluded, n + 1⟩) ∨
    ∃ x ∈ urn.content, x ∉ excluded ∧ urn.pick excluded (draws n) = some x ∧
      ((fits x = true ∧
        reject urn fits draws (bound + 1) excluded n = ⟨some x, excluded, n + 1⟩) ∨
      (fits x = false ∧
        reject urn fits draws (bound + 1) excluded n =
          reject urn fits draws bound (x :: excluded) (n + 1))) := by
  rw [reject]
  cases hpick : urn.pick excluded (draws n) with
  | none => exact Or.inl ⟨urn.pick_none hpick, rfl⟩
  | some x =>
    obtain ⟨hcontent, hnot⟩ := urn.pick_some hpick
    refine Or.inr ⟨x, hcontent, hnot, rfl, ?_⟩
    cases hfits : fits x with
    | true => exact Or.inl ⟨rfl, if_pos hfits⟩
    | false => exact Or.inr ⟨rfl, if_neg (by simp [hfits])⟩

theorem of_reject_found {x : α} (h : (reject urn fits draws bound excluded n).found = some x) :
    x ∈ urn.content ∧ x ∉ excluded ∧ fits x = true := by
  induction bound generalizing excluded n with
  | zero => cases h
  | succ bound ih =>
    obtain ⟨-, heq⟩ | ⟨y, hy, hnot, -, ⟨hfits, heq⟩ | ⟨hfits, heq⟩⟩ :=
      reject_succ bound excluded n
    · rw [heq] at h
      cases h
    · rw [heq] at h
      cases h
      exact ⟨hy, hnot, hfits⟩
    · rw [heq] at h
      obtain ⟨hx, hnot', hfits'⟩ := ih h
      exact ⟨hx, fun hin => hnot' (mem_cons_of_mem _ hin), hfits'⟩

variable (urn fits draws) in
/-- A search takes no exclusion back and no random number twice. -/
theorem reject_grows (bound : Nat) (excluded : List α) (n : Nat) :
    excluded ⊆ (reject urn fits draws bound excluded n).excluded ∧
      n ≤ (reject urn fits draws bound excluded n).used := by
  induction bound generalizing excluded n with
  | zero => exact ⟨Subset.refl _, le_rfl⟩
  | succ bound ih =>
    obtain ⟨-, heq⟩ | ⟨y, -, -, -, ⟨-, heq⟩ | ⟨-, heq⟩⟩ := reject_succ bound excluded n
    · rw [heq]
      exact ⟨Subset.refl _, n.le_succ⟩
    · rw [heq]
      exact ⟨Subset.refl _, n.le_succ⟩
    · rw [heq]
      obtain ⟨hsub, hle⟩ := ih (y :: excluded) (n + 1)
      exact ⟨fun x hx => hsub (mem_cons_of_mem _ hx), n.le_succ.trans hle⟩

/-- A search reads the random numbers from its own on. -/
theorem reject_congr {draws' : Nat → R} (h : ∀ m, n ≤ m → draws m = draws' m) :
    reject urn fits draws bound excluded n = reject urn fits draws' bound excluded n := by
  induction bound generalizing excluded n with
  | zero => rfl
  | succ bound ih =>
    have hrest := fun x => @ih (n + 1) (x :: excluded) fun m hm => h m (n.le_succ.trans hm)
    simp only [reject, h n le_rfl, hrest]

end

section

variable {ι α R : Type*} (urn : ι → Urn α R) (fits : ι → α → Bool) (bound : Nat) (draws : Nat → R)

/-- Search the urns one after the other. The exclusions of one search are those of the next. -/
def searchUrns : List ι → List α → Nat → Option (ι × α)
  | [], _, _ => none
  | i :: rest, excluded, n =>
    let outcome := reject (urn i) (fits i) draws bound excluded n
    match outcome.found with
    | some x => some (i, x)
    | none => searchUrns rest outcome.excluded outcome.used

variable {urn fits bound draws}

theorem of_searchUrns_eq_some {urns : List ι} {excluded : List α} {i : ι} {x : α}
    (h : searchUrns urn fits bound draws urns excluded n = some (i, x)) :
    x ∈ (urn i).content ∧ x ∉ excluded ∧ fits i x = true := by
  induction urns generalizing excluded n with
  | nil => cases h
  | cons j rest ih =>
    rw [searchUrns] at h
    cases hfound : (reject (urn j) (fits j) draws bound excluded n).found with
    | some y =>
      rw [hfound] at h
      cases h
      exact of_reject_found hfound
    | none =>
      rw [hfound] at h
      obtain ⟨hx, hnot, hfits⟩ := ih h
      have hsub := (reject_grows (urn j) (fits j) draws bound excluded n).1
      exact ⟨hx, fun hin => hnot (hsub hin), hfits⟩

end

/-! ## Searches in vain -/

section

variable {ι α R : Type*}

/-- Misfits that can be drawn one after the other. `drawn` says what can be drawn next to
exclusions. -/
def DrawnInVain (drawn : List α → α → Prop) (fits : α → Bool) : List α → List α → Prop
  | _, [] => True
  | excluded, x :: xs =>
    drawn excluded x ∧ fits x = false ∧ DrawnInVain drawn fits (x :: excluded) xs

section

variable (drawn : ι → List α → α → Prop) (content : ι → Set α) (fits : ι → α → Bool) (bound : Nat)

/-- Misfits can be drawn from each urn until the draws are used up or nothing is left in it. -/
def Missable : List ι → List α → Prop
  | [], _ => True
  | i :: rest, excluded =>
    ∃ xs, DrawnInVain (drawn i) (fits i) excluded xs ∧
      (xs.length = bound ∨ xs.length < bound ∧ ∀ x ∈ content i, x ∈ xs.reverse ++ excluded) ∧
      Missable rest (xs.reverse ++ excluded)

/-- Fewer misfits than draws come one after the other from an urn, whatever the urns before it have
rejected. -/
def InTime (before : List ι) (i : ι) (excluded : List α) : Prop :=
  ∀ excluded' xs, excluded ⊆ excluded' →
    (∀ x ∈ excluded', x ∈ excluded ∨ ∃ j ∈ before, x ∈ content j ∧ fits j x = false) →
    DrawnInVain (drawn i) (fits i) excluded' xs → xs.length < bound

/-- A candidate is **fresh** in an urn of a list: it fits there, it is not excluded, and no urn
before that one could reject it. -/
def Fresh (urns : List ι) (excluded : List α) : Prop :=
  ∃ before i after x, urns = before ++ i :: after ∧ x ∈ content i ∧ x ∉ excluded ∧
    fits i x = true ∧ ∀ j ∈ before, x ∉ content j

end

variable {urn : ι → Urn α R} {drawn : ι → List α → α → Prop} {fits : ι → α → Bool} {bound : Nat}
  {draws : Nat → R} {excluded : List α} {i : ι}
  (hdrawn : ∀ i excluded x, drawn i excluded x ↔ ∃ r, (urn i).pick excluded r = some x)
include hdrawn

theorem drawnInVain_of_reject
    (h : (reject (urn i) (fits i) draws bound excluded n).found = none) :
    ∃ xs, DrawnInVain (drawn i) (fits i) excluded xs ∧
      (xs.length = bound ∨
        xs.length < bound ∧ ∀ x ∈ (urn i).content, x ∈ xs.reverse ++ excluded) ∧
      (reject (urn i) (fits i) draws bound excluded n).excluded = xs.reverse ++ excluded := by
  induction bound generalizing excluded n with
  | zero => exact ⟨[], trivial, Or.inl rfl, rfl⟩
  | succ bound ih =>
    obtain ⟨hall, heq⟩ | ⟨y, -, -, hpick, ⟨-, heq⟩ | ⟨hfits, heq⟩⟩ := reject_succ bound excluded n
    · rw [heq]
      exact ⟨[], trivial, Or.inr ⟨bound.succ_pos, hall⟩, rfl⟩
    · rw [heq] at h
      cases h
    · rw [heq] at h ⊢
      obtain ⟨xs, hxs, hend, hexcluded⟩ := ih h
      refine ⟨y :: xs, ⟨(hdrawn _ _ _).mpr ⟨_, hpick⟩, hfits, hxs⟩, ?_, by simp [hexcluded]⟩
      simpa using hend

/-- Random numbers with which the misfits are drawn, from a given one on free. -/
theorem exists_reject_eq {xs : List α} (hxs : DrawnInVain (drawn i) (fits i) excluded xs)
    (hend : xs.length = bound ∨
      xs.length < bound ∧ ∀ x ∈ (urn i).content, x ∈ xs.reverse ++ excluded) (n : Nat) :
    ∃ used, n ≤ used ∧ ∀ draws : Nat → R, ∃ draws', (∀ m, used ≤ m → draws' m = draws m) ∧
      reject (urn i) (fits i) draws' bound excluded n = ⟨none, xs.reverse ++ excluded, used⟩ := by
  induction xs generalizing bound excluded n with
  | nil =>
    cases bound with
    | zero => exact ⟨n, le_rfl, fun draws => ⟨draws, fun _ _ => rfl, rfl⟩⟩
    | succ bound =>
      have hall := (hend.resolve_left (by simp)).2
      refine ⟨n + 1, n.le_succ, fun draws => ⟨draws, fun _ _ => rfl, ?_⟩⟩
      obtain ⟨-, heq⟩ | ⟨y, hy, hnot, -⟩ := reject_succ bound excluded n
      · exact heq
      · exact absurd (hall y hy) hnot
  | cons x xs ih =>
    obtain ⟨hx, hfits, hxs⟩ := hxs
    obtain ⟨r, hr⟩ := (hdrawn _ _ _).mp hx
    cases bound with
    | zero => simp at hend
    | succ bound =>
      obtain ⟨used, hused, hrest⟩ := ih hxs (by simpa using hend) (n + 1)
      refine ⟨used, n.le_succ.trans hused, fun draws => ?_⟩
      obtain ⟨draws', hagree, heq⟩ := hrest draws
      -- the number that draws `x` comes first
      have hlater : ∀ m, n < m → update draws' n r m = draws' m := fun m hm =>
        update_of_ne hm.ne' r draws'
      refine ⟨update draws' n r, fun m hm => ?_, ?_⟩
      · rw [hlater m (hused.trans hm), hagree m hm]
      · rw [reject, update_self, hr]
        simp only [hfits, Bool.false_eq_true, if_false, reject_congr hlater, heq, reverse_cons,
          append_assoc, cons_append, nil_append]

omit hdrawn in
theorem searchUrns_congr {draws' : Nat → R} {urns : List ι} (h : ∀ m, n ≤ m → draws m = draws' m) :
    searchUrns urn fits bound draws urns excluded n =
      searchUrns urn fits bound draws' urns excluded n := by
  induction urns generalizing excluded n with
  | nil => rfl
  | cons i rest ih =>
    have hused := (reject_grows (urn i) (fits i) draws bound excluded n).2
    simp only [searchUrns, ← reject_congr h, ih fun m hm => h m (hused.trans hm)]

/-- **A search can find nothing exactly if misfits can be drawn to its end.** -/
theorem exists_searchUrns_eq_none_iff [Nonempty R] {urns : List ι} :
    (∃ draws, searchUrns urn fits bound draws urns excluded n = none) ↔
      Missable drawn (fun i => (urn i).content) fits bound urns excluded := by
  induction urns generalizing excluded n with
  | nil => exact iff_of_true ⟨fun _ => Classical.arbitrary R, rfl⟩ trivial
  | cons i rest ih =>
    constructor
    · rintro ⟨draws, h⟩
      rw [searchUrns] at h
      cases hfound : (reject (urn i) (fits i) draws bound excluded n).found with
      | some x => simp [hfound] at h
      | none =>
        obtain ⟨xs, hxs, hend, hexcluded⟩ := drawnInVain_of_reject hdrawn hfound
        simp only [hfound, hexcluded] at h
        exact ⟨xs, hxs, hend, ih.mp ⟨draws, h⟩⟩
    · rintro ⟨xs, hxs, hend, hrest⟩
      obtain ⟨used, -, hreject⟩ := exists_reject_eq hdrawn hxs hend n
      obtain ⟨draws, hsearch⟩ := ih.mpr hrest
      obtain ⟨draws', hagree, heq⟩ := hreject draws
      refine ⟨draws', ?_⟩
      simp only [searchUrns, heq]
      rw [searchUrns_congr hagree, hsearch]

theorem of_drawnInVain {xs : List α} (hxs : DrawnInVain (drawn i) (fits i) excluded xs) :
    ∀ x ∈ xs, x ∈ (urn i).content ∧ fits i x = false := by
  induction xs generalizing excluded with
  | nil => exact fun x hx => absurd hx not_mem_nil
  | cons y xs ih =>
    obtain ⟨hy, hfits, hxs⟩ := hxs
    obtain ⟨r, hr⟩ := (hdrawn _ _ _).mp hy
    exact forall_mem_cons.mpr ⟨⟨((urn i).pick_some hr).1, hfits⟩, ih hxs⟩

theorem InTime.tail {j : ι} {before : List ι} {xs : List α}
    (h : InTime drawn (fun i => (urn i).content) fits bound (j :: before) i excluded)
    (hxs : DrawnInVain (drawn j) (fits j) excluded xs) :
    InTime drawn (fun i => (urn i).content) fits bound before i (xs.reverse ++ excluded) := by
  intro excluded' ys hsub hback
  refine h excluded' ys (fun x hx => hsub (mem_append_right _ hx)) fun x hx => ?_
  rcases hback x hx with hin | ⟨k, hk, hreject⟩
  · rcases mem_append.mp hin with hin | hin
    · exact Or.inr ⟨j, mem_cons_self, of_drawnInVain hdrawn hxs x (mem_reverse.mp hin)⟩
    · exact Or.inl hin
  · exact Or.inr ⟨k, mem_cons_of_mem _ hk, hreject⟩

/-- **A fresh candidate that is drawn in time is not missed.** -/
theorem not_missable {before after : List ι} {x : α} (hx : x ∈ (urn i).content)
    (hnot : x ∉ excluded) (hfits : fits i x = true) (hbefore : ∀ j ∈ before, x ∉ (urn j).content)
    (htime : InTime drawn (fun i => (urn i).content) fits bound before i excluded) :
    ¬ Missable drawn (fun i => (urn i).content) fits bound (before ++ i :: after) excluded := by
  induction before generalizing excluded with
  | nil =>
    rintro ⟨xs, hxs, hlen | ⟨-, hall⟩, -⟩
    · exact absurd hlen (htime excluded xs (Subset.refl _) (fun _ => Or.inl) hxs).ne
    · rcases mem_append.mp (hall x hx) with hin | hin
      · -- what is drawn in vain does not fit
        have hmisfit := (of_drawnInVain hdrawn hxs x (mem_reverse.mp hin)).2
        rw [hfits] at hmisfit
        cases hmisfit
      · exact hnot hin
  | cons j before ih =>
    rintro ⟨xs, hxs, -, hrest⟩
    refine ih ?_ (fun k hk => hbefore k (mem_cons_of_mem _ hk)) (htime.tail hdrawn hxs) hrest
    intro hin
    rcases mem_append.mp hin with hin | hin
    · exact hbefore j mem_cons_self (of_drawnInVain hdrawn hxs x (mem_reverse.mp hin)).1
    · exact hnot hin

/-- With short runs of misfits in every urn, what is found is fresh. -/
theorem fresh_of_searchUrns {urns : List ι} {answer : ι × α}
    (htime : ∀ before i after, urns = before ++ i :: after →
      InTime drawn (fun i => (urn i).content) fits bound before i excluded)
    (h : searchUrns urn fits bound draws urns excluded n = some answer) :
    Fresh (fun i => (urn i).content) fits urns excluded := by
  induction urns generalizing excluded n with
  | nil => cases h
  | cons j rest ih =>
    rw [searchUrns] at h
    cases hfound : (reject (urn j) (fits j) draws bound excluded n).found with
    | some y =>
      obtain ⟨hy, hnot, hfits⟩ := of_reject_found hfound
      exact ⟨[], j, rest, y, rfl, hy, hnot, hfits, fun k hk => absurd hk not_mem_nil⟩
    | none =>
      obtain ⟨xs, hxs, hend, hexcluded⟩ := drawnInVain_of_reject hdrawn hfound
      simp only [hfound, hexcluded] at h
      have hshort := htime [] j rest rfl excluded xs (Subset.refl _) (fun _ => Or.inl) hxs
      have hall := (hend.resolve_left hshort.ne).2
      obtain ⟨before, i, after, x, rfl, hx, hnot, hfits, hbefore⟩ :=
        ih (fun before i after heq =>
          (htime (j :: before) i after (by rw [heq, cons_append])).tail hdrawn hxs) h
      refine ⟨j :: before, i, after, x, rfl, hx, fun hin => hnot (mem_append_right _ hin), hfits, ?_⟩
      exact forall_mem_cons.mpr ⟨fun hin => hnot (hall x hin), hbefore⟩

end

/-! ## Searches that take what comes -/

section

variable {ι α R : Type*} {urn : ι → Urn α R} {bound : Nat}

theorem reject_true (u : Urn α R) (draws : Nat → R) (excluded : List α) (n : Nat) :
    reject u (fun _ => true) draws (bound + 1) excluded n =
      ⟨u.pick excluded (draws n), excluded, n + 1⟩ := by
  rw [reject]
  cases u.pick excluded (draws n) <;> rfl

/-- **When everything fits, the answers are the draws from the first urn that is not exhausted.** -/
theorem exists_searchUrns_true_iff {urns : List ι} {excluded : List α} {i : ι} {x : α} :
    (∃ draws, searchUrns urn (fun _ _ => true) (bound + 1) draws urns excluded n = some (i, x)) ↔
      ∃ before after, urns = before ++ i :: after ∧
        (∀ j ∈ before, ∀ y ∈ (urn j).content, y ∈ excluded) ∧
        ∃ r, (urn i).pick excluded r = some x := by
  constructor
  · rintro ⟨draws, h⟩
    induction urns generalizing n with
    | nil => cases h
    | cons j rest ih =>
      rw [searchUrns, reject_true] at h
      cases hpick : (urn j).pick excluded (draws n) with
      | some y =>
        rw [hpick] at h
        cases h
        exact ⟨[], rest, rfl, fun k hk => absurd hk not_mem_nil, _, hpick⟩
      | none =>
        rw [hpick] at h
        obtain ⟨before, after, rfl, hbefore, r, hr⟩ := ih h
        refine ⟨j :: before, after, rfl, fun k hk => ?_, r, hr⟩
        rcases mem_cons.mp hk with rfl | hk
        · exact (urn k).pick_none hpick
        · exact hbefore k hk
  · rintro ⟨before, after, rfl, hbefore, r, hr⟩
    -- the same number at every draw: the urns before answer with nothing in any case
    refine ⟨fun _ => r, ?_⟩
    induction before generalizing n with
    | nil =>
      rw [nil_append, searchUrns, reject_true]
      rw [hr]
    | cons j before ih =>
      have hnone : (urn j).pick excluded r = none := by
        cases hpick : (urn j).pick excluded r with
        | none => rfl
        | some y =>
          obtain ⟨hy, hnot⟩ := (urn j).pick_some hpick
          exact absurd (hbefore j mem_cons_self y hy) hnot
      rw [cons_append, searchUrns, reject_true]
      rw [hnone]
      exact ih (fun k hk => hbefore k (mem_cons_of_mem _ hk))

theorem mem_excluded_of_searchUrns_true {draws : Nat → R} {urns : List ι} {excluded : List α}
    (h : searchUrns urn (fun _ _ => true) (bound + 1) draws urns excluded n = none) :
    ∀ i ∈ urns, ∀ x ∈ (urn i).content, x ∈ excluded := by
  induction urns generalizing n with
  | nil => exact fun i hi => absurd hi not_mem_nil
  | cons j rest ih =>
    rw [searchUrns, reject_true] at h
    cases hpick : (urn j).pick excluded (draws n) with
    | some y =>
      rw [hpick] at h
      cases h
    | none =>
      rw [hpick] at h
      intro i hi
      rcases mem_cons.mp hi with rfl | hi
      · exact (urn i).pick_none hpick
      · exact ih h i hi

end

end RenewApi.Draw
