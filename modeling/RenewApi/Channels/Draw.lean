import Mathlib

/-! # Tiers and weighted draws

The candidates of one priority level are taken, among them those of the best rank, and of these one
is drawn by weight.

* **Draws**: `pickLt` and `pickLe` walk over weighted candidates with a random number and stop when
  it is used up, strictly or not (`exists_pickLt_iff`, `exists_pickLe_iff`). -/

namespace RenewApi.Draw

open List

variable {α β : Type*} {r n : Nat} {l l' : List Int} {a : α} {ls : List β}

/-- The sum of all weights. -/
def total (l : List (α × Nat)) : Nat := (l.map Prod.snd).sum

@[simp] theorem total_cons (p : α × Nat) (l : List (α × Nat)) : total (p :: l) = p.2 + total l := by
  simp [total]

/-- Subtract the weights one after the other and stop where the number falls below zero. -/
def pickLt : List (α × Nat) → Nat → Option α
  | [], _ => none
  | (a, w) :: rest, r => if r < w then some a else pickLt rest (r - w)

/-- Subtract the weights one after the other and stop where the number is not above zero. -/
def pickLe : List (α × Nat) → Nat → Option α
  | [], _ => none
  | (a, w) :: rest, r => if r ≤ w then some a else pickLe rest (r - w)

theorem mem_of_pickLt {l : List (α × Nat)} (h : pickLt l r = some a) : ∃ w, (a, w) ∈ l ∧ 0 < w := by
  induction l generalizing r with
  | nil => cases h
  | cons p l ih =>
    obtain ⟨b, w⟩ := p
    rw [pickLt] at h
    split at h
    · cases h
      exact ⟨w, mem_cons_self, by omega⟩
    · obtain ⟨w', hmem, hpos⟩ := ih h
      exact ⟨w', mem_cons_of_mem _ hmem, hpos⟩

/-- The numbers that draw a candidate start where the weights before it end. -/
theorem exists_pickLt_of_mem {l : List (α × Nat)} {w : Nat} (hmem : (a, w) ∈ l) (hpos : 0 < w) :
    ∃ r, r + w ≤ total l ∧ pickLt l r = some a := by
  induction l with
  | nil => exact absurd hmem not_mem_nil
  | cons p l ih =>
    obtain ⟨b, v⟩ := p
    rcases mem_cons.mp hmem with heq | hmem
    · cases heq
      refine ⟨0, by rw [total_cons]; omega, ?_⟩
      rw [pickLt, if_pos hpos]
    · -- skip the weight of the first candidate
      obtain ⟨r, hr, hpick⟩ := ih hmem
      refine ⟨v + r, by rw [total_cons]; omega, ?_⟩
      rw [pickLt, if_neg (by omega), Nat.add_sub_cancel_left]
      exact hpick

theorem exists_of_lt_total {l : List (α × Nat)} (h : r < total l) : ∃ a, pickLt l r = some a := by
  induction l generalizing r with
  | nil => exact absurd h (Nat.not_lt_zero r)
  | cons p l ih =>
    obtain ⟨b, v⟩ := p
    rw [total_cons] at h
    rw [pickLt]
    split
    · exact ⟨b, rfl⟩
    · exact ih (by dsimp only at h; omega)

/-- **What a strict draw can return**: the candidates of positive weight. -/
theorem exists_pickLt_iff {l : List (α × Nat)} :
    (∃ n, pickLt l (n % total l) = some a) ↔ ∃ w, (a, w) ∈ l ∧ 0 < w := by
  constructor
  · rintro ⟨n, h⟩
    exact mem_of_pickLt h
  · rintro ⟨w, hmem, hpos⟩
    obtain ⟨r, hr, h⟩ := exists_pickLt_of_mem hmem hpos
    exact ⟨r, by rwa [Nat.mod_eq_of_lt (by omega)]⟩

/-- A lax draw is a strict one by a number less by one; zero draws the first candidate. -/
theorem pickLe_eq (l : List (α × Nat)) (r : Nat) :
    pickLe l r = if r = 0 then l.head?.map Prod.fst else pickLt l (r - 1) := by
  induction l generalizing r with
  | nil => simp [pickLe, pickLt]
  | cons p l ih =>
    rw [pickLe, pickLt]
    grind

theorem mem_of_pickLe {l : List (α × Nat)} (h : pickLe l r = some a) : ∃ w, (a, w) ∈ l := by
  rw [pickLe_eq] at h
  split at h
  · obtain ⟨p, hp, rfl⟩ := Option.map_eq_some_iff.mp h
    exact ⟨p.2, mem_of_mem_head? hp⟩
  · obtain ⟨w, hmem, -⟩ := mem_of_pickLt h
    exact ⟨w, hmem⟩

theorem exists_pickLe_of_lt_total {l : List (α × Nat)} (h : r < total l) :
    ∃ a, pickLe l r = some a := by
  rw [pickLe_eq]
  split
  · cases l with
    | nil => exact absurd h (Nat.not_lt_zero r)
    | cons p l => exact ⟨p.1, rfl⟩
  · exact exists_of_lt_total (by omega)

/-- **What a lax draw can return**: everybody, when no weight is below two. -/
theorem exists_pickLe_iff {l : List (α × Nat)} (hl : ∀ p ∈ l, 2 ≤ p.2) :
    (∃ n, pickLe l (n % total l) = some a) ↔ ∃ w, (a, w) ∈ l := by
  constructor
  · rintro ⟨n, h⟩
    exact mem_of_pickLe h
  · rintro ⟨w, hmem⟩
    -- after the first candidate zero is used up, so weight one would not be enough
    have hw : 2 ≤ w := hl _ hmem
    obtain ⟨r, hr, h⟩ := exists_pickLt_of_mem hmem (by omega)
    refine ⟨r + 1, ?_⟩
    rwa [Nat.mod_eq_of_lt (by omega), pickLe_eq, if_neg (by omega), Nat.add_sub_cancel]

/-! ## Levels -/

theorem eq_of_descending (h : l.Pairwise (· > ·)) (h' : l'.Pairwise (· > ·))
    (hmem : ∀ x, x ∈ l ↔ x ∈ l') : l = l' := by
  have hperm : l.Perm l' := (perm_ext_iff_of_nodup (h.imp fun h => h.ne')
    (h'.imp fun h => h.ne')).mpr hmem
  exact hperm.eq_of_pairwise (fun a b _ _ hab hba => absurd hab (by omega)) h h'

/-- The distinct values of a list, highest first. -/
def levels (l : List Int) : List Int := l.dedup.insertionSort (· ≥ ·)

@[simp] theorem mem_levels {x : Int} : x ∈ levels l ↔ x ∈ l := by
  rw [levels, (perm_insertionSort _ _).mem_iff, mem_dedup]

theorem descending_levels (l : List Int) : (levels l).Pairwise (· > ·) := by
  have hsorted : (levels l).Pairwise (· ≥ ·) := pairwise_insertionSort _ _
  have hnodup : (levels l).Nodup := (perm_insertionSort _ _).nodup_iff.mpr l.nodup_dedup
  exact (hsorted.and hnodup).imp fun ⟨hge, hne⟩ => lt_of_le_of_ne hge (Ne.symm hne)

theorem levels_congr (h : ∀ x, x ∈ l ↔ x ∈ l') : levels l = levels l' :=
  eq_of_descending (descending_levels l) (descending_levels l') fun x => by
    rw [mem_levels, mem_levels, h]

/-- The element at an index, and the last one beyond the end. -/
def level (ls : List β) (n : Nat) : Option β := (ls[n]?).or ls.getLast?

@[simp] theorem level_map (f : α → β) (ls : List α) (n : Nat) :
    level (ls.map f) n = (level ls n).map f := by
  unfold level
  rw [getElem?_map, getLast?_map]
  cases ls[n]? with
  | none => rfl
  | some a => rfl

theorem mem_of_level {b : β} (h : level ls n = some b) : b ∈ ls := by
  unfold level at h
  cases hn : ls[n]? with
  | none =>
    rw [hn] at h
    exact mem_of_getLast? h
  | some a =>
    rw [hn] at h
    cases h
    exact mem_of_getElem? hn

theorem level_eq_none_iff : level ls n = none ↔ ls = [] := by
  constructor
  · intro h
    exact getLast?_eq_none_iff.mp (Option.or_eq_none_iff.mp h).2
  · rintro rfl
    rfl

theorem getElem?_min_eq_level (n : Nat) : ls[min n (ls.length - 1)]? = level ls n := by
  unfold level
  by_cases hn : n < ls.length
  · rw [Nat.min_eq_left (by omega), getElem?_eq_getElem hn]
    rfl
  · rw [Nat.min_eq_right (by omega), getElem?_eq_none (by omega : ls.length ≤ n),
      getLast?_eq_getElem?]
    rfl

/-! ## Runs -/

section

variable (key : α → Int)

/-- Cut a list into runs of equal key. -/
def runs : List α → List (Int × List α)
  | [] => []
  | a :: l =>
    match runs l with
    | [] => [(key a, [a])]
    | (k, es) :: rest =>
      if key a = k then (k, a :: es) :: rest else (key a, [a]) :: (k, es) :: rest

variable {key} {l : List α}

/-- **The runs of a sorted list**: their keys descend strictly, each run is all of its key, every
element is in a run, and no run is empty. -/
theorem runs_spec (hl : l.Pairwise fun a b => key b ≤ key a) :
    (runs key l).Pairwise (fun r r' => r.1 > r'.1) ∧
    (∀ run ∈ runs key l, run.2 = l.filter fun a => key a = run.1) ∧
    (∀ a ∈ l, ∃ run ∈ runs key l, run.1 = key a) ∧ ∀ run ∈ runs key l, run.2 ≠ [] := by
  induction l with
  | nil => simp [runs]
  | cons a l ih =>
    obtain ⟨hhead, htail⟩ := pairwise_cons.mp hl
    obtain ⟨hdesc, hall, hcover, hne⟩ := ih htail
    rw [runs]
    cases hruns : runs key l with
    | nil =>
      have hnil : l = [] := eq_nil_iff_forall_not_mem.mpr fun b hb => by
        obtain ⟨run, hrun, -⟩ := hcover b hb
        rw [hruns] at hrun
        exact absurd hrun not_mem_nil
      subst hnil
      simp
    | cons first rest =>
      obtain ⟨k, es⟩ := first
      rw [hruns] at hdesc hall hcover hne
      have hbelow := pairwise_cons.mp hdesc
      -- every run key is the key of an element of `l`, so none is above the key of `a`
      have hle : ∀ run ∈ (k, es) :: rest, run.1 ≤ key a := fun run hrun => by
        obtain ⟨b, hb⟩ := exists_mem_of_ne_nil _ (hne run hrun)
        rw [hall run hrun, mem_filter, decide_eq_true_eq] at hb
        exact hb.2 ▸ hhead b hb.1
      dsimp only
      split
      · rename_i hk
        refine ⟨pairwise_cons.mpr hbelow, fun run hrun => ?_, fun b hb => ?_,
          forall_mem_cons.mpr ⟨cons_ne_nil _ _, fun run hrun => hne run (mem_cons_of_mem _ hrun)⟩⟩
        · rcases mem_cons.mp hrun with rfl | hrun
          · rw [filter_cons_of_pos (by simpa using hk)]
            exact congrArg (a :: ·) (hall (k, es) mem_cons_self)
          · have hlt := hbelow.1 run hrun
            rw [filter_cons_of_neg (by simp only [decide_eq_true_eq]; omega)]
            exact hall run (mem_cons_of_mem _ hrun)
        · rcases mem_cons.mp hb with rfl | hb
          · exact ⟨_, mem_cons_self, hk.symm⟩
          · obtain ⟨run, hrun, hkey⟩ := hcover b hb
            rcases mem_cons.mp hrun with rfl | hrun
            · exact ⟨_, mem_cons_self, hkey⟩
            · exact ⟨run, mem_cons_of_mem _ hrun, hkey⟩
      · rename_i hk
        have hlt : ∀ run ∈ (k, es) :: rest, run.1 < key a := by
          have hfirst : k < key a :=
            lt_of_le_of_ne (hle _ mem_cons_self) (Ne.symm hk)
          intro run hrun
          rcases mem_cons.mp hrun with rfl | hrun
          · exact hfirst
          · exact lt_trans (hbelow.1 run hrun) hfirst
        refine ⟨pairwise_cons.mpr ⟨hlt, hdesc⟩, fun run hrun => ?_, fun b hb => ?_,
          forall_mem_cons.mpr ⟨cons_ne_nil _ _, hne⟩⟩
        · rcases mem_cons.mp hrun with rfl | hrun
          · rw [filter_cons_of_pos (by simp)]
            refine (congrArg (a :: ·) (filter_eq_nil_iff.mpr fun b hb => ?_)).symm
            obtain ⟨run, hrun, hkey⟩ := hcover b hb
            have := hlt run hrun
            simp only [decide_eq_true_eq]
            omega
          · have := hlt run hrun
            rw [filter_cons_of_neg (by simp only [decide_eq_true_eq]; omega)]
            exact hall run hrun
        · rcases mem_cons.mp hb with rfl | hb
          · exact ⟨_, mem_cons_self, rfl⟩
          · obtain ⟨run, hrun, hkey⟩ := hcover b hb
            exact ⟨run, mem_cons_of_mem _ hrun, hkey⟩

/-- **The runs with a usable element are the levels of the usable elements.** -/
theorem map_fst_filter_runs (hl : l.Pairwise fun a b => key b ≤ key a) (ok : α → Bool) :
    ((runs key l).filter fun run => run.2.any ok).map Prod.fst =
      levels ((l.filter ok).map key) := by
  obtain ⟨hdesc, hall, hcover, -⟩ := runs_spec hl
  refine eq_of_descending ?_ (descending_levels _) fun x => ?_
  · exact (hdesc.filter _).map Prod.fst fun _ _ h => h
  · rw [mem_levels, mem_map, mem_map]
    constructor
    · rintro ⟨run, hrun, rfl⟩
      obtain ⟨hrun, hok⟩ := mem_filter.mp hrun
      obtain ⟨a, ha, hoka⟩ := any_eq_true.mp hok
      rw [hall run hrun] at ha
      obtain ⟨ha, hkey⟩ := mem_filter.mp ha
      exact ⟨a, mem_filter.mpr ⟨ha, hoka⟩, by simpa using hkey⟩
    · rintro ⟨a, ha, rfl⟩
      obtain ⟨ha, hok⟩ := mem_filter.mp ha
      obtain ⟨run, hrun, hkey⟩ := hcover a ha
      refine ⟨run, mem_filter.mpr ⟨hrun, any_eq_true.mpr ⟨a, ?_, hok⟩⟩, hkey⟩
      rw [hall run hrun]
      exact mem_filter.mpr ⟨ha, by simpa using hkey.symm⟩

end

/-! ## Ranks -/

variable (rank : α → Int)

/-- Keep the candidates of lowest rank. -/
def keepBest : List α → List α
  | [] => []
  | a :: l =>
    let best := l.foldl (fun best b => if rank b < best then rank b else best) (rank a)
    (a :: l).filter fun b => rank b = best

theorem foldl_lowest (l : List α) (start : Int) :
    let best := l.foldl (fun best b => if rank b < best then rank b else best) start
    best ≤ start ∧ (∀ b ∈ l, best ≤ rank b) ∧ (best = start ∨ ∃ b ∈ l, rank b = best) := by
  induction l generalizing start with
  | nil => simp
  | cons b l ih =>
    obtain ⟨hstart, hle, hfound⟩ := ih (if rank b < start then rank b else start)
    rw [foldl_cons]
    refine ⟨?_, ?_, ?_⟩
    · refine hstart.trans ?_
      split <;> omega
    · intro c hc
      rcases mem_cons.mp hc with rfl | hc
      · refine hstart.trans ?_
        split <;> omega
      · exact hle c hc
    · rcases hfound with heq | ⟨c, hc, hrank⟩
      · rw [heq]
        split
        · exact Or.inr ⟨b, mem_cons_self, rfl⟩
        · exact Or.inl rfl
      · exact Or.inr ⟨c, mem_cons_of_mem _ hc, hrank⟩

/-- **The kept candidates are those that nobody outranks.** -/
theorem mem_keepBest {rank : α → Int} {l : List α} :
    a ∈ keepBest rank l ↔ a ∈ l ∧ ∀ b ∈ l, rank a ≤ rank b := by
  cases l with
  | nil => simp [keepBest]
  | cons c l =>
    obtain ⟨hstart, hle, hfound⟩ := foldl_lowest rank l (rank c)
    dsimp only [keepBest] at hstart hle hfound ⊢
    rw [mem_filter, decide_eq_true_eq]
    refine and_congr_right fun ha => ?_
    rw [forall_mem_cons]
    constructor
    · intro heq
      rw [heq]
      exact ⟨hstart, hle⟩
    · rintro ⟨hc, hl⟩
      refine le_antisymm ?_ ?_
      · rcases hfound with heq | ⟨b, hb, hrank⟩
        · rw [heq]
          exact hc
        · rw [← hrank]
          exact hl b hb
      · rcases mem_cons.mp ha with rfl | ha
        · exact hstart
        · exact hle a ha

theorem keepBest_ne_nil {l : List α} (h : l ≠ []) : keepBest rank l ≠ [] := by
  obtain ⟨c, l, rfl⟩ := exists_cons_of_ne_nil h
  obtain ⟨-, -, hfound⟩ := foldl_lowest rank l (rank c)
  rcases hfound with heq | ⟨b, hb, hrank⟩
  · exact ne_nil_of_mem (mem_filter.mpr ⟨mem_cons_self, by simpa using heq.symm⟩)
  · exact ne_nil_of_mem
      (mem_filter.mpr ⟨mem_cons_of_mem _ hb, by simpa using hrank⟩)

@[simp] theorem keepBest_singleton (a : α) : keepBest rank [a] = [a] := by
  simp [keepBest]

end RenewApi.Draw
