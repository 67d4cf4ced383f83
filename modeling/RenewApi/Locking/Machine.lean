import Mathlib.Data.Fintype.Basic
import Mathlib.Data.List.TakeWhile
import Mathlib.Logic.Relation
import RenewApi.Relational.Transaction

/-! # Row locks and wait cycles

Transactions that lock rows one after the other and keep every lock until they end. -/

namespace RenewApi.Locking

open Relational List Function

section

variable {R : Type*} [DecidableEq R] {a b r : R} {rows post : List R}

/-- Row `b` is locked for the first time when `a` is already held. -/
def LocksAfter (a b : R) (rows : List R) : Prop := a ∈ rows.takeWhile (· ≠ b) ∧ b ∈ rows
  deriving Decidable

@[simp] theorem not_locksAfter_nil : ¬ LocksAfter a b [] := fun h => by simpa using h.2

theorem locksAfter_cons :
    LocksAfter a b (r :: rows) ↔ r ≠ b ∧ (a = r ∧ b ∈ rows ∨ LocksAfter a b rows) := by
  unfold LocksAfter
  by_cases hrb : r = b
  · simp [hrb]
  · have hbr : b ≠ r := fun h => hrb h.symm
    simp only [ne_eq, hrb, not_false_eq_true, decide_true, takeWhile_cons_of_pos, mem_cons]
    tauto

theorem locksAfter_append_cons (hb : b ∉ rows) : LocksAfter a b (rows ++ b :: post) ↔ a ∈ rows := by
  have hother : ∀ x ∈ rows, decide (x ≠ b) = true := fun x hx =>
    decide_eq_true (ne_of_mem_of_not_mem hx hb)
  unfold LocksAfter
  rw [takeWhile_append_of_pos hother]
  simp

theorem LocksAfter.mem_of_mem (h : LocksAfter a b (rows ++ post)) (hb : b ∈ rows) : a ∈ rows := by
  induction rows with
  | nil => cases hb
  | cons r rows ih =>
    obtain ⟨hrb, ⟨har, -⟩ | h⟩ := locksAfter_cons.mp h
    · exact har ▸ mem_cons_self
    · rcases mem_cons.mp hb with hbr | hb
      · exact absurd hbr.symm hrb
      · exact mem_cons_of_mem r (ih h hb)

section

variable (h : LocksAfter a b rows)
include h

theorem LocksAfter.ne : a ≠ b := by
  simpa using mem_takeWhile_imp h.1

theorem LocksAfter.mem_left : a ∈ rows := (takeWhile_sublist _).subset h.1

theorem LocksAfter.mem_right : b ∈ rows := h.2

theorem LocksAfter.filter {p : R → Bool} (ha : p a = true) (hb : p b = true) :
    LocksAfter a b (rows.filter p) := by
  induction rows with
  | nil => exact absurd h not_locksAfter_nil
  | cons r rows ih =>
    obtain ⟨hrb, h⟩ := locksAfter_cons.mp h
    cases hr : p r with
    | true =>
      rw [filter_cons_of_pos hr, locksAfter_cons]
      refine ⟨hrb, h.imp (And.imp_right fun hin => ?_) ih⟩
      exact mem_filter.mpr ⟨hin, hb⟩
    | false =>
      rw [filter_cons_of_neg (by simp [hr])]
      rcases h with ⟨har, -⟩ | h
      · rw [har, hr] at ha
        cases ha
      · exact ih h

end

theorem LocksAfter.of_pairwise {S : R → R → Prop} (hS : rows.Pairwise S)
    (h : LocksAfter a b rows) : S a b := by
  induction rows with
  | nil => exact absurd h not_locksAfter_nil
  | cons r rows ih =>
    obtain ⟨hhead, htail⟩ := pairwise_cons.mp hS
    obtain ⟨-, ⟨har, hin⟩ | h⟩ := locksAfter_cons.mp h
    · rw [har]
      exact hhead b hin
    · exact ih htail h

def Lone (rows : List R) : Prop := ∀ a ∈ rows, ∀ b ∈ rows, a = b

instance : Decidable (Lone rows) := inferInstanceAs (Decidable (∀ a ∈ rows, ∀ b ∈ rows, a = b))

/-- **A lock discipline**: a guarded row is locked under its guard, the others by rank. -/
structure Orderly {P : Type*} [Preorder P] (guard : R → Option R) (rank : R → P) (rows : List R) :
    Prop where
  guarded : ∀ r ∈ rows, ∀ g, guard r = some g → LocksAfter g r rows
  ranked : ∀ a b, LocksAfter a b rows → guard a = none → guard b = none → rank a < rank b

end

/-! ## The machine -/

/-- A transaction in progress: the rows it has locked, in that order, and the rows it will still ask
for. -/
structure Tx (R : Type*) where
  held : List R
  pending : List R
  deriving DecidableEq

/-- What can happen next: a transaction asks for its next row, or it ends. -/
inductive LockEvent (ι : Type*)
  | acquire (i : ι)
  | finish (i : ι)
  deriving DecidableEq

section

variable {ι R : Type*}

/-- Nobody but `i` holds the row. -/
def Available (s : ι → Tx R) (i : ι) (r : R) : Prop := ∀ j, j ≠ i → r ∉ (s j).held

instance [Fintype ι] [DecidableEq ι] [DecidableEq R] (s : ι → Tx R) (i : ι) (r : R) :
    Decidable (Available s i r) :=
  inferInstanceAs (Decidable (∀ j, j ≠ i → r ∉ (s j).held))

def WaitsFor (s : ι → Tx R) (i j : ι) : Prop :=
  j ≠ i ∧ ∃ r ∈ (s i).pending.head?, r ∈ (s j).held

instance [DecidableEq ι] [DecidableEq R] (s : ι → Tx R) (i j : ι) : Decidable (WaitsFor s i j) :=
  inferInstanceAs (Decidable (_ ∧ _))

/-- **A wait cycle**: some transaction waits, through others, for itself. -/
def Deadlocked (s : ι → Tx R) : Prop := ∃ i, Relation.TransGen (WaitsFor s) i i

/-- No transaction has locked anything. -/
def start (locks : ι → List R) : ι → Tx R := fun i => ⟨[], locks i⟩

/-- **One step.** A row that no other transaction holds is granted. A transaction may end at any
point and then releases everything. -/
def step [Fintype ι] [DecidableEq ι] [DecidableEq R] (s : ι → Tx R) : LockEvent ι → ι → Tx R
  | .acquire i =>
    match (s i).pending with
    | [] => s
    | r :: rest =>
      if Available s i r then update s i ⟨(s i).held ++ [r], rest⟩ else s
  | .finish i => update s i ⟨[], []⟩

/-- **What every reachable state satisfies**: a row is held by one transaction at most, and each
transaction is somewhere in its sequence or has ended. -/
structure Follows (locks : ι → List R) (s : ι → Tx R) : Prop where
  exclusive : ∀ i j r, r ∈ (s i).held → r ∈ (s j).held → i = j
  progress : ∀ i, (s i).held ++ (s i).pending = locks i ∨ s i = ⟨[], []⟩

variable {locks : ι → List R} {s : ι → Tx R}

theorem follows_start (locks : ι → List R) : Follows locks (start locks) :=
  ⟨fun _ _ _ h => absurd h not_mem_nil, fun _ => .inl rfl⟩

/-! ## Wait cycles -/

variable {P : Type*} [Preorder P] {guard : R → Option R} {rank : R → P} {i j k : ι} {r r' : R}

/-- A wait between two orderly transactions. -/
structure OrderlyWait [DecidableEq R] (guard : R → Option R) (rank : R → P) (locks : ι → List R)
    (s : ι → Tx R) (i j : ι) : Prop where
  waits : WaitsFor s i j
  waiter : Orderly guard rank (locks i)
  holder : Orderly guard rank (locks j)

section

variable (h : Follows locks s)
include h

theorem Follows.waiting (hr : r ∈ (s i).pending.head?) (hj : r ∈ (s j).held)
    (hne : j ≠ i) : r ∉ (s i).held ∧ ∃ rest, locks i = (s i).held ++ r :: rest := by
  refine ⟨fun hin => hne (h.exclusive j i r hj hin), ?_⟩
  obtain ⟨rest, hpending⟩ : ∃ rest, (s i).pending = r :: rest := head?_eq_some_iff.mp hr
  rcases h.progress i with hprogress | hended
  · exact ⟨rest, by rw [← hprogress, hpending]⟩
  · rw [hended] at hpending
    cases hpending

variable [DecidableEq R]

section

variable (horder : ∀ i, Lone (locks i) ∨ Orderly guard rank (locks i))
include horder

theorem Follows.orderly_of_waits (hin : WaitsFor s i j)
    (hout : WaitsFor s j k) : Orderly guard rank (locks j) := by
  obtain ⟨-, a, -, ha⟩ := hin
  obtain ⟨hne, b, hb, hbk⟩ := hout
  obtain ⟨hnotin, rest, hlocks⟩ := h.waiting hb hbk hne
  have hafter : LocksAfter a b (locks j) := by
    rw [hlocks]
    exact (locksAfter_append_cons hnotin).mpr ha
  exact (horder j).resolve_left fun hlone =>
    hafter.ne (hlone a hafter.mem_left b hafter.mem_right)

theorem Follows.orderly_path (hin : ∃ p, WaitsFor s p i)
    (hpath : Relation.TransGen (WaitsFor s) i j) (hout : ∃ k, WaitsFor s j k) :
    Relation.TransGen (OrderlyWait guard rank locks s) i j := by
  obtain ⟨p, hpi⟩ := hin
  induction hpath with
  | single hij =>
    obtain ⟨k, hjk⟩ := hout
    exact .single ⟨hij, h.orderly_of_waits horder hpi hij, h.orderly_of_waits horder hij hjk⟩
  | tail hprefix hjk ih =>
    obtain ⟨q, -, hqj⟩ := Relation.TransGen.tail'_iff.mp hprefix
    obtain ⟨l, hkl⟩ := hout
    exact .tail (ih ⟨_, hjk⟩)
      ⟨hjk, h.orderly_of_waits horder hqj hjk, h.orderly_of_waits horder hjk hkl⟩

end

theorem Follows.unguarded_of_waits (hi : Orderly guard rank (locks i))
    (hj : Orderly guard rank (locks j)) (hr : r ∈ (s i).pending.head?) (hrj : r ∈ (s j).held)
    (hne : j ≠ i) : guard r = none := by
  obtain ⟨hnotin, rest, hlocks⟩ := h.waiting hr hrj hne
  rw [Option.eq_none_iff_forall_ne_some]
  intro g hg
  have hgi : g ∈ (s i).held := by
    have hafter := hi.guarded r (by rw [hlocks]; simp) g hg
    rw [hlocks] at hafter
    exact (locksAfter_append_cons hnotin).mp hafter
  have hgj : g ∈ (s j).held := by
    rcases h.progress j with hprogress | hended
    · have hafter := hj.guarded r (by rw [← hprogress]; simp [hrj]) g hg
      rw [← hprogress] at hafter
      exact hafter.mem_of_mem hrj
    · rw [hended] at hrj
      cases hrj
  exact hne (h.exclusive j i g hgj hgi)

theorem Follows.rank_lt (hij : OrderlyWait guard rank locks s i j)
    (hjk : OrderlyWait guard rank locks s j k) (hr : r ∈ (s i).pending.head?)
    (hr' : r' ∈ (s j).pending.head?) : rank r < rank r' := by
  obtain ⟨⟨hji, x, hx, hxj⟩, hi, hj⟩ := hij
  obtain ⟨⟨hkj, y, hy, hyk⟩, -, hk⟩ := hjk
  obtain rfl : x = r := Option.mem_unique hx hr
  obtain rfl : y = r' := Option.mem_unique hy hr'
  obtain ⟨hnotin, rest, hlocks⟩ := h.waiting hy hyk hkj
  have hafter : LocksAfter x y (locks j) := by
    rw [hlocks]
    exact (locksAfter_append_cons hnotin).mpr hxj
  exact hj.ranked x y hafter (h.unguarded_of_waits hi hj hx hxj hji)
    (h.unguarded_of_waits hj hk hy hyk hkj)

theorem Follows.rank_lt_of_path (hpath : Relation.TransGen (OrderlyWait guard rank locks s) i j)
    (hjk : OrderlyWait guard rank locks s j k) (hr : r ∈ (s i).pending.head?)
    (hr' : r' ∈ (s j).pending.head?) : rank r < rank r' := by
  induction hpath generalizing k r' with
  | single hij => exact h.rank_lt hij hjk hr hr'
  | tail _ hlast ih =>
    obtain ⟨-, x, hx, -⟩ := hlast.waits
    exact (ih hlast hx).trans (h.rank_lt hlast hjk hx hr')

/-- **Orderly transactions never wait in a cycle.** -/
theorem Follows.not_deadlocked
    (horder : ∀ i, Lone (locks i) ∨ Orderly guard rank (locks i)) : ¬ Deadlocked s := by
  rintro ⟨i, hcycle⟩
  obtain ⟨p, -, hpi⟩ := Relation.TransGen.tail'_iff.mp hcycle
  obtain ⟨k, hik, -⟩ := Relation.TransGen.head'_iff.mp hcycle
  have hpath : Relation.TransGen (OrderlyWait guard rank locks s) i i :=
    h.orderly_path horder ⟨p, hpi⟩ hcycle ⟨k, hik⟩
  -- the cycle, followed once around, ends where it starts: the rank of one request is above itself
  obtain ⟨j, hij, -⟩ := Relation.TransGen.head'_iff.mp hpath
  obtain ⟨-, r, hr, -⟩ := hij.waits
  exact lt_irrefl (rank r) (h.rank_lt_of_path hpath hij hr hr)

end

/-! ## Runs -/

variable [DecidableEq ι]

/-- A transaction may take a row nobody else holds. -/
theorem Follows.grant (h : Follows locks s) {i : ι} {r : R} {rest : List R}
    (hpending : (s i).pending = r :: rest) (hfree : Available s i r) :
    Follows locks (update s i ⟨(s i).held ++ [r], rest⟩) := by
  have hheld : ∀ j x, x ∈ (update s i ⟨(s i).held ++ [r], rest⟩ j).held →
      x ∈ (s j).held ∨ j = i ∧ x = r := by
    intro j x hx
    by_cases hji : j = i
    · subst hji
      simpa using hx
    · rw [update_of_ne hji] at hx
      exact .inl hx
  refine ⟨fun j k x hj hk => ?_, fun j => ?_⟩
  · rcases hheld j x hj with hj | ⟨hji, hxr⟩ <;> rcases hheld k x hk with hk | ⟨hki, hxr'⟩
    · exact h.exclusive j k x hj hk
    · by_contra hjk
      exact hfree j (fun hji => hjk (hji.trans hki.symm)) (hxr' ▸ hj)
    · by_contra hjk
      exact hfree k (fun hki => hjk (hji.trans hki.symm)) (hxr ▸ hk)
    · rw [hji, hki]
  · by_cases hji : j = i
    · subst hji
      rcases h.progress j with hprogress | hended
      · left
        rw [← hprogress, hpending]
        simp
      · rw [hended] at hpending
        cases hpending
    · rw [update_of_ne hji]
      exact h.progress j

theorem Follows.release (h : Follows locks s) (i : ι) : Follows locks (update s i ⟨[], []⟩) := by
  have hheld : ∀ j x, x ∈ (update s i ⟨[], []⟩ j).held → x ∈ (s j).held := by
    intro j x hx
    by_cases hji : j = i
    · subst hji
      rw [update_self] at hx
      cases hx
    · rwa [update_of_ne hji] at hx
  refine ⟨fun j k x hj hk => h.exclusive j k x (hheld j x hj) (hheld k x hk), fun j => ?_⟩
  by_cases hji : j = i
  · subst hji
    rw [update_self]
    exact .inr rfl
  · rw [update_of_ne hji]
    exact h.progress j

variable [Fintype ι] [DecidableEq R]

theorem step_acquire_cases (s : ι → Tx R) (i : ι) :
    step s (.acquire i) = s ∨ ∃ r rest, (s i).pending = r :: rest ∧ Available s i r ∧
      step s (.acquire i) = update s i ⟨(s i).held ++ [r], rest⟩ := by
  unfold step
  dsimp only
  split
  · exact .inl rfl
  · next r rest hpending =>
    by_cases hfree : Available s i r
    · exact .inr ⟨r, rest, hpending, hfree, if_pos hfree⟩
    · exact .inl (if_neg hfree)

theorem Follows.step (h : Follows locks s) (e : LockEvent ι) : Follows locks (step s e) := by
  cases e with
  | finish i => exact h.release i
  | acquire i =>
    rcases step_acquire_cases s i with hsame | ⟨r, rest, hpending, hfree, hgrant⟩
    · rwa [hsame]
    · rw [hgrant]
      exact h.grant hpending hfree

/-- **No reachable state of orderly transactions contains a wait cycle.** -/
theorem not_deadlocked_of_orderly (guard : R → Option R) (rank : R → P) (locks : ι → List R)
    (horder : ∀ i, Lone (locks i) ∨ Orderly guard rank (locks i)) (es : List (LockEvent ι)) :
    ¬ Deadlocked (run step (start locks) es) :=
  (run_invariant_all (fun _ e h => h.step e) es (follows_start locks)).not_deadlocked horder

end

end RenewApi.Locking
