import Mathlib.Algebra.Order.Group.Int
import Mathlib.Data.List.Basic
import Mathlib.Tactic.Common

/-! # Sliding windows over dated units

A limiter may store any part of the units it has admitted, as long as the stored part and the whole
history have the same units inside the window. -/

namespace RenewApi.Window

open List

variable {U : Type*} (time : U → Int)

/-- The units dated in the half-open window `(t - d, t]`. -/
def live (d t : Int) (us : List U) : List U :=
  us.filter (fun u => decide (t - d < time u ∧ time u ≤ t))

/-- Drop units from the front while they have left the window. -/
def expireFront (d t : Int) (us : List U) : List U :=
  us.dropWhile (fun u => decide (d ≤ t - time u))

/-- The units stand in the order of their dates. -/
def Ordered (us : List U) : Prop := us.Pairwise (fun u v => time u ≤ time v)

variable {time} {d t t' : Int} {us vs : List U} {last : U}

theorem mem_live {u : U} : u ∈ live time d t us ↔ u ∈ us ∧ t - d < time u ∧ time u ≤ t := by
  rw [live, mem_filter, decide_eq_true_iff]

theorem live_append : live time d t (us ++ vs) = live time d t us ++ live time d t vs :=
  filter_append ..

theorem live_filter (p : U → Bool) : live time d t (us.filter p) = (live time d t us).filter p := by
  rw [live, live, filter_filter, filter_filter]
  exact filter_congr fun u _ => Bool.and_comm ..

/-- **A later window only loses units**: of units dated up to `t`, it sees what it sees of those
that were live at `t`. -/
theorem live_live (hle : t ≤ t') (hpast : ∀ u ∈ us, time u ≤ t) :
    live time d t' (live time d t us) = live time d t' us := by
  rw [live, live, filter_filter]
  refine filter_congr fun u hu => ?_
  have hu := hpast u hu
  rw [Bool.eq_iff_iff, Bool.and_eq_true, decide_eq_true_iff, decide_eq_true_iff]
  omega

theorem live_eq_nil (h : ∀ u ∈ us, d ≤ t - time u) : live time d t us = [] := by
  rw [live, filter_eq_nil_iff]
  intro u hu
  have := h u hu
  rw [decide_eq_true_iff]
  omega

/-- **Expiring the front is taking the window.** In a list ordered by date the units that have
left the window form a prefix. -/
theorem expireFront_eq_live (hord : Ordered time us) (hpast : ∀ u ∈ us, time u ≤ t) :
    expireFront time d t us = live time d t us := by
  induction us with
  | nil => rfl
  | cons u us ih =>
    obtain ⟨hfirst, hrest⟩ := pairwise_cons.mp hord
    have hpastRest : ∀ v ∈ us, time v ≤ t := fun v hv => hpast v (mem_cons_of_mem u hv)
    by_cases hold : d ≤ t - time u
    · have hout : ¬ (t - d < time u ∧ time u ≤ t) := by omega
      rw [expireFront, dropWhile_cons_of_pos (by rwa [decide_eq_true_iff]), live,
        filter_cons_of_neg (by rwa [decide_eq_true_iff])]
      exact ih hrest hpastRest
    · -- the first unit is in the window, so every later one is too and nothing is dropped
      rw [expireFront, dropWhile_cons_of_neg (by rwa [decide_eq_true_iff]), live, eq_comm,
        filter_eq_self]
      intro v hv
      rw [decide_eq_true_iff]
      have hvt := hpast v hv
      rcases mem_cons.mp hv with rfl | hv
      · omega
      · have := hfirst v hv
        omega

theorem le_getLast (hord : Ordered time us) (hlast : us.getLast? = some last) :
    ∀ u ∈ us, time u ≤ time last := by
  obtain ⟨init, rfl⟩ := getLast?_eq_some_iff.mp hlast
  intro u hu
  rcases mem_append.mp hu with hu | hu
  · exact (pairwise_append.mp hord).2.2 u hu last (mem_singleton_self last)
  · exact (congrArg time (mem_singleton.mp hu)).le

theorem min?_time_of_ordered {u : U} (hord : Ordered time (u :: us)) :
    ((u :: us).map time).min? = some (time u) := by
  rw [min?_eq_some_iff]
  refine ⟨mem_cons_self, ?_⟩
  intro s hs
  obtain ⟨v, hv, rfl⟩ := mem_map.mp hs
  rcases mem_cons.mp hv with rfl | hv
  · exact le_rfl
  · exact (pairwise_cons.mp hord).1 v hv

/-! ## Stored units that stand for a history -/

variable (time) in
/-- The stored units `held` **represent** the history `units` at time `t`: they are some of its
units in order, none is dated in the future, and the window sees the same in both. -/
structure Represents (d t : Int) (held units : List U) : Prop where
  sub : held.Sublist units
  ordered : Ordered time units
  past : ∀ u ∈ units, time u ≤ t
  live_eq : live time d t held = live time d t units

namespace Represents

variable {held units : List U}

theorem nil : Represents time d t [] [] where
  sub := Sublist.refl []
  ordered := Pairwise.nil
  past := fun _ hu => absurd hu not_mem_nil
  live_eq := rfl

section

variable (h : Represents time d t held units)
include h

theorem ordered_held : Ordered time held :=
  h.ordered.sublist h.sub

theorem past_held : ∀ u ∈ held, time u ≤ t :=
  fun u hu => h.past u (h.sub.subset hu)

theorem later (hle : t ≤ t') : Represents time d t' held units where
  sub := h.sub
  ordered := h.ordered
  past := fun u hu => (h.past u hu).trans hle
  live_eq := by
    rw [← live_live hle h.past_held, h.live_eq, live_live hle h.past]

theorem expireFront_eq : expireFront time d t held = live time d t units := by
  rw [expireFront_eq_live h.ordered_held h.past_held, h.live_eq]

theorem expire : Represents time d t (expireFront time d t held) units where
  sub := (dropWhile_sublist _).trans h.sub
  ordered := h.ordered
  past := h.past
  live_eq := by
    rw [h.expireFront_eq, live_live le_rfl h.past]

theorem push {new : List U} (hnew : ∀ u ∈ new, time u = t) :
    Represents time d t (held ++ new) (units ++ new) where
  sub := h.sub.append (Sublist.refl new)
  ordered := by
    refine pairwise_append.mpr ⟨h.ordered, ?_, ?_⟩
    · exact pairwise_of_forall_mem_list fun u hu v hv =>
        ((hnew u hu).trans (hnew v hv).symm).le
    · intro u hu v hv
      exact (h.past u hu).trans (hnew v hv).ge
  past := by
    intro u hu
    rcases mem_append.mp hu with hu | hu
    · exact h.past u hu
    · exact (hnew u hu).le
  live_eq := by rw [live_append, live_append, h.live_eq]

theorem withdraw (p : U → Bool) : Represents time d t (held.filter p) (units.filter p) where
  sub := h.sub.filter p
  ordered := h.ordered.sublist filter_sublist
  past := fun u hu => h.past u (mem_of_mem_filter hu)
  live_eq := by rw [live_filter, live_filter, h.live_eq]

theorem discard (hdead : live time d t held = []) : Represents time d t [] units where
  sub := nil_sublist units
  ordered := h.ordered
  past := h.past
  live_eq := by rw [← h.live_eq, hdead]; rfl

theorem live_eq_nil_of_getLast (hlast : held.getLast? = some last) (hold : d ≤ t - time last) :
    live time d t held = [] := by
  refine live_eq_nil fun u hu => ?_
  have := le_getLast h.ordered_held hlast u hu
  omega

end

end Represents

end RenewApi.Window
