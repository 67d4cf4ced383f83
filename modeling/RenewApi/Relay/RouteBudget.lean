import Mathlib

/-! # The routes of a plan under a budget

`flattenRelayRoutesWithBudget` and `firstRelayRoute` of `service/relay_route_plan.go`, for any type
of routes. If the routes do not fit, one pass gives every group its share and a second one fills
what is left in the order of the groups. -/

namespace RenewApi.Relay

open List

variable {α : Type*}

def firstRelayRoute : List (List α) → Option α
  | [] => none
  | [] :: rest => firstRelayRoute rest
  | (route :: _) :: _ => some route

/-- A pass over the groups: it appends what it wants of each while there is room, and returns how
much it took. -/
def takePass (maxCandidates : Nat) (want : List α → Nat) : List (List α) → List α → List α × List Nat
  | [], flat => (flat, [])
  | routes :: rest, flat =>
    if maxCandidates ≤ flat.length then (flat, (routes :: rest).map fun _ => 0)
    else
      let take := min (want routes) (maxCandidates - flat.length)
      let next := takePass maxCandidates want rest (flat ++ routes.take take)
      (next.1, take :: next.2)

def flattenRelayRoutesWithBudget (groups : List (List α)) (maxCandidates : Int) : List α :=
  if maxCandidates ≤ 0 ∨ (groups.flatten.length : Int) ≤ maxCandidates then groups.flatten
  else
    let perGroup := max (maxCandidates.toNat / groups.length) 1
    let base := takePass maxCandidates.toNat (fun routes => min perGroup routes.length) groups []
    (takePass maxCandidates.toNat List.length (base.2.zipWith List.drop groups) base.1).1

/-! ## What a pass takes -/

section

variable {maxCandidates : Nat} {want : List α → Nat}

/-- Without room nothing is taken: the loop need not stop. -/
theorem takePass_cons (routes : List α) (rest : List (List α)) (flat : List α) :
    takePass maxCandidates want (routes :: rest) flat =
      ((takePass maxCandidates want rest
          (flat ++ routes.take (min (want routes) (maxCandidates - flat.length)))).1,
        min (want routes) (maxCandidates - flat.length) ::
          (takePass maxCandidates want rest
            (flat ++ routes.take (min (want routes) (maxCandidates - flat.length)))).2) := by
  rw [takePass]
  split_ifs with hfull
  · have hrest : takePass maxCandidates want rest flat = (flat, rest.map fun _ => 0) := by
      cases rest with
      | nil => rfl
      | cons _ _ => exact if_pos hfull
    rw [Nat.sub_eq_zero_of_le hfull, Nat.min_zero, take_zero, append_nil, hrest]
    rfl
  · rfl

/-- **A pass**: a prefix of every group, and as many routes as it wants or as there is room for. -/
theorem takePass_spec (hwant : ∀ routes, want routes ≤ routes.length) (groups : List (List α))
    (flat : List α) (hroom : flat.length ≤ maxCandidates) :
    let out := takePass maxCandidates want groups flat
    out.2.length = groups.length ∧ out.1 = flat ++ (out.2.zipWith take groups).flatten ∧
      out.1.length = min maxCandidates (flat.length + (groups.map want).sum) ∧
      (flat.length + (groups.map want).sum ≤ maxCandidates → out.2 = groups.map want) := by
  induction groups generalizing flat with
  | nil => simpa [takePass] using hroom
  | cons routes rest ih =>
    have htake : (routes.take (min (want routes) (maxCandidates - flat.length))).length =
        min (want routes) (maxCandidates - flat.length) := by
      rw [length_take]
      have := hwant routes
      omega
    rw [takePass_cons]
    obtain ⟨hlen, heq, hcount, hall⟩ := ih
      (flat ++ routes.take (min (want routes) (maxCandidates - flat.length)))
      (by rw [length_append]; omega)
    rw [length_append] at hcount hall
    rw [map_cons, sum_cons]
    dsimp only
    refine ⟨by simp [hlen], by simp [heq], by omega, fun hfits => ?_⟩
    rw [hall (by omega), min_eq_left (by omega)]

end

/-! ## Shares -/

/-- What the plan takes of each group: a share, and what fills the rest of the budget. -/
def planned (groups : List (List α)) (shares fills : List Nat) : List α :=
  (shares.zipWith List.take groups).flatten ++
    (fills.zipWith List.take (shares.zipWith List.drop groups)).flatten

variable (groups : List (List α))

/-- **No route twice**: share and fill of a group are a prefix of it. -/
theorem planned_subperm (shares fills : List Nat) :
    (planned groups shares fills).Subperm groups.flatten := by
  induction groups generalizing shares fills with
  | nil => simp [planned]
  | cons routes rest ih =>
    rcases shares with _ | ⟨share, shares⟩
    · simp [planned]
    rcases fills with _ | ⟨fill, fills⟩
    · have hrest := (sublist_append_left _ _).subperm.trans (ih shares [])
      simpa [planned] using (take_sublist share routes).subperm.append hrest
    have hhead : (routes.take share ++ (routes.drop share).take fill).Sublist routes := by
      rw [← take_add]
      exact take_sublist _ _
    refine Perm.subperm ?_ |>.trans (hhead.subperm.append (ih shares fills))
    simp only [planned, zipWith_cons_cons, flatten_cons, append_assoc]
    exact (perm_append_comm_assoc _ _ _).append_left _

theorem firstRelayRoute_eq : firstRelayRoute groups = groups.flatten.head? := by
  induction groups with
  | nil => rfl
  | cons routes rest ih => cases routes <;> simp [firstRelayRoute, ih]

/-- The first pass starts with the first route. -/
theorem takePass_head? {maxCandidates perGroup : Nat} (hmax : 0 < maxCandidates)
    (hper : 0 < perGroup) (groups : List (List α)) :
    (takePass maxCandidates (fun routes => min perGroup routes.length) groups []).1.head? =
      firstRelayRoute groups := by
  induction groups with
  | nil => rfl
  | cons routes rest ih =>
    rw [takePass_cons]
    cases routes with
    | nil => simpa [firstRelayRoute] using ih
    | cons route routes =>
      obtain ⟨take, htake⟩ : ∃ n, min (min perGroup (route :: routes).length) maxCandidates = n + 1 :=
        Nat.exists_eq_succ_of_ne_zero (by simp; omega)
      have hroom : (([] : List α) ++ (route :: routes).take (take + 1)).length ≤ maxCandidates := by
        rw [nil_append, length_take]
        omega
      have hout := (takePass_spec (fun g => Nat.min_le_right perGroup g.length) rest _ hroom).2.1
      simp only [length_nil, Nat.sub_zero, htake, hout]
      rfl

/-- **The shares fit.** -/
theorem sum_shares_le (maxCandidates : Nat)
    (hgroups : (groups.filter (!·.isEmpty)).length ≤ maxCandidates) :
    (groups.map fun routes => min (max (maxCandidates / groups.length) 1) routes.length).sum ≤
      maxCandidates := by
  rcases Nat.eq_zero_or_pos (maxCandidates / groups.length) with hzero | hpos
  · -- a share is one route, so the groups that are not empty are counted
    rw [hzero]
    refine le_trans (le_of_eq ?_) hgroups
    clear hzero hgroups
    induction groups with
    | nil => rfl
    | cons routes rest ih =>
      rw [map_cons, sum_cons, ih]
      cases routes with
      | nil => simp
      | cons _ _ => simp [Nat.add_comm]
  · refine (sum_le_card_nsmul _ (maxCandidates / groups.length) ?_).trans ?_
    · intro n hn
      obtain ⟨routes, -, rfl⟩ := mem_map.mp hn
      omega
    · rw [length_map]
      exact Nat.mul_div_le _ _

theorem planned_whole :
    planned groups (groups.map length) (groups.map fun _ => 0) = groups.flatten := by
  induction groups with
  | nil => rfl
  | cons routes rest ih => simpa [planned] using ih

/-- What is taken and what is left are the whole. -/
theorem length_taken_add_left {groups : List (List α)} {shares : List Nat}
    (hlen : shares.length = groups.length) :
    (shares.zipWith take groups).flatten.length +
      ((shares.zipWith drop groups).map length).sum = groups.flatten.length := by
  induction groups generalizing shares with
  | nil => simp
  | cons routes rest ih =>
    cases shares with
    | nil => simp at hlen
    | cons share shares =>
      have := ih (Nat.succ.inj hlen)
      simp only [zipWith_cons_cons, flatten_cons, length_append, map_cons,
        sum_cons, length_take, length_drop]
      omega

theorem share_ne_nil {share : List α → Nat} (hshare : ∀ route routes, 0 < share (route :: routes))
    {groups : List (List α)} : ∀ part ∈ groups.zip (groups.map share), part.1 ≠ [] →
      part.1.take part.2 ≠ [] := by
  induction groups with
  | nil => simp
  | cons routes rest ih =>
    rintro part (_ | ⟨_, hrest⟩) hne
    · cases routes with
      | nil => exact absurd rfl hne
      | cons route routes => simp [(hshare route routes).ne']
    · exact ih part hrest hne

/-- **The plan under a budget**: its length, what it takes of each group, and its first route. -/
theorem routes_within_budget (groups : List (List α)) (maxCandidates : Int) :
    ((flattenRelayRoutesWithBudget groups maxCandidates).length : Int) =
        (if maxCandidates ≤ 0 then (groups.flatten.length : Int)
        else min (groups.flatten.length : Int) maxCandidates) ∧
      (flattenRelayRoutesWithBudget groups maxCandidates).Subperm groups.flatten ∧
      (∃ shares fills, shares.length = groups.length ∧ fills.length = groups.length ∧
        flattenRelayRoutesWithBudget groups maxCandidates = planned groups shares fills ∧
        (maxCandidates ≤ 0 ∨ ((groups.filter (!·.isEmpty)).length : Int) ≤ maxCandidates →
          ∀ part ∈ groups.zip shares, part.1 ≠ [] → part.1.take part.2 ≠ [])) ∧
      (flattenRelayRoutesWithBudget groups maxCandidates).head? = firstRelayRoute groups := by
  unfold flattenRelayRoutesWithBudget
  by_cases hall : maxCandidates ≤ 0 ∨ (groups.flatten.length : Int) ≤ maxCandidates
  · rw [if_pos hall]
    refine ⟨by split_ifs <;> omega, Subperm.refl _,
      ⟨groups.map length, groups.map fun _ => 0, by simp, by simp, (planned_whole groups).symm,
        fun _ => share_ne_nil fun _ _ => Nat.succ_pos _⟩, (firstRelayRoute_eq groups).symm⟩
  · rw [if_neg hall]
    have hmax : 0 < maxCandidates.toNat := by omega
    have hper : 0 < max (maxCandidates.toNat / groups.length) 1 := by omega
    generalize hshare : max (maxCandidates.toNat / groups.length) 1 = perGroup at hper
    have hhead := takePass_head? hmax hper groups
    obtain ⟨hlen, hbase, hcount, hfull⟩ := takePass_spec
      (fun g => Nat.min_le_right perGroup g.length) groups [] (Nat.zero_le maxCandidates.toNat)
    dsimp only
    generalize takePass maxCandidates.toNat (fun g => min perGroup g.length) groups [] = base at *
    obtain ⟨hlen', hout, hcount', -⟩ := takePass_spec (fun _ => le_rfl)
      (base.2.zipWith drop groups) base.1 (hcount ▸ Nat.min_le_left _ _)
    generalize takePass maxCandidates.toNat length (base.2.zipWith drop groups) base.1 = out at *
    have hplan : out.1 = planned groups base.2 out.2 := by rw [hout, hbase, nil_append, planned]
    have hsub := planned_subperm groups base.2 out.2
    have htotal := length_taken_add_left hlen
    rw [nil_append] at hbase
    rw [← hbase] at htotal
    refine ⟨by omega, hplan ▸ hsub, ⟨base.2, out.2, hlen, by simpa [hlen] using hlen', hplan, ?_⟩, ?_⟩
    · intro hgroups
      rw [hfull]
      · exact share_ne_nil fun _ _ => lt_min hper (Nat.succ_pos _)
      · rw [length_nil, Nat.zero_add, ← hshare]
        exact sum_shares_le groups _ (by omega)
    · rw [hout, head?_append, hhead]
      cases hfirst : firstRelayRoute groups with
      | some => rfl
      | none =>
        -- there is no route, so there is nothing to cut
        rw [firstRelayRoute_eq, head?_eq_none_iff] at hfirst
        rw [hfirst] at hall
        exact absurd (by simp; omega) hall

end RenewApi.Relay
