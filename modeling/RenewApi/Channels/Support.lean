import Mathlib.Algebra.Order.BigOperators.Group.List
import Mathlib.Algebra.Order.Group.Nat
import RenewApi.Channels.Selection

/-! # What a draw can return

Both ways to draw a channel are compared through one description, over the four facts about a
candidate that a draw looks at (`Profile`). -/

namespace RenewApi.Channels

open Relational Text Draw List

variable {n : Nat} {id : Int} {best : List Channel} {S : Set Profile}

/-- What a draw looks at in a candidate. -/
structure Profile where
  id : Int
  priority : Int
  rank : Int
  weight : Nat

/-- A priority is the one that an index names among the candidates. -/
def AtLevel (S : Set Profile) (n : Nat) (p : Int) : Prop :=
  ∃ ps : List Int, (∀ k, k ∈ ps ↔ ∃ y ∈ S, y.priority = k) ∧ level (levels ps) n = some p

/-- **The candidates that a draw is between**: those of the named level that none of that level
outranks. -/
def Chosen (S : Set Profile) (n : Nat) (x : Profile) : Prop :=
  x ∈ S ∧ AtLevel S n x.priority ∧ ∀ y ∈ S, y.priority = x.priority → x.rank ≤ y.rank

theorem atLevel_iff {p : Int} {ps : List Int} (hps : ∀ k, k ∈ ps ↔ ∃ y ∈ S, y.priority = k) :
    AtLevel S n p ↔ level (levels ps) n = some p := by
  constructor
  · rintro ⟨ps', hps', h⟩
    rwa [levels_congr fun k => (hps k).trans (hps' k).symm]
  · intro h
    exact ⟨ps, hps, h⟩

theorem Chosen.priority_eq {x y : Profile} (hx : Chosen S n x) (hy : Chosen S n y) :
    x.priority = y.priority := by
  obtain ⟨-, ⟨ps, hps, hlevel⟩, -⟩ := hx
  have h := (atLevel_iff hps).mp hy.2.1
  rw [hlevel] at h
  exact Option.some_injective _ h

section

variable {β : Type} {l : List β} {f : β → Profile} {p : β → Int} (h : ∀ c, (f c).priority = p c)
include h

theorem mem_priorities (k : Int) : k ∈ l.map p ↔ ∃ y ∈ {x | ∃ c ∈ l, f c = x}, y.priority = k := by
  simp [h]

/-- The chosen ones, when the candidates are those of a list. -/
theorem chosen_iff {x : Profile} : Chosen {x | ∃ c ∈ l, f c = x} n x ↔
    ∃ c, (c ∈ l ∧ level (levels (l.map p)) n = some (p c) ∧
      ∀ c' ∈ l, p c' = p c → (f c).rank ≤ (f c').rank) ∧ f c = x := by
  constructor
  · rintro ⟨⟨c, hc, rfl⟩, hlevel, hrank⟩
    rw [atLevel_iff (mem_priorities h), h] at hlevel
    refine ⟨c, ⟨hc, hlevel, fun c' hc' hp => hrank _ ⟨c', hc', rfl⟩ ?_⟩, rfl⟩
    rw [h, h, hp]
  · rintro ⟨c, ⟨hc, hlevel, hrank⟩, rfl⟩
    refine ⟨⟨c, hc, rfl⟩, ?_, ?_⟩
    · rwa [atLevel_iff (mem_priorities h), h]
    · rintro _ ⟨c', hc', rfl⟩ hp
      rw [h, h] at hp
      exact hrank c' hc' hp

end

/-! ## The cache -/

def Channel.profile (policy : Option ChannelRoutingPolicy) (c : Channel) : Profile :=
  ⟨c.id, c.getPriority, policyRank policy c, c.getWeight⟩

instance : Std.Total fun c c' : Channel => c'.getPriority ≤ c.getPriority :=
  ⟨fun c c' => le_total c'.getPriority c.getPriority⟩

instance : IsTrans Channel fun c c' : Channel => c'.getPriority ≤ c.getPriority :=
  ⟨fun _ _ _ hab hbc => le_trans hbc hab⟩

theorem sorted_snapshotEntries (cache : RoutingCache) (g m : String) :
    (snapshotEntries cache g m).Pairwise fun c c' => c'.getPriority ≤ c.getPriority :=
  pairwise_insertionSort _ _

section

variable (cache : RoutingCache) (statuses : Table ChannelModelStatus) (now : Int) (q : DrawRequest)
  (g m : String)

/-- The entries of group and model that may be drawn. -/
def cacheCandidates : List Channel :=
  (snapshotEntries cache g m).filter (selectable statuses now q g m)

/-- The profiles of these entries. -/
def cacheProfiles : Set Profile :=
  {x | ∃ c ∈ cacheCandidates cache statuses now q g m, c.profile q.policy = x}

end

/-- With a draw by weight, a candidate is returned when it has weight or when nobody has. -/
theorem exists_mem_smoothedWeights : (∃ w, (id, w) ∈ smoothedWeights best ∧ 0 < w) ↔
      ∃ c ∈ best, c.id = id ∧ (0 < c.getWeight ∨ ∀ c' ∈ best, c'.getWeight = 0) := by
  have hsum : (best.map Channel.getWeight).sum = 0 ↔ ∀ c' ∈ best, c'.getWeight = 0 := by
    rw [sum_eq_zero_iff]
    simp
  unfold smoothedWeights
  simp only [mem_map, Prod.mk.injEq]
  constructor
  · rintro ⟨w, ⟨c, hc, hid, rfl⟩, hpos⟩
    refine ⟨c, hc, hid, ?_⟩
    by_cases hzero : (best.map Channel.getWeight).sum = 0
    · exact Or.inr (hsum.mp hzero)
    · -- no adjustment, so the product is positive
      rw [if_neg hzero, Nat.add_zero] at hpos
      exact Or.inl (Nat.pos_of_mul_pos_right hpos)
  · rintro ⟨c, hc, hid, hweight⟩
    refine ⟨_, ⟨c, hc, hid, rfl⟩, ?_⟩
    by_cases hzero : (best.map Channel.getWeight).sum = 0
    · rw [if_pos hzero]
      omega
    · have hw : 0 < c.getWeight := hweight.resolve_right fun h => hzero (hsum.mpr h)
      have hfactor : 0 < (if (best.map Channel.getWeight).sum ≠ 0 ∧
          (best.map Channel.getWeight).sum / best.length < 10 then 100 else 1) := by
        split <;> omega
      exact Nat.add_pos_left (Nat.mul_pos hw hfactor) _

theorem total_smoothedWeights_pos (h : best ≠ []) : 0 < total (smoothedWeights best) := by
  obtain ⟨c, hc⟩ := exists_mem_of_ne_nil best h
  have hpos : ∃ c ∈ best, 0 < c.getWeight ∨ ∀ c' ∈ best, c'.getWeight = 0 := by
    by_cases hzero : ∀ c' ∈ best, c'.getWeight = 0
    · exact ⟨c, hc, Or.inr hzero⟩
    · simp only [not_forall] at hzero
      obtain ⟨c', hc', hw⟩ := hzero
      exact ⟨c', hc', Or.inl (Nat.pos_of_ne_zero hw)⟩
  obtain ⟨c', hc', hw⟩ := hpos
  obtain ⟨w, hmem, hwpos⟩ := exists_mem_smoothedWeights.mpr ⟨c', hc', rfl, hw⟩
  obtain ⟨r, hr, -⟩ := exists_pickLt_of_mem hmem hwpos
  omega

section

variable {cache : RoutingCache} {statuses : Table ChannelModelStatus} {now : Int} {q : DrawRequest}
  {g m : String}

/-- The chosen profiles are those of the best candidates of the chosen level. -/
theorem chosen_cacheProfiles_iff {p : Int}
    (hlevel : level (levels ((cacheCandidates cache statuses now q g m).map Channel.getPriority))
      q.index = some p) {x : Profile} :
    Chosen (cacheProfiles cache statuses now q g m) q.index x ↔
      ∃ c ∈ keepBest (policyRank q.policy)
        ((cacheCandidates cache statuses now q g m).filter (·.getPriority = p)),
        c.profile q.policy = x := by
  refine (chosen_iff (p := Channel.getPriority) fun _ => rfl).trans
    (exists_congr fun c => and_congr_left fun _ => ?_)
  rw [mem_keepBest, hlevel]
  simp only [mem_filter, decide_eq_true_eq, Option.some_inj]
  constructor
  · rintro ⟨hc, rfl, hrank⟩
    exact ⟨⟨hc, rfl⟩, fun c' hc' => hrank c' hc'.1 hc'.2⟩
  · rintro ⟨⟨hc, rfl⟩, hrank⟩
    exact ⟨hc, rfl, fun c' hc' hp => hrank c' ⟨hc', hp⟩⟩

variable (cache statuses now q g m)

/-- **The loops over the buckets**: the bucket that is taken is the named level of the
candidates. -/
theorem map_fst_level_available :
    (level (availableBuckets cache statuses now q g m) q.index).map Prod.fst =
      level (levels ((cacheCandidates cache statuses now q g m).map Channel.getPriority))
        q.index := by
  rw [← level_map, availableBuckets, map_fst_filter_runs (sorted_snapshotEntries cache g m)]
  rfl

variable {cache statuses now q g m} {b : Int × List Channel} {totalCandidates : Nat}
  {candidates : List Channel}

theorem filter_of_mem_available (h : b ∈ availableBuckets cache statuses now q g m) :
    b.2.filter (selectable statuses now q g m) =
        (cacheCandidates cache statuses now q g m).filter (·.getPriority = b.1) ∧
      b.2.filter (selectable statuses now q g m) ≠ [] := by
  obtain ⟨hrun, hany⟩ := mem_filter.mp h
  constructor
  · rw [(runs_spec (sorted_snapshotEntries cache g m)).2.1 b hrun, cacheCandidates,
      filter_filter, filter_filter]
    congr 1
    funext c
    exact Bool.and_comm _ _
  · obtain ⟨c, hc, hok⟩ := any_eq_true.mp hany
    exact ne_nil_of_mem (mem_filter.mpr ⟨hc, hok⟩)

/-- **What a draw from a bucket does**: it returns the only candidate, or one drawn by weight among
the best. -/
theorem drawFromBucket_spec (hne : candidates ≠ []) (hle : candidates.length ≤ totalCandidates)
    (p : Int) (draw : Nat) :
    ∃ id, drawFromBucket q g m totalCandidates p candidates draw = .ok (some id) ∧
      ∃ w, (id, w) ∈ smoothedWeights (keepBest (policyRank q.policy) candidates) ∧ 0 < w := by
  obtain ⟨c, rest, rfl⟩ := exists_cons_of_ne_nil hne
  rw [drawFromBucket]
  by_cases htotal : totalCandidates = 1
  · -- the candidates of the bucket are counted in the total, so there is only one
    have hrest : rest = [] := length_eq_zero_iff.mp (by
      rw [htotal, length_cons] at hle
      omega)
    rw [if_pos htotal, hrest, keepBest_singleton]
    refine ⟨c.id, rfl, exists_mem_smoothedWeights.mpr ⟨c, mem_cons_self, rfl, ?_⟩⟩
    rcases Nat.eq_zero_or_pos c.getWeight with hzero | hpos
    · exact Or.inr fun c' hc' => mem_singleton.mp hc' ▸ hzero
    · exact Or.inl hpos
  · have hbest := keepBest_ne_nil (policyRank q.policy) hne
    obtain ⟨id, hpick⟩ := exists_of_lt_total
      (Nat.mod_lt draw (total_smoothedWeights_pos hbest))
    rw [if_neg htotal]
    dsimp only
    rw [hpick]
    exact ⟨id, rfl, mem_of_pickLt hpick⟩

theorem exists_drawFromBucket (hle : candidates.length ≤ totalCandidates) (p : Int) {w : Nat}
    (hmem : (id, w) ∈ smoothedWeights (keepBest (policyRank q.policy) candidates)) (hpos : 0 < w) :
    ∃ draw, drawFromBucket q g m totalCandidates p candidates draw = .ok (some id) := by
  obtain ⟨c', hc', hid, -⟩ := exists_mem_smoothedWeights.mp ⟨w, hmem, hpos⟩
  have hc' := (mem_keepBest.mp hc').1
  obtain ⟨c, rest, rfl⟩ := exists_cons_of_ne_nil (ne_nil_of_mem hc')
  obtain ⟨n, hpick⟩ := exists_pickLt_iff.mpr ⟨w, hmem, hpos⟩
  refine ⟨n, ?_⟩
  rw [drawFromBucket]
  split
  · rename_i htotal
    have hrest : rest = [] := length_eq_zero_iff.mp (by
      rw [htotal, length_cons] at hle
      omega)
    rw [hrest] at hc'
    rw [← hid, mem_singleton.mp hc']
  · dsimp only
    rw [hpick]

theorem length_le_totalCandidates (h : b ∈ availableBuckets cache statuses now q g m) :
    (b.2.filter (selectable statuses now q g m)).length ≤
      ((availableBuckets cache statuses now q g m).map fun b =>
        (b.2.filter (selectable statuses now q g m)).length).sum :=
  single_le_sum (fun _ _ => Nat.zero_le _) _ (mem_map.mpr ⟨_, h, rfl⟩)

/-- **Without candidates a draw from the snapshot finds nothing**; otherwise it returns one with
weight, or any one when the best have none. -/
theorem selectRandom_cases (draw : Nat) :
    (cacheCandidates cache statuses now q g m = [] ∧
      selectRandomChannelFromSnapshot cache statuses now q g m draw = .ok none) ∨
    ∃ p id, level (levels ((cacheCandidates cache statuses now q g m).map Channel.getPriority))
        q.index = some p ∧
      selectRandomChannelFromSnapshot cache statuses now q g m draw = .ok (some id) ∧
      ∃ w, (id, w) ∈ smoothedWeights (keepBest (policyRank q.policy)
        ((cacheCandidates cache statuses now q g m).filter (·.getPriority = p))) ∧ 0 < w := by
  have hlevel := map_fst_level_available cache statuses now q g m
  rw [selectRandomChannelFromSnapshot]
  cases htake : level (availableBuckets cache statuses now q g m) q.index with
  | none =>
    left
    rw [htake, Option.map_none] at hlevel
    have hnil : (cacheCandidates cache statuses now q g m).map Channel.getPriority = [] :=
      eq_nil_iff_forall_not_mem.mpr fun k hk => by
        rw [← mem_levels, level_eq_none_iff.mp hlevel.symm] at hk
        exact absurd hk not_mem_nil
    exact ⟨map_eq_nil_iff.mp hnil, rfl⟩
  | some b =>
    right
    rw [htake, Option.map_some] at hlevel
    have hmem := mem_of_level htake
    obtain ⟨hfilter, hne⟩ := filter_of_mem_available hmem
    obtain ⟨id, hdraw, hw⟩ := drawFromBucket_spec hne (length_le_totalCandidates hmem) b.1 draw
    rw [hfilter] at hw
    exact ⟨b.1, id, hlevel.symm, hdraw, hw⟩

/-- **What cache mode can return**: a chosen candidate with weight, or any chosen candidate when
none has weight. -/
theorem exists_selectRandom_iff :
    (∃ draw, selectRandomChannelFromSnapshot cache statuses now q g m draw = .ok (some id)) ↔
      ∃ x, Chosen (cacheProfiles cache statuses now q g m) q.index x ∧ x.id = id ∧
        (0 < x.weight ∨
          ∀ y, Chosen (cacheProfiles cache statuses now q g m) q.index y → y.weight = 0) := by
  constructor
  · rintro ⟨draw, h⟩
    rcases selectRandom_cases draw with ⟨-, hnone⟩ | ⟨p, id', hlevel, hsome, hw⟩
    · rw [hnone] at h
      cases h
    · rw [hsome] at h
      cases h
      obtain ⟨c, hc, rfl, hweight⟩ := exists_mem_smoothedWeights.mp hw
      have hchosen := @chosen_cacheProfiles_iff _ _ _ _ _ _ p hlevel
      refine ⟨c.profile q.policy, hchosen.mpr ⟨c, hc, rfl⟩, rfl, ?_⟩
      refine hweight.imp id fun hzero y hy => ?_
      obtain ⟨c', hc', rfl⟩ := hchosen.mp hy
      exact hzero c' hc'
  · rintro ⟨x, hx, rfl, hweight⟩
    -- the level of a chosen candidate is the level of the bucket that is taken
    have hlevel := (atLevel_iff (mem_priorities (p := Channel.getPriority) fun _ => rfl)).mp hx.2.1
    have htake := map_fst_level_available cache statuses now q g m
    rw [hlevel] at htake
    obtain ⟨b, hb, hp⟩ := Option.map_eq_some_iff.mp htake
    have hmem := mem_of_level hb
    have hfilter := (filter_of_mem_available hmem).1
    have hchosen := @chosen_cacheProfiles_iff _ _ _ _ _ _ _ hlevel
    obtain ⟨c, hc, rfl⟩ := hchosen.mp hx
    have hw : 0 < c.getWeight ∨ ∀ c' ∈ keepBest (policyRank q.policy)
        ((cacheCandidates cache statuses now q g m).filter
          (·.getPriority = (c.profile q.policy).priority)), c'.getWeight = 0 :=
      hweight.imp id fun hzero c' hc' => hzero _ (hchosen.mpr ⟨c', hc', rfl⟩)
    obtain ⟨w, hmemw, hpos⟩ := exists_mem_smoothedWeights.mpr ⟨c, hc, rfl, hw⟩
    rw [← hp, ← hfilter] at hmemw
    obtain ⟨draw, hdraw⟩ := exists_drawFromBucket (length_le_totalCandidates hmem) b.1 hmemw hpos
    refine ⟨draw, ?_⟩
    rw [selectRandomChannelFromSnapshot, hb]
    exact hdraw

end

/-! ## The database -/

section

variable {tables : RoutingTables} {now : Int} {q : DrawRequest} {g m : String} {a : Ability}
  {l : List Ability}

def Ability.profile (channels : Table Channel) (policy : Option ChannelRoutingPolicy) (a : Ability) :
    Profile :=
  ⟨a.channelId, abilityPriority a, routingRank channels policy a, a.weight⟩

/-- The profiles of the rows that are left after all filters. -/
def abilityProfiles (tables : RoutingTables) (now : Int) (q : DrawRequest) (g m : String) :
    Set Profile :=
  {x | ∃ a ∈ candidateAbilities tables now q g m, a.profile tables.channels q.policy = x}

theorem mem_enabledAbilities {abilities : List Ability} :
    a ∈ enabledAbilities abilities g m ↔
      a ∈ abilities ∧ a.group = g ∧ a.model = m ∧ a.enabled = true := by
  rw [enabledAbilities, (perm_insertionSort _ _).mem_iff, mem_filter]
  simp only [Bool.and_eq_true, beq_iff_eq, and_assoc]

/-- **The rows that are left after all filters**: enabled rows of group and model whose channel
exists, is not excluded, not disabled for the model, no mock, and accepted. -/
theorem mem_candidateAbilities :
    a ∈ candidateAbilities tables now q g m ↔
      (a ∈ tables.abilities ∧ a.group = g ∧ a.model = m ∧ a.enabled = true) ∧
      a.channelId ∉ q.excluded ∧
      a.channelId ∈ filterChannelIDsByModelStatus tables.statuses now
        (((enabledAbilities tables.abilities g m).filter (·.channelId ∉ q.excluded)).map
          Ability.channelId) (normalizeChannelModelStatusGroup g) (trimSpace m) ∧
      ∃ c, tables.channels.find? a.channelId = some c ∧ c.type ≠ channelTypeMock ∧
        policyMatches q.policy c = true := by
  have hpolicy : ∀ (l : List Ability),
      a ∈ filterProviderRoutingAbilities tables.channels q.policy
          (filterRandomSelectableAbilities tables.channels l) ↔
        a ∈ l ∧ ∃ c, tables.channels.find? a.channelId = some c ∧ c.type ≠ channelTypeMock ∧
          policyMatches q.policy c = true := fun l => by
    rw [filterProviderRoutingAbilities, filterRandomSelectableAbilities]
    cases hfind : tables.channels.find? a.channelId with
    | none =>
      split
      · simp [hfind]
      · rw [(perm_insertionSort _ _).mem_iff]
        simp [hfind]
    | some c =>
      split
      · rename_i hempty
        simp [hfind, policyMatches, hempty]
      · rw [(perm_insertionSort _ _).mem_iff]
        simp [hfind, and_comm]
  rw [candidateAbilities, hpolicy, filterChannelModelStatusAbilities, mem_filter, mem_filter,
    mem_enabledAbilities]
  simp only [decide_eq_true_eq, and_assoc]

theorem mem_selectAbilitiesByRetryPriority : a ∈ selectAbilitiesByRetryPriority l n ↔
      a ∈ l ∧ level (levels (l.map abilityPriority)) n = some (abilityPriority a) := by
  rw [selectAbilitiesByRetryPriority, getElem?_min_eq_level]
  cases level (levels (l.map abilityPriority)) n with
  | none => simp
  | some p => simp [eq_comm]

/-- The rows of the best rank; where the code does not compare, the comparison would keep all
rows. -/
theorem mem_keepBestProviderRoutingAbilityOrderRank
    (hl : ∀ a ∈ l, ∃ c, tables.channels.find? a.channelId = some c) :
    a ∈ keepBestProviderRoutingAbilityOrderRank tables.channels q.policy l ↔
      a ∈ l ∧ ∀ b ∈ l, routingRank tables.channels q.policy a ≤
        routingRank tables.channels q.policy b := by
  rw [keepBestProviderRoutingAbilityOrderRank]
  split
  · rename_i hskip
    refine (and_iff_left_of_imp fun ha b hb => ?_).symm
    rcases hskip with hlen | hempty
    · obtain ⟨x, hx⟩ : ∃ x, l = [x] := length_eq_one_iff.mp (by
        have := length_pos_of_mem ha
        omega)
      rw [hx] at ha hb
      rw [mem_singleton.mp ha, mem_singleton.mp hb]
    · have hzero : ∀ b ∈ l, routingRank tables.channels q.policy b = 0 := fun b hb => by
        obtain ⟨c, hc⟩ := hl b hb
        simp [routingRank, hc, policyRank, hempty]
      rw [hzero a ha, hzero b hb]
  · exact mem_keepBest

/-- **The rows a draw is between are the chosen ones.** -/
theorem chosen_abilityProfiles_iff {x : Profile} :
    Chosen (abilityProfiles tables now q g m) q.index x ↔
      ∃ a ∈ drawnAbilities tables now q g m, a.profile tables.channels q.policy = x := by
  refine (chosen_iff (p := abilityPriority) fun _ => rfl).trans
    (exists_congr fun a => and_congr_left fun _ => ?_)
  rw [drawnAbilities, mem_keepBestProviderRoutingAbilityOrderRank, mem_selectAbilitiesByRetryPriority,
    and_assoc]
  · refine and_congr_right fun _ => and_congr_right fun hp => forall_congr' fun b => ?_
    rw [mem_selectAbilitiesByRetryPriority, hp, Option.some_inj]
    exact ⟨fun h ⟨hb, hpb⟩ => h hb hpb.symm, fun h hb hpb => h ⟨hb, hpb.symm⟩⟩
  · intro b hb
    obtain ⟨-, -, -, c, hc, -⟩ := mem_candidateAbilities.mp
      (mem_selectAbilitiesByRetryPriority.mp hb).1
    exact ⟨c, hc⟩

section

variable (hid : ∀ c ∈ tables.channels.rows, c.id ≠ 0)
include hid

/-- **What a draw in the database does**: without rows it finds nothing; otherwise it draws by
weight plus ten. -/
theorem getChannelExcludingWithPolicy_eq (draw : Nat) :
    getChannelExcludingWithPolicy tables now q g m draw =
      let weights := (drawnAbilities tables now q g m).map fun a => (a.channelId, a.weight + 10)
      .ok (pickLe weights (draw % total weights)) := by
  rw [getChannelExcludingWithPolicy]
  cases hrows : drawnAbilities tables now q g m with
  | nil => rfl
  | cons first rest =>
    dsimp only
    generalize hweights : ((first :: rest).map fun a => (a.channelId, a.weight + 10)) = weights
    have hpos : 0 < total weights := by
      rw [← hweights, map_cons, total_cons]
      omega
    obtain ⟨id, hpick⟩ := exists_pickLe_of_lt_total (Nat.mod_lt draw hpos)
    -- the drawn row has a channel, so its id is not zero and the last query finds it
    obtain ⟨c, hc⟩ : ∃ c, tables.channels.find? id = some c := by
      obtain ⟨w, hw⟩ := mem_of_pickLe hpick
      rw [← hweights, ← hrows] at hw
      obtain ⟨a, ha, heq⟩ := mem_map.mp hw
      cases heq
      obtain ⟨⟨b, hb, hprofile⟩, -, -⟩ := chosen_abilityProfiles_iff.mpr ⟨a, ha, rfl⟩
      obtain ⟨-, -, -, c, hc, -⟩ := mem_candidateAbilities.mp hb
      have hchannel : b.channelId = a.channelId := congrArg Profile.id hprofile
      exact ⟨c, hchannel ▸ hc⟩
    have hne : id ≠ 0 := by
      have hkey : c.id = id := Table.key_of_find? hc
      exact hkey ▸ hid c (Table.mem_of_find? hc)
    rw [hpick, Option.getD_some, if_neg hne, hc]

/-- **What database mode can return**: every chosen row. -/
theorem exists_getChannel_iff :
    (∃ draw, getChannelExcludingWithPolicy tables now q g m draw = .ok (some id)) ↔
      ∃ x, Chosen (abilityProfiles tables now q g m) q.index x ∧ x.id = id := by
  have hweights : ∀ p ∈ (drawnAbilities tables now q g m).map
      (fun a => (a.channelId, a.weight + 10)), 2 ≤ p.2 := by
    intro p hp
    obtain ⟨a, -, rfl⟩ := mem_map.mp hp
    omega
  simp only [getChannelExcludingWithPolicy_eq hid, Except.ok.injEq]
  rw [exists_pickLe_iff hweights]
  constructor
  · rintro ⟨w, hw⟩
    obtain ⟨a, ha, heq⟩ := mem_map.mp hw
    cases heq
    exact ⟨_, chosen_abilityProfiles_iff.mpr ⟨a, ha, rfl⟩, rfl⟩
  · rintro ⟨x, hx, rfl⟩
    obtain ⟨a, ha, rfl⟩ := chosen_abilityProfiles_iff.mp hx
    exact ⟨a.weight + 10, mem_map.mpr ⟨a, ha, rfl⟩⟩

end

end

end RenewApi.Channels
