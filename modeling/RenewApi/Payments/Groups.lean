import RenewApi.Channels.Text
import RenewApi.Payments.Capacity

/-! # Group upgrades and what undoes them

A subscription may move its user to the group of its plan. It remembers the group it found, and when
it ends the user gets that group back, unless another subscription still upgrades. -/

namespace RenewApi.Payments

open Billing Relational List Table Option

variable {s last : UserSubscription} {u now id : Int} {g : String} {db' db : Database}
  {subs : List UserSubscription} {t : Table UserSubscription}

def groupOf (db : Database) (userId : Int) : Option String := (db.users.find? userId).map User.group

/-- Whether `Model(&User{})` sees the user. -/
def isLive (db : Database) (userId : Int) : Prop := (liveUser db userId).isSome

section

variable {db : Database} {u u' : Int} {group : String}

theorem isLive_iff : isLive db u ↔ ∃ row, db.users.find? u = some row ∧ row.deleted = false := by
  unfold isLive liveUser
  cases hfind : db.users.find? u with
  | none => simp
  | some row => simp

theorem groupOf_of_read (h : getUserGroupByIdTx db u = .ok group) (hlive : isLive db u) :
    groupOf db u = some group := by
  obtain ⟨-, h⟩ := guard_eq_ok.mp h
  obtain ⟨row, hfind, hshown⟩ := isLive_iff.mp hlive
  rw [hfind] at h
  dsimp only at h
  rw [hshown, if_neg Bool.false_ne_true] at h
  rw [groupOf, hfind]
  exact congrArg some (Except.ok.inj h)

theorem isLive_of_read (h : getUserGroupByIdTx db u = .ok group) (hgroup : group ≠ "") :
    isLive db u := by
  obtain ⟨-, h⟩ := guard_eq_ok.mp h
  cases hfind : db.users.find? u with
  | none =>
    rw [hfind] at h
    exact absurd (Except.ok.inj h).symm hgroup
  | some row =>
    refine isLive_iff.mpr ⟨row, hfind, Bool.eq_false_iff.mpr fun hdeleted => ?_⟩
    rw [hfind] at h
    dsimp only at h
    rw [if_pos hdeleted] at h
    exact absurd (Except.ok.inj h).symm hgroup

theorem groupOf_congr (h : db'.users = db.users) : groupOf db' u = groupOf db u := by
  rw [groupOf, groupOf, h]

theorem isLive_congr (h : db'.users = db.users) : isLive db' u ↔ isLive db u := by
  rw [isLive, isLive, liveUser, liveUser, h]

theorem groupOf_setUserGroup_self (hlive : isLive db u) :
    groupOf (setUserGroup db u group) u = some group := by
  obtain ⟨row, hfind, hshown⟩ := isLive_iff.mp hlive
  have hid : row.id = u := key_of_find? hfind
  unfold groupOf setUserGroup
  rw [find?_updateWhere, hfind]
  simp [hid, hshown]

theorem groupOf_setUserGroup_of_ne (hne : u' ≠ u) :
    groupOf (setUserGroup db u group) u' = groupOf db u' := by
  unfold groupOf setUserGroup
  rw [find?_updateWhere]
  cases hfind : db.users.find? u' with
  | none => rfl
  | some row =>
    have hid : row.id = u' := key_of_find? hfind
    simp [hid, hne]

theorem isLive_setUserGroup : isLive (setUserGroup db u group) u' ↔ isLive db u' := by
  unfold isLive liveUser setUserGroup
  rw [find?_updateWhere]
  cases hfind : db.users.find? u' with
  | none => rfl
  | some row =>
    by_cases hrow : row.deleted = false ∧ row.id = u
    · simp [Option.filter, hrow]
    · rw [map_some, if_neg (by simpa using hrow)]

end

/-- Trimming twice is trimming once. -/
theorem trimSpace_trimSpace (s : String) : trimSpace (trimSpace s) = trimSpace s := by
  have htrim : ∀ s, trimSpace s = String.ofList (Text.trimBy isSpace s.toList) := fun _ => rfl
  rw [htrim, htrim, String.toList_ofList, Text.trimBy_trimBy]

instance endsBefore_total : Std.Total endsBefore :=
  ⟨fun a b => by unfold endsBefore; omega⟩

instance endsBefore_trans : IsTrans UserSubscription endsBefore :=
  ⟨fun a b c hab hbc => by unfold endsBefore at *; omega⟩

/-- `ORDER BY end_time DESC, id DESC LIMIT 1` finds a row that the others end before. -/
theorem latestEnding_eq_some (h : latestEnding subs = some last) :
    last ∈ subs ∧ ∀ s ∈ subs, endsBefore s last := by
  have hmem : last ∈ subs.insertionSort endsBefore := mem_of_getLast? h
  refine ⟨(perm_insertionSort endsBefore subs).mem_iff.mp hmem, fun s hs => ?_⟩
  have hs' : s ∈ subs.insertionSort endsBefore :=
    (perm_insertionSort endsBefore subs).mem_iff.mpr hs
  obtain ⟨front, hfront⟩ := getLast?_eq_some_iff.mp h
  have hsorted := pairwise_insertionSort endsBefore subs
  rw [hfront, pairwise_append] at hsorted
  rw [hfront, mem_append, mem_singleton] at hs'
  rcases hs' with hbefore | rfl
  · exact hsorted.2.2 s hbefore last (mem_singleton_self last)
  · exact .inr ⟨rfl, le_rfl⟩

theorem latestEnding_eq_none (h : latestEnding subs = none) : subs = [] := by
  have hempty : subs.insertionSort endsBefore = [] := getLast?_eq_none_iff.mp h
  exact eq_nil_of_length_eq_zero (by rw [← length_insertionSort endsBefore, hempty]; rfl)

/-! ## Calls -/

/-- The users of the subscriptions that a pass finds due. -/
def dueUsers (now limit : Int) (db : Database) : List Int :=
  ((((db.subscriptions.select fun s => s.status = .active && 0 < s.endTime && s.endTime ≤ now
      ).insertionSort endsBefore).take (if limit ≤ 0 then 200 else limit.toNat)).map
        UserSubscription.userId).filter (0 < ·)

/-- **`ExpireDueSubscriptionsContext`**; `visit` is the order of a map's iteration, up to a
cancellation of the context. -/
def expireDueSubscriptions (now limit : Int) (visit : List Int) (db : Database) : Database :=
  (visit.filter (· ∈ dueUsers now limit db)).foldl
    (fun db userId => (transaction (expireUserSubscriptionsTx now userId) db).1) db

/-- A call that creates or ends subscriptions. -/
inductive GroupCall
  | create (id userId : Int) (plan : Plan)
  | expirePass (limit : Int) (visit : List Int)
  | invalidate (id : Int)
  | delete (id : Int)
  deriving DecidableEq

/-- A call at its time. -/
structure GroupEvent where
  now : Int
  call : GroupCall
  deriving DecidableEq

def GroupEvent.exec (env : PaymentContext) (db : Database) (e : GroupEvent) : Database :=
  match e.call with
  | .create id userId plan =>
    (transaction (fun db => createUserSubscriptionFromPlanTx { env with now := e.now } id db userId
      plan) db).1
  | .expirePass limit visit => expireDueSubscriptions e.now limit visit db
  | .invalidate id => (transaction (adminInvalidateUserSubscription e.now id) db).1
  | .delete id => (transaction (adminDeleteUserSubscription e.now id) db).1

def upgradeHeld (u : Int) (s : UserSubscription) : Bool :=
  s.userId = u && s.status = .active && s.upgradeGroup ≠ ""

theorem upgradeHeld_iff :
    upgradeHeld u s = true ↔ s.userId = u ∧ s.status = .active ∧ s.upgradeGroup ≠ "" := by
  simp [upgradeHeld, and_assoc]

/-- **Nothing upgrades the user**: no upgrading subscription is active, and every one that ended has
been processed. -/
def Settled (db : Database) (u : Int) : Prop :=
  ∀ s ∈ db.subscriptions.rows, upgradeHeld u s = false
  deriving Decidable

/-- The database with its clock and the group of one user before the current or the last stretch of
upgrades. -/
structure GroupSystem where
  db : Database
  clock : Int
  base : Option String

/-- An event of the system: a stretch starts where the user stops being settled. -/
def GroupSystem.step (env : PaymentContext) (u : Int) (sys : GroupSystem) (e : GroupEvent) :
    GroupSystem :=
  let db := e.exec env sys.db
  { db := db, clock := e.now
    base := if Settled sys.db u ∧ ¬ Settled db u then groupOf sys.db u else sys.base }

/-- The clock does not go back. -/
def GroupEvent.Timely (sys : GroupSystem) (e : GroupEvent) : Prop := sys.clock ≤ e.now
  deriving Decidable

/-- **One upgrade at a time.** A subscription that upgrades the user is created when nothing else
does, for a user whose group can be stored, and ends after it starts. -/
def GroupEvent.Single (env : PaymentContext) (u : Int) (db : Database) (e : GroupEvent) : Prop :=
  match e.call with
  | .create _ userId plan =>
    userId = u → trimSpace plan.upgradeGroup ≠ "" →
      Settled db u ∧
      (∀ group ∈ (getUserGroupByIdTx db u).toOption, group ≠ "" ∧ trimSpace group = group) ∧
      ∀ endUnix ∈ (calcPlanEndTime env.dates e.now plan).toOption, e.now < endUnix
  | .expirePass _ _ | .invalidate _ | .delete _ => True

instance (env : PaymentContext) (u : Int) (db : Database) (e : GroupEvent) :
    Decidable (e.Single env u db) :=
  match e with
  | ⟨_, .create _ _ _⟩ => inferInstanceAs (Decidable (_ → _ → _ ∧ _ ∧ _))
  | ⟨_, .expirePass _ _⟩ | ⟨_, .invalidate _⟩ | ⟨_, .delete _⟩ => inferInstanceAs (Decidable True)

/-! ## What the rows must look like -/

def Upgrades (u : Int) (s : UserSubscription) : Prop := s.userId = u ∧ s.upgradeGroup ≠ ""

/-- What an upgrading subscription remembers of the group `g`: it stores it, or there was nothing to
change. -/
structure Remembers (g : String) (s : UserSubscription) : Prop where
  upgrade : trimSpace s.upgradeGroup = s.upgradeGroup
  trimmed : trimSpace g = g
  nonempty : g ≠ ""
  previous : (s.prevUserGroup = g ∧ s.upgradeGroup ≠ g) ∨ (s.prevUserGroup = "" ∧ s.upgradeGroup = g)

/-- **The rows from which the group `g` can be restored** at the time `T`. The subscription that is
held ends last, so a pass that ends it looks at it last. -/
structure Restorable (u : Int) (g : String) (T : Int) (t : Table UserSubscription) : Prop where
  remembers : ∀ s ∈ t.rows, Upgrades u s → Remembers g s
  one : ∀ s ∈ t.rows, ∀ x ∈ t.rows, upgradeHeld u s = true → upgradeHeld u x = true → s = x
  past : ∀ s ∈ t.rows, Upgrades u s → s.status = .expired → s.endTime ≤ T
  later : ∀ s ∈ t.rows, ∀ x ∈ t.rows, Upgrades u s → s.status = .expired → upgradeHeld u x = true →
    s.endTime < x.endTime

/-- **The group of the user** is the one before the stretch, or that of the subscription held. -/
def Grouped (u : Int) (g : String) (db : Database) : Prop :=
  groupOf db u = some g ∨
    (isLive db u ∧ ∃ s ∈ db.subscriptions.rows, upgradeHeld u s = true ∧
      groupOf db u = some s.upgradeGroup)

/-- The group stays accounted for where neither the user nor the subscriptions held are touched. -/
theorem Grouped.congr (h : Grouped u g db) (hgroup : groupOf db' u = groupOf db u)
    (hlive : isLive db' u ↔ isLive db u)
    (hheld : ∀ s ∈ db.subscriptions.rows, upgradeHeld u s = true → s ∈ db'.subscriptions.rows) :
    Grouped u g db' :=
  h.imp hgroup.trans fun ⟨hlive₀, x, hx, hxheld, hxgroup⟩ =>
    ⟨hlive.mpr hlive₀, x, hheld x hx hxheld, hxheld, hgroup.trans hxgroup⟩

theorem Grouped.eq_of_settled (h : Grouped u g db) (hsettled : Settled db u) :
    groupOf db u = some g := by
  rcases h with hg | ⟨-, x, hx, hxheld, -⟩
  · exact hg
  · rw [hsettled x hx] at hxheld
    cases hxheld

theorem upgrades_of_held (h : upgradeHeld u s = true) : Upgrades u s :=
  ⟨(upgradeHeld_iff.mp h).1, (upgradeHeld_iff.mp h).2.2⟩

theorem trimSpace_empty : trimSpace "" = "" := rfl

theorem Remembers.trim_prev (h : Remembers g s) (hprev : trimSpace s.prevUserGroup ≠ "") :
    trimSpace s.prevUserGroup = g := by
  rcases h.previous with ⟨hg, -⟩ | ⟨hempty, -⟩
  · rw [hg, h.trimmed]
  · rw [hempty] at hprev
    exact absurd trimSpace_empty hprev

/-- How a row may change between two looks at the table: it stays as it is, is cancelled, or
expires. -/
structure Aged (T : Int) (s s' : UserSubscription) : Prop where
  id : s'.id = s.id
  userId : s'.userId = s.userId
  upgradeGroup : s'.upgradeGroup = s.upgradeGroup
  prevUserGroup : s'.prevUserGroup = s.prevUserGroup
  active : s'.status = .active → s' = s
  expired : s'.status = .expired →
    s'.endTime = s.endTime ∧ (s.status = .expired ∨ (s.status = .active ∧ s.endTime ≤ T))

theorem Aged.refl (T : Int) (s : UserSubscription) : Aged T s s :=
  ⟨rfl, rfl, rfl, rfl, fun _ => rfl, fun h => ⟨rfl, .inl h⟩⟩

namespace Restorable

variable {T T' : Int} {t t' : Table UserSubscription}

theorem age (h : Restorable u g T t) (hT : T ≤ T')
    (hrows : ∀ s' ∈ t'.rows, Upgrades u s' → ∃ s ∈ t.rows, Aged T' s s') :
    Restorable u g T' t' := by
  -- An upgrading row was upgrading before, and a held one is the same row.
  have hup : ∀ {s s' : UserSubscription}, Aged T' s s' → Upgrades u s' → Upgrades u s := by
    intro s s' haged hs'
    exact ⟨haged.userId ▸ hs'.1, haged.upgradeGroup ▸ hs'.2⟩
  have hheld : ∀ {s s' : UserSubscription}, Aged T' s s' → upgradeHeld u s' = true → s' = s :=
    fun haged hs' => haged.active (upgradeHeld_iff.mp hs').2.1
  constructor
  case remembers =>
    intro s' hs' hupgrades
    obtain ⟨s, hs, haged⟩ := hrows s' hs' hupgrades
    have hold := h.remembers s hs (hup haged hupgrades)
    refine ⟨?_, hold.trimmed, hold.nonempty, ?_⟩
    · rw [haged.upgradeGroup, hold.upgrade]
    · rw [haged.upgradeGroup, haged.prevUserGroup]
      exact hold.previous
  case one =>
    intro s' hs' x' hx' hsheld hxheld
    obtain ⟨s, hs, hsaged⟩ := hrows s' hs' (upgrades_of_held hsheld)
    obtain ⟨x, hx, hxaged⟩ := hrows x' hx' (upgrades_of_held hxheld)
    obtain rfl := hheld hsaged hsheld
    obtain rfl := hheld hxaged hxheld
    exact h.one s' hs x' hx hsheld hxheld
  case past =>
    intro s' hs' hupgrades hexpired
    obtain ⟨s, hs, haged⟩ := hrows s' hs' hupgrades
    obtain ⟨hend, hbefore | ⟨-, hdue⟩⟩ := haged.expired hexpired
    · rw [hend]
      exact (h.past s hs (hup haged hupgrades) hbefore).trans hT
    · rw [hend]
      exact hdue
  case later =>
    intro s' hs' x' hx' hupgrades hexpired hxheld
    obtain ⟨s, hs, haged⟩ := hrows s' hs' hupgrades
    obtain ⟨x, hx, hxaged⟩ := hrows x' hx' (upgrades_of_held hxheld)
    obtain rfl := hheld hxaged hxheld
    obtain ⟨hend, hbefore | ⟨hactive, -⟩⟩ := haged.expired hexpired
    · rw [hend]
      exact h.later s hs x' hx (hup haged hupgrades) hbefore hxheld
    · -- The row that just expired was the one held, so nothing is held any more.
      have hsheld : upgradeHeld u s = true :=
        upgradeHeld_iff.mpr ⟨(hup haged hupgrades).1, hactive, (hup haged hupgrades).2⟩
      obtain rfl := h.one s hs x' hx hsheld hxheld
      have hsame : s' = s := eq_of_key hs' hx' haged.id
      rw [hsame, hactive] at hexpired
      cases hexpired

end Restorable

/-! ## Ending one subscription -/

section

variable {now : Int} {db db' : Database} {sub : UserSubscription} {T : Int}

/-- **Ending a subscription leaves a group that is accounted for** by `g` or by another subscription
that is held. The downgrade is evaluated on `db`, where it may already be marked; rows and group
before are those of `db₀`. -/
theorem grouped_downgrade {db₀ : Database} {s₀ : UserSubscription}
    (hrest : Restorable u g T db₀.subscriptions) (hgroup : Grouped u g db₀)
    (hmem : s₀ ∈ db₀.subscriptions.rows) (haged : Aged T s₀ sub) (husers : db.users = db₀.users)
    (hheld : ∀ s ∈ db.subscriptions.rows, s.id ≠ sub.id → s ∈ db₀.subscriptions.rows)
    (h : downgradeUserGroupForSubscriptionTx now db sub = .ok db') :
    groupOf db' u = some g ∨
      (isLive db' u ∧ ∃ s ∈ db₀.subscriptions.rows, upgradeHeld u s = true ∧ s.id ≠ sub.id ∧
        groupOf db' u = some s.upgradeGroup) := by
  have hgroupOf : groupOf db u = groupOf db₀ u := groupOf_congr husers
  have hlive : isLive db u ↔ isLive db₀ u := isLive_congr husers
  obtain ⟨hup, hprev, hread, rfl⟩ | ⟨rfl, hreason⟩ := downgradeUserGroupForSubscriptionTx_eq_ok h
  · by_cases huser : sub.userId = u
    · -- The stored group is put back, and it is `g`.
      have hupgrades : Upgrades u s₀ := by
        refine ⟨haged.userId ▸ huser, fun hempty => hup ?_⟩
        rw [haged.upgradeGroup, hempty, trimSpace_empty]
      have hremembers := hrest.remembers s₀ hmem hupgrades
      rw [haged.prevUserGroup] at hprev ⊢
      rw [hremembers.trim_prev hprev, huser]
      exact .inl (groupOf_setUserGroup_self (isLive_of_read (huser ▸ hread) hup))
    · -- Another user's group.
      have hne : u ≠ sub.userId := fun h => huser h.symm
      rw [groupOf_setUserGroup_of_ne hne, isLive_setUserGroup, hgroupOf, hlive]
      rcases hgroup with hg | ⟨hlive₀, x, hx, hxheld, hxgroup⟩
      · exact .inl hg
      · refine .inr ⟨hlive₀, x, hx, hxheld, fun hid => huser ?_, hxgroup⟩
        rw [haged.userId, ← eq_of_key hx hmem (hid.trans haged.id)]
        exact (upgradeHeld_iff.mp hxheld).1
  · rw [hgroupOf, hlive]
    rcases hgroup with hg | ⟨hlive₀, x, hx, hxheld, hxgroup⟩
    · exact .inl hg
    by_cases hid : x.id = sub.id
    · -- The one held is the one that ends, and it was not put back: there was nothing to change.
      obtain rfl : s₀ = x := (eq_of_key hx hmem (hid.trans haged.id)).symm
      have hremembers := hrest.remembers s₀ hx (upgrades_of_held hxheld)
      obtain ⟨huser, -, hnonempty⟩ := upgradeHeld_iff.mp hxheld
      have hup : trimSpace sub.upgradeGroup = s₀.upgradeGroup := by
        rw [haged.upgradeGroup, hremembers.upgrade]
      have hsubUser : sub.userId = u := haged.userId.trans huser
      left
      rcases hremembers.previous with ⟨hstored, hdiff⟩ | ⟨-, hsameGroup⟩
      · exfalso
        have hprev : trimSpace sub.prevUserGroup = g := by
          rw [haged.prevUserGroup, hstored, hremembers.trimmed]
        rcases hreason with hempty | ⟨current, hread, hwhy⟩
        · exact hnonempty (hup ▸ hempty)
        have hcurrent : current = s₀.upgradeGroup := by
          have hcol := groupOf_of_read (hsubUser ▸ hread) (hlive.mpr hlive₀)
          rw [hgroupOf, hxgroup] at hcol
          exact (some.inj hcol).symm
        rcases hwhy with hother | ⟨y, hy, hyuser, hyactive, hyup, hyid⟩ | hempty | hcur
        · exact hother (hcurrent.trans hup.symm)
        · have hyheld := upgradeHeld_iff.mpr ⟨hyuser.trans hsubUser, hyactive, hyup⟩
          obtain rfl := hrest.one y (hheld y hy hyid) s₀ hx hyheld hxheld
          exact hyid hid
        · exact hremembers.nonempty (hprev ▸ hempty)
        · exact hdiff (hcurrent.symm.trans (hcur.symm.trans hprev))
      · rw [hxgroup, hsameGroup]
    · exact .inr ⟨hlive₀, x, hx, hxheld, hid, hxgroup⟩

end

/-! ## One event -/

/-- What an event must keep: the rows, and the group. -/
structure Undoable (u : Int) (g : String) (T : Int) (db : Database) : Prop where
  rows : Restorable u g T db.subscriptions
  group : Grouped u g db

namespace Undoable

variable {T : Int} {db db' : Database}

theorem wait (h : Undoable u g T db) (hT : T ≤ now) : Undoable u g now db :=
  ⟨h.rows.age hT fun s hs _ => ⟨s, hs, .refl now s⟩, h.group⟩

/-- `AdminInvalidateUserSubscription`. -/
theorem invalidate (h : Undoable u g T db) (hT : T ≤ now) :
    Undoable u g now (transaction (adminInvalidateUserSubscription now id) db).1 := by
  refine transaction_cases (h.wait hT) fun db' _ htx => ?_
  obtain ⟨s₀, sub, hfind, hsub, hdown⟩ := adminInvalidateUserSubscription_eq_ok htx
  have hmem : s₀ ∈ db.subscriptions.rows := mem_of_find? hfind
  have haged : Aged now s₀ sub := hsub ▸ ⟨rfl, rfl, rfl, rfl, nofun, nofun⟩
  have hrow : ∀ s ∈ (db.subscriptions.put sub).rows, s = sub ∨ s ∈ db.subscriptions.rows :=
    fun s hs => (mem_put hs).imp_right And.left
  have hsubs := subscriptions_downgradeUserGroup hdown
  have hw := h.wait hT
  constructor
  · refine hw.rows.age le_rfl fun s' hs' _ => ?_
    rw [hsubs] at hs'
    rcases hrow s' hs' with rfl | hold
    · exact ⟨s₀, hmem, haged⟩
    · exact ⟨s', hold, .refl now s'⟩
  · have hheld : ∀ s ∈ (db.subscriptions.put sub).rows, s.id ≠ sub.id →
        s ∈ db.subscriptions.rows := by
      intro s hs hid
      rcases hrow s hs with rfl | hold
      · exact absurd rfl hid
      · exact hold
    have husers : ({ db with subscriptions := db.subscriptions.put sub } : Database).users
        = db.users := rfl
    obtain hg | ⟨hlive, x, hx, hxheld, hxid, hxgroup⟩ :=
      grouped_downgrade hw.rows hw.group hmem haged husers hheld hdown
    · exact .inl hg
    · refine .inr ⟨hlive, x, ?_, hxheld, hxgroup⟩
      rw [hsubs]
      exact mem_put_of_ne hx hxid

/-- `AdminDeleteUserSubscription`. -/
theorem delete (h : Undoable u g T db) (hT : T ≤ now) :
    Undoable u g now (transaction (adminDeleteUserSubscription now id) db).1 := by
  refine transaction_cases (h.wait hT) fun db' _ htx => ?_
  obtain ⟨s₀, db₁, hfind, hdown, rfl⟩ := adminDeleteUserSubscription_eq_ok htx
  have hmem : s₀ ∈ db.subscriptions.rows := mem_of_find? hfind
  have hid₀ : s₀.id = id := key_of_find? hfind
  have hsubs := subscriptions_downgradeUserGroup hdown
  have hw := h.wait hT
  constructor
  · refine hw.rows.age le_rfl fun s' hs' _ => ⟨s', ?_, .refl now s'⟩
    have hmem' := (mem_filter.mp hs').1
    rwa [hsubs] at hmem'
  · -- the group is looked at before the row goes, and the row that holds it is another one
    obtain hg | ⟨hlive, x, hx, hxheld, hxid, hxgroup⟩ :=
      grouped_downgrade hw.rows hw.group hmem (.refl now s₀) rfl (fun s hs _ => hs) hdown
    · exact .inl hg
    · refine .inr ⟨hlive, x, mem_filter.mpr ⟨?_, ?_⟩, hxheld, hxgroup⟩
      · rw [hsubs]
        exact hx
      · have hne : x.id ≠ id := hid₀ ▸ hxid
        simp [hne]

end Undoable

/-! ## Passes -/

section

variable {now userId : Int} {T : Int} {db db' : Database}

/-- Why a pass leaves a user's group as it is. -/
def LeavesGroup (userId : Int) (db : Database) : Prop :=
  (∃ s ∈ db.subscriptions.rows, upgradeHeld userId s = true) ∨
    (∀ s ∈ db.subscriptions.rows, Upgrades userId s → s.status ≠ .expired) ∨
    ∃ last ∈ db.subscriptions.rows, Upgrades userId last ∧ last.status = .expired ∧
      (∀ s ∈ db.subscriptions.rows, Upgrades userId s → s.status = .expired → endsBefore s last) ∧
      (trimSpace last.upgradeGroup = "" ∨ trimSpace last.prevUserGroup = "" ∨
        ∃ current, getUserGroupByIdTx db userId = .ok current ∧
          (current ≠ trimSpace last.upgradeGroup ∨ current = trimSpace last.prevUserGroup))

/-- **What a pass does to a user's group** once the due rows are marked: it restores what the last
one stored, or there is a reason not to. -/
theorem downgradeAfterExpiry_eq_ok (h : downgradeAfterExpiry now userId db = .ok db') :
    (∃ s ∈ db.subscriptions.rows, Upgrades userId s ∧ s.status = .expired ∧
        trimSpace s.upgradeGroup ≠ "" ∧ trimSpace s.prevUserGroup ≠ "" ∧
        getUserGroupByIdTx db userId = .ok (trimSpace s.upgradeGroup) ∧
        db' = setUserGroup db userId (trimSpace s.prevUserGroup)) ∨
      (db' = db ∧ LeavesGroup userId db) := by
  rcases skip_eq_ok.mp h with ⟨hcount, rfl⟩ | ⟨-, h⟩
  · refine .inr ⟨rfl, Or.inl ?_⟩
    obtain ⟨s, hs, hp⟩ := countP_pos_iff.mp (Nat.pos_of_ne_zero hcount)
    simp only [Bool.and_eq_true, decide_eq_true_eq] at hp
    exact ⟨s, hs, upgradeHeld_iff.mpr ⟨hp.1.1.1, hp.1.1.2, hp.2⟩⟩
  have hselect : ∀ s, s ∈ db.subscriptions.select (fun s =>
      s.userId = userId && s.status = .expired && s.upgradeGroup ≠ "") ↔
        s ∈ db.subscriptions.rows ∧ Upgrades userId s ∧ s.status = .expired := by
    intro s
    simp only [select, mem_filter, Bool.and_eq_true, decide_eq_true_eq, Upgrades]
    tauto
  cases hlast : latestEnding (db.subscriptions.select fun s =>
      s.userId = userId && s.status = .expired && s.upgradeGroup ≠ "") with
  | none =>
    rw [hlast] at h
    refine .inr ⟨(Except.ok.inj h).symm, Or.inr (.inl fun s hs hup hexpired => ?_)⟩
    have hs' := (hselect s).mpr ⟨hs, hup, hexpired⟩
    rw [latestEnding_eq_none hlast] at hs'
    exact absurd hs' not_mem_nil
  | some last =>
    rw [hlast] at h
    dsimp only at h
    obtain ⟨hmem, hmax⟩ := latestEnding_eq_some hlast
    obtain ⟨hrow, hupgrades, hexpired⟩ := (hselect last).mp hmem
    have hmax' : ∀ s ∈ db.subscriptions.rows, Upgrades userId s → s.status = .expired →
        endsBefore s last := fun s hs hup hex => hmax s ((hselect s).mpr ⟨hs, hup, hex⟩)
    rcases skip_eq_ok.mp h with ⟨hstored, rfl⟩ | ⟨hstored, h⟩
    · refine .inr ⟨rfl, Or.inr (.inr ⟨last, hrow, hupgrades, hexpired, hmax', ?_⟩)⟩
      exact hstored.imp_right .inl
    obtain ⟨current, hread, h⟩ := bind_eq_ok.mp h
    rw [not_or] at hstored
    rcases skip_eq_ok.mp h with ⟨hkeep, rfl⟩ | ⟨hkeep, h⟩
    · exact .inr ⟨rfl, Or.inr (.inr ⟨last, hrow, hupgrades, hexpired, hmax',
        .inr (.inr ⟨current, hread, hkeep⟩)⟩)⟩
    · rw [not_or, not_not] at hkeep
      exact .inl ⟨last, hrow, hupgrades, hexpired, hstored.1, hstored.2, hkeep.1 ▸ hread,
        (Except.ok.inj h).symm⟩

/-- What a pass marks. -/
def expireRow (now userId : Int) (s : UserSubscription) : UserSubscription :=
  if s.userId = userId && s.status = .active && 0 < s.endTime && s.endTime ≤ now then
    { s with status := .expired, updatedAt := now }
  else s

theorem aged_expireRow (s : UserSubscription) : Aged now s (expireRow now userId s) := by
  unfold expireRow
  split
  · rename_i hdue
    simp only [Bool.and_eq_true, decide_eq_true_eq] at hdue
    exact ⟨rfl, rfl, rfl, rfl, nofun, fun _ => ⟨rfl, .inr ⟨hdue.1.1.2, hdue.2⟩⟩⟩
  · exact .refl now s

theorem expireRow_of_ne (h : s.userId ≠ userId) : expireRow now userId s = s := by
  unfold expireRow
  rw [if_neg (by simp [h])]

theorem expireRow_cases (now userId : Int) (s : UserSubscription) :
    expireRow now userId s = s ∨ (expireRow now userId s).status = .expired := by
  unfold expireRow
  split
  · exact .inr rfl
  · exact .inl rfl

/-- The row that a pass ended is the one that ended last, if it was held. -/
theorem last_eq_of_held {t' : Table UserSubscription} (hrest : Restorable u g T t)
    (ht' : t'.rows = t.rows.map (expireRow now u)) {x : UserSubscription} (hx : x ∈ t.rows)
    (hxheld : upgradeHeld u x = true) (hxexpired : (expireRow now u x).status = .expired)
    (hlast : last ∈ t'.rows) (hupgrades : Upgrades u last) (hexpired : last.status = .expired)
    (hbefore : endsBefore (expireRow now u x) last) : last = expireRow now u x := by
  rw [ht'] at hlast
  obtain ⟨y, hy, rfl⟩ := mem_map.mp hlast
  have haged : Aged now y (expireRow now u y) := aged_expireRow y
  have hyup : Upgrades u y := ⟨haged.userId ▸ hupgrades.1, haged.upgradeGroup ▸ hupgrades.2⟩
  obtain ⟨hend, hold | ⟨hactive, -⟩⟩ := haged.expired hexpired
  · -- It had expired before, so it ended before the one that was held.
    have hlt := hrest.later y hy x hx hyup hold hxheld
    have hxend := ((aged_expireRow x).expired hxexpired).1
    rw [endsBefore, hend, hxend] at hbefore
    omega
  · rw [hrest.one y hy x hx (upgradeHeld_iff.mpr ⟨hyup.1, hactive, hyup.2⟩) hxheld]

/-- **The group after the rows of the user are marked**, if the pass finds a reason to leave it. -/
theorem group_of_unchanged {marked : Database} (hrest : Restorable u g T db.subscriptions)
    (hgroup : Grouped u g db) (husers : marked.users = db.users)
    (hmarked : marked.subscriptions.rows = db.subscriptions.rows.map (expireRow now u))
    (hreason : LeavesGroup u marked) : Grouped u g marked := by
  have hgroupOf : groupOf marked u = groupOf db u := groupOf_congr husers
  have hlive : isLive marked u ↔ isLive db u := isLive_congr husers
  rcases hgroup with hg | ⟨hlive₀, x, hx, hxheld, hxgroup⟩
  · exact .inl (hgroupOf.trans hg)
  have hx' : expireRow now u x ∈ marked.subscriptions.rows := by
    rw [hmarked]
    exact mem_map_of_mem hx
  rcases expireRow_cases now u x with hkept | hxexpired
  · -- Still held.
    rw [hkept] at hx'
    exact .inr ⟨hlive.mpr hlive₀, x, hx', hxheld, hgroupOf.trans hxgroup⟩
  left
  have hremembers := hrest.remembers x hx (upgrades_of_held hxheld)
  rcases hremembers.previous with ⟨hstored, hdiff⟩ | ⟨-, hsame⟩
  · -- It stored `g` and ended, so each reason to leave the group fails.
    exfalso
    have haged : Aged now x (expireRow now u x) := aged_expireRow x
    have hxup : Upgrades u (expireRow now u x) :=
      ⟨haged.userId.trans (upgradeHeld_iff.mp hxheld).1,
        haged.upgradeGroup.symm ▸ (upgradeHeld_iff.mp hxheld).2.2⟩
    rcases hreason with ⟨s, hs, hsheld⟩ | hnone | ⟨last, hlast, hlastUp, hlastEx, hmax, hwhy⟩
    · rw [hmarked] at hs
      obtain ⟨y, hy, rfl⟩ := mem_map.mp hs
      have hy' : expireRow now u y = y := (aged_expireRow y).active (upgradeHeld_iff.mp hsheld).2.1
      rw [hy'] at hsheld
      rw [← hrest.one y hy x hx hsheld hxheld, hy', (upgradeHeld_iff.mp hsheld).2.1] at hxexpired
      cases hxexpired
    · exact hnone _ hx' hxup hxexpired
    · obtain rfl := last_eq_of_held hrest hmarked hx hxheld hxexpired hlast hlastUp hlastEx
        (hmax _ hx' hxup hxexpired)
      rw [haged.upgradeGroup, haged.prevUserGroup, hremembers.upgrade, hstored,
        hremembers.trimmed] at hwhy
      rcases hwhy with hempty | hempty | ⟨current, hread, hwhy⟩
      · exact (upgradeHeld_iff.mp hxheld).2.2 hempty
      · exact hremembers.nonempty hempty
      · have hcol := groupOf_of_read hread (hlive.mpr hlive₀)
        rw [hgroupOf, hxgroup] at hcol
        obtain rfl : x.upgradeGroup = current := some.inj hcol
        exact hwhy.elim (fun hne => hne rfl) hdiff
  · rw [hgroupOf, hxgroup, hsame]

/-- **One user's transaction of a pass.** -/
theorem Undoable.expireUser (h : Undoable u g T db) (hT : T ≤ now) :
    Undoable u g now (transaction (expireUserSubscriptionsTx now userId) db).1 := by
  refine transaction_cases (h.wait hT) fun db' _ htx => ?_
  unfold expireUserSubscriptionsTx at htx
  obtain ⟨db₁, hdown, htx⟩ := bind_eq_ok.mp htx
  cases htx
  generalize hdef : ({ db with
    subscriptions := db.subscriptions.updateWhere
      (fun s => s.userId = userId && s.status = .active && 0 < s.endTime && s.endTime ≤ now)
      (fun s => { s with status := .expired, updatedAt := now }) } : Database) = marked at hdown
  have husers : marked.users = db.users := by rw [← hdef]
  have hmarked : marked.subscriptions.rows = db.subscriptions.rows.map (expireRow now userId) := by
    rw [← hdef]
    rfl
  have hrest : Restorable u g now marked.subscriptions := by
    refine h.rows.age hT fun s' hs' _ => ?_
    rw [hmarked] at hs'
    obtain ⟨s, hs, rfl⟩ := mem_map.mp hs'
    exact ⟨s, hs, aged_expireRow s⟩
  by_cases huser : userId = u
  · subst huser
    obtain ⟨s, hs, hup, -, hupNe, hprevNe, hread, rfl⟩ | ⟨rfl, hreason⟩ :=
      downgradeAfterExpiry_eq_ok hdown
    · refine ⟨hrest, .inl ?_⟩
      rw [(hrest.remembers s hs hup).trim_prev hprevNe]
      exact groupOf_setUserGroup_self (isLive_of_read hread hupNe)
    · exact ⟨hrest, group_of_unchanged h.rows h.group husers hmarked hreason⟩
  · -- Another user: neither the rows nor the group of `u` are touched.
    have hkeep : Grouped u g marked := by
      refine h.group.congr (groupOf_congr husers) (isLive_congr husers) fun x hx hxheld => ?_
      have hxuser : x.userId ≠ userId := by
        rw [(upgradeHeld_iff.mp hxheld).1]
        exact fun h => huser h.symm
      rw [hmarked]
      exact mem_map.mpr ⟨x, hx, expireRow_of_ne hxuser⟩
    obtain ⟨s, -, -, -, -, -, -, rfl⟩ | ⟨rfl, -⟩ := downgradeAfterExpiry_eq_ok hdown
    · exact ⟨hrest, hkeep.congr (groupOf_setUserGroup_of_ne fun h => huser h.symm)
        isLive_setUserGroup fun _ hs _ => hs⟩
    · exact ⟨hrest, hkeep⟩

theorem Undoable.expirePass (h : Undoable u g T db) (hT : T ≤ now) (limit : Int) (visit : List Int) :
    Undoable u g now (expireDueSubscriptions now limit visit db) := by
  have hfold : ∀ (users : List Int) (db : Database), Undoable u g now db →
      Undoable u g now (users.foldl
        (fun db userId => (transaction (expireUserSubscriptionsTx now userId) db).1) db) := by
    intro users
    induction users with
    | nil => exact fun db h => h
    | cons userId rest ih => exact fun db h => ih _ (h.expireUser le_rfl)
  exact hfold _ db (h.wait hT)

end

/-! ## Creation -/

section

variable {env : PaymentContext} {T : Int} {db : Database}

/-- **A new upgrade** finds `g`, stores it unless it is the group of the plan, and leaves the group
of the plan. -/
theorem upgrade_from_base {db₁ : Database} {group prevGroup : String} (hg : groupOf db u = some g)
    (hgroup : group ≠ "")
    (hreadable : ∀ x ∈ (getUserGroupByIdTx db u).toOption, x ≠ "" ∧ trimSpace x = x)
    (h : upgradeUserGroup db u group = .ok (db₁, prevGroup)) :
    trimSpace g = g ∧ g ≠ "" ∧ isLive db₁ u ∧ groupOf db₁ u = some group ∧
      ((prevGroup = g ∧ group ≠ g) ∨ (prevGroup = "" ∧ group = g)) := by
  -- What is read is what the column says.
  have hread : ∀ x, getUserGroupByIdTx db u = .ok x → x = g ∧ x ≠ "" ∧ trimSpace x = x ∧
      isLive db u := by
    intro x hx
    have hmem : x ∈ (getUserGroupByIdTx db u).toOption := by rw [hx]; rfl
    obtain ⟨hne, htrim⟩ := hreadable x hmem
    have hlive := isLive_of_read hx hne
    have hcol := groupOf_of_read hx hlive
    rw [hg] at hcol
    exact ⟨(some.inj hcol).symm, hne, htrim, hlive⟩
  obtain ⟨rfl, hprev, hempty | hsame⟩ | ⟨-, hfound, hdiff, rfl⟩ := upgradeUserGroup_eq_ok h
  · exact absurd hempty hgroup
  · obtain ⟨rfl, hne, htrim, hlive⟩ := hread group hsame
    exact ⟨htrim, hne, hlive, hg, .inr ⟨hprev, rfl⟩⟩
  · obtain ⟨rfl, hne, htrim, hlive⟩ := hread prevGroup hfound
    exact ⟨htrim, hne, isLive_setUserGroup.mpr hlive, groupOf_setUserGroup_self hlive,
      .inl ⟨rfl, hdiff.symm⟩⟩

/-- A new upgrading row, when nothing else upgrades and it ends after it starts. -/
theorem Restorable.insert {sub : UserSubscription} (h : Restorable u g T t)
    (hsettled : ∀ s ∈ t.rows, upgradeHeld u s = false) (hremembers : Remembers g sub)
    (hactive : sub.status = .active) (hend : T < sub.endTime) :
    Restorable u g T (t.insert sub) := by
  have hheld : ∀ s ∈ (t.insert sub).rows, upgradeHeld u s = true → s = sub := by
    intro s hs hsheld
    rcases mem_insert hs with rfl | hold
    · rfl
    · rw [hsettled s hold] at hsheld
      cases hsheld
  constructor
  case remembers =>
    intro s hs hup
    rcases mem_insert hs with rfl | hold
    · exact hremembers
    · exact h.remembers s hold hup
  case one =>
    intro s hs x hx hsheld hxheld
    exact (hheld s hs hsheld).trans (hheld x hx hxheld).symm
  case past =>
    intro s hs hup hexpired
    rcases mem_insert hs with rfl | hold
    · rw [hactive] at hexpired
      cases hexpired
    · exact h.past s hold hup hexpired
  case later =>
    intro s hs x hx hup hexpired hxheld
    obtain rfl := hheld x hx hxheld
    rcases mem_insert hs with rfl | hold
    · rw [hactive] at hexpired
      cases hexpired
    · exact (h.past s hold hup hexpired).trans_lt hend

theorem Undoable.create (h : Undoable u g T db) (hT : T ≤ now) {userId : Int} {plan : Plan}
    (hsingle : GroupEvent.Single env u db ⟨now, .create id userId plan⟩) :
    Undoable u g now (transaction (fun db =>
      createUserSubscriptionFromPlanTx { env with now := now } id db userId plan) db).1 := by
  refine transaction_cases (h.wait hT) fun db' sub htx => ?_
  obtain ⟨endUnix, prevGroup, db₁, hend, hupgrade, hsub, -, hfresh, rfl⟩ :=
    createUserSubscriptionFromPlanTx_eq_ok htx
  have hw := h.wait hT
  by_cases hnew : userId = u ∧ trimSpace plan.upgradeGroup ≠ ""
  · -- It upgrades: nothing else does, so the user is in `g`.
    obtain ⟨rfl, hup⟩ := hnew
    obtain ⟨hsettled, hreadable, hlater⟩ := hsingle rfl hup
    obtain ⟨htrim, hne, hlive, hleft, hprev⟩ :=
      upgrade_from_base (hw.group.eq_of_settled hsettled) hup hreadable hupgrade
    have hlast : now < endUnix := by
      refine hlater endUnix ?_
      rw [show calcPlanEndTime env.dates now plan = .ok endUnix from hend]
      rfl
    have hremembers : Remembers g sub := by
      rw [hsub]
      exact ⟨trimSpace_trimSpace plan.upgradeGroup, htrim, hne, hprev⟩
    refine ⟨hw.rows.insert hsettled hremembers (by rw [hsub]; rfl) (by rw [hsub]; exact hlast), ?_⟩
    refine .inr ⟨hlive, sub, ?_, ?_, ?_⟩
    · rw [rows_insert (show db.subscriptions.find? (Row.key sub) = none by
        rw [hsub]; exact hfresh)]
      exact mem_append_right _ (mem_singleton_self sub)
    · rw [hsub]
      exact upgradeHeld_iff.mpr ⟨rfl, rfl, hup⟩
    · rw [hsub]
      exact hleft
  · -- It does not: the rows that matter and the group stay.
    have hother : ¬ Upgrades u sub := by
      rw [hsub]
      exact hnew
    have hgroup : groupOf db₁ u = groupOf db u ∧ (isLive db₁ u ↔ isLive db u) := by
      obtain ⟨rfl, -⟩ | ⟨hup, -, -, rfl⟩ := upgradeUserGroup_eq_ok hupgrade
      · exact ⟨rfl, Iff.rfl⟩
      · have hne : u ≠ userId := fun h => hnew ⟨h.symm, hup⟩
        exact ⟨groupOf_setUserGroup_of_ne hne, isLive_setUserGroup⟩
    constructor
    · refine hw.rows.age le_rfl fun s hs hup => ?_
      rcases mem_insert hs with rfl | hold
      · exact absurd hup hother
      · exact ⟨s, hold, .refl now s⟩
    · exact hw.group.congr hgroup.1 hgroup.2 fun x hx _ => subset_insert sub hx

end

/-! ## Runs -/

/-- **Every event keeps the group restorable**, one upgrade at a time. -/
theorem Undoable.exec {env : PaymentContext} {T : Int} {e : GroupEvent} (h : Undoable u g T db)
    (hT : T ≤ e.now) (hsingle : e.Single env u db) : Undoable u g e.now (e.exec env db) := by
  obtain ⟨now, call⟩ := e
  cases call with
  | create => exact h.create hT hsingle
  | expirePass limit visit => exact h.expirePass hT limit visit
  | invalidate id => exact h.invalidate hT
  | delete id => exact h.delete hT

/-- A database and a time at the start of a run. -/
def startGroups (db : Database) (u clock : Int) : GroupSystem := ⟨db, clock, groupOf db u⟩

/-- **Group upgrades are undone.** From any database in which the user has had no upgrading
subscription, in every run with a clock that does not go back in which upgrades come one at a time:
whenever the user is settled, the group is the one from before the stretch. -/
theorem upgrades_undone (env : PaymentContext) (u : Int) (db : Database) (clock : Int)
    (huser : (groupOf db u).isSome) (hfirst : ∀ s ∈ db.subscriptions.rows, ¬ Upgrades u s)
    (es : List GroupEvent)
    (htimely : Along (GroupSystem.step env u) (fun sys e => e.Timely sys) (startGroups db u clock) es)
    (hsingle : Along (GroupSystem.step env u) (fun sys e => e.Single env u sys.db)
      (startGroups db u clock) es) :
    let sys := run (GroupSystem.step env u) (startGroups db u clock) es
    Settled sys.db u → groupOf sys.db u = sys.base := by
  intro sys hsettled
  obtain ⟨g, hg⟩ := isSome_iff_exists.mp huser
  -- The group before every stretch is the one of the start.
  have hinv : Undoable u g sys.clock sys.db ∧ sys.base = some g := by
    refine run_invariant (I := fun sys => Undoable u g sys.clock sys.db ∧ sys.base = some g)
      (fun sys e hc hI => ?_) (htimely.and hsingle) ⟨⟨?_, .inl hg⟩, hg⟩
    · refine ⟨hI.1.exec hc.1 hc.2, ?_⟩
      rw [GroupSystem.step]
      split
      · rename_i hstart
        exact hI.1.group.eq_of_settled hstart.1
      · exact hI.2
    · exact ⟨fun s hs hup => absurd hup (hfirst s hs),
        fun s hs _ _ hheld _ => absurd (upgrades_of_held hheld) (hfirst s hs),
        fun s hs hup => absurd hup (hfirst s hs), fun s hs _ _ hup => absurd hup (hfirst s hs)⟩
  rw [hinv.1.group.eq_of_settled hsettled, hinv.2]

/-! ## Sample runs -/

def sampleUpgrade (group : String) : Plan :=
  { samplePlan with durationUnit := .hour, upgradeGroup := group }

/-- Two stretches, one ended by a pass and one by an administrator. -/
theorem upgrades_undone_sample :
    let sys := run (GroupSystem.step sampleContext 1) (startGroups sampleShop.db 1 0)
      [⟨1000, .create 1 1 (sampleUpgrade "vip")⟩, ⟨5000, .expirePass 0 [1]⟩,
       ⟨6000, .create 2 1 (sampleUpgrade "svip")⟩, ⟨6500, .delete 1⟩, ⟨7000, .invalidate 2⟩]
    groupOf sys.db 1 = some "default" ∧ groupOf sys.db 1 = sys.base := by
  refine ⟨by decide +kernel, ?_⟩
  exact upgrades_undone sampleContext 1 sampleShop.db 0 (by decide +kernel)
    (fun s hs => absurd hs not_mem_nil) _ (by decide +kernel) (by decide +kernel)
    (by decide +kernel)

/-- A subscription renewed before it ends: the second one finds the user in the group, stores
nothing, and ends last. -/
theorem upgrade_kept_after_renewal :
    let sys := run (GroupSystem.step sampleContext 1) (startGroups sampleShop.db 1 0)
      [⟨1000, .create 1 1 (sampleUpgrade "vip")⟩, ⟨2000, .create 2 1 (sampleUpgrade "vip")⟩,
       ⟨5000, .expirePass 0 [1]⟩, ⟨6000, .expirePass 0 [1]⟩]
    (sys.db.subscriptions.rows.map fun s => (s.id, s.status, s.endTime))
      = [(1, .expired, 4600), (2, .expired, 5600)] ∧
    Settled sys.db 1 ∧ sys.base = some "default" ∧ groupOf sys.db 1 = some "vip" := by
  decide +kernel

end RenewApi.Payments
