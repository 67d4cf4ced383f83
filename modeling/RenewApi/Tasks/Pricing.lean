import RenewApi.Tasks.Submission

/-! # What a task is priced with

`HandleGroupRatio` and `ModelPriceHelperPerCall` of `relay/helper/price.go`, the ratios a remix
takes from its origin (`ResolveOriginTask`), and the group ratio of `CalculateTaskQuotaByTokens`. -/

namespace RenewApi.Billing

open Relational Option

/-- The ratios of groups, and the special ratios of a user's group for the group in use. -/
structure GroupSettings where
  groupRatio : String → Option Rat
  groupGroupRatio : String → String → Option Rat

variable (settings : GroupSettings)

def GroupSettings.getGroupRatio (name : String) : Rat :=
  (settings.groupRatio name).getD 1

/-- The special ratio of a user's group for a group, or else the ratio of that group. -/
def GroupSettings.ratioFor (userGroup group : String) : Rat :=
  (settings.groupGroupRatio userGroup group).getD (settings.getGroupRatio group)

/-- `HandleGroupRatio`: the group in use, which an automatic group replaces, and its ratio. -/
def handleGroupRatio (autoGroup : Option String)
    (userGroup usingGroup : String) : String × Rat :=
  let usingGroup := autoGroup.getD usingGroup
  (usingGroup,
    (settings.groupGroupRatio userGroup usingGroup).getD (settings.getGroupRatio usingGroup))

/-- The request once its group ratio is known. -/
def RelayInfo.withGroupRatio (info : RelayInfo) (settings : GroupSettings)
    (autoGroup : Option String) (userGroup : String) : RelayInfo :=
  let group := handleGroupRatio settings autoGroup userGroup info.usingGroup
  { info with usingGroup := group.1, priceData := { info.priceData with groupRatio := group.2 } }

/-! ## Completion -/

def taskModelName (task : Task) : String :=
  match task.privateData.billingContext with
  | some context =>
    if context.originModelName ≠ "" then context.originModelName else task.properties.originModelName
  | none => task.properties.originModelName

def PriceData.otherRatioMultiplier (p : PriceData) : Rat :=
  p.otherRatios.foldl (fun m r => if 0 < r.2 ∧ r.2 ≠ 1 then m * r.2 else m) 1

/-- The group whose ratio applies at completion: that of the task, or else that of its user. -/
def taskRatioGroup (db : Database) (task : Task) : String :=
  if task.group ≠ "" then task.group
  else if task.userId = 0 then ""
  else match db.users.find? task.userId with
    | some user => if user.deleted then "" else user.group
    | none => ""

/-- What a completed task costs by its tokens, and the group ratio in it. -/
structure TokenQuota where
  groupRatio : Rat
  actualQuota : Int
  clamped : Bool

/-- **`CalculateTaskQuotaByTokens`**; `modelRatio` is `GetModelRatio`, `quotaOf` is
`QuotaFromFloatChecked`. -/
def calculateTaskQuotaByTokens (modelRatio : String → Rat × Bool)
    (quotaOf : Rat → Int × Bool) (db : Database) (task : Task) (totalTokens : Int) :
    Option TokenQuota :=
  if totalTokens ≤ 0 then none
  else
    let (ratio, known) := modelRatio (taskModelName task)
    if !known || ratio ≤ 0 then none
    else
      let group := taskRatioGroup db task
      if group = "" then none
      else
        let groupRatio := (settings.groupGroupRatio group group).getD (settings.getGroupRatio group)
        let multiplier := match task.privateData.billingContext with
          | some context =>
            PriceData.otherRatioMultiplier (PriceData.replaceOtherRatios
              ⟨false, 0, 0, 0, [], false, 0⟩ context.otherRatios)
          | none => 1
        let quota := quotaOf (totalTokens * ratio * groupRatio * multiplier)
        some ⟨groupRatio, quota.1, quota.2⟩

/-- A task from its submission to its completion, apart from the ratios of the groups. -/
structure TaskCourse where
  cfg : TaskSettings
  now : Int
  platform : TaskPlatform
  info : RelayInfo
  autoGroup : Option String
  userGroup : String
  modelRatio : String → Rat × Bool
  quotaOf : Rat → Int × Bool
  db : Database
  totalTokens : Int

namespace TaskCourse

variable (c : TaskCourse)

def usingGroup : String := c.autoGroup.getD c.info.usingGroup

/-- The task as it is persisted under given ratios. -/
def task (settings : GroupSettings) : Task :=
  preparedTask c.cfg c.now c.platform (c.info.withGroupRatio settings c.autoGroup c.userGroup)

/-- What it costs under the same ratios. -/
def quota (settings : GroupSettings) : Option TokenQuota :=
  calculateTaskQuotaByTokens settings c.modelRatio c.quotaOf c.db (c.task settings) c.totalTokens

/-- The group at completion, which is the same under all ratios. -/
def group : String :=
  taskRatioGroup c.db (c.task ⟨fun _ => none, fun _ _ => none⟩)

/-- The model whose ratio applies at completion. -/
def modelName : String := taskModelName (c.task ⟨fun _ => none, fun _ _ => none⟩)

/-- **The task is billed by its tokens**: there are some, its model has a ratio and its group is
known. -/
def ByTokens : Prop :=
  0 < c.totalTokens ∧ (c.modelRatio c.modelName).2 = true ∧ 0 < (c.modelRatio c.modelName).1 ∧
    c.group ≠ ""

theorem groupRatio_of_quota {c : TaskCourse} {settings : GroupSettings} {q : TokenQuota}
    (h : c.quota settings = some q) : q.groupRatio = settings.ratioFor c.group c.group := by
  unfold quota calculateTaskQuotaByTokens at h
  dsimp only at h
  split_ifs at h
  cases h
  rfl

theorem isSome_quota_iff (settings : GroupSettings) :
    (c.quota settings).isSome = true ↔ c.ByTokens := by
  have hquota : (c.quota settings).isSome = true ↔ ¬c.totalTokens ≤ 0 ∧
      ¬(!(c.modelRatio c.modelName).2 || (c.modelRatio c.modelName).1 ≤ 0) = true ∧ ¬c.group = "" := by
    unfold quota calculateTaskQuotaByTokens
    simp only [apply_ite isSome, isSome_none, isSome_some, Bool.ite_eq_true_distrib,
      Bool.false_eq_true, if_false_left, if_true_right]
    exact Iff.rfl
  rw [hquota, ByTokens]
  simp only [not_le, Bool.or_eq_true, Bool.not_eq_true', decide_eq_true_eq, not_or,
    Bool.not_eq_false, and_assoc, ne_eq]

/-- **Completion applies the ratio that the submission recorded** exactly if the two lookups agree,
that of the user's group for the group in use and that of the task's group for itself, or the task
is not billed by its tokens and has no ratio at completion. -/
theorem completion_ratio_iff (c : TaskCourse) (settings : GroupSettings) :
    ((c.quota settings).isSome = true ↔ c.ByTokens) ∧
    ((∀ q ∈ c.quota settings,
        (c.task settings).privateData.billingContext.map (·.groupRatio) = some q.groupRatio) ↔
      (c.ByTokens →
        settings.ratioFor c.userGroup c.usingGroup = settings.ratioFor c.group c.group)) := by
  refine ⟨c.isSome_quota_iff settings, ?_⟩
  have hrecorded : (c.task settings).privateData.billingContext.map (·.groupRatio) =
      some (settings.ratioFor c.userGroup c.usingGroup) := rfl
  rw [hrecorded, ← c.isSome_quota_iff settings]
  constructor
  · intro h hsome
    obtain ⟨q, hquota⟩ := isSome_iff_exists.mp hsome
    rw [← groupRatio_of_quota hquota]
    exact some.inj (h q hquota)
  · intro h q hquota
    rw [groupRatio_of_quota hquota, h (isSome_of_mem hquota)]

end TaskCourse

/-- A user of the group `vip` submits in the group `default`, for which `vip` pays half. -/
def sampleCourse : TaskCourse :=
  { cfg := sampleSettings, now := 2001, platform := .suno
    info := { sampleRelay.info with usingGroup := "default" }, autoGroup := none, userGroup := "vip"
    modelRatio := fun _ => (1, true), quotaOf := fun x => (x.floor, false), db := sampleDatabase
    totalTokens := 100 }

/-- **The task is submitted at half price and completed at full price.** -/
theorem special_ratio_lost :
    let settings : GroupSettings :=
      ⟨fun _ => some 1, fun a b => if a = "vip" ∧ b = "default" then some (1 / 2) else none⟩
    (sampleCourse.task settings).privateData.billingContext.map (·.groupRatio) = some (1 / 2) ∧
      (sampleCourse.quota settings).map (fun q => (q.groupRatio, q.actualQuota)) = some (1, 100) := by
  decide +kernel

/-! ## Prices of an attempt -/

/-- The prices of `ratio_setting`; `quotaOf` is `QuotaFromFloatChecked`. -/
structure PriceSettings where
  modelPrice : String → Option Rat
  defaultModelPrice : String → Option Rat
  modelRatio : String → Rat × Bool
  quotaPerUnit : Rat
  enableFreeModelPreConsume : Bool
  quotaOf : Rat → Int × Bool

/-- A price without other ratios; none if its quota is out of range. -/
def PriceSettings.perCall (prices : PriceSettings) (groupRatio modelPrice modelRatio : Rat)
    (usePrice : Bool) (amount : Rat) (free : Bool) : Option PriceData :=
  let quota := prices.quotaOf (amount * prices.quotaPerUnit * groupRatio)
  if quota.2 then none
  else
    let free := !prices.enableFreeModelPreConsume && (groupRatio = 0 || free)
    some { freeModel := free, modelPrice := modelPrice, modelRatio := modelRatio
           groupRatio := groupRatio, otherRatios := [], usePrice := usePrice
           quota := if free then 0 else quota.1 }

/-- **`ModelPriceHelperPerCall`**: a fixed price, or half the model ratio. -/
def modelPriceHelperPerCall (prices : PriceSettings) (groupRatio : Rat) (acceptUnsetRatio : Bool)
    (billingModel : String) : Option PriceData :=
  match (prices.modelPrice billingModel).or (prices.defaultModelPrice billingModel) with
  | some price => prices.perCall groupRatio price 0 true price (price = 0)
  | none =>
    let (ratio, known) := prices.modelRatio billingModel
    if !known && !acceptUnsetRatio then none
    else prices.perCall groupRatio (-1) ratio false (ratio / 2) (ratio = 0)

/-- An attempt whose price is that of the settings. -/
def Attempt.priced (att : Attempt) (prices : PriceSettings) (groupRatio : Rat)
    (acceptUnsetRatio : Bool) : Attempt :=
  { att with price := modelPriceHelperPerCall prices groupRatio acceptUnsetRatio }

/-- What `ResolveOriginTask` takes for a remix from the billing context of the origin. -/
def RelayInfo.remixOf (info : RelayInfo) (origin : TaskBillingContext) : RelayInfo :=
  { info with priceData := origin.otherRatios.foldl PriceData.addOtherRatio info.priceData }

/-- The keys for which an estimate has a valid ratio. -/
def estimatedKeys (estimate : List (String × Rat)) : List String :=
  (estimate.filter (0 < ·.2)).map Prod.fst

/-- The ratios of an attempt contain those of the origin, but for the keys of the estimate. -/
def KeepsRatios (origin : TaskBillingContext) (att : Attempt) (info : RelayInfo) : Prop :=
  ∀ r ∈ origin.otherRatios, r.1 ∉ estimatedKeys att.estimateBilling → r ∈ info.priceData.otherRatios

section

variable {cfg : TaskSettings} {prices : PriceSettings} {groupRatio : Rat} {accept : Bool}
  {att : Attempt} {info : RelayInfo} {p : PriceData}

theorem otherRatios_modelPriceHelper {model : String}
    (h : modelPriceHelperPerCall prices groupRatio accept model = some p) : p.otherRatios = [] := by
  unfold modelPriceHelperPerCall PriceSettings.perCall at h
  dsimp only at h
  split at h <;> split_ifs at h <;> cases h <;> rfl

theorem mem_foldl_addOtherRatio {r : String × Rat} {estimate : List (String × Rat)}
    (h : r ∈ (estimate.foldl PriceData.addOtherRatio p).otherRatios) :
    r ∈ p.otherRatios ∨ r.1 ∈ estimatedKeys estimate := by
  induction estimate generalizing p with
  | nil => exact .inl h
  | cons e rest ih =>
    rcases ih h with hadded | hrest
    · rw [PriceData.addOtherRatio] at hadded
      split_ifs at hadded with hvalid
      · rcases List.mem_cons.mp hadded with rfl | hold
        · exact .inr (by simp [estimatedKeys, hvalid])
        · exact .inl (List.mem_of_mem_filter hold)
      · exact .inl hadded
    · refine .inr ?_
      rw [estimatedKeys, List.filter_cons]
      split
      · exact List.mem_cons_of_mem _ hrest
      · exact hrest

theorem Attempt.otherRatios_describe (h : (att.describe cfg info).2 = none) :
    ∃ model p, att.price model = some p ∧ (att.describe cfg info).1.priceData.otherRatios =
      (att.estimateBilling.foldl PriceData.addOtherRatio p).otherRatios := by
  revert h
  unfold Attempt.describe
  dsimp only
  split
  · exact nofun
  split
  · exact nofun
  split
  · exact nofun
  split
  · exact nofun
  · next hprice =>
    refine fun _ => ⟨_, _, hprice, ?_⟩
    simp only [apply_ite Prod.fst, apply_ite RelayInfo.priceData, apply_ite PriceData.otherRatios,
      ite_self]

theorem otherRatios_foldl_congr {q : PriceData} (h : p.otherRatios = q.otherRatios)
    (estimate : List (String × Rat)) :
    (estimate.foldl PriceData.addOtherRatio p).otherRatios =
      (estimate.foldl PriceData.addOtherRatio q).otherRatios := by
  induction estimate generalizing p q with
  | nil => exact h
  | cons e rest ih =>
    refine ih ?_
    simp only [PriceData.addOtherRatio, apply_ite PriceData.otherRatios, h]

/-- **The ratios of an attempt are those of its estimate**: what the request carried before is
gone. -/
theorem keepsRatios_describe_iff {origin : TaskBillingContext}
    (h : ((att.priced prices groupRatio accept).describe cfg info).2 = none) :
    KeepsRatios origin att ((att.priced prices groupRatio accept).describe cfg info).1 ↔
      ∀ r ∈ origin.otherRatios, r.1 ∈ estimatedKeys att.estimateBilling := by
  obtain ⟨model, p, hprice, hratios⟩ := Attempt.otherRatios_describe h
  constructor
  · intro hkeeps r hr
    by_contra hnot
    have hmem := hkeeps r hr hnot
    rw [hratios] at hmem
    rcases mem_foldl_addOtherRatio hmem with hbase | hkey
    · rw [otherRatios_modelPriceHelper hprice] at hbase
      cases hbase
    · exact hnot hkey
  · exact fun hall r hr hnot => absurd (hall r hr) hnot

/-- **Attempts with equal estimates have equal ratios**, whatever the requests carried before. -/
theorem otherRatios_describe_congr {att' : Attempt} {info' : RelayInfo}
    (h : ((att.priced prices groupRatio accept).describe cfg info).2 = none)
    (h' : ((att'.priced prices groupRatio accept).describe cfg info').2 = none)
    (hsame : att'.estimateBilling = att.estimateBilling) :
    ((att'.priced prices groupRatio accept).describe cfg info').1.priceData.otherRatios =
      ((att.priced prices groupRatio accept).describe cfg info).1.priceData.otherRatios := by
  obtain ⟨_, p, hprice, hratios⟩ := Attempt.otherRatios_describe h
  obtain ⟨_, p', hprice', hratios'⟩ := Attempt.otherRatios_describe h'
  have hfresh : p'.otherRatios = p.otherRatios :=
    (otherRatios_modelPriceHelper hprice').trans (otherRatios_modelPriceHelper hprice).symm
  rw [hratios, hratios', ← otherRatios_foldl_congr hfresh]
  exact congrArg (fun e => (e.foldl PriceData.addOtherRatio p').otherRatios) hsame

end

/-- **A remix keeps the ratios of its origin** through two attempts, whatever was tried before and
between them, exactly if both estimates have a ratio for every key of the origin; and equal
estimates give equal ratios. -/
theorem remix_keeps_ratios_iff (cfg : TaskSettings) (cal : Calendar) (prices : PriceSettings)
    (groupRatio : Rat) (accept : Bool) (origin : TaskBillingContext) (db : Database)
    (info : RelayInfo) (tries between : List Attempt) (first second : Attempt) :
    let attempt (att : Attempt) (before : List Attempt) := (att.priced prices groupRatio accept).describe
      cfg (run (Relay.afterAttempt cfg cal) ⟨db, info.remixOf origin⟩ before).info
    let info₁ := attempt first tries
    let info₂ := attempt second (tries ++ first.priced prices groupRatio accept :: between)
    info₁.2 = none → info₂.2 = none →
      ((KeepsRatios origin first info₁.1 ∧ KeepsRatios origin second info₂.1) ↔
        (∀ r ∈ origin.otherRatios, r.1 ∈ estimatedKeys first.estimateBilling) ∧
          ∀ r ∈ origin.otherRatios, r.1 ∈ estimatedKeys second.estimateBilling) ∧
      (second.estimateBilling = first.estimateBilling →
        info₂.1.priceData.otherRatios = info₁.1.priceData.otherRatios) := by
  intro attempt info₁ info₂ h₁ h₂
  refine ⟨?_, otherRatios_describe_congr h₁ h₂⟩
  rw [keepsRatios_describe_iff h₁, keepsRatios_describe_iff h₂]

def samplePrices : PriceSettings :=
  { modelPrice := fun _ => some 1, defaultModelPrice := fun _ => none, modelRatio := fun _ => (0, false)
    quotaPerUnit := 30, enableFreeModelPreConsume := false, quotaOf := fun x => (x.floor, false) }

def sampleOrigin : TaskBillingContext :=
  { modelPrice := 1, groupRatio := 1, modelRatio := 0, otherRatios := [("seconds", 8)]
    originModelName := "video", perCallBilling := true }

/-- The sample attempt with an estimate of its own. -/
def estimating (estimate : List (String × Rat)) : Attempt :=
  { sampleAttempt 1 "k1" (.ok ("up_1", "accepted")) with estimateBilling := estimate }

/-- An estimate of the duration takes the place of the ratio of the origin. -/
theorem remix_keeps_ratios_estimated :
    KeepsRatios sampleOrigin (estimating [("seconds", 4)])
      ((((estimating [("seconds", 4)]).priced samplePrices 1 false).describe sampleSettings
        (sampleRelay.info.remixOf sampleOrigin)).1) := by
  have h := remix_keeps_ratios_iff sampleSettings sampleCalendar samplePrices 1 false sampleOrigin
    sampleDatabase sampleRelay.info [] [] (estimating [("seconds", 4)]) (estimating [("seconds", 4)])
    (by decide +kernel) (by decide +kernel)
  exact (h.1.mpr (by decide +kernel)).1

/-- **A remix without an estimate loses the ratio**: eight seconds are charged like one. -/
theorem remix_ratio_lost :
    let info := sampleRelay.info.remixOf sampleOrigin
    let described := ((estimating []).priced samplePrices 1 false).describe sampleSettings info
    info.priceData.otherRatios = [("seconds", 8)] ∧ described.2 = none ∧
      described.1.priceData.otherRatios = [] ∧ described.1.priceData.quota = 30 := by
  decide +kernel

end RenewApi.Billing
