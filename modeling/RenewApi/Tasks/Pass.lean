import RenewApi.Tasks.Writes
import Mathlib.Data.List.Induction
import Mathlib.Data.List.Sort

/-! # One polling pass

`RunTaskPollingLoop` for the unfinished tasks of one platform. The pass groups the upstream ids by
channel (`taskChannelM`) but looks tasks up by upstream id alone (`taskM`). -/

namespace RenewApi.Billing

open Relational List Function Bool

variable {id : String} {t task : Task} {adaptor : Option PollingAdaptor} {platform : TaskPlatform}
  {taskM : String → Option Task} {source : Int} {answer : PollAnswer} {tasks : List Task}
  {c now : Int} {cache : Table Channel} {order : List Int} {s : TaskSystem} {clock : Nat → Int}

/-- `GetAllUnFinishSyncTasks`: the rows the poller looks at, by id, at most `limit` of them. -/
def getAllUnFinishSyncTasks (limit : Nat) (db : Database) : List Task :=
  ((db.tasks.rows.filter Task.unfinished).insertionSort fun t u => t.id ≤ u.id).take limit

def platformTask (limit : Nat) (db : Database) (platform : TaskPlatform) : List Task :=
  (getAllUnFinishSyncTasks limit db).filter fun t => t.platform = platform

/-- `taskM`, `taskChannelM` and `nullTaskIds`. -/
structure PollIndex where
  taskM : String → Option Task
  taskChannelM : Int → List String
  nullTaskIds : List Int

/-- The maps before the loop. -/
def PollIndex.empty : PollIndex :=
  { taskM := fun _ => none, taskChannelM := fun _ => [], nullTaskIds := [] }

/-- The body of the loop over the tasks: a later task takes the place of an earlier one with the
same upstream id. -/
def PollIndex.add (ix : PollIndex) (task : Task) : PollIndex :=
  let upstreamID := task.getUpstreamTaskID
  if upstreamID = "" then { ix with nullTaskIds := ix.nullTaskIds ++ [task.id] }
  else { ix with
    taskM := Function.update ix.taskM upstreamID (some task)
    taskChannelM :=
      Function.update ix.taskChannelM task.channelId (ix.taskChannelM task.channelId ++ [upstreamID]) }

section

variable (tasks : List Task)

def indexTasks : PollIndex := tasks.foldl PollIndex.add PollIndex.empty

def lastWith (upstreamID : String) : Option Task :=
  (tasks.filter fun t => t.getUpstreamTaskID = upstreamID).getLast?

def askedIds (channelId : Int) : List String :=
  (tasks.filter fun t => t.channelId = channelId && t.getUpstreamTaskID ≠ "").map
    Task.getUpstreamTaskID

/-- **What the index holds**: the last task under each id, the ids of each channel, and the tasks
without any id. -/
theorem indexTasks_spec :
    (∀ id ≠ "", (indexTasks tasks).taskM id = lastWith tasks id) ∧
      (indexTasks tasks).taskM "" = none ∧
      (∀ c, (indexTasks tasks).taskChannelM c = askedIds tasks c) ∧
      (indexTasks tasks).nullTaskIds =
        (tasks.filter fun t => t.getUpstreamTaskID = "").map Task.id := by
  -- the loop runs from the left, so the induction takes tasks off the right
  induction tasks using reverseRecOn with
  | nil => exact ⟨fun _ _ => rfl, rfl, fun _ => rfl, rfl⟩
  | append_singleton tasks t ih =>
    obtain ⟨hmap, hempty, hchannels, hnulls⟩ := ih
    have hadd : indexTasks (tasks ++ [t]) = (indexTasks tasks).add t := foldl_concat ..
    rw [hadd, PollIndex.add]
    split_ifs with hnull
    · refine ⟨fun id hid => ?_, hempty, fun c => ?_, ?_⟩
      · have hne : t.getUpstreamTaskID ≠ id := by rw [hnull]; exact Ne.symm hid
        simpa [hne, lastWith] using hmap id hid
      · rw [askedIds, filter_append]
        simpa [hnull, askedIds] using hchannels c
      · simp [hnulls, hnull]
    · refine ⟨fun id hid => ?_, ?_, fun c => ?_, ?_⟩
      · show update (indexTasks tasks).taskM _ _ id = _
        rw [lastWith, filter_append]
        by_cases hsame : id = t.getUpstreamTaskID
        · subst hsame
          simp
        · rw [update_of_ne hsame, hmap id hid]
          simp [Ne.symm hsame, lastWith]
      · show update (indexTasks tasks).taskM _ _ "" = none
        rw [update_of_ne (Ne.symm hnull)]
        exact hempty
      · show update (indexTasks tasks).taskChannelM _ _ c = _
        by_cases hsame : c = t.channelId
        · subst hsame
          rw [update_self, hchannels]
          simp [hnull, askedIds]
        · rw [update_of_ne hsame, hchannels]
          simp [Ne.symm hsame, askedIds]
      · simp [hnulls, hnull]

end

theorem mem_of_taskM (h : (indexTasks tasks).taskM id = some t) : t ∈ tasks := by
  obtain ⟨hmap, hempty, -⟩ := indexTasks_spec tasks
  by_cases hid : id = ""
  · rw [hid, hempty] at h
    cases h
  · rw [hmap id hid] at h
    exact (mem_filter.mp (mem_of_getLast? h)).1

theorem taskM_of_asked (h : id ∈ askedIds tasks c) :
    ∃ t, (indexTasks tasks).taskM id = some t := by
  obtain ⟨s, hs, rfl⟩ := mem_map.mp h
  obtain ⟨hmem, hp⟩ := mem_filter.mp hs
  have hne : s.getUpstreamTaskID ≠ "" := by
    simp only [ne_eq, decide_not, and_eq_true, decide_eq_true_eq, not_eq_true',
      decide_eq_false_iff_not] at hp
    exact hp.2
  rw [(indexTasks_spec tasks).1 _ hne, lastWith]
  exact Option.isSome_iff_exists.mp (getLast?_isSome.mpr
    (ne_nil_of_mem (mem_filter.mpr ⟨hmem, by simp⟩)))

/-! ## The pass -/

/-- What the upstreams answer during a pass. -/
structure Upstream where
  /-- The items that a Suno channel answers; `none` when the request fails. -/
  suno : Int → Option (List SunoDataResponse)
  /-- The body that a video channel answers to its request with a given number. -/
  video : Int → Nat → Option String

/-- A nil pointer that is followed. -/
inductive PassFault
  /-- `taskM[responseItem.TaskID]` of an id that is not in the map. -/
  | nilTask (id : String)
  /-- `*ch.BaseURL` of a channel without one. -/
  | nilBaseURL (channelId : Int)
  /-- `errorResult.TryToOpenAIError()` of a body `null`. -/
  | nilError (id : String)
  deriving DecidableEq

/-- What the pass does next. -/
inductive PassStep
  /-- An answer fetched from the channel `source` is handed to the task under `key`. -/
  | poll (source : Int) (key : String) (answer : PollAnswer)
  /-- The channel `source` cannot be loaded: the tasks found for it fail. -/
  | fail (source : Int) (tasks : List Task) (reason : String)
  | fault (f : PassFault)

section

variable (cache : Table Channel) (adaptor : Option PollingAdaptor) (upstream : Upstream)
  (taskM : String → Option Task) (channelId : Int) (taskIds : List String)

/-- **`updateSunoTasks`**: one request for all ids of the channel, one step for each item of the
answer. -/
def updateSunoTasks : List PassStep :=
  if taskIds = [] then []
  else match cache.find? channelId with
    | none => [.fail channelId (taskIds.filterMap taskM)
        ("获取渠道信息失败，请联系管理员，渠道ID：" ++ toString channelId)]
    | some ch =>
      if adaptor.isNone then []
      else match ch.baseURL, upstream.suno channelId with
        | none, _ => [.fault (.nilBaseURL channelId)]
        | some _, none => []
        | some _, some items => items.map fun item =>
          match taskM item.taskID with
          | none => .fault (.nilTask item.taskID)
          | some _ => .poll channelId item.taskID (.suno item)

/-- **`updateVideoTasks`**: one request for each id of the channel. -/
def updateVideoTasks : List PassStep :=
  if taskIds = [] then []
  else match cache.find? channelId with
    | none => [.fail channelId (taskIds.filterMap taskM)
        ("Failed to get channel info, channel ID: " ++ toString channelId)]
    | some _ => match adaptor with
      | none => []
      | some a => taskIds.zipIdx.filterMap fun (taskId, i) =>
        (upstream.video channelId i).map fun body =>
          if a.nilError body then .fault (.nilError taskId) else .poll channelId taskId (.video body)

/-- `DispatchPlatformUpdate` for one channel. Midjourney tasks are polled elsewhere. -/
def dispatchPlatformUpdate :
    TaskPlatform → List PassStep
  | .midjourney => []
  | .suno => updateSunoTasks cache adaptor upstream taskM channelId taskIds
  | .channelType _ => updateVideoTasks cache adaptor upstream taskM channelId taskIds

end

/-- A write that the pass issues for a task on behalf of a channel: a transition fetched from
`source`, or the failure to load it. -/
structure PassWrite where
  source : Int
  task : Task

/-- **The system while a pass runs.** -/
structure Pass where
  system : TaskSystem
  taskM : String → Option Task
  writes : List PassWrite
  fault : Option PassFault
  ticks : Nat

/-- One step of a pass; after a fault there are none. -/
def Pass.step (adaptor : Option PollingAdaptor) (clock : Nat → Int) (p : Pass) (step : PassStep) : Pass :=
  if p.fault.isSome then p
  else
    let now := clock p.ticks
    match step with
    | .fault f => { p with fault := some f }
    | .fail source tasks reason => { p with
        system := { p.system with
          db := taskBulkUpdateByID now (tasks.map Task.id) (some reason) p.system.db }
        writes := p.writes ++ tasks.map (PassWrite.mk source), ticks := p.ticks + 1 }
    | .poll source key answer =>
      match adaptor, p.taskM key with
      | some a, some task =>
        let (task', decision) := answer.apply a now p.system.db task
        let system := p.system.carryOut now task' decision
        { p with
          system := system, taskM := Function.update p.taskM key system.copies.head?
          writes := if decision = .nothing then p.writes else p.writes ++ [⟨source, task⟩]
          ticks := p.ticks + 1 }
      | _, _ => p

section

variable (cache : Table Channel) (adaptor : Option PollingAdaptor)

/-- The steps of a pass over `tasks` that visits the channels in the given order. -/
def passSteps (platform : TaskPlatform)
    (tasks : List Task) (order : List Int) (upstream : Upstream) : List PassStep :=
  let ix := indexTasks tasks
  order.flatMap fun c =>
    dispatchPlatformUpdate cache adaptor upstream ix.taskM c (ix.taskChannelM c) platform

/-- The pass before its first channel: tasks without any id have failed. -/
def Pass.start (now : Int) (tasks : List Task) (s : TaskSystem) : Pass :=
  let ix := indexTasks tasks
  { system :=
      if ix.nullTaskIds = [] then s
      else { s with db := taskBulkUpdateByID now ix.nullTaskIds none s.db }
    taskM := ix.taskM, writes := [], fault := none, ticks := 0 }

/-- **One polling pass** over the tasks of one platform. -/
def pollPlatform (clock : Nat → Int) (platform : TaskPlatform) (tasks : List Task)
    (order : List Int) (upstream : Upstream) (now : Int) (s : TaskSystem) : Pass :=
  run (Pass.step adaptor clock) (Pass.start now tasks s)
    (passSteps cache adaptor platform tasks order upstream)

end

/-- **Poll results stay with their own task**: the pass does not fault and writes nothing to a task
on behalf of a channel other than its own. -/
def Pass.Safe (p : Pass) : Prop :=
  p.fault = none ∧ ∀ w ∈ p.writes, w.task.channelId = w.source

/-! ## What a visit can do -/

variable {step : PassStep} {u : Upstream} {asked : List String}

theorem mem_passSteps :
    step ∈ passSteps cache adaptor platform tasks order u ↔ ∃ c ∈ order,
      step ∈ dispatchPlatformUpdate cache adaptor u (indexTasks tasks).taskM c (askedIds tasks c)
        platform := by
  simp only [passSteps, mem_flatMap, (indexTasks_spec tasks).2.2.1]

/-- The adaptor does not survive an answer. -/
def nilAnswer (adaptor : Option PollingAdaptor) (answer : Option String) : Bool :=
  adaptor.any fun a => answer.any a.nilError

/-- **What the visit of a channel can do.** -/
inductive VisitStep (cache : Table Channel) (adaptor : Option PollingAdaptor) (u : Upstream)
    (taskM : String → Option Task) (c : Int) (asked : List String) : TaskPlatform → PassStep → Prop
  | unloaded {platform : TaskPlatform} (reason : String) (hchannel : cache.find? c = none) :
      VisitStep cache adaptor u taskM c asked platform (.fail c (asked.filterMap taskM) reason)
  | noBaseURL {ch} (hchannel : cache.find? c = some ch) (hurl : ch.baseURL = none) :
      VisitStep cache adaptor u taskM c asked .suno (.fault (.nilBaseURL c))
  | unknown {ch items item} (hchannel : cache.find? c = some ch)
      (hitems : u.suno c = some items) (hitem : item ∈ items) (hfind : taskM item.taskID = none) :
      VisitStep cache adaptor u taskM c asked .suno (.fault (.nilTask item.taskID))
  | item {ch items item} (hchannel : cache.find? c = some ch) (hitems : u.suno c = some items)
      (hitem : item ∈ items) :
      VisitStep cache adaptor u taskM c asked .suno (.poll c item.taskID (.suno item))
  | nilError {ch raw id i} (hchannel : cache.find? c = some ch)
      (hasked : (id, i) ∈ asked.zipIdx) (hnil : nilAnswer adaptor (u.video c i) = true) :
      VisitStep cache adaptor u taskM c asked (.channelType raw) (.fault (.nilError id))
  | body {ch raw id body i} (hchannel : cache.find? c = some ch)
      (hasked : (id, i) ∈ asked.zipIdx) (hbody : u.video c i = some body) :
      VisitStep cache adaptor u taskM c asked (.channelType raw) (.poll c id (.video body))

/-- A visit asks for something and does nothing else. -/
theorem visitStep_of_mem
    (h : step ∈ dispatchPlatformUpdate cache adaptor u taskM c asked platform) :
    platform ≠ .midjourney ∧ asked ≠ [] ∧ VisitStep cache adaptor u taskM c asked platform step := by
  cases platform with
  | midjourney => cases h
  | suno =>
    refine ⟨by decide, ?_⟩
    rw [dispatchPlatformUpdate, updateSunoTasks] at h
    split at h
    · cases h
    · next hasked =>
      refine ⟨hasked, ?_⟩
      split at h
      · next hchannel =>
        obtain rfl := mem_singleton.mp h
        exact .unloaded _ hchannel
      · next ch hchannel =>
        split at h
        · cases h
        · split at h
          · next hurl =>
            obtain rfl := mem_singleton.mp h
            exact .noBaseURL hchannel hurl
          · cases h
          · next items hurl hitems =>
            obtain ⟨item, hitem, rfl⟩ := mem_map.mp h
            split
            · next hfind => exact .unknown hchannel hitems hitem hfind
            · exact .item hchannel hitems hitem
  | channelType raw =>
    refine ⟨by simp, ?_⟩
    rw [dispatchPlatformUpdate, updateVideoTasks.eq_def] at h
    split at h
    · cases h
    · next hasked =>
      refine ⟨hasked, ?_⟩
      split at h
      · next hchannel =>
        obtain rfl := mem_singleton.mp h
        exact .unloaded _ hchannel
      · next ch hchannel =>
        split at h
        · cases h
        · obtain ⟨⟨id, i⟩, hid, hbody⟩ := mem_filterMap.mp h
          obtain ⟨body, hvideo, rfl⟩ := Option.map_eq_some_iff.mp hbody
          split
          · next hnil => exact .nilError hchannel hid (by simp [nilAnswer, hvideo, hnil])
          · exact .body hchannel hid hvideo

/-! ## A pass is a run of the system -/

/-- The system holds the copies that the pass works on. -/
def Pass.Held (tasks : List Task) (p : Pass) : Prop :=
  (∀ t ∈ tasks, t ∈ p.system.copies) ∧ ∀ key t, p.taskM key = some t → t ∈ p.system.copies

/-- The events of a polling pass. -/
def TaskEvent.ofPoller : TaskEvent → Bool
  | .poll _ (.video _) | .poll _ (.suno _) | .bulkFail .. => true
  | _ => false

/-- The step hands over an answer of the poller, or fails tasks of the pass. -/
def PassStep.OfPoller (tasks : List Task) : PassStep → Prop
  | .poll _ _ answer => ∀ t, (TaskEvent.poll t answer).ofPoller
  | .fail _ failed _ => ∀ t ∈ failed, t ∈ tasks
  | .fault _ => True

variable (cal : Calendar) {a : PollingAdaptor} {p : Pass}

section

variable (clock : Nat → Int) (hadaptor : ∀ b, adaptor = some b → b = a)
include hadaptor

/-- **A step of a pass is no event or one event of the system.** -/
theorem Pass.exists_run_step (h : p.Held tasks) (hstep : step.OfPoller tasks) :
    (p.step adaptor clock step).Held tasks ∧
      ∃ es, (∀ e ∈ es, e.event.ofPoller) ∧
        (p.step adaptor clock step).system = run (TaskSystem.step cal a) p.system es := by
  obtain ⟨hlisted, hindexed⟩ := h
  unfold Pass.step
  split
  · exact ⟨⟨hlisted, hindexed⟩, [], forall_mem_nil _, rfl⟩
  · cases step with
    | fault f => exact ⟨⟨hlisted, hindexed⟩, [], forall_mem_nil _, rfl⟩
    | fail source failed reason =>
      refine ⟨⟨hlisted, hindexed⟩, [⟨clock p.ticks, .bulkFail failed (some reason)⟩],
        forall_mem_singleton.mpr rfl, ?_⟩
      have hheld : ∀ t ∈ failed, t ∈ p.system.copies := fun t ht =>
        hlisted t (hstep t ht)
      exact (if_pos hheld).symm
    | poll source key answer =>
      cases adaptor with
      | none => exact ⟨⟨hlisted, hindexed⟩, [], forall_mem_nil _, rfl⟩
      | some b =>
        obtain rfl := hadaptor b rfl
        cases hfind : p.taskM key with
        | none => simp only [hfind]; exact ⟨⟨hlisted, hindexed⟩, [], forall_mem_nil _, rfl⟩
        | some task =>
          simp only [hfind]
          have hkeep : ∀ now task' decision, ∀ t ∈ p.system.copies,
              t ∈ (p.system.carryOut now task' decision).copies :=
            fun _ _ decision _ ht => by cases decision <;> exact mem_cons_of_mem _ ht
          refine ⟨⟨fun t ht => hkeep _ _ _ t (hlisted t ht), fun k t hk => ?_⟩,
            [⟨clock p.ticks, .poll task answer⟩], forall_mem_singleton.mpr (hstep task), ?_⟩
          · by_cases hsame : k = key
            · subst hsame
              dsimp only at hk
              rw [update_self] at hk
              exact mem_of_mem_head? hk
            · dsimp only at hk
              rw [update_of_ne hsame] at hk
              exact hkeep _ _ _ t (hindexed k t hk)
          · exact (if_pos (hindexed key task hfind)).symm

theorem Pass.exists_run {steps : List PassStep} (hsteps : ∀ step ∈ steps, step.OfPoller tasks)
    (h : p.Held tasks) :
    ∃ es, (∀ e ∈ es, e.event.ofPoller) ∧
      (run (Pass.step adaptor clock) p steps).system = run (TaskSystem.step cal a) p.system es := by
  induction steps generalizing p with
  | nil => exact ⟨[], forall_mem_nil _, rfl⟩
  | cons step steps ih =>
    obtain ⟨hstep, hrest⟩ := forall_mem_cons.mp hsteps
    obtain ⟨hheld, es, hp, hes⟩ := Pass.exists_run_step cal clock hadaptor h hstep
    obtain ⟨es', hp', hes'⟩ := ih hrest hheld
    exact ⟨es ++ es', forall_mem_append.mpr ⟨hp, hp'⟩, by rw [run_cons, hes', hes, run_append]⟩

end

/-- **A pass is a run of the system** with events of the poller only, so what holds of all runs holds
of a pass. -/
theorem pollPlatform_isRun (cache : Table Channel) (clock : Nat → Int) (platform : TaskPlatform)
    (tasks : List Task) (order : List Int) (u : Upstream) (now : Int) (s : TaskSystem)
    (hadaptor : ∀ b, adaptor = some b → b = a) (hheld : ∀ t ∈ tasks, t ∈ s.copies) :
    ∃ es, (∀ e ∈ es, e.event.ofPoller) ∧
      (pollPlatform cache adaptor clock platform tasks order u now s).system
        = run (TaskSystem.step cal a) s es := by
  have hstart : (Pass.start now tasks s).system.copies = s.copies ∧ ∃ es,
      (∀ e ∈ es, e.event.ofPoller) ∧
        (Pass.start now tasks s).system = run (TaskSystem.step cal a) s es := by
    by_cases hnull : (indexTasks tasks).nullTaskIds = []
    · have hsystem : (Pass.start now tasks s).system = s := if_pos hnull
      exact ⟨congrArg _ hsystem, [], forall_mem_nil _, hsystem⟩
    · have hsystem : (Pass.start now tasks s).system =
          { s with db := taskBulkUpdateByID now (indexTasks tasks).nullTaskIds none s.db } := if_neg hnull
      refine ⟨by rw [hsystem],
        [⟨now, .bulkFail (tasks.filter fun t => t.getUpstreamTaskID = "") none⟩],
        forall_mem_singleton.mpr rfl, ?_⟩
      rw [hsystem, (indexTasks_spec tasks).2.2.2]
      exact (if_pos fun t ht => hheld t (mem_of_mem_filter ht)).symm
  have hsteps : ∀ step ∈ passSteps cache adaptor platform tasks order u, step.OfPoller tasks := by
    intro step hmem
    obtain ⟨c, -, hvisit⟩ := mem_passSteps.mp hmem
    cases (visitStep_of_mem hvisit).2.2 with
    | unloaded =>
      intro t ht
      obtain ⟨id, -, hfind⟩ := mem_filterMap.mp ht
      exact mem_of_taskM hfind
    | noBaseURL | unknown | nilError => trivial
    | item | body => exact fun _ => rfl
  obtain ⟨hcopies, es, hp, hes⟩ := hstart
  rw [← hcopies] at hheld
  obtain ⟨es', hp', hes'⟩ := Pass.exists_run cal clock hadaptor hsteps
    ⟨hheld, fun key t hfind => hheld t (mem_of_taskM hfind)⟩
  exact ⟨es ++ es', forall_mem_append.mpr ⟨hp, hp'⟩, by rw [pollPlatform, hes', hes, run_append]⟩

/-- A pass over a task that the poller holds. -/
theorem pollPlatform_isRun_sample :
    let s : TaskSystem := ⟨sampleDatabase, [acceptedTask], []⟩
    ∃ es, (∀ e ∈ es, e.event.ofPoller) ∧
      (pollPlatform sampleDatabase.channels (some sampleAdaptor) (fun _ => 2020) (.channelType "24")
        [acceptedTask] [1] ⟨fun _ => none, fun _ _ => some "done"⟩ 2020 s).system
        = run (TaskSystem.step sampleCalendar sampleAdaptor) s es :=
  pollPlatform_isRun sampleCalendar _ _ _ _ _ _ _ _ (fun _ h => (Option.some.inj h).symm) (by simp)

/-! ## Steps that stay with their own task -/

def PassStep.own (taskM : String → Option Task) : PassStep → Prop
  | .poll source key _ => ∀ t, taskM key = some t → t.channelId = source
  | .fail source tasks _ => ∀ t ∈ tasks, t.channelId = source
  | .fault _ => False

/-- A task in memory has the channel of the task that the index held under its key. -/
def Pass.Anchored (taskM : String → Option Task) (p : Pass) : Prop :=
  ∀ key t, p.taskM key = some t → ∃ t₀, taskM key = some t₀ ∧ t₀.channelId = t.channelId

theorem channel_carryOut {decision : PollDecision}
    (h : (s.carryOut now task decision).copies.head? = some t) : t.channelId = task.channelId := by
  cases decision with
  | nothing | update => exact congrArg Task.channelId (Option.some.inj h).symm
  | finalize fromStatus quota reason =>
    rw [← Option.some.inj h]
    exact (copiedTo_finalizeTaskBillingTransition now task fromStatus quota reason s.db).channel

variable {p : Pass}

/-- **A step that concerns its own channel keeps the pass safe.** -/
theorem Pass.safe_step (hown : step.own taskM) (h : p.Safe ∧ p.Anchored taskM) :
    (p.step adaptor clock step).Safe ∧ (p.step adaptor clock step).Anchored taskM := by
  obtain ⟨⟨hfault, hwrites⟩, hanchored⟩ := h
  unfold Pass.step
  rw [if_neg (by rw [hfault]; decide)]
  cases step with
  | fault f => exact hown.elim
  | fail =>
    refine ⟨⟨hfault, fun w hw => ?_⟩, hanchored⟩
    rcases mem_append.mp hw with hold | hnew
    · exact hwrites w hold
    · obtain ⟨t, ht, rfl⟩ := mem_map.mp hnew
      exact hown t ht
  | poll source key answer =>
    cases adaptor with
    | none => exact ⟨⟨hfault, hwrites⟩, hanchored⟩
    | some a =>
      cases hfind : p.taskM key with
      | none => simp only [hfind]; exact ⟨⟨hfault, hwrites⟩, hanchored⟩
      | some task =>
        simp only [hfind]
        obtain ⟨t₀, ht₀, hchannel₀⟩ := hanchored key task hfind
        refine ⟨⟨hfault, fun w hw => ?_⟩, fun k t hk => ?_⟩
        · split at hw
          · exact hwrites w hw
          · rcases mem_append.mp hw with hold | hnew
            · exact hwrites w hold
            · obtain rfl := mem_singleton.mp hnew
              exact hchannel₀.symm.trans (hown t₀ ht₀)
        · by_cases hsame : k = key
          · subst hsame
            dsimp only at hk
            rw [update_self] at hk
            have hspec := answer.apply_spec a (clock p.ticks) p.system.db task
            exact ⟨t₀, ht₀, hchannel₀.trans
              ((channel_carryOut hk).trans hspec.channel).symm⟩
          · dsimp only at hk
            rw [update_of_ne hsame] at hk
            exact hanchored k t hk

/-- **A pass whose steps concern their own channel is safe.** -/
theorem safe_of_own {upstream : Upstream}
    (h : ∀ step ∈ passSteps cache adaptor platform tasks order upstream,
      step.own (indexTasks tasks).taskM) :
    (pollPlatform cache adaptor clock platform tasks order upstream now s).Safe := by
  have hstart : (Pass.start now tasks s).Safe ∧
      (Pass.start now tasks s).Anchored (indexTasks tasks).taskM :=
    ⟨⟨rfl, fun w hw => absurd hw not_mem_nil⟩, fun _ t ht => ⟨t, ht, rfl⟩⟩
  exact (run_invariant (C := fun _ step => PassStep.own (indexTasks tasks).taskM step)
    (I := fun p : Pass => p.Safe ∧ p.Anchored (indexTasks tasks).taskM)
    (fun _ _ hC hI => Pass.safe_step hC hI) (along_of_forall (fun step hstep _ => h step hstep) _)
    hstart).1

/-! ## Steps that do not -/

/-- **A pass that is unsafe stays unsafe**: faults and writes are not taken back. -/
theorem Pass.unsafe_step (step : PassStep) (h : ¬ p.Safe) : ¬ (p.step adaptor clock step).Safe := by
  unfold Pass.step
  split_ifs with hfault
  · exact h
  have hnone : p.fault = none := by simpa using hfault
  obtain ⟨w, hw, hforeign⟩ : ∃ w ∈ p.writes, w.task.channelId ≠ w.source := by
    by_contra hall
    push Not at hall
    exact h ⟨hnone, hall⟩
  cases step with
  | fault f => exact fun hsafe => nomatch hsafe.1
  | fail => exact fun hsafe => hforeign (hsafe.2 w (mem_append_left _ hw))
  | poll _ key =>
    cases adaptor with
    | none => exact h
    | some a =>
      cases hfind : p.taskM key with
      | none => simp only [hfind]; exact h
      | some task =>
        simp only [hfind]
        refine fun hsafe => hforeign (hsafe.2 w ?_)
        split
        · exact hw
        · exact mem_append_left _ hw

theorem Pass.unsafe_run (steps : List PassStep) (h : ¬ p.Safe) :
    ¬ (run (Pass.step adaptor clock) p steps).Safe :=
  run_invariant_all (I := fun q : Pass => ¬ q.Safe) (fun _ step hq => Pass.unsafe_step step hq) steps h

variable {reason : String} {a : PollingAdaptor} {steps : List PassStep} {key : String}
  {ch : Channel}

theorem unsafe_of_mem (hmem : step ∈ steps) (h : ∀ q : Pass, ¬ (q.step adaptor clock step).Safe) :
    ¬ (run (Pass.step adaptor clock) p steps).Safe := by
  obtain ⟨pre, post, rfl⟩ := append_of_mem hmem
  rw [run_append]
  exact Pass.unsafe_run post (h _)

theorem Pass.running_of_safe (h : (p.step adaptor clock step).Safe) : ¬ p.fault.isSome := by
  intro hfault
  rw [Pass.step, if_pos hfault] at h
  rw [h.1] at hfault
  cases hfault

theorem unsafe_fault (f : PassFault) (p : Pass) : ¬ (p.step adaptor clock (.fault f)).Safe := by
  intro hsafe
  have hrunning := Pass.running_of_safe hsafe
  rw [Pass.step, if_neg hrunning] at hsafe
  exact nomatch hsafe.1

theorem unsafe_fail (ht : t ∈ tasks) (hforeign : t.channelId ≠ source) (p : Pass) :
    ¬ (p.step adaptor clock (.fail source tasks reason)).Safe := by
  intro hsafe
  have hrunning := Pass.running_of_safe hsafe
  rw [Pass.step, if_neg hrunning] at hsafe
  exact hforeign (hsafe.2 ⟨source, t⟩ (mem_append_right _ (mem_map.mpr ⟨t, ht, rfl⟩)))

theorem unsafe_poll (hfind : p.taskM key = some t) (hforeign : t.channelId ≠ source)
    (hwrites : ∀ now db, (answer.apply a now db t).2 ≠ .nothing) :
    ¬ (p.step (some a) clock (.poll source key answer)).Safe := by
  intro hsafe
  have hrunning := Pass.running_of_safe hsafe
  rw [Pass.step, if_neg hrunning] at hsafe
  simp only [hfind] at hsafe
  refine hforeign (hsafe.2 ⟨source, t⟩ ?_)
  rw [if_neg (hwrites _ _)]
  exact mem_append_right _ (mem_singleton.mpr rfl)

/-- A step that leaves the tasks of the index as they are. -/
def PassStep.idle (a : PollingAdaptor) (taskM : String → Option Task) : PassStep → Prop
  | .poll _ key answer =>
    ∀ t, taskM key = some t → ∀ now db, answer.apply a now db t = (t, .nothing)
  | .fail _ _ _ | .fault _ => True

/-- **One effective step makes a pass unsafe**: when the other steps leave the index alone, an
answer that would change a task of another channel gets to see it. -/
theorem unsafe_of_effective (hstart : p.taskM = taskM) (hmem : .poll source key answer ∈ steps)
    (hidle : ∀ step ∈ steps, step = .poll source key answer ∨ step.idle a taskM)
    (hfind : taskM key = some t) (hforeign : t.channelId ≠ source)
    (hwrites : ∀ now db, (answer.apply a now db t).2 ≠ .nothing) :
    ¬ (run (Pass.step (some a) clock) p steps).Safe := by
  obtain ⟨pre, post, rfl, hfirst⟩ := eq_append_cons_of_mem hmem
  rw [run_append, run_cons]
  refine Pass.unsafe_run post (unsafe_poll ?_ hforeign hwrites)
  have hkeep : (run (Pass.step (some a) clock) p pre).taskM = taskM := by
    refine run_invariant (C := fun _ step => PassStep.idle a taskM step)
      (I := fun q : Pass => q.taskM = taskM) (fun q step hC hI => ?_)
      (along_of_forall (fun step hstep _ => ?_) p) hstart
    · unfold Pass.step
      split
      · exact hI
      · cases step with
        | fault f => exact hI
        | fail => exact hI
        | poll _ key =>
          cases hq : q.taskM key with
          | none => simp only [hq]; exact hI
          | some task =>
            simp only [hq]
            have happly := hC task (hI ▸ hq) (clock q.ticks) q.system.db
            rw [happly]
            show update q.taskM key (some task) = taskM
            rw [← hq, update_eq_self]
            exact hI
    · rcases hidle step (mem_append_left _ hstep) with rfl | hstep'
      · exact absurd hstep hfirst
      · exact hstep'
  rw [hkeep]
  exact hfind

/-! ## Which channel a task belongs to -/

def ownedBy (tasks : List Task) (channelId : Int) (upstreamID : String) : Bool :=
  upstreamID ≠ "" && (lastWith tasks upstreamID).any (·.channelId = channelId)

theorem ownedBy_iff :
    ownedBy tasks c id = true ↔ ∃ t, (indexTasks tasks).taskM id = some t ∧ t.channelId = c := by
  obtain ⟨hmap, hempty, -⟩ := indexTasks_spec tasks
  by_cases hid : id = ""
  · subst hid
    simp [ownedBy, hempty]
  · rw [hmap id hid]
    simp [ownedBy, hid, Option.any_eq_true]

theorem ownedBy_iff_of_find (hfind : (indexTasks tasks).taskM id = some t) :
    ownedBy tasks c id = true ↔ t.channelId = c := by
  simp [ownedBy_iff, hfind]

def Upstream.answeredIds (u : Upstream) (channelId : Int) (asked : List String) :
    TaskPlatform → List String
  | .midjourney => []
  | .suno => ((u.suno channelId).getD []).map SunoDataResponse.taskID
  | .channelType _ => (asked.zipIdx.filter fun q => (u.video channelId q.2).isSome).map Prod.fst

/-- The same ids are answered; what is said about them may differ. -/
def Upstream.sameIds (u' u : Upstream) : Prop :=
  (∀ c, (u'.suno c).map (List.map SunoDataResponse.taskID)
    = (u.suno c).map (List.map SunoDataResponse.taskID)) ∧
  ∀ c i, (u'.video c i).isSome = (u.video c i).isSome

theorem answeredIds_of_sameIds {u' : Upstream} (h : u'.sameIds u) (c : Int) (asked : List String)
    (platform : TaskPlatform) :
    u'.answeredIds c asked platform = u.answeredIds c asked platform := by
  cases platform with
  | midjourney => rfl
  | suno =>
    have hc := h.1 c
    rw [Upstream.answeredIds, Upstream.answeredIds]
    cases hu' : u'.suno c <;> cases hu : u.suno c <;> rw [hu', hu] at hc <;> simp_all
  | channelType raw => simp only [Upstream.answeredIds, h.2]

section

variable (cache : Table Channel) (platform : TaskPlatform) (tasks : List Task)

/-- A Suno channel has a base URL; a video channel answers no request with a body that the adaptor
does not survive. -/
def survives (adaptor : Option PollingAdaptor) (u : Upstream) (ch : Channel) (channelId : Int) : Bool :=
  if platform = .suno then ch.baseURL.isSome
  else (range (askedIds tasks channelId).length).all fun i => !nilAnswer adaptor (u.video channelId i)

/-- **A visit of a channel concerns its own tasks**: one that cannot be loaded owns every id it
would be asked for; one that can owns every id it answers and is survived. -/
def visitOwn (adaptor : Option PollingAdaptor) (u : Upstream) (channelId : Int) : Bool :=
  match cache.find? channelId with
  | none => (askedIds tasks channelId).all (ownedBy tasks channelId)
  | some ch => survives platform tasks adaptor u ch channelId &&
      (u.answeredIds channelId (askedIds tasks channelId) platform).all (ownedBy tasks channelId)

/-- **Every visit of a pass concerns the tasks of its channel.** -/
def Attributable (order : List Int) (adaptor : Option PollingAdaptor) (u : Upstream) : Prop :=
  platform ≠ .midjourney → ∀ c ∈ order, askedIds tasks c ≠ [] →
    visitOwn cache platform tasks adaptor u c = true
  deriving Decidable

end

theorem own_of_visitOwn (h : visitOwn cache platform tasks adaptor u c = true)
    (hstep : VisitStep cache adaptor u (indexTasks tasks).taskM c (askedIds tasks c) platform step) :
    step.own (indexTasks tasks).taskM := by
  rw [visitOwn] at h
  cases hstep with
  | unloaded reason hchannel =>
    rw [hchannel] at h
    intro t ht
    obtain ⟨id, hid, hfind⟩ := mem_filterMap.mp ht
    exact (ownedBy_iff_of_find hfind).mp (all_eq_true.mp h id hid)
  | noBaseURL hchannel hurl => simp [hchannel, survives, hurl] at h
  | unknown hchannel hitems hitem hfind =>
    simp only [hchannel, Upstream.answeredIds, hitems, and_eq_true] at h
    obtain ⟨t, hfound, -⟩ := ownedBy_iff.mp
      (all_eq_true.mp h.2 _ (mem_map.mpr ⟨_, hitem, rfl⟩))
    rw [hfind] at hfound
    cases hfound
  | item hchannel hitems hitem =>
    simp only [hchannel, Upstream.answeredIds, hitems, and_eq_true] at h
    exact fun t hfind => (ownedBy_iff_of_find hfind).mp
      (all_eq_true.mp h.2 _ (mem_map.mpr ⟨_, hitem, rfl⟩))
  | nilError hchannel hasked hnil =>
    simp only [hchannel, and_eq_true, survives] at h
    have hlength := (List.getElem?_eq_some_iff.mp (mem_zipIdx_iff_getElem?.mp hasked)).1
    have hsurvived := all_eq_true.mp h.1 _ (mem_range.mpr hlength)
    simp [hnil] at hsurvived
  | body hchannel hasked hbody =>
    simp only [hchannel, Upstream.answeredIds, and_eq_true] at h
    exact fun t hfind => (ownedBy_iff_of_find hfind).mp (all_eq_true.mp h.2 _
      (mem_map.mpr ⟨_, mem_filter.mpr ⟨hasked, by simp [hbody]⟩, rfl⟩))

/-- **A pass whose visits concern the tasks of their channels is safe**, whatever the answers
say. -/
theorem safe_of_attributable (h : Attributable cache platform tasks order adaptor u) :
    (pollPlatform cache adaptor clock platform tasks order u now s).Safe := by
  refine safe_of_own fun step hstep => ?_
  obtain ⟨c, hc, hmem⟩ := mem_passSteps.mp hstep
  obtain ⟨hplatform, hasked, hvisit⟩ := visitStep_of_mem hmem
  exact own_of_visitOwn (h hplatform c hc hasked) hvisit

/-! ## Answers that show every crossing -/

/-- An adaptor that reads the body `failed` and nothing else. -/
def failingAdaptor : PollingAdaptor :=
  { sampleAdaptor with
    parseTaskResult := fun body => if body = "failed" then some (failTaskInfo "") else none }

def failItem (id : String) : SunoDataResponse :=
  { taskID := id, status := .failure, failReason := "", submitTime := 0, startTime := 0
    finishTime := 0, data := "" }

/-- An item that says what is known. -/
def idleItem (task : Task) (id : String) : SunoDataResponse :=
  { taskID := id, status := task.status, failReason := task.failReason
    submitTime := task.submitTime, startTime := task.startTime, finishTime := task.finishTime
    data := task.data }

section

variable (u : Upstream) (tasks : List Task) (channelId : Int) (id : String)

/-- The same ids are answered, but only the answer of one channel about one id has anything to
say. -/
def Upstream.focus : Upstream :=
  { suno := fun c => (u.suno c).map <| List.map fun item =>
      if c = channelId ∧ item.taskID = id then failItem id
      else match (indexTasks tasks).taskM item.taskID with
        | none => item
        | some task => idleItem task item.taskID
    video := fun c i => (u.video c i).map fun _ =>
      if c = channelId ∧ (askedIds tasks c)[i]? = some id then "failed" else "" }

theorem Upstream.focus_sameIds : (u.focus tasks channelId id).sameIds u := by
  refine ⟨fun c => ?_, fun c i => by simp [Upstream.focus]⟩
  simp only [Upstream.focus]
  cases u.suno c with
  | none => rfl
  | some =>
    simp only [Option.map_some, map_map, Option.some.injEq]
    refine map_congr_left fun item _ => ?_
    simp only [comp_apply]
    split
    · next hitem => exact hitem.2.symm
    · split <;> rfl

end

section

variable (h : task.unfinished = true)
include h

theorem updateSunoTask_idleItem (id : String) :
    updateSunoTask (idleItem task id) task = (task, .nothing) := by
  rw [Task.unfinished, and_eq_true, not_eq_true'] at h
  have hsame : taskNeedsUpdate task (idleItem task id) = false := by
    simp [taskNeedsUpdate, idleItem, h.2]
  rw [updateSunoTask, hsame]
  rfl

theorem Task.status_of_unfinished : task.status ≠ .failure := by
  intro hfailed
  rw [Task.unfinished, hfailed] at h
  exact absurd h (by simp [TaskStatus.terminal])

theorem updateSunoTask_failItem (id : String) :
    (updateSunoTask (failItem id) task).2 ≠ .nothing := by
  have hnew : taskNeedsUpdate task (failItem id) = true := by
    simp [taskNeedsUpdate, failItem, Task.status_of_unfinished h]
  rw [updateSunoTask, hnew]
  simp [applySunoItem, failItem, TaskStatus.terminal]

theorem updateVideoSingleTask_failed (now : Int) :
    (updateVideoSingleTask failingAdaptor now "failed" task).2 ≠ .nothing := by
  simp [updateVideoSingleTask, PollingAdaptor.parse, failingAdaptor, sampleAdaptor, failTaskInfo,
    readEmptyStatus, applyVideoResult, TaskStatus.terminal, Task.snapshot, Task.status_of_unfinished h]

end

/-- **Only the focused answer has anything to say.** -/
theorem idle_of_focus {c₀ : Int}
    {id₀ : String}
    (hlisted : ∀ t ∈ tasks, t.unfinished = true)
    (hstep : VisitStep cache adaptor (u.focus tasks c₀ id₀) (indexTasks tasks).taskM c (askedIds tasks c)
      platform step) :
    step.idle failingAdaptor (indexTasks tasks).taskM ∨
      platform = .suno ∧ step = .poll c₀ id₀ (.suno (failItem id₀)) ∨
      platform ≠ .suno ∧ step = .poll c₀ id₀ (.video "failed") := by
  cases hstep with
  | item _ hitems hitem =>
    obtain ⟨items, -, rfl⟩ := Option.map_eq_some_iff.mp hitems
    obtain ⟨item, -, rfl⟩ := mem_map.mp hitem
    by_cases hfocus : c = c₀ ∧ item.taskID = id₀
    · refine .inr (.inl ⟨rfl, ?_⟩)
      simp only [if_pos hfocus]
      rw [hfocus.1]
      rfl
    · simp only [if_neg hfocus]
      refine .inl fun t ht now db => ?_
      cases hfind : (indexTasks tasks).taskM item.taskID with
      | none =>
        simp only [hfind] at ht
        cases ht
      | some task =>
        simp only [hfind] at ht ⊢
        obtain rfl : task = t := Option.some.inj (hfind.symm.trans ht)
        exact updateSunoTask_idleItem (hlisted _ (mem_of_taskM hfind)) _
  | @body _ _ id _ i _ hasked hbody =>
    obtain ⟨_, -, rfl⟩ := Option.map_eq_some_iff.mp hbody
    have hid : (askedIds tasks c)[i]? = some id := mem_zipIdx_iff_getElem?.mp hasked
    by_cases hfocus : c = c₀ ∧ (askedIds tasks c)[i]? = some id₀
    · simp only [if_pos hfocus]
      obtain ⟨rfl, hid₀⟩ := hfocus
      obtain rfl : id = id₀ := Option.some.inj (hid.symm.trans hid₀)
      exact .inr (.inr ⟨by simp, rfl⟩)
    · simp only [if_neg hfocus]
      exact .inl fun t _ now db => rfl
  | _ => exact .inl trivial

/-- **A channel that answers an id of another channel's task can write to that task.** -/
theorem unsafe_of_crossing (hlisted : ∀ t ∈ tasks, t.unfinished = true)
    (hfind : (indexTasks tasks).taskM id = some t) (hforeign : t.channelId ≠ c)
    (hmem : .poll c id (if platform = .suno then .suno (failItem id) else .video "failed") ∈
      passSteps cache (some failingAdaptor) platform tasks order (u.focus tasks c id)) :
    ¬ (pollPlatform cache (some failingAdaptor) clock platform tasks order (u.focus tasks c id) now
      s).Safe := by
  have hunfinished := hlisted t (mem_of_taskM hfind)
  have hstart : (Pass.start now tasks s).taskM = (indexTasks tasks).taskM := rfl
  refine unsafe_of_effective hstart hmem (fun step hstep => ?_) hfind hforeign fun now db => ?_
  · obtain ⟨c', -, hdispatch⟩ := mem_passSteps.mp hstep
    rcases idle_of_focus hlisted (visitStep_of_mem hdispatch).2.2 with
      hidle | ⟨hsuno, rfl⟩ | ⟨hvideo, rfl⟩
    · exact .inr hidle
    · exact .inl (by rw [if_pos hsuno])
    · exact .inl (by rw [if_neg hvideo])
  · split
    · exact updateSunoTask_failItem hunfinished id
    · exact updateVideoSingleTask_failed hunfinished now

/-! ## When results stay with their own task -/

theorem visit_unloaded (adaptor : Option PollingAdaptor) (u : Upstream)
    (taskM : String → Option Task) (hplatform : platform ≠ .midjourney) (hasked : asked ≠ [])
    (hchannel : cache.find? c = none) : ∃ reason, .fail c (asked.filterMap taskM) reason ∈
      dispatchPlatformUpdate cache adaptor u taskM c asked platform := by
  cases platform with
  | midjourney => exact absurd rfl hplatform
  | suno =>
    simp only [dispatchPlatformUpdate, updateSunoTasks, if_neg hasked, hchannel]
    exact ⟨_, mem_singleton.mpr rfl⟩
  | channelType raw =>
    simp only [dispatchPlatformUpdate, updateVideoTasks, if_neg hasked, hchannel]
    exact ⟨_, mem_singleton.mpr rfl⟩

section

variable (a : PollingAdaptor) (u : Upstream) (taskM : String → Option Task)

theorem visit_suno (hasked : asked ≠ []) (hchannel : cache.find? c = some ch) :
    dispatchPlatformUpdate cache (some a) u taskM c asked .suno =
      if ch.baseURL = none then [.fault (.nilBaseURL c)]
      else ((u.suno c).getD []).map fun item =>
        match taskM item.taskID with
        | none => .fault (.nilTask item.taskID)
        | some _ => .poll c item.taskID (.suno item) := by
  rw [dispatchPlatformUpdate, updateSunoTasks, if_neg hasked, hchannel]
  cases hurl : ch.baseURL <;> cases u.suno c <;> simp [hurl]

theorem visit_video (raw : String) (hasked : asked ≠ []) (hchannel : cache.find? c = some ch) :
    dispatchPlatformUpdate cache (some a) u taskM c asked (.channelType raw) =
      asked.zipIdx.filterMap fun (taskId, i) => (u.video c i).map fun body =>
        if a.nilError body then .fault (.nilError taskId) else .poll c taskId (.video body) := by
  rw [dispatchPlatformUpdate, updateVideoTasks.eq_def, if_neg hasked, hchannel]

end

section

theorem asked_owned (hplatform : platform ≠ .midjourney) (hc : c ∈ order)
    (hasked : askedIds tasks c ≠ []) (hchannel : cache.find? c = none)
    (hsafe : (pollPlatform cache none clock platform tasks order u now s).Safe) :
    (askedIds tasks c).all (ownedBy tasks c) = true := by
  refine all_eq_true.mpr fun id hid => ?_
  by_contra hnot
  obtain ⟨t, hfind⟩ := taskM_of_asked hid
  obtain ⟨reason, hmem⟩ := visit_unloaded none u (indexTasks tasks).taskM hplatform hasked hchannel
  exact unsafe_of_mem (mem_passSteps.mpr ⟨c, hc, hmem⟩)
    (unsafe_fail (mem_filterMap.mpr ⟨id, hid, hfind⟩) (mt (ownedBy_iff_of_find hfind).mpr hnot)) hsafe

/-- The failing adaptor survives every body. -/
theorem nilAnswer_failingAdaptor (answer : Option String) :
    nilAnswer (some failingAdaptor) answer = false := by
  cases answer with
  | none => rfl
  | some body =>
    by_cases hbody : body = "failed" <;>
      simp [nilAnswer, PollingAdaptor.nilError, PollingAdaptor.parse, failingAdaptor, sampleAdaptor,
        failTaskInfo, hbody]

variable {ch : Channel} (hlisted : ∀ t ∈ tasks, t.unfinished = true) (hc : c ∈ order)
  (hasked : askedIds tasks c ≠ []) (hchannel : cache.find? c = some ch)

section

include hc hasked hchannel

theorem baseURL_of_safe
    (hsafe : (pollPlatform cache (some failingAdaptor) clock .suno tasks order u now s).Safe) :
    ch.baseURL ≠ none := by
  intro hnone
  refine unsafe_of_mem (mem_passSteps.mpr ⟨c, hc, ?_⟩) (unsafe_fault (.nilBaseURL c)) hsafe
  rw [visit_suno _ _ _ hasked hchannel, if_pos hnone]
  exact mem_singleton.mpr rfl

/-- The bodies that a video channel answers are survived, or the pass is not. -/
theorem survives_of_safe {raw : String}
    (hsafe : (pollPlatform cache adaptor clock (.channelType raw) tasks order u now s).Safe) :
    survives (.channelType raw) tasks adaptor u ch c = true := by
  refine all_eq_true.mpr fun i hi => ?_
  by_contra hnil
  simp only [not_eq_true', Bool.not_eq_false, nilAnswer, Option.any_eq_true] at hnil
  obtain ⟨a, rfl, body, hbody, hnil⟩ := hnil
  obtain ⟨id, hget⟩ : ∃ id, (askedIds tasks c)[i]? = some id :=
    ⟨_, List.getElem?_eq_getElem (mem_range.mp hi)⟩
  refine unsafe_of_mem (mem_passSteps.mpr ⟨c, hc, ?_⟩) (unsafe_fault (.nilError id)) hsafe
  rw [visit_video _ _ _ _ hasked hchannel]
  exact mem_filterMap.mpr ⟨(id, i), mem_zipIdx_iff_getElem?.mpr hget, by simp [hbody, hnil]⟩

end

section

include hlisted hc hasked hchannel

/-- The ids that a Suno channel answers are its own, or some answers make the pass unsafe. -/
theorem suno_owned (hsafe : ∀ u', u'.sameIds u →
      (pollPlatform cache (some failingAdaptor) clock .suno tasks order u' now s).Safe) :
    (u.answeredIds c (askedIds tasks c) .suno).all (ownedBy tasks c) = true := by
  have hthis := hsafe u ⟨fun _ => rfl, fun _ _ => rfl⟩
  have hurl := baseURL_of_safe hc hasked hchannel hthis
  refine all_eq_true.mpr fun id hid => ?_
  by_contra hnot
  obtain ⟨item, hitem, rfl⟩ := mem_map.mp hid
  cases hfind : (indexTasks tasks).taskM item.taskID with
  | none =>
    refine unsafe_of_mem (mem_passSteps.mpr ⟨c, hc, ?_⟩) (unsafe_fault (.nilTask item.taskID)) hthis
    rw [visit_suno _ _ _ hasked hchannel, if_neg hurl]
    exact mem_map.mpr ⟨item, hitem, by rw [hfind]⟩
  | some t =>
    refine unsafe_of_crossing hlisted hfind (mt (ownedBy_iff_of_find hfind).mpr hnot)
      (mem_passSteps.mpr ⟨c, hc, ?_⟩) (hsafe _ (u.focus_sameIds tasks c item.taskID))
    rw [visit_suno _ _ _ hasked hchannel, if_neg hurl, if_pos rfl]
    have hkey : (failItem item.taskID).taskID = item.taskID := rfl
    refine mem_map.mpr ⟨failItem item.taskID, ?_, by rw [hkey, hfind]⟩
    cases hitems : u.suno c with
    | none => rw [hitems] at hitem; cases hitem
    | some =>
      simp only [Upstream.focus, hitems]
      rw [hitems] at hitem
      exact mem_map.mpr ⟨item, hitem, by simp⟩

theorem video_owned {raw : String} (hsafe : ∀ u', u'.sameIds u →
      (pollPlatform cache (some failingAdaptor) clock (.channelType raw) tasks order u' now s).Safe) :
    (u.answeredIds c (askedIds tasks c) (.channelType raw)).all (ownedBy tasks c) = true := by
  refine all_eq_true.mpr fun id hid => ?_
  by_contra hnot
  obtain ⟨⟨_, i⟩, hanswered, rfl⟩ := mem_map.mp hid
  obtain ⟨hzip, hanswer⟩ := mem_filter.mp hanswered
  obtain ⟨body, hbody⟩ := Option.isSome_iff_exists.mp hanswer
  have hget := mem_zipIdx_iff_getElem?.mp hzip
  obtain ⟨t, hfind⟩ := taskM_of_asked (mem_of_getElem? hget)
  have hnil : failingAdaptor.nilError "failed" = false := nilAnswer_failingAdaptor (some "failed")
  refine unsafe_of_crossing hlisted hfind (mt (ownedBy_iff_of_find hfind).mpr hnot)
    (mem_passSteps.mpr ⟨c, hc, ?_⟩) (hsafe _ (u.focus_sameIds tasks c _))
  rw [visit_video _ _ _ _ hasked hchannel, if_neg (by simp)]
  exact mem_filterMap.mpr ⟨_, hzip, by simp [Upstream.focus, hbody, hget, hnil]⟩

end

end

/-- **Poll results stay with their own task exactly when the ids tell whose they are.** For
unfinished tasks of one platform and given sets of answered ids, no adaptor and no answers about
these ids that are survived where the given ones are make the pass fault or write to a task on
behalf of a channel other than its own, if and only if each channel that cannot be loaded owns the
ids it would be asked for, and each channel that can owns the ids it answers and is survived. -/
theorem poll_results_stay_with_task (cache : Table Channel) (clock : Nat → Int)
    (platform : TaskPlatform) (tasks : List Task) (order : List Int)
    (adaptor : Option PollingAdaptor) (u : Upstream) (now : Int) (s : TaskSystem)
    (hlisted : ∀ t ∈ tasks, t.unfinished = true) :
    (∀ adaptor' u', u'.sameIds u →
      (∀ c i, nilAnswer adaptor' (u'.video c i) = true → nilAnswer adaptor (u.video c i) = true) →
      (pollPlatform cache adaptor' clock platform tasks order u' now s).Safe) ↔
      Attributable cache platform tasks order adaptor u := by
  refine ⟨fun hsafe hplatform c hc hasked => ?_, fun h adaptor' u' hsame hnil =>
    safe_of_attributable fun hplatform c hc hasked => ?_⟩
  · have hown := hsafe adaptor u ⟨fun _ => rfl, fun _ _ => rfl⟩ fun _ _ hnil => hnil
    have hfailing : ∀ u', u'.sameIds u →
        (pollPlatform cache (some failingAdaptor) clock platform tasks order u' now s).Safe :=
      fun u' hsame => hsafe _ u' hsame fun c i hnil => by simp [nilAnswer_failingAdaptor] at hnil
    rw [visitOwn]
    cases hchannel : cache.find? c with
    | none =>
      exact asked_owned hplatform hc hasked hchannel
        (hsafe none u ⟨fun _ => rfl, fun _ _ => rfl⟩ fun _ _ hnil => nomatch hnil)
    | some ch =>
      cases platform with
      | midjourney => exact absurd rfl hplatform
      | suno =>
        have hurl := baseURL_of_safe hc hasked hchannel (hfailing u ⟨fun _ => rfl, fun _ _ => rfl⟩)
        simpa [survives, Option.isSome_iff_ne_none, hurl] using
          suno_owned hlisted hc hasked hchannel hfailing
      | channelType raw =>
        exact and_eq_true_iff.mpr ⟨survives_of_safe hc hasked hchannel hown,
          video_owned hlisted hc hasked hchannel hfailing⟩
  · have hvisit := h hplatform c hc hasked
    rw [visitOwn] at hvisit ⊢
    rw [answeredIds_of_sameIds hsame]
    cases hchannel : cache.find? c with
    | none => simpa only [hchannel] using hvisit
    | some ch =>
      simp only [hchannel, and_eq_true] at hvisit ⊢
      refine ⟨?_, hvisit.2⟩
      unfold survives at hvisit ⊢
      split
      · next hsuno => simpa only [if_pos hsuno] using hvisit.1
      · next hvideo =>
        rw [if_neg hvideo] at hvisit
        refine all_eq_true.mpr fun i hi => ?_
        have hsurvived := all_eq_true.mp hvisit.1 i hi
        rw [not_eq_true'] at hsurvived ⊢
        exact Bool.eq_false_iff.mpr fun hnew => absurd (hnil c i hnew) (by rw [hsurvived]; decide)

/-- Two tasks on two channels with ids of their own: both are answered and both answers arrive. -/
theorem poll_results_stay_with_task_sample :
    let other : Task := { acceptedTask with
      id := 2, taskID := "task_b", channelId := 2
      privateData := { acceptedTask.privateData with upstreamTaskID := "up_2" } }
    let tasks := [acceptedTask, other]
    let pass := pollPlatform sampleDatabase.channels (some sampleAdaptor) (fun _ => 2020)
      (.channelType "24") tasks [1, 2] ⟨fun _ => none, fun _ _ => some "done"⟩ 2020
      ⟨sampleDatabase, tasks, []⟩
    (pass.writes.map fun w => (w.source, w.task.taskID)) = [(1, "task_a"), (2, "task_b")] ∧
      pass.Safe := by
  intro other tasks pass
  refine ⟨by decide +kernel, ?_⟩
  exact (poll_results_stay_with_task sampleDatabase.channels (fun _ => 2020) (.channelType "24") tasks
    [1, 2] (some sampleAdaptor) ⟨fun _ => none, fun _ _ => some "done"⟩ 2020
    ⟨sampleDatabase, tasks, []⟩ (by decide +kernel)).mpr (by decide +kernel) _ _
    ⟨fun _ => rfl, fun _ _ => rfl⟩ fun _ _ hnil => hnil

/-- **Results that go astray.** Two tasks on two channels have the same upstream id. Channel 1
answers that its task failed; the pass fails and refunds the task of channel 2 instead. A Suno
channel answers an id that nobody asked for, and a video channel answers `null`: the pass survives
neither. -/
theorem failure_hits_other_channel :
    let other : Task := { sampleTask with taskID := "task_b", channelId := 2 }
    let submitted := run (TaskSystem.step sampleCalendar sampleAdaptor) ⟨sampleDatabase, [], []⟩
      (sampleSubmission ++
        [⟨2010, .ledger (.reserve (sampleReservation "r2" .wallet 30))⟩,
         ⟨2011, .ledger (.bind 2 (some other))⟩,
         ⟨2012, .ledger (.acknowledge 2 30 (some { acceptedTask with
            id := 2, taskID := "task_b", channelId := 2 }))⟩, ⟨2013, .ledger (.settle 2 30 [])⟩])
    let video := pollPlatform sampleDatabase.channels (some sampleAdaptor) (fun _ => 2020)
      (.channelType "24") (platformTask 1000 submitted.db (.channelType "24")) [1, 2]
      ⟨fun _ => none, fun c _ => if c = 1 then some "failed" else none⟩ 2020 submitted
    let channel : Channel := { id := 1, type := 36, key := "k1", baseURL := some "suno", usedQuota := 0 }
    let suno := pollPlatform ⟨[channel], by decide⟩ (some sampleAdaptor) (fun _ => 2020) .suno
      [{ acceptedTask with platform := .suno }] [1]
      ⟨fun _ => some [failItem "up_9"], fun _ _ => none⟩ 2020 submitted
    let null := pollPlatform sampleDatabase.channels
      (some { sampleAdaptor with parseError := fun _ => .null }) (fun _ => 2020) (.channelType "24")
      [acceptedTask] [1] ⟨fun _ => none, fun _ _ => some "null"⟩ 2020 submitted
    (submitted.db.tasks.rows.map fun t => (t.channelId, t.status)) = [(1, .notStart), (2, .notStart)] ∧
    (video.system.db.tasks.rows.map fun t => (t.channelId, t.status))
      = [(1, .notStart), (2, .failure)] ∧
    (video.system.db.ledgers.rows.map fun l => l.state) = [.settled, .refunded] ∧
    (video.writes.map fun w => (w.source, w.task.channelId)) = [(1, 2)] ∧
    suno.fault = some (.nilTask "up_9") ∧ null.fault = some (.nilError "up_1") := by
  decide +kernel

end RenewApi.Billing
