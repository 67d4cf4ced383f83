import Mathlib.Data.Fintype.Basic
import RenewApi.Sessions.Effects

/-! # Stale failures and newer successes

* **`StaleFailureHarmless`** — a repair leaves a newer record in place, and the channel that
  succeeded is not avoided unless a failure that was seen later is applied.
* **`stale_failure_harmless`** — so it is in every timely run. The code does not see to it that a
  run is timely: a repair takes a newer success on its channel for the one it saw
  (`stale_failure_evicts`). -/

namespace RenewApi.Sessions

open Relational Concurrent Program List Request

section

variable {ι : Type*} [DecidableEq ι] (cfg : SessionConfig)

def RecordedBy (w : Requests ι) (i : ι) (x : Int) (time : Nat) : Prop :=
  ∃ r, w.threads i = some r ∧ (x, time) ∈ r.recorded

/-- A failure that was seen after some time has marked a channel. -/
def MarkedSince (w : Requests ι) (x : Int) (time : Nat) : Prop :=
  ∃ k r, w.threads k = some r ∧ x ∈ r.marked ∧ time < r.observedAt

/-- What `ShouldAvoidChannelForSession` answers. -/
def avoids (w : Requests ι) (x : Int) : Bool :=
  ((shouldAvoidChannelForSession cfg.session.key x).alone (CacheOp.exec (moment 0)) w.shared.caches).2

/-- **A stale failure never overrides a newer success** along a run. -/
structure StaleFailureHarmless (w₀ : Requests ι) (es : List (ι × SessionEvent)) : Prop where
  /-- The repair of a request that saw the affinity before a success was recorded leaves channel and
  record as they are. -/
  keeps : ∀ before j clock after, es = before ++ (j, .go clock) :: after →
    let w := run (sessionStep cfg) w₀ before
    ∀ r failed i x time, w.threads j = some r → r.phase.failed = some failed →
      RecordedBy w i x time → r.observedAt < time →
        storedChannel cfg.session (sessionStep cfg w (j, .go clock)).shared.caches =
            storedChannel cfg.session w.shared.caches ∧
          (sessionStep cfg w (j, .go clock)).shared.caches.at .record cfg.session.cacheKey =
            w.shared.caches.at .record cfg.session.cacheKey
  /-- When both have ended, the channel of the success is not avoided, unless a failure that was seen
  later has marked it. -/
  spares : ∀ before after, es = before ++ after →
    let w := run (sessionStep cfg) w₀ before
    ∀ i r x time j r', w.threads i = some r → (x, time) ∈ r.recorded → r.phase = .idle →
      w.threads j = some r' → r'.phase = .idle → r'.observedAt < time →
        avoids cfg w x = false ∨ MarkedSince w x time

/-- **A repair deletes or marks only where every success on its channel was recorded before the
request saw the affinity.** -/
def Timely (w : Requests ι) (e : ι × SessionEvent) : Prop :=
  ∀ clock, e.2 = .go clock → ∀ r failed op, w.threads e.1 = some r → r.phase.failed = some failed →
    r.phase.next = some op → op.evicts = true ∨ op.marks = true →
      ∀ i time, RecordedBy w i failed time → time < r.observedAt

end

/-! ## The invariant -/

section

variable {ι : Type*} [DecidableEq ι] (cfg : SessionConfig) {r : Request} {x : Int} {time : Nat}
  {w w' : Requests ι}

/-- No mark stands against a success that was recorded at some time, unless it was set later. -/
structure Spared (w : Requests ι) (x : Int) (time : Nat) : Prop where
  plain : plainMark cfg.session w.shared.caches x = some 1 → MarkedSince w x time
  generation : ∀ negative, generationMark cfg.session w.shared.caches x = some negative →
    MarkedSince w x time

/-- The request that has recorded the success has still to clear the marks, or none stands against
it. -/
structure Clears (w : Requests ι) (r : Request) (x : Int) (time : Nat) : Prop where
  plain : r.phase.Will (CacheOp.clears (cfg.session.markKey x)) ∨
    (plainMark cfg.session w.shared.caches x = some 1 → MarkedSince w x time)
  generation : r.phase.Will (CacheOp.looks (cfg.session.markKey x)) ∨
    ∀ negative, generationMark cfg.session w.shared.caches x = some negative →
      r.phase.clearing (cfg.session.markKey x) = some negative ∨
        MarkedSince w x time

/-- **The invariant**: the stored channel was recorded last, and every success has still to clear
the marks on its channel, or none stands against it. -/
structure Fresh (w : Requests ι) : Prop where
  sound : ∀ i r, w.threads i = some r → r.phase.Sound cfg.session
  past : ∀ i x time, RecordedBy w i x time → time < w.shared.time
  last : ∀ i x time y, RecordedBy w i x time → storedChannel cfg.session w.shared.caches = some y →
    ∃ j time', RecordedBy w j y time' ∧ time ≤ time'
  clears : ∀ i r x time, w.threads i = some r → (x, time) ∈ r.recorded →
    cfg.session.markKey x ≠ "" → Clears cfg w r x time

variable {cfg} {i : ι} {e : ι × SessionEvent} {op : CacheOp} {next : op.Result → CacheProgram Unit}
  {channelID failed clock : Int}

omit [DecidableEq ι] in
theorem Fresh.recoveryOp (hw : Fresh cfg w)
    {next : op.Result → CacheProgram (SessionRecoveryResult × Option ChannelAffinityRecord)}
    (hr : w.threads i = some r) (hphase : r.phase = .recovering failed (.call op next)) :
    RecoveryOp cfg.session.key failed op ∧
      ∀ answer, (next answer).Only (RecoveryOp cfg.session.key failed) := by
  have hsound := hw.sound i r hr
  rw [hphase] at hsound
  exact hsound.call_inv

omit [DecidableEq ι] in
theorem Fresh.recordingNode (hw : Fresh cfg w) (hr : w.threads i = some r)
    (hphase : r.phase = .recording channelID (.call op next)) :
    RecordingNode cfg.session channelID op next ∧
      ∀ answer, (next answer).Throughout (RecordingNode cfg.session channelID) := by
  have hsound := hw.sound i r hr
  rw [hphase] at hsound
  exact hsound.call_inv

omit [DecidableEq ι] in
theorem Clears.spared (h : Clears cfg w r x time) (hwill : ∀ P, ¬r.phase.Will P)
    (hclearing : ∀ key, r.phase.clearing key = none) : Spared cfg w x time := by
  refine ⟨h.plain.resolve_left (hwill _), fun negative hnegative => ?_⟩
  refine ((h.generation.resolve_left (hwill _)) negative hnegative).resolve_left ?_
  rw [hclearing]
  nofun

omit [DecidableEq ι] in
theorem Spared.clears (h : Spared cfg w x time) (r : Request) : Clears cfg w r x time :=
  ⟨.inr h.plain, .inr fun negative hnegative => .inr (h.generation negative hnegative)⟩

/-- What requests have done stays done. -/
def Grows (w w' : Requests ι) : Prop :=
  ∀ i r, w.threads i = some r → ∃ r', w'.threads i = some r' ∧ r'.observedAt = r.observedAt ∧
    r.recorded ⊆ r'.recorded ∧ r.marked ⊆ r'.marked

omit [DecidableEq ι] in
theorem RecordedBy.mono (hgrows : Grows w w') (h : RecordedBy w i x time) :
    RecordedBy w' i x time := by
  obtain ⟨r, hr, hmem⟩ := h
  obtain ⟨r', hr', -, hrecorded, -⟩ := hgrows i r hr
  exact ⟨r', hr', hrecorded hmem⟩

omit [DecidableEq ι] in
theorem MarkedSince.mono (hgrows : Grows w w') (h : MarkedSince w x time) :
    MarkedSince w' x time := by
  obtain ⟨k, r, hr, hmem, hlt⟩ := h
  obtain ⟨r', hr', hobserved, -, hmarked⟩ := hgrows k r hr
  exact ⟨k, r', hr', hmarked hmem, hobserved ▸ hlt⟩

theorem Request.note_grows (r : Request) (time : Nat) (op : CacheOp) (phase : Phase) :
    ((r.note time op).resume phase).observedAt = r.observedAt ∧
      r.recorded ⊆ ((r.note time op).resume phase).recorded ∧
        r.marked ⊆ ((r.note time op).resume phase).marked := by
  rw [observedAt_resume, recorded_resume, marked_resume]
  refine ⟨rfl, subset_append_right _ _, ?_⟩
  show r.marked ⊆ if op.marks then r.phase.failed.toList ++ r.marked else r.marked
  split
  · exact subset_append_right _ _
  · exact Subset.refl _

theorem grows_step (w : Requests ι) (e : ι × SessionEvent) : Grows w (sessionStep cfg w e) := by
  intro i r hr
  obtain ⟨request, after, hrequest, hmove, -, hself, hother⟩ := session_move cfg w e
  obtain ⟨k, event⟩ := e
  by_cases hi : i = k
  · subst hi
    rw [hr] at hrequest
    rw [hself]
    subst hrequest
    cases hmove with
    | stays _ _ => exact ⟨r, rfl, rfl, Subset.refl _, Subset.refl _⟩
    | starts =>
      exact ⟨_, rfl, by simp, by simp, by simp⟩
    | recovers r => exact ⟨_, rfl, r.note_grows _ _ _⟩
    | records r => exact ⟨_, rfl, r.note_grows _ _ _⟩
  · exact ⟨r, (hother i hi).trans hr, rfl, Subset.refl _, Subset.refl _⟩

omit [DecidableEq ι] in
theorem Clears.mono (h : Clears cfg w r x time) (hgrows : Grows w w')
    (hplain : plainMark cfg.session w'.shared.caches x = plainMark cfg.session w.shared.caches x ∨
      plainMark cfg.session w'.shared.caches x = none ∨ MarkedSince w' x time)
    (hgeneration : generationMark cfg.session w'.shared.caches x =
        generationMark cfg.session w.shared.caches x ∨
      generationMark cfg.session w'.shared.caches x = none ∨ MarkedSince w' x time) :
    Clears cfg w' r x time := by
  constructor
  · refine h.plain.imp_right fun hspared hmark => ?_
    rcases hplain with hsame | hnone | hmarked
    · exact (hspared (hsame ▸ hmark)).mono hgrows
    · rw [hnone] at hmark
      cases hmark
    · exact hmarked
  · refine h.generation.imp_right fun hspared negative hmark => ?_
    rcases hgeneration with hsame | hnone | hmarked
    · exact (hspared negative (hsame ▸ hmark)).imp_right fun h => h.mono hgrows
    · rw [hnone] at hmark
      cases hmark
    · exact .inr hmarked

/-- **What a timely step does to the marks of a channel** with a recorded success: they stay, are
cleared, or come from a failure seen later. -/
theorem Fresh.marks_step (hw : Fresh cfg w) (htimely : Timely w e)
    (hrecorded : RecordedBy w i x time) (hx : cfg.session.markKey x ≠ "") :
    (plainMark cfg.session (sessionStep cfg w e).shared.caches x =
        plainMark cfg.session w.shared.caches x ∨
      plainMark cfg.session (sessionStep cfg w e).shared.caches x = none ∨
      MarkedSince (sessionStep cfg w e) x time) ∧
    (generationMark cfg.session (sessionStep cfg w e).shared.caches x =
        generationMark cfg.session w.shared.caches x ∨
      generationMark cfg.session (sessionStep cfg w e).shared.caches x = none ∨
      MarkedSince (sessionStep cfg w e) x time) := by
  obtain ⟨request, after, hrequest, hmove, hshared, hself, -⟩ := session_move cfg w e
  obtain ⟨k, event⟩ := e
  rw [hshared]
  cases hmove with
  | @recovers r clock _ op _ hphase =>
    obtain ⟨-, -, hmarks⟩ := (hw.recoveryOp hrequest hphase).1.effect clock w.shared.caches
    rcases hmarks x hx with ⟨hplain, hgeneration⟩ | ⟨rfl, hmark⟩
    · exact ⟨.inl hplain, .inl hgeneration⟩
    · -- the mark is set by this request, which saw the affinity after the success
      have hmarked : MarkedSince (sessionStep cfg w (k, .go clock)) x time := by
        refine ⟨k, _, hself, ?_, ?_⟩
        · rw [marked_resume, note, hmark, hphase]
          exact mem_append_left _ (mem_singleton.mpr rfl)
        · rw [observedAt_resume]
          refine htimely clock rfl r x op hrequest ?_ ?_ (.inr hmark) i time hrecorded
          · rw [hphase]
            rfl
          · rw [hphase]
            rfl
      exact ⟨.inr (.inr hmarked), .inr (.inr hmarked)⟩
  | @records _ clock _ _ _ hphase =>
    obtain ⟨hplain, hgeneration⟩ :=
      ((hw.recordingNode hrequest hphase).1.effect clock w.shared.caches).2 x hx
    exact ⟨hplain.imp_right .inl, hgeneration.imp_right .inl⟩
  | _ => exact ⟨.inl rfl, .inl rfl⟩

/-- **What a step does to the stored channel**: it stays, is deleted, or is the one recorded now. -/
theorem Fresh.storedChannel_step (hw : Fresh cfg w) (e : ι × SessionEvent) :
    storedChannel cfg.session (sessionStep cfg w e).shared.caches =
        storedChannel cfg.session w.shared.caches ∨
      storedChannel cfg.session (sessionStep cfg w e).shared.caches = none ∨
      ∃ x, storedChannel cfg.session (sessionStep cfg w e).shared.caches = some x ∧
        RecordedBy (sessionStep cfg w e) e.1 x w.shared.time := by
  obtain ⟨request, after, hrequest, hmove, hshared, hself, -⟩ := session_move cfg w e
  obtain ⟨k, event⟩ := e
  rw [hshared]
  cases hmove with
  | @recovers _ clock _ _ _ hphase =>
    obtain ⟨-, hstored, -⟩ := (hw.recoveryOp hrequest hphase).1.effect clock w.shared.caches
    exact hstored.imp_right fun h => .inl h.2.2
  | @records r clock channelID op next hphase =>
    rcases ((hw.recordingNode hrequest hphase).1.effect clock w.shared.caches).1 with
      ⟨-, hsame⟩ | ⟨hrecords, hstored⟩
    · exact .inl hsame
    · refine .inr (.inr ⟨channelID, hstored, _, hself, ?_⟩)
      rw [recorded_resume, note, hrecords]
      exact mem_cons_self
  | _ => exact .inl rfl

/-- **What is recorded after a step**: what was recorded before, and the channel that is stored
now. -/
theorem Fresh.recordedBy_step (hw : Fresh cfg w) (e : ι × SessionEvent)
    (h : RecordedBy (sessionStep cfg w e) i x time) :
    RecordedBy w i x time ∨ (time = w.shared.time ∧
      storedChannel cfg.session (sessionStep cfg w e).shared.caches = some x) := by
  obtain ⟨request, after, hrequest, hmove, hshared, hself, hother⟩ := session_move cfg w e
  obtain ⟨k, event⟩ := e
  obtain ⟨r', hr', hmem⟩ := h
  by_cases hi : i = k
  swap
  · exact .inl ⟨r', (hother i hi).symm.trans hr', hmem⟩
  subst hi
  rw [hself] at hr'
  rw [hshared]
  cases hmove with
  | stays _ _ => exact .inl ⟨r', hrequest.trans hr', hmem⟩
  | observes _ _ =>
    cases hr'
    cases hmem
  | starts r =>
    cases hr'
    rw [recorded_resume] at hmem
    exact .inl ⟨r, hrequest, hmem⟩
  | @recovers r _ _ _ _ hphase =>
    cases hr'
    rw [recorded_resume, note, (hw.recoveryOp hrequest hphase).1.records] at hmem
    exact .inl ⟨r, hrequest, hmem⟩
  | @records r clock _ _ _ hphase =>
    cases hr'
    rw [recorded_resume, note] at hmem
    rcases ((hw.recordingNode hrequest hphase).1.effect clock w.shared.caches).1 with
      ⟨hrecords, -⟩ | ⟨hrecords, hstored⟩
    · rw [hrecords] at hmem
      exact .inl ⟨r, hrequest, hmem⟩
    · rw [hrecords] at hmem
      rcases mem_cons.mp hmem with hnew | hold
      · cases hnew
        exact .inr ⟨rfl, hstored⟩
      · exact .inl ⟨r, hrequest, hold⟩

omit [DecidableEq ι] in
/-- A success that goes on has still to clear what it had to clear, or has just done so. -/
theorem Clears.records (h : Clears cfg w r x time)
    (hphase : r.phase = .recording channelID (.call op next))
    (hnode : RecordingNode cfg.session channelID op next)
    (hx : cfg.session.markKey x ≠ "") {s : Caches}
    (hcaches : w.shared.caches = (op.exec (moment clock) s).1) (r' : Request) :
    Clears cfg w (r'.resume (.recording channelID (next (op.exec (moment clock) s).2))) x time := by
  constructor
  · rcases h.plain with hwill | hspared
    · rw [hphase] at hwill
      rcases Will.call_inv hwill with hclears | hwill
      · refine .inr fun hmark => absurd hmark ?_
        rw [hcaches]
        exact plainMark_of_clears hclears hx clock s
      · exact .inl (r'.will_resume (hwill _))
    · exact .inr hspared
  · rcases h.generation with hwill | hspared
    · rw [hphase] at hwill
      rcases Will.call_inv hwill with hlooks | hwill
      · refine .inr fun negative hmark => .inl (r'.clearing_resume ?_)
        rw [hcaches] at hmark
        exact hnode.clearing_of_looks hlooks clock s hmark
      · exact .inl (r'.will_resume (hwill _))
    · refine .inr fun negative hmark => .inr ?_
      rcases hspared negative hmark with hclearing | hmarked
      · rw [hphase] at hclearing
        rw [hcaches] at hmark
        exact absurd hmark (generationMark_of_clearing hclearing hx clock s)
      · exact hmarked

/-- Every success has still to clear the marks after a timely step, or none stands against it. -/
theorem Fresh.clears_step (hw : Fresh cfg w) (htimely : Timely w e) {r' : Request}
    (hr' : (sessionStep cfg w e).threads i = some r') (hmem : (x, time) ∈ r'.recorded)
    (hx : cfg.session.markKey x ≠ "") :
    Clears cfg (sessionStep cfg w e) r' x time := by
  -- a request that had recorded the success before, with the phase it was in
  have hold : ∀ r, w.threads i = some r → (x, time) ∈ r.recorded →
      Clears cfg (sessionStep cfg w e) r x time := by
    intro r hr hrecorded
    obtain ⟨hplain, hgeneration⟩ := hw.marks_step htimely ⟨r, hr, hrecorded⟩ hx
    exact (hw.clears i r x time hr hrecorded hx).mono (grows_step w e) hplain hgeneration
  obtain ⟨request, after, hrequest, hmove, hshared, hself, hother⟩ := session_move cfg w e
  obtain ⟨k, event⟩ := e
  by_cases hi : i = k
  swap
  · exact hold r' ((hother i hi).symm.trans hr') hmem
  subst hi
  rw [hself] at hr'
  cases hmove with
  | stays _ _ => exact hold r' (hrequest.trans hr') hmem
  | observes _ _ =>
    cases hr'
    cases hmem
  | starts r _ hidle _ =>
    cases hr'
    rw [recorded_resume] at hmem
    exact ((hold r hrequest hmem).spared (by rw [hidle]; exact fun _ h => h)
      (by rw [hidle]; exact fun _ => rfl)).clears _
  | @recovers r _ _ _ _ hphase =>
    cases hr'
    rw [recorded_resume, note, (hw.recoveryOp hrequest hphase).1.records] at hmem
    exact ((hold r hrequest hmem).spared (by rw [hphase]; exact fun _ h => h)
      (by rw [hphase]; exact fun _ => rfl)).clears _
  | @records r _ _ _ next hphase =>
    cases hr'
    obtain ⟨hnode, -⟩ := hw.recordingNode hrequest hphase
    have hcaches := congrArg SessionStore.caches hshared
    rw [recorded_resume, note, mem_append] at hmem
    rcases hmem with hnew | hmem
    · -- the success is recorded now: clearing comes next
      cases hnode with
      | channel next hwill =>
        cases mem_singleton.mp hnew
        obtain ⟨hclears, hlooks⟩ := hwill hx _
        exact ⟨.inl (will_resume _ hclears), .inl (will_resume _ hlooks)⟩
      | aside h _ =>
        rw [records_of_aside h] at hnew
        cases hnew
      | _ => cases hnew
    · exact (hold r hrequest hmem).records hphase hnode hx hcaches _

/-- **Every timely step keeps the invariant.** -/
theorem Fresh.step (hw : Fresh cfg w) (htimely : Timely w e) : Fresh cfg (sessionStep cfg w e) := by
  have htime : (sessionStep cfg w e).shared.time = w.shared.time + 1 := by
    obtain ⟨request, after, -, hmove, hshared, -⟩ := session_move cfg w e
    rw [hshared]
    obtain ⟨k, event⟩ := e
    cases hmove <;> rfl
  have hpast : ∀ i x time, RecordedBy (sessionStep cfg w e) i x time →
      time < (sessionStep cfg w e).shared.time := by
    intro i x time h
    rw [htime]
    rcases hw.recordedBy_step e h with hold | ⟨rfl, -⟩
    · exact Nat.lt_succ_of_lt (hw.past i x time hold)
    · exact Nat.lt_succ_self _
  refine ⟨fun i r' hr' => ?_, hpast, fun i x time y h hstored => ?_, fun i r' x time hr' hmem hx =>
    hw.clears_step htimely hr' hmem hx⟩
  · obtain ⟨request, after, hrequest, hmove, -, hself, hother⟩ := session_move cfg w e
    obtain ⟨k, event⟩ := e
    by_cases hi : i = k
    swap
    · exact hw.sound i r' ((hother i hi).symm.trans hr')
    subst hi
    rw [hself] at hr'
    cases hmove with
    | stays _ _ => exact hw.sound i r' (hrequest.trans hr')
    | observes _ _ =>
      cases hr'
      trivial
    | starts r _ _ hsound =>
      cases hr'
      exact r.sound_resume hsound
    | recovers r clock hphase =>
      cases hr'
      exact sound_resume _ ((hw.recoveryOp hrequest hphase).2 _)
    | records r clock hphase =>
      cases hr'
      exact sound_resume _ ((hw.recordingNode hrequest hphase).2 _)
  · rcases hw.storedChannel_step e with hsame | hnone | ⟨x', hstored', hnew⟩
    · rcases hw.recordedBy_step e h with hold | ⟨-, hx⟩
      · obtain ⟨j, time', hj, hle⟩ := hw.last i x time y hold (hsame ▸ hstored)
        exact ⟨j, time', hj.mono (grows_step w e), hle⟩
      · rw [hx] at hstored
        cases hstored
        exact ⟨i, time, h, le_refl _⟩
    · rw [hnone] at hstored
      cases hstored
    · rw [hstored'] at hstored
      cases hstored
      have hlt := hpast i x time h
      rw [htime] at hlt
      exact ⟨e.1, w.shared.time, hnew, Nat.le_of_lt_succ hlt⟩

theorem fresh_run {caches : Caches} {es : List (ι × SessionEvent)}
    (h : Along (sessionStep cfg) Timely (Requests.start caches) es) :
    Fresh cfg (run (sessionStep cfg) (Requests.start caches) es) := by
  have hstep : ∀ (w : Requests ι) e, Timely w e → Fresh cfg w → Fresh cfg (sessionStep cfg w e) :=
    fun w e htimely hw => hw.step htimely
  exact run_invariant hstep h ⟨fun _ _ h => (nomatch h), fun _ _ _ h => (nomatch h.choose_spec.1),
    fun _ _ _ _ h => (nomatch h.choose_spec.1), fun _ _ _ _ h => (nomatch h)⟩

/-- A timely step of a repair leaves a newer record in place. -/
theorem Fresh.keeps (hw : Fresh cfg w) {j : ι} (htimely : Timely w (j, .go clock))
    (hr : w.threads j = some r) (hfailed : r.phase.failed = some failed)
    (hrecorded : RecordedBy w i x time) (hnewer : r.observedAt < time) :
    storedChannel cfg.session (sessionStep cfg w (j, .go clock)).shared.caches =
        storedChannel cfg.session w.shared.caches ∧
      (sessionStep cfg w (j, .go clock)).shared.caches.at .record cfg.session.cacheKey =
        w.shared.caches.at .record cfg.session.cacheKey := by
  obtain ⟨request, after, hrequest, hmove, hshared, -, -⟩ := session_move cfg w (j, .go clock)
  rw [hshared]
  cases hr.symm.trans hrequest
  cases hmove with
  | stays _ _ => exact ⟨rfl, rfl⟩
  | starts => exact ⟨rfl, rfl⟩
  | records r clock hphase =>
    rw [hphase] at hfailed
    cases hfailed
  | @recovers r clock failed' op next hphase =>
    obtain ⟨hrecord, hstored, -⟩ := (hw.recoveryOp hrequest hphase).1.effect clock w.shared.caches
    refine ⟨?_, hrecord⟩
    rcases hstored with hsame | ⟨hevicts, hchannel, -⟩
    · exact hsame
    · -- the channel that is deleted was recorded after the request saw the affinity
      obtain ⟨i', time', hrecorded', hle⟩ := hw.last i x time failed' hrecorded hchannel
      have hlt := htimely clock rfl r failed' op hr (by rw [hphase]; rfl) (by rw [hphase]; rfl)
        (.inl hevicts) i' time' hrecorded'
      omega

/-- **In every run in which repairs are timely, a stale failure never overrides a newer
success.** -/
theorem stale_failure_harmless (caches : Caches) (es : List (ι × SessionEvent))
    (h : Along (sessionStep cfg) Timely (Requests.start caches) es) :
    StaleFailureHarmless cfg (Requests.start caches) es := by
  constructor
  · rintro before j clock after rfl w r failed i x time hr hfailed hrecorded hnewer
    obtain ⟨hbefore, hrest⟩ := along_append.mp h
    exact (fresh_run hbefore).keeps hrest.1 hr hfailed hrecorded hnewer
  · rintro before after rfl w i r x time j r' hr hmem hidle - - -
    have hw : Fresh cfg w := fresh_run (along_append.mp h).1
    by_cases havoids : avoids cfg w x = true
    · obtain ⟨hx, hmark⟩ := mark_of_avoided havoids
      have hspared : Spared cfg w x time := (hw.clears i r x time hr hmem hx).spared
        (by rw [hidle]; exact fun _ h => h) (by rw [hidle]; exact fun _ => rfl)
      rcases hmark with hplain | ⟨negative, hgeneration⟩
      · exact .inr (hspared.plain hplain)
      · exact .inr (hspared.generation negative hgeneration)
    · exact .inl (Bool.eq_false_iff.mpr havoids)

end

/-! ## A success that is taken for an older one -/

section

/-- Whether a step is timely can be seen from the requests. -/
def isTimely {ι : Type*} [Fintype ι] (w : Requests ι) (e : ι × SessionEvent) : Bool :=
  match e.2, w.threads e.1 with
  | .go _, some r =>
    match r.phase.failed, r.phase.next with
    | some failed, some op =>
      !(op.evicts || op.marks) || decide (∀ i, ∀ entry ∈ ((w.threads i).map Request.recorded).getD [],
        entry.1 = failed → entry.2 < r.observedAt)
    | _, _ => true
  | _, _ => true

theorem timely_of_isTimely {ι : Type*} [Fintype ι] {w : Requests ι} {e : ι × SessionEvent}
    (h : isTimely w e = true) : Timely w e := by
  intro clock hgo r failed op hr hfailed hnext htouches i time hrecorded
  obtain ⟨r', hr', hmem⟩ := hrecorded
  simp only [isTimely, hgo, hr, hfailed, hnext] at h
  have hall := (Bool.or_eq_true _ _ ▸ h).resolve_left (by
    rcases htouches with htouches | htouches <;> simp [htouches])
  exact of_decide_eq_true hall i (failed, time) (by rw [hr']; exact hmem) rfl

/-- A session, with the settings that the repository ships. -/
def sampleConfig : SessionConfig where
  environment := ⟨some ⟨2, 90⟩, id⟩
  affinity := ⟨true, false⟩
  session := ⟨"rule:fingerprint"⟩

/-- An attempt on a channel that failed before anything was sent to the client. -/
def failedOn (channelID : Int) : FailedAttempt where
  requestId := "request"
  channelID := channelID
  choice := ⟨false, 0⟩
  clientResponseCommitted := false
  decision := ⟨true, true, false, "session_route_repair"⟩

/-- A success on a channel. -/
def servedBy (channelID : Int) (generation : String) : Served :=
  ⟨channelID, channelID, ⟨false, 0⟩, generation⟩

/-- The operations of a call, one after the other. -/
def steps {ι : Type} (i : ι) (n : Nat) : List (ι × SessionEvent) := List.replicate n (i, .go 0)

/-- The session has been served by channel 201. -/
def servedSession : Requests (Fin 2) :=
  Requests.start (Caches.empty.put .legacy sampleConfig.session.cacheKey (some (201 : Int)))

/-- Two requests see that. The first fails on channel 201 and repairs the route; after that the
second succeeds on channel 201. -/
def repairThenSuccess : List (Fin 2 × SessionEvent) :=
  [(0, .observe), (1, .observe), (0, .recover (failedOn 201))] ++ steps 0 5 ++
    [(1, .succeed (servedBy 201 "b"))] ++ steps 1 6

/-- The success is not avoided, although the failure was seen before it. -/
theorem stale_failure_harmless_repairThenSuccess :
    StaleFailureHarmless sampleConfig servedSession repairThenSuccess := by
  have hchecked : Along (sessionStep sampleConfig) (fun w e => isTimely w e = true) servedSession
      repairThenSuccess := by
    decide +kernel
  exact stale_failure_harmless _ _ (hchecked.mono fun _ _ => timely_of_isTimely)

/-- The second request succeeds on channel 201 before the first, which has failed there, repairs the
route. -/
def successThenRepair : List (Fin 2 × SessionEvent) :=
  [(0, .observe), (1, .observe), (1, .succeed (servedBy 201 "b"))] ++ steps 1 6 ++
    [(0, .recover (failedOn 201))] ++ steps 0 3

theorem successThenRepair_states :
    let w := run (sessionStep sampleConfig) servedSession successThenRepair
    (w.threads 0).map (fun r => (r.phase.failed, r.observedAt)) = some (some 201, 0) ∧
      (w.threads 1).map recorded = some [(201, 5)] ∧
      storedChannel sampleConfig.session w.shared.caches = some 201 ∧
      storedChannel sampleConfig.session (sessionStep sampleConfig w (0, .go 0)).shared.caches =
        none := by
  decide +kernel

/-- **The repair takes the newer success for the one it saw, and deletes it.** -/
theorem stale_failure_evicts :
    ¬StaleFailureHarmless sampleConfig servedSession (successThenRepair ++ [(0, .go 0)]) := by
  intro h
  obtain ⟨hfailed, hrecorded, hbefore, hafter⟩ := successThenRepair_states
  obtain ⟨r, hr, hfields⟩ := Option.map_eq_some_iff.mp hfailed
  obtain ⟨r', hr', hentries⟩ := Option.map_eq_some_iff.mp hrecorded
  obtain ⟨hphase, hobserved⟩ := Prod.mk.inj hfields
  have hkept := (h.keeps successThenRepair 0 0 [] rfl r 201 1 201 5 hr hphase
    ⟨r', hr', by rw [hentries]; exact mem_singleton.mpr rfl⟩ (by rw [hobserved]; decide)).1
  rw [hbefore, hafter] at hkept
  cases hkept

end

end RenewApi.Sessions
