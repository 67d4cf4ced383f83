import RenewApi.Sessions.Requests

/-! # What single operations do to the affinity and the marks

A session has one stored channel, and two kinds of marks on each channel. This module says once what
every operation of a repair and of a success does to them. -/

namespace RenewApi.Sessions

open Relational Concurrent Program CacheOp

variable {u : Session} {op : CacheOp} {x channelID failed : Int}
  {next : op.Result → CacheProgram Unit} {s : Caches} {negative : ChannelSessionNegative}
  {m : Moment} {c : Cache}

section

variable (u : Session) (s : Caches)

def plainMark (x : Int) : Option Int :=
  s.at .negative (u.markKey x)

def generationMark (x : Int) : Option ChannelSessionNegative :=
  s.at .negativeV2 (u.markKey x)

def storedChannel : Option Int := s.at .legacy u.cacheKey

end

theorem exec_at_of_cache_ne {c' : Cache} {full key : String}
    (htarget : op.target = some (c, full)) (hne : c ≠ c' := by decide) :
    (op.exec m s).1.at c' key = s.at c' key := by
  refine exec_at_of_target_ne m op s fun h => ?_
  rw [htarget] at h
  exact hne (Prod.mk.inj (Option.some.inj h)).1

theorem exec_at_of_channel_ne {y : Int}
    (htarget : op.target = some (c, fullKey c.space (u.markKey y)))
    (hx : u.markKey x ≠ "") (hy : u.markKey y ≠ "")
    (hne : x ≠ y) : (op.exec m s).1.at c (u.markKey x) =
      s.at c (u.markKey x) := by
  refine exec_at_of_target_ne m op s fun h => ?_
  rw [htarget] at h
  exact hne (fullKey_negativeKey_inj hx hy (Prod.mk.inj (Option.some.inj h)).2.symm)

/-! ## A repair -/

theorem records_of_aside (h : op.aside = true) : op.records = none := by
  cases op with
  | setWithTTL c => cases c <;> first | rfl | cases h
  | _ => rfl

/-- **What an operation of a repair does**: it deletes at most its own channel, never a record that
a success has stored, and marks no other. -/
theorem RecoveryOp.effect (h : RecoveryOp u.key failed op) (clock : Int) (s : Caches) :
    (op.exec (moment clock) s).1.at .record u.cacheKey = s.at .record u.cacheKey ∧
      (storedChannel u (op.exec (moment clock) s).1 = storedChannel u s ∨
        (op.evicts = true ∧ storedChannel u s = some failed ∧
          storedChannel u (op.exec (moment clock) s).1 = none)) ∧
      ∀ x, u.markKey x ≠ "" →
        (plainMark u (op.exec (moment clock) s).1 x = plainMark u s x ∧
          generationMark u (op.exec (moment clock) s).1 x = generationMark u s x) ∨
        (x = failed ∧ op.marks = true) := by
  cases h with
  | aside h =>
    exact ⟨exec_at_of_aside h _ _ rfl _, .inl (exec_at_of_aside h _ _ rfl _), fun x _ =>
      .inl ⟨exec_at_of_aside h _ _ rfl _, exec_at_of_aside h _ _ rfl _⟩⟩
  | dropRecord =>
    refine ⟨exec_at_of_target_ne _ _ _ fun h => ?_, .inl ?_, fun x _ => .inl ⟨?_, ?_⟩⟩
    · exact u.fullKey_record_ne (Prod.mk.inj (Option.some.inj h)).2
    · exact exec_at_of_cache_ne rfl
    · exact exec_at_of_cache_ne rfl
    · exact exec_at_of_cache_ne rfl
  | dropChannel =>
    refine ⟨exec_at_of_cache_ne rfl, ?_, fun x _ =>
      .inl ⟨?_, ?_⟩⟩
    · by_cases hsame : fullKey Cache.legacy.space u.key = fullKey Cache.legacy.space u.cacheKey
      · rw [storedChannel, storedChannel, ← Caches.at_congr _ hsame, ← Caches.at_congr _ hsame]
        have hkey : fullKey Cache.legacy.space u.key ≠ "" := hsame ▸ u.fullKey_legacy_ne
        rcases exec_compareAndDelete_at (m := moment clock) rfl hkey failed s with
          ⟨hchannel, hdeleted⟩ | ⟨-, hkept⟩
        · exact .inr ⟨rfl, hchannel, hdeleted⟩
        · exact .inl hkept
      · exact .inl (exec_at_of_target_ne _ _ _ fun h => hsame (Prod.mk.inj (Option.some.inj h)).2)
    · exact exec_at_of_cache_ne rfl
    · exact exec_at_of_cache_ne rfl
  | mark hkey =>
    refine ⟨exec_at_of_cache_ne rfl, .inl (exec_at_of_cache_ne rfl), fun x hx => ?_⟩
    by_cases hne : x = failed
    · exact .inr ⟨hne, rfl⟩
    · exact .inl ⟨exec_at_of_channel_ne rfl hx hkey hne, exec_at_of_cache_ne rfl⟩
  | markV2 hkey =>
    refine ⟨exec_at_of_cache_ne rfl, .inl (exec_at_of_cache_ne rfl), fun x hx => ?_⟩
    by_cases hne : x = failed
    · exact .inr ⟨hne, rfl⟩
    · exact .inl ⟨exec_at_of_cache_ne rfl, exec_at_of_channel_ne rfl hx hkey hne⟩

theorem RecoveryOp.records (h : RecoveryOp u.key failed op) : op.records = none := by
  cases h with
  | aside h => exact records_of_aside h
  | _ => rfl

/-! ## A success -/

/-- **What an operation of a success does**: it stores its channel or leaves the stored one alone,
and it sets no marks. -/
theorem RecordingNode.effect (h : RecordingNode u channelID op next) (clock : Int) (s : Caches) :
    ((op.records = none ∧ storedChannel u (op.exec (moment clock) s).1 = storedChannel u s) ∨
        (op.records = some channelID ∧
          storedChannel u (op.exec (moment clock) s).1 = some channelID)) ∧
      ∀ x, u.markKey x ≠ "" →
        (plainMark u (op.exec (moment clock) s).1 x = plainMark u s x ∨
            plainMark u (op.exec (moment clock) s).1 x = none) ∧
          (generationMark u (op.exec (moment clock) s).1 x = generationMark u s x ∨
            generationMark u (op.exec (moment clock) s).1 x = none) := by
  cases h with
  | aside h _ =>
    exact ⟨.inl ⟨records_of_aside h, exec_at_of_aside h _ _ rfl _⟩, fun x _ =>
      ⟨.inl (exec_at_of_aside h _ _ rfl _), .inl (exec_at_of_aside h _ _ rfl _)⟩⟩
  | record =>
    exact ⟨.inl ⟨rfl, exec_at_of_cache_ne rfl⟩, fun x _ =>
      ⟨.inl (exec_at_of_cache_ne rfl), .inl (exec_at_of_cache_ne rfl)⟩⟩
  | channel =>
    exact ⟨.inr ⟨rfl, exec_setWithTTL_at rfl u.fullKey_legacy_ne _ _⟩, fun x _ =>
      ⟨.inl (exec_at_of_cache_ne rfl), .inl (exec_at_of_cache_ne rfl)⟩⟩
  | clear hkey next =>
    refine ⟨.inl ⟨rfl, exec_at_of_cache_ne rfl⟩, fun x hx =>
      ⟨?_, .inl (exec_at_of_cache_ne rfl)⟩⟩
    by_cases hne : x = channelID
    · subst hne
      exact (exec_compareAndDelete_at rfl (fullKey_negativeKey_ne _ hkey) _ _).elim
        (fun h => .inr h.2) fun h => .inl h.2
    · exact .inl (exec_at_of_channel_ne rfl hx hkey hne)
  | look =>
    exact ⟨.inl ⟨rfl, exec_at_of_target_ne _ _ _ nofun⟩, fun x _ =>
      ⟨.inl (exec_at_of_target_ne _ _ _ nofun), .inl (exec_at_of_target_ne _ _ _ nofun)⟩⟩
  | clearV2 hkey =>
    refine ⟨.inl ⟨rfl, exec_at_of_cache_ne rfl⟩, fun x hx =>
      ⟨.inl (exec_at_of_cache_ne rfl), ?_⟩⟩
    by_cases hne : x = channelID
    · subst hne
      exact (exec_compareAndDelete_at rfl (fullKey_negativeKey_ne _ hkey) _ _).elim
        (fun h => .inr h.2) fun h => .inl h.2
    · exact .inl (exec_at_of_channel_ne rfl hx hkey hne)

theorem plainMark_of_clears (h : op.clears (u.markKey x))
    (hx : u.markKey x ≠ "") (clock : Int) (s : Caches) :
    plainMark u (op.exec (moment clock) s).1 x ≠ some 1 := by
  cases op with
  | compareAndDelete c =>
    cases c with
    | negative =>
      obtain ⟨rfl, rfl⟩ := h
      rcases exec_compareAndDelete_at (m := moment clock) rfl
        (fullKey_negativeKey_ne Cache.negative.space hx) (1 : Int) s with ⟨-, hnone⟩ | ⟨hother, hsame⟩
      · rw [plainMark, hnone]
        nofun
      · rw [plainMark, hsame]
        exact hother
    | _ => exact h.elim
  | _ => exact h.elim

theorem RecordingNode.clearing_of_looks (h : RecordingNode u channelID op next)
    (hlooks : op.looks (u.markKey x)) (clock : Int) (s : Caches)
    (hmark : generationMark u (op.exec (moment clock) s).1 x = some negative) :
    (Phase.recording channelID (next (op.exec (moment clock) s).2)).clearing
      (u.markKey x) = some negative := by
  cases h with
  | aside _ hnot => exact absurd hlooks (hnot _)
  | look hkey next hnext =>
    have hsame : u.markKey channelID = u.markKey x := hlooks
    have hget : exec (moment clock)
        (.get .negativeV2 (u.markKey channelID)) s =
          (s, .ok (s.at .negativeV2 (u.markKey channelID))) :=
      exec_get_of_reachable rfl (fullKey_negativeKey_ne Cache.negativeV2.space hkey) s
    rw [hget] at hmark ⊢
    rw [generationMark, ← hsame] at hmark
    rw [← hsame]
    rw [hmark]
    obtain ⟨rest, hrest⟩ := hnext negative
    exact (congrArg (fun p => (Phase.recording channelID p).clearing _) hrest).trans (if_pos rfl)
  | _ => exact hlooks.elim

theorem generationMark_of_clearing
    (h : (Phase.recording channelID (.call op next)).clearing (u.markKey x) =
      some negative)
    (hx : u.markKey x ≠ "") (clock : Int) (s : Caches) :
    generationMark u (op.exec (moment clock) s).1 x ≠ some negative := by
  unfold Phase.clearing at h
  split at h
  · next heq =>
    cases heq
    split at h
    · next hkey =>
      cases h
      subst hkey
      rcases exec_compareAndDelete_at (m := moment clock) rfl
        (fullKey_negativeKey_ne Cache.negativeV2.space hx) negative s with ⟨-, hnone⟩ | ⟨hother, hsame⟩
      · rw [generationMark, hnone]
        nofun
      · rw [generationMark, hsame]
        exact hother
    · cases h
  · cases h

/-! ## Avoided channels -/

theorem plainMark_of_negative
    (h : ((channelAffinityNegative u.key x).alone (exec (moment 0)) s).2 = true) :
    u.markKey x ≠ "" ∧ plainMark u s x = some 1 := by
  unfold channelAffinityNegative at h
  dsimp only at h
  split at h
  · cases h
  · next hx =>
    refine ⟨hx, ?_⟩
    rw [alone_call, exec_get_of_reachable rfl (fullKey_negativeKey_ne _ hx)] at h
    rw [show s.at .negative (u.markKey x) = plainMark u s x from rfl] at h
    cases hmark : plainMark u s x with
    | none =>
      rw [hmark] at h
      cases h
    | some =>
      rw [hmark] at h
      exact congrArg some (of_decide_eq_true h)

/-- **A channel is avoided only where a mark stands against it.** -/
theorem mark_of_avoided
    (h : ((shouldAvoidChannelForSession u.key x).alone (exec (moment 0)) s).2 = true) :
    u.markKey x ≠ "" ∧
      (plainMark u s x = some 1 ∨ ∃ negative, generationMark u s x = some negative) := by
  have hplain : ((channelAffinityNegative u.key x).alone (exec (moment 0)) s).2 = true →
      u.markKey x ≠ "" ∧
        (plainMark u s x = some 1 ∨ ∃ negative, generationMark u s x = some negative) :=
    fun h => (plainMark_of_negative h).imp_right .inl
  have hreads : ∀ op, (∃ c key, op = get c key) → ∀ s, (op.exec (moment 0) s).1 = s := by
    rintro _ ⟨c, key, rfl⟩ s
    rcases exec_get_cases (moment 0) c key s with ⟨-, hget⟩ | hget | ⟨-, hget⟩ <;> rw [hget]
  unfold shouldAvoidChannelForSession at h
  rw [alone_bind, (only_getAffinityRecord fun c key => ⟨c, key, rfl⟩).alone_fst hreads] at h
  split at h
  · next record _ =>
    split at h
    · next hchannel =>
      -- the record names the channel: the mark for its generation decides, if there is one
      subst hchannel
      unfold channelAffinityNegativeForRecord at h
      dsimp only at h
      split at h
      · cases h
      · split at h
        · cases h
        · next hx =>
          rw [alone_call, exec_get_of_reachable rfl (fullKey_negativeKey_ne _ hx)] at h
          cases hmark : s.at .negativeV2 (u.markKey record.channelID) with
          | none =>
            rw [hmark] at h
            exact hplain h
          | some negative => exact ⟨hx, .inr ⟨negative, hmark⟩⟩
    · exact hplain h
  · exact hplain h

end RenewApi.Sessions
