import RenewApi.Relational.Table

/-! # Transactions, runs and postings

`run step s es` executes a finite interleaving. `Along step C s es` says that every step met the
condition `C`, and `run_invariant` is the one induction over runs. -/

namespace RenewApi.Relational

open Table

universe u v

section

variable {σ : Type*} {ε : Type u} {α β : Type v} {tx : σ → Except ε (σ × α)} {x : Except ε α}
  {a : α} {f : α → Except ε β} {b : β}

theorem bind_eq_ok : (x >>= f) = .ok b ↔ ∃ a, x = .ok a ∧ f a = .ok b := by
  cases x with
  | error e => simp [bind, Except.bind]
  | ok a => simp [bind, Except.bind]

theorem ok_inj {a' : α} {b' : β} (h : Except.ok (ε := ε) (a, b) = .ok (a', b')) :
    a' = a ∧ b' = b := by
  cases h
  exact ⟨rfl, rfl⟩

variable {e : ε} {p : Prop}

theorem guard_eq_ok [Decidable p] : (if p then .error e else x) = .ok a ↔ ¬ p ∧ x = .ok a := by
  by_cases hp : p <;> simp [hp]

theorem skip_eq_ok [Decidable p] {b : α} :
    (if p then .ok a else x) = .ok b ↔ (p ∧ b = a) ∨ (¬ p ∧ x = .ok b) := by
  by_cases hp : p <;> simp [hp, eq_comm]

theorem bind_ne_error (hx : x ≠ .error e) (hf : ∀ a, x = .ok a → f a ≠ .error e) :
    (x >>= f) ≠ .error e := by
  cases x with
  | error e' => exact fun h => hx (congrArg Except.error (Except.error.inj h))
  | ok a => exact hf a rfl

theorem guard_ne_error [Decidable p] {e' : ε} (hne : e' ≠ e) (hx : x ≠ .error e) :
    (if p then .error e' else x) ≠ .error e := by
  split
  · exact fun h => hne (Except.error.inj h)
  · exact hx

theorem updateOne_bind_eq_ok {R : Type v} {K : Type*} [Row R K] [DecidableEq K] {t : Table R}
    {k : K} {p : R → Bool} {f : R → R} {hf : ∀ r, Row.key (f r) = Row.key r} {g : Table R → β}
    {q : R → Prop} (hp : ∀ r, p r = true ↔ Row.key r = k ∧ q r) :
    (t.updateOne p f e hf >>= fun t' => .ok (g t')) = .ok b ↔
      ∃ r, t.find? k = some r ∧ q r ∧ b = g (t.put (f r)) := by
  rw [bind_eq_ok]
  have hkey : ∀ r, p r = true → Row.key r = k := fun r hpr => ((hp r).mp hpr).1
  constructor
  · rintro ⟨t', ht', hb⟩
    obtain ⟨r, hr, hpr, rfl⟩ := (updateOne_eq_ok hf hkey).mp ht'
    exact ⟨r, hr, ((hp r).mp hpr).2, (Except.ok.inj hb).symm⟩
  · rintro ⟨r, hr, hq, rfl⟩
    have hpr : p r = true := (hp r).mpr ⟨key_of_find? hr, hq⟩
    exact ⟨_, (updateOne_eq_ok hf hkey).mpr ⟨r, hr, hpr, rfl⟩, rfl⟩

/-- **`DB.Transaction`**: commit the state of a successful body, roll a failed one back. -/
def transaction (tx : σ → Except ε (σ × α)) (s : σ) : σ × Except ε α :=
  match tx s with
  | .ok (s', a) => (s', .ok a)
  | .error e => (s, .error e)

variable {s : σ}

theorem transaction_ok {s' : σ} (h : tx s = .ok (s', a)) : transaction tx s = (s', .ok a) := by
  rw [transaction, h]

theorem transaction_error (h : tx s = .error e) : transaction tx s = (s, .error e) := by
  rw [transaction, h]

theorem transaction_snd_eq_ok (h : (transaction tx s).2 = .ok a) :
    tx s = .ok ((transaction tx s).1, a) := by
  cases htx : tx s with
  | error e => rw [transaction_error htx] at h; cases h
  | ok r =>
    rw [transaction_ok htx] at h ⊢
    cases h
    rfl

theorem transaction_cases {P : σ → Prop} (hfail : P s)
    (hok : ∀ s' a, tx s = .ok (s', a) → P s') : P (transaction tx s).1 := by
  cases h : tx s with
  | error e => rw [transaction_error h]; exact hfail
  | ok r => rw [transaction_ok h]; exact hok r.1 r.2 h

end

/-! ## Runs -/

section

variable {σ : Type u} {E : Type v} (step : σ → E → σ) {C D : σ → E → Prop} {es : List E}
  {I : σ → Prop}

/-- The state after a finite sequence of atomic events. -/
def run (s : σ) (es : List E) : σ := es.foldl step s

@[simp] theorem run_nil (s : σ) : run step s [] = s := rfl

@[simp] theorem run_cons (s : σ) (e : E) (es : List E) :
    run step s (e :: es) = run step (step s e) es := rfl

theorem run_append (s : σ) (es fs : List E) :
    run step s (es ++ fs) = run step (run step s es) fs := List.foldl_append

/-- Every event of the run meets `C` in the state it is executed in. -/
def Along (C : σ → E → Prop) : σ → List E → Prop
  | _, [] => True
  | s, e :: es => C s e ∧ Along C (step s e) es

variable {step} {s : σ}

@[simp] theorem along_nil (s : σ) : Along step C s [] := trivial

@[simp] theorem along_cons (s : σ) (e : E) (es : List E) :
    Along step C s (e :: es) ↔ C s e ∧ Along step C (step s e) es := Iff.rfl

instance Along.decidable {C : σ → E → Prop} [∀ s e, Decidable (C s e)] :
    ∀ (s : σ) (es : List E), Decidable (Along step C s es)
  | _, [] => isTrue trivial
  | s, e :: es => @instDecidableAnd _ _ _ (Along.decidable (step s e) es)

theorem along_of_forall (h : ∀ e ∈ es, ∀ s, C s e) (s : σ) : Along step C s es := by
  induction es generalizing s with
  | nil => trivial
  | cons e es ih =>
    exact ⟨h e (by simp) s, ih (fun e' he' => h e' (by simp [he'])) (step s e)⟩

theorem along_append {fs : List E} :
    Along step C s (es ++ fs) ↔ Along step C s es ∧ Along step C (run step s es) fs := by
  induction es generalizing s with
  | nil => simp
  | cons e es ih => rw [List.cons_append, along_cons, along_cons, run_cons, ih, and_assoc]

theorem Along.mono (h : ∀ s e, C s e → D s e) (hC : Along step C s es) : Along step D s es := by
  induction es generalizing s with
  | nil => trivial
  | cons e es ih => exact ⟨h s e hC.1, ih hC.2⟩

theorem Along.and (hC : Along step C s es) (hD : Along step D s es) :
    Along step (fun s e => C s e ∧ D s e) s es := by
  induction es generalizing s with
  | nil => trivial
  | cons e es ih => exact ⟨⟨hC.1, hD.1⟩, ih hC.2 hD.2⟩

theorem along_congr (hI : ∀ s e, I s → I (step s e)) (h : ∀ s e, I s → (C s e ↔ D s e)) (hs : I s)
    (es : List E) : Along step C s es ↔ Along step D s es := by
  induction es generalizing s with
  | nil => exact Iff.rfl
  | cons e es ih => rw [along_cons, along_cons, h s e hs, ih (hI s e hs)]

/-- **Invariants of runs**: what every step that meets `C` preserves holds after every run along
which `C` is met. -/
theorem run_invariant (hstep : ∀ s e, C s e → I s → I (step s e)) (hC : Along step C s es)
    (hI : I s) : I (run step s es) := by
  induction es generalizing s with
  | nil => exact hI
  | cons e es ih => exact ih hC.2 (hstep s e hC.1 hI)

theorem run_invariant_all (hstep : ∀ s e, I s → I (step s e)) (es : List E) (hI : I s) :
    I (run step s es) :=
  run_invariant (C := fun _ _ => True) (fun s e _ => hstep s e)
    (along_of_forall (fun _ _ _ => trivial) s) hI

end

section

variable {R : Type u} {K : Type v} [Row R K] {A M : Type*} [AddCommGroup M]

/-- The part of an account's balance that the postings in `t` do not explain. -/
def drift (balance : A → M) (t : Table R) (post : R → A → M) (a : A) : M :=
  balance a - t.sum (fun r => post r a)

variable [DecidableEq K] {balance balance' : A → M} {t : Table R} {post : R → A → M} {a : A}

theorem drift_put {r old : R} (hold : t.find? (Row.key r) = some old)
    (hbal : balance' a = balance a + (post r a - post old a)) :
    drift balance' (t.put r) post a = drift balance t post a := by
  rw [drift, drift, sum_put hold, hbal]; abel

theorem drift_insert {r : R} (hfresh : t.find? (Row.key r) = none)
    (hbal : balance' a = balance a + post r a) :
    drift balance' (t.insert r) post a = drift balance t post a := by
  rw [drift, drift, sum_insert hfresh, hbal]; abel

end

end RenewApi.Relational
