import RenewApi.Relational.Transaction

/-! # Writes from a copy

Processes share a record. Each reads it, works on its copy, and later stores the copy back, whole or
in part. -/

namespace RenewApi.Relational

structure StaleWrite (S C : Type*) where
  base : S
  carries : C → Bool
  stores : C → Bool
  result : S

/-- The write does what it says: a column that it does not carry gets the value of the copy if it is
stored, and otherwise stays. -/
def StaleWrite.Sound {S C V : Type*} (column : C → S → V) (row : S) (w : StaleWrite S C) : Prop :=
  ∀ c, w.carries c = false → column c w.result = column c (if w.stores c then w.base else row)

section

variable {σ E S C V : Type*} (column : C → S → V) (row : σ → S) (step : σ → E → σ)
  (write : σ → E → Option (StaleWrite S C))

/-- The shared record of a system changes by these writes only. -/
structure WritesOnly : Prop where
  idle : ∀ s e, write s e = none → row (step s e) = row s
  stored : ∀ s e w, write s e = some w → row (step s e) = w.result ∧ w.Sound column (row s)

def Carried (c : C) (s : σ) (e : E) : Prop := ∃ w, write s e = some w ∧ w.carries c = true

instance (c : C) (s : σ) (e : E) : Decidable (Carried write c s e) :=
  decidable_of_iff ((write s e).any (·.carries c) = true) (by simp [Carried, Option.any_eq_true])

/-- **The write is up to date**: the copy has the current value of everything that is stored without
being carried. -/
def UpToDate (s : σ) (e : E) : Prop :=
  ∀ w, write s e = some w → ∀ c, w.carries c = false → w.stores c = true →
    column c w.base = column c (row s)

/-- The step keeps every column that it does not carry. -/
def KeepsOthers (s : σ) (e : E) : Prop :=
  ∀ c, ¬Carried write c s e → column c (row (step s e)) = column c (row s)

variable {column row step write} {s : σ} {e : E}

theorem upToDate_of_none (h : write s e = none) : UpToDate column row write s e := by
  intro w hw
  rw [h] at hw
  cases hw

theorem upToDate_of_base {w : StaleWrite S C} (h : write s e = some w) (hbase : w.base = row s) :
    UpToDate column row write s e := by
  intro w' hw' c _ _
  rw [h] at hw'
  cases hw'
  rw [hbase]

/-- **A write keeps what it does not carry exactly when it is up to date.** -/
theorem keepsOthers_iff (h : WritesOnly column row step write) :
    KeepsOthers column row step write s e ↔ UpToDate column row write s e := by
  constructor
  · intro hkeeps w hw c hcarries hstores
    obtain ⟨hrow, hsound⟩ := h.stored s e w hw
    have hnot : ¬Carried write c s e := by
      rintro ⟨w', hw', hc⟩
      rw [hw] at hw'
      cases hw'
      rw [hcarries] at hc
      cases hc
    have hcolumn := hsound c hcarries
    rw [if_pos hstores] at hcolumn
    rw [← hcolumn, ← hrow]
    exact hkeeps c hnot
  · intro hfresh c hnot
    cases hw : write s e with
    | none => rw [h.idle s e hw]
    | some w =>
      obtain ⟨hrow, hsound⟩ := h.stored s e w hw
      have hcarries : w.carries c = false := by
        by_contra hc
        exact hnot ⟨w, hw, by simpa using hc⟩
      rw [hrow, hsound c hcarries]
      split
      · rename_i hstores
        exact hfresh w hw c hcarries hstores
      · rfl

/-- **A column keeps its value through every run of writes that are up to date and do not carry
it.** -/
theorem column_run (h : WritesOnly column row step write) {c : C} {es : List E}
    (hfresh : Along step (UpToDate column row write) s es)
    (hnot : Along step (fun s e => ¬Carried write c s e) s es) :
    column c (row (run step s es)) = column c (row s) := by
  induction es generalizing s with
  | nil => rfl
  | cons e es ih =>
    rw [run_cons, ih hfresh.2 hnot.2]
    exact (keepsOthers_iff h).mpr hfresh.1 c hnot.1

end

end RenewApi.Relational
