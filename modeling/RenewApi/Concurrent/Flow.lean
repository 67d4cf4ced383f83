import Mathlib.Algebra.Order.Group.Defs
import Mathlib.Algebra.Order.Monoid.Unbundled.Basic
import RenewApi.Relational.Transaction

/-! # What accrues over a run

A quantity that every step of a system moves by some amount. Over a run, the amounts add up.

* **The flow of a run** (`run_eq_add_accrued`): a quantity that each step moves by an amount has
  moved by what has accrued. -/

namespace RenewApi.Concurrent

open Relational

variable {σ E M : Type*} (step : σ → E → σ)

/-- The sum of an amount over the steps of a run. -/
def accrued [Zero M] [Add M] (f : σ → E → M) : σ → List E → M
  | _, [] => 0
  | s, e :: es => f s e + accrued f (step s e) es

variable {step}

@[simp] theorem accrued_nil [Zero M] [Add M] (f : σ → E → M) (s : σ) : accrued step f s [] = 0 := rfl

@[simp] theorem accrued_cons [Zero M] [Add M] (f : σ → E → M) (s : σ) (e : E) (es : List E) :
    accrued step f s (e :: es) = f s e + accrued step f (step s e) es := rfl

variable {I : σ → Prop} {f : σ → E → M} {s : σ}

theorem run_eq_add_accrued [AddCommGroup M] (hI : ∀ s e, I s → I (step s e)) {quantity : σ → M}
    (hstep : ∀ s e, I s → quantity (step s e) = quantity s + f s e) (hs : I s) (es : List E) :
    quantity (run step s es) = quantity s + accrued step f s es := by
  induction es generalizing s with
  | nil => simp
  | cons e es ih => rw [run_cons, ih (hI s e hs), hstep s e hs, accrued_cons, add_assoc]

theorem accrued_sub [AddCommGroup M] (f g : σ → E → M) (s : σ) (es : List E) :
    accrued step (fun s e => f s e - g s e) s es = accrued step f s es - accrued step g s es := by
  induction es generalizing s with
  | nil => simp
  | cons e es ih => rw [accrued_cons, ih, accrued_cons, accrued_cons, add_sub_add_comm]

variable [AddCommGroup M] [PartialOrder M] [IsOrderedAddMonoid M] (hI : ∀ s e, I s → I (step s e))
  (hf : ∀ s e, I s → 0 ≤ f s e) (hs : I s)
include hI hf hs

theorem accrued_nonneg (es : List E) : 0 ≤ accrued step f s es := by
  induction es generalizing s with
  | nil => exact le_rfl
  | cons e es ih => exact add_nonneg (hf s e hs) (ih (hI s e hs))

/-- **Nothing accrues** just if no step has any of it. -/
theorem accrued_eq_zero_iff (es : List E) :
    accrued step f s es = 0 ↔ Along step (fun s e => f s e = 0) s es := by
  induction es generalizing s with
  | nil => simp
  | cons e es ih =>
    rw [accrued_cons, along_cons, add_eq_zero_iff_of_nonneg (hf s e hs)
      (accrued_nonneg hI hf (hI s e hs) es), ih (hI s e hs)]

end RenewApi.Concurrent
