import Mathlib.Data.List.Sort

/-! # Assignment lists of an update

An `UPDATE … SET` is a list of assignments to columns of one row. What a right-hand side reads while
the list is executed differs between databases.

* **Old row** (`Dialect.oldRow`): every right-hand side reads the row as it was before the
  statement.
* **Left to right** (`Dialect.leftToRight`): an assignment reads the columns that the assignments
  before it have written. -/

namespace RenewApi.Relational

universe u

/-- **An assignment**: its column, and the write of what it computes from the row it reads (first
argument) into the row that is updated (second argument). -/
structure Assignment (R : Type u) where
  column : String
  assign : R → R → R

/-- What the right-hand sides of a list read. -/
inductive Dialect where
  | oldRow
  | leftToRight
  deriving DecidableEq

variable {R : Type u}

def Dialect.update : Dialect → List (Assignment R) → R → R
  | .oldRow, as, r => as.foldl (fun t a => a.assign r t) r
  | .leftToRight, as, r => as.foldl (fun t a => a.assign t t) r

/-- The assignments in the alphabetical order of their columns. -/
def alphabetical (as : List (Assignment R)) : List (Assignment R) :=
  ((as.map Assignment.column).insertionSort (· ≤ ·)).filterMap fun c =>
    as.find? (·.column = c)

/-- The second assignment does not read what the first one writes. -/
def Blind (a b : Assignment R) : Prop := ∀ r t u, b.assign (a.assign r t) u = b.assign t u

/-- **The dialects agree** on a list in which no assignment reads what one before it has written. -/
theorem update_leftToRight {as : List (Assignment R)} (h : as.Pairwise Blind) (r : R) :
    Dialect.update .leftToRight as r = Dialect.update .oldRow as r := by
  -- along the list, the assignments to come cannot tell the current row from the old one
  have hfold : ∀ (as : List (Assignment R)) (t : R), as.Pairwise Blind →
      (∀ b ∈ as, ∀ u, b.assign t u = b.assign r u) →
        as.foldl (fun t a => a.assign t t) t = as.foldl (fun t a => a.assign r t) t := by
    intro as
    induction as with
    | nil => exact fun _ _ _ => rfl
    | cons a as ih =>
      intro t hpair hsame
      obtain ⟨hblind, hrest⟩ := List.pairwise_cons.mp hpair
      rw [List.foldl_cons, hsame a List.mem_cons_self]
      refine ih (a.assign r t) hrest fun b hb u => ?_
      rw [hblind b hb r t u, hsame b (List.mem_cons_of_mem a hb)]
  exact hfold as r h fun _ _ _ => rfl

end RenewApi.Relational
