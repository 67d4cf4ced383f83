import Mathlib.Logic.Function.Basic
import RenewApi.Relational.Transaction

/-! # Programs of atomic operations, interleaved

Code that shares a store with other code is a sequence of atomic operations on it. Which operation
comes next depends on the answers to the ones before. -/

namespace RenewApi.Concurrent

open Relational Function

/-- A tree of operations that ends in a result. -/
inductive Program (Op : Type) (Res : Op → Type) (α : Type) : Type where
  | done (result : α)
  | call (op : Op) (next : Res op → Program Op Res α)

namespace Program

variable {Op : Type} {Res : Op → Type} {α β σ : Type}

/-- One program after the other. -/
protected def bind : Program Op Res α → (α → Program Op Res β) → Program Op Res β
  | .done result, f => f result
  | .call op next, f => .call op fun answer => (next answer).bind f

instance : Monad (Program Op Res) where
  pure := .done
  bind := Program.bind

def perform (op : Op) : Program Op Res (Res op) := .call op .done

section

variable (exec : (op : Op) → σ → σ × Res op)

def step (s : σ) : Program Op Res α → σ × Program Op Res α
  | .done result => (s, .done result)
  | .call op next => ((exec op s).1, next (exec op s).2)

@[simp] theorem step_call (s : σ) (op : Op) (next : Res op → Program Op Res α) :
    (Program.call op next).step exec s = ((exec op s).1, next (exec op s).2) := rfl

/-- The program runs to its end with nothing in between. -/
def alone : Program Op Res α → σ → σ × α
  | .done result, s => (s, result)
  | .call op next, s => (next (exec op s).2).alone (exec op s).1

@[simp] theorem alone_done (a : α) (s : σ) :
    (Program.done a : Program Op Res α).alone exec s = (s, a) := rfl

@[simp] theorem alone_call (op : Op) (next : Res op → Program Op Res α) (s : σ) :
    (Program.call op next).alone exec s = (next (exec op s).2).alone exec (exec op s).1 := rfl

theorem alone_bind (p : Program Op Res α) (f : α → Program Op Res β) (s : σ) :
    (p >>= f).alone exec s = (f (p.alone exec s).2).alone exec (p.alone exec s).1 := by
  induction p generalizing s with
  | done => rfl
  | call op next ih => exact ih _ _

end

/-- Every operation that the program may perform, with what comes after it, is in a relation. -/
inductive Throughout (Q : (op : Op) → (Res op → Program Op Res α) → Prop) : Program Op Res α → Prop
  | done (result : α) : Throughout Q (.done result)
  | call {op next} (h : Q op next) (hnext : ∀ answer, Throughout Q (next answer)) :
      Throughout Q (.call op next)

/-- The program performs such operations only. -/
inductive Only (P : Op → Prop) : Program Op Res α → Prop
  | done (result : α) : Only P (.done result)
  | call {op next} (h : P op) (hnext : ∀ answer, Only P (next answer)) : Only P (.call op next)

/-- The program performs such an operation whatever the answers are. -/
inductive Will (P : Op → Prop) : Program Op Res α → Prop
  | now {op next} (h : P op) : Will P (.call op next)
  | later {op next} (hnext : ∀ answer, Will P (next answer)) : Will P (.call op next)

/-- Whatever the answers, the program ends in a result of some kind. -/
inductive Ends (P : α → Prop) : Program Op Res α → Prop
  | done {result : α} (h : P result) : Ends P (.done result)
  | call {op next} (hnext : ∀ answer, Ends P (next answer)) : Ends P (.call op next)

variable {op : Op} {P : Op → Prop} {p : Program Op Res α} {next : Res op → Program Op Res α}
  {Q : (op : Op) → (Res op → Program Op Res α) → Prop}

theorem Throughout.call_inv (h : (Program.call op next).Throughout Q) :
    Q op next ∧ ∀ answer, (next answer).Throughout Q := by
  cases h with
  | call h hnext => exact ⟨h, hnext⟩

theorem Only.call_inv (h : (Program.call op next).Only P) :
    P op ∧ ∀ answer, (next answer).Only P := by
  cases h with
  | call h hnext => exact ⟨h, hnext⟩

theorem Will.call_inv (h : (Program.call op next).Will P) :
    P op ∨ ∀ answer, (next answer).Will P := by
  cases h with
  | now h => exact .inl h
  | later hnext => exact .inr hnext

theorem Ends.mono {P Q : α → Prop} (hp : p.Ends P) (h : ∀ a, P a → Q a) : p.Ends Q := by
  induction hp with
  | done hresult => exact .done (h _ hresult)
  | call _ ih => exact .call ih

theorem Only.throughout (hp : p.Only P) (h : ∀ op next, P op → Q op next) : p.Throughout Q := by
  induction hp with
  | done result => exact .done result
  | call hop _ ih => exact .call (h _ _ hop) ih

theorem Only.alone_fst (hp : p.Only P) {exec : (op : Op) → σ → σ × Res op}
    (h : ∀ op, P op → ∀ s, (exec op s).1 = s) (s : σ) : (p.alone exec s).1 = s := by
  induction hp with
  | done => rfl
  | call hop _ ih => rw [alone_call, h _ hop, ih]

theorem Only.ite {c : Prop} [Decidable c] {q : Program Op Res α} (hp : c → p.Only P)
    (hq : ¬c → q.Only P) : (if c then p else q).Only P := by
  split
  · next h => exact hp h
  · next h => exact hq h

theorem Only.bind {f : α → Program Op Res β} (hp : p.Only P) (hf : ∀ a, (f a).Only P) :
    (p >>= f).Only P := by
  induction hp with
  | done result => exact hf result
  | call h _ ih => exact .call h ih

end Program

/-- A store, and the threads that share it. -/
structure World (ι σ τ : Type*) where
  shared : σ
  threads : ι → τ

namespace World

variable {ι σ τ X : Type*} [DecidableEq ι] (act : X → σ → τ → σ × τ)

/-- A step of one thread, with an input from outside. -/
def step (w : World ι σ τ) (e : ι × X) : World ι σ τ :=
  let after := act e.2 w.shared (w.threads e.1)
  ⟨after.1, update w.threads e.1 after.2⟩

variable {act}

@[simp] theorem shared_step (w : World ι σ τ) (e : ι × X) :
    (w.step act e).shared = (act e.2 w.shared (w.threads e.1)).1 := rfl

@[simp] theorem threads_step_self (w : World ι σ τ) (i : ι) (x : X) :
    (w.step act (i, x)).threads i = (act x w.shared (w.threads i)).2 := update_self ..

theorem threads_step_of_ne (w : World ι σ τ) {e : ι × X} {j : ι} (h : j ≠ e.1) :
    (w.step act e).threads j = w.threads j := update_of_ne h ..

end World

end RenewApi.Concurrent
