import Mathlib

/-!
# Programs, access by access

A program asks for one atomic access to a shared state at a time and goes on with
the answer. Run alone it is a function of the state. Run by a machine it makes one
access a step, and what others do in between goes unnoticed if it commutes with
its accesses.
-/

namespace Stepwise

/-- The atomic accesses to a state. -/
structure Interface (σ : Type) where
  Access : Type
  Answer : Access → Type
  perform : (a : Access) → σ → Answer a × σ

/-- A program is done, has aborted, or makes an access and goes on with its answer. -/
inductive Program {σ : Type} (I : Interface σ) (α : Type) where
  | done (result : α)
  | abort
  | access (a : I.Access) (next : I.Answer a → Program I α)

namespace Program

variable {σ : Type} {I : Interface σ} {α β : Type}

/-- One program after another. -/
protected def bind : Program I α → (α → Program I β) → Program I β
  | .done result, f => f result
  | .abort, _ => .abort
  | .access a next, f => .access a fun answer => (next answer).bind f

instance : Monad (Program I) where
  pure := .done
  bind := Program.bind

/-- A single access. -/
def ask (a : I.Access) : Program I (I.Answer a) := .access a .done

/-- The program run alone, from its first access to its result. -/
def exec : Program I α → StateT σ Option α
  | .done result => pure result
  | .abort => fun _ => none
  | .access a next => fun s => (next (I.perform a s).1).exec (I.perform a s).2

/-! ## Running alone -/

@[simp] theorem exec_pure (result : α) : exec (pure result : Program I α) = pure result := rfl
@[simp] theorem exec_abort : exec (.abort : Program I α) = fun _ => none := rfl
@[simp] theorem exec_ask (a : I.Access) :
    exec (ask a : Program I _) = fun s => some (I.perform a s) := rfl

theorem exec_access (a : I.Access) (next : I.Answer a → Program I α) (s : σ) :
    exec (.access a next) s = (next (I.perform a s).1).exec (I.perform a s).2 := rfl

@[simp] theorem exec_bind (p : Program I α) (f : α → Program I β) :
    exec (p >>= f) = p.exec >>= fun result => (f result).exec := by
  funext s
  induction p generalizing s with
  | done result => rfl
  | abort => rfl
  | access a next ih => exact ih (I.perform a s).1 (I.perform a s).2

@[simp] theorem exec_map (f : α → β) (p : Program I α) : exec (f <$> p) = f <$> p.exec :=
  exec_bind p fun result => pure (f result)

@[simp] theorem exec_ite (c : Prop) [Decidable c] (p q : Program I α) :
    exec (if c then p else q) = if c then p.exec else q.exec := by
  split <;> rfl

/-! ## The accesses of a program -/

/-- Every access that the program can ask for meets `ok`, whatever it was
answered before. -/
def Uses (ok : I.Access → Prop) : Program I α → Prop
  | .done _ => True
  | .abort => True
  | .access a next => ok a ∧ ∀ answer, (next answer).Uses ok

variable {ok : I.Access → Prop}

@[simp] theorem uses_pure (result : α) : Uses ok (pure result : Program I α) := trivial
@[simp] theorem uses_abort : Uses ok (.abort : Program I α) := trivial
@[simp] theorem uses_ask (a : I.Access) : Uses ok (ask a : Program I _) ↔ ok a :=
  and_iff_left fun _ => trivial

theorem Uses.bind {p : Program I α} {f : α → Program I β} (first : p.Uses ok)
    (rest : ∀ result, (f result).Uses ok) : (p >>= f).Uses ok := by
  induction p with
  | done result => exact rest result
  | abort => trivial
  | access a next ih => exact ⟨first.1, fun answer => ih answer (first.2 answer)⟩

theorem Uses.map {p : Program I α} (f : α → β) (uses : p.Uses ok) : (f <$> p).Uses ok :=
  uses.bind fun _ => trivial

theorem Uses.ite {c : Prop} [Decidable c] {p q : Program I α} (yes : c → p.Uses ok)
    (no : ¬ c → q.Uses ok) : (if c then p else q).Uses ok := by
  split
  · next holds => exact yes holds
  · next fails => exact no fails

theorem Uses.imp {ok' : I.Access → Prop} {p : Program I α} (weaker : ∀ a, ok a → ok' a)
    (uses : p.Uses ok) : p.Uses ok' := by
  induction p with
  | done result => trivial
  | abort => trivial
  | access a next ih => exact ⟨weaker a uses.1, fun answer => ih answer (uses.2 answer)⟩

/-- The access neither sees nor undoes `f`. -/
def Commutes (f : σ → σ) (a : I.Access) : Prop :=
  ∀ s, I.perform a (f s) = ((I.perform a s).1, f (I.perform a s).2)

/-- A change that every access commutes with can be made before the program or
after it. -/
theorem exec_commutes {f : σ → σ} {p : Program I α} (uses : p.Uses (Commutes f)) (s : σ) :
    p.exec (f s) = (p.exec s).map fun out => (out.1, f out.2) := by
  induction p generalizing s with
  | done result => rfl
  | abort => rfl
  | access a next ih =>
    rw [exec_access, exec_access, uses.1 s]
    exact ih _ (uses.2 _) _

/-- What every access keeps, the program keeps. -/
theorem exec_keeps (inv : σ → Prop) {p : Program I α}
    (uses : p.Uses fun a => ∀ s, inv s → inv (I.perform a s).2) {s s' : σ} {result : α}
    (before : inv s) (ran : p.exec s = some (result, s')) : inv s' := by
  induction p generalizing s with
  | done result =>
    obtain ⟨-, rfl⟩ := Prod.mk.inj (Option.some.inj ran)
    exact before
  | abort => cases ran
  | access a next ih => exact ih _ (uses.2 _) (uses.1 s before) ran

end Program

end Stepwise
