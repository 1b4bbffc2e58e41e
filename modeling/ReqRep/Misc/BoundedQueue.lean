import Mathlib

/-!
# Bounded FIFO queues and their traces

The abstract queue: a list of at most `cap` items. A trace records what its
users saw; an item can also be dropped, when the user that took it did not live
to return it.
-/

namespace BoundedQueue

variable {α : Type} {cap : Nat}

/-- What one use of the queue does. -/
inductive Event (α : Type) where
  | push (a : α)
  | reject
  | pop (a : α)
  | drop
  | empty
  | skip
  deriving DecidableEq, Repr

/-- An event and the queue behind it. -/
inductive Step (cap : Nat) : List α → Event α → List α → Prop where
  | push {q : List α} {a : α} (space : q.length < cap) : Step cap q (.push a) (q ++ [a])
  | reject {q : List α} : Step cap q .reject q
  | pop {q : List α} {a : α} : Step cap (a :: q) (.pop a) q
  | drop {q : List α} {a : α} : Step cap (a :: q) .drop q
  | empty : Step cap [] .empty []
  | skip {q : List α} : Step cap q .skip q

/-- Some events, oldest first, and the queue behind them. -/
inductive Steps (cap : Nat) : List α → List (Event α) → List α → Prop where
  | nil {q : List α} : Steps cap q [] q
  | cons {q q' q'' : List α} {e : Event α} {es : List (Event α)}
      (step : Step cap q e q') (steps : Steps cap q' es q'') : Steps cap q (e :: es) q''

theorem Steps.snoc {q q' q'' : List α} {es : List (Event α)} {e : Event α}
    (steps : Steps cap q es q') (step : Step cap q' e q'') : Steps cap q (es ++ [e]) q'' := by
  induction steps with
  | nil => exact .cons step .nil
  | cons first _ ih => exact .cons first (ih step)

/-- The items pushed, in order. -/
def pushed (es : List (Event α)) : List α :=
  es.filterMap fun
    | .push a => some a
    | _ => none

/-- The items taken, in order; `none` for a dropped one. -/
def taken (es : List (Event α)) : List (Option α) :=
  es.filterMap fun
    | .pop a => some (some a)
    | .drop => some none
    | _ => none

/-- The items popped, in order. -/
def popped (es : List (Event α)) : List α :=
  es.filterMap fun
    | .pop a => some a
    | _ => none

/-- Item by item, what was taken is what was pushed. -/
def Agrees (gone : List α) (out : List (Option α)) : Prop :=
  List.Forall₂ (fun a o => o = none ∨ o = some a) gone out

/-- What was in the queue and what was pushed is what was taken, in order, and
what is in the queue now. -/
theorem Steps.conserves {q q' : List α} {es : List (Event α)} (steps : Steps cap q es q') :
    ∃ gone, q ++ pushed es = gone ++ q' ∧ Agrees gone (taken es) := by
  induction steps with
  | @nil q => exact ⟨[], by simp [pushed], .nil⟩
  | cons step steps ih =>
    obtain ⟨gone, split, agrees⟩ := ih
    cases step with
    | push space => exact ⟨gone, by simpa [pushed] using split, by simpa [taken] using agrees⟩
    | reject => exact ⟨gone, by simpa [pushed] using split, by simpa [taken] using agrees⟩
    | @pop q a =>
      exact ⟨a :: gone, by simpa [pushed] using split, .cons (.inr rfl) agrees⟩
    | @drop q a =>
      exact ⟨a :: gone, by simpa [pushed] using split, .cons (.inl rfl) agrees⟩
    | empty => exact ⟨gone, by simpa [pushed] using split, by simpa [taken] using agrees⟩
    | skip => exact ⟨gone, by simpa [pushed] using split, by simpa [taken] using agrees⟩

/-- Without drops, what was taken is what was popped. -/
theorem Steps.conserves_popped {q q' : List α} {es : List (Event α)}
    (steps : Steps cap q es q') (kept : .drop ∉ es) : q ++ pushed es = popped es ++ q' := by
  induction steps with
  | nil => simp [pushed, popped]
  | cons step steps ih =>
    have split := ih fun member => kept (List.mem_cons_of_mem _ member)
    cases step with
    | drop => exact absurd List.mem_cons_self kept
    | _ => simpa [pushed, popped] using split

theorem Step.bounded {q q' : List α} {e : Event α} (step : Step cap q e q')
    (bound : q.length ≤ cap) : q'.length ≤ cap := by
  cases step with
  | push space =>
    rw [List.length_append, List.length_singleton]
    omega
  | pop => exact Nat.le_of_succ_le bound
  | drop => exact Nat.le_of_succ_le bound
  | _ => exact bound

theorem Steps.bounded {q q' : List α} {es : List (Event α)} (steps : Steps cap q es q')
    (bound : q.length ≤ cap) : q'.length ≤ cap := by
  induction steps with
  | nil => exact bound
  | cons step _ ih => exact ih (step.bounded bound)

end BoundedQueue
