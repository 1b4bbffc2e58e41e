import Mathlib

/-!
# Runs of a partial step function

A run is a list of actions, each taken where the one before it led. `Always`
says that every action of a run meets a condition on the state it is taken in.
-/

namespace Runs

variable {σ α : Type} (step : σ → α → Option σ)

/-- The state after some actions, oldest first. -/
def run : σ → List α → Option σ
  | s, [] => some s
  | s, a :: as => (step s a).bind fun s' => run s' as

/-- Every action of the run meets `ok` where it is taken. -/
def Always (ok : σ → α → Prop) : σ → List α → Prop
  | _, [] => True
  | s, a :: as => ok s a ∧
    match step s a with
    | some s' => Always ok s' as
    | none => True

instance decidableAlways (ok : σ → α → Prop) [∀ s a, Decidable (ok s a)] :
    ∀ s as, Decidable (Always step ok s as)
  | _, [] => isTrue trivial
  | s, a :: as =>
    match h : step s a with
    | some s' =>
      have := decidableAlways ok s' as
      decidable_of_iff (ok s a ∧ Always step ok s' as) (by simp [Always, h])
    | none => decidable_of_iff (ok s a) (by simp [Always, h])

variable {step} {ok ok' : σ → α → Prop} {s s' : σ} {as : List α}

theorem run_append (s : σ) (as bs : List α) :
    run step s (as ++ bs) = (run step s as).bind fun s' => run step s' bs := by
  induction as generalizing s with
  | nil => rfl
  | cons a as ih =>
    rw [List.cons_append, run, run, Option.bind_assoc]
    exact Option.bind_congr fun s' _ => ih s'

/-- What is kept beside the states of a system does not get in the way of its runs. -/
theorem run_map {τ : Type} {step' : τ → α → Option τ} (f : σ → τ)
    (maps : ∀ s a, (step s a).map f = step' (f s) a) (s : σ) (as : List α) :
    (run step s as).map f = run step' (f s) as := by
  induction as generalizing s with
  | nil => rfl
  | cons a as ih =>
    rw [run, run, ← maps]
    cases step s a with
    | none => rfl
    | some s' => exact ih s'

/-- What one step preserves holds after a whole run. -/
theorem invariant (inv : σ → Prop)
    (preserved : ∀ s a s', inv s → ok s a → step s a = some s' → inv s')
    (ran : run step s as = some s') (always : Always step ok s as) (start : inv s) : inv s' := by
  induction as generalizing s with
  | nil =>
    cases ran
    exact start
  | cons a as ih =>
    obtain ⟨s₁, first, rest⟩ := Option.bind_eq_some_iff.mp ran
    have later := always.2
    rw [first] at later
    exact ih rest later (preserved s a s₁ start always.1 first)

theorem Always.imp (weaker : ∀ s a, ok s a → ok' s a) (always : Always step ok s as) :
    Always step ok' s as := by
  induction as generalizing s with
  | nil => trivial
  | cons a as ih =>
    refine ⟨weaker s a always.1, ?_⟩
    have later := always.2
    cases first : step s a with
    | none => trivial
    | some s₁ =>
      rw [first] at later
      exact ih later

theorem Always.of_forall (all : ∀ s a, ok s a) : Always step ok s as := by
  induction as generalizing s with
  | nil => trivial
  | cons a as ih =>
    refine ⟨all s a, ?_⟩
    split
    · exact ih
    · trivial

/-- What a step property of a run says about one of its steps. -/
theorem Always.append {bs : List α} (ran : run step s as = some s')
    (always : Always step ok s (as ++ bs)) : Always step ok s as ∧ Always step ok s' bs := by
  induction as generalizing s with
  | nil =>
    cases ran
    exact ⟨trivial, always⟩
  | cons a as ih =>
    obtain ⟨s₁, first, rest⟩ := Option.bind_eq_some_iff.mp ran
    obtain ⟨here, later⟩ := always
    simp only [first] at later
    obtain ⟨before, after⟩ := ih rest later
    refine ⟨⟨here, ?_⟩, after⟩
    simpa only [first] using before

/-- A run to `s'` each of whose actions meets `ok`. -/
structure Meets (step : σ → α → Option σ) (ok : σ → α → Prop) (s : σ) (as : List α) (s' : σ) :
    Prop where
  ran : run step s as = some s'
  always : Always step ok s as

theorem Meets.nil (s : σ) : Meets step ok s [] s := ⟨rfl, trivial⟩

theorem Meets.cons {a : α} {s₁ : σ} (meets : ok s a) (first : step s a = some s₁)
    (rest : Meets step ok s₁ as s') : Meets step ok s (a :: as) s' := by
  refine ⟨by rw [run, first]; exact rest.ran, meets, ?_⟩
  rw [first]
  exact rest.always

theorem Meets.append {bs : List α} {s₁ : σ} (before : Meets step ok s as s₁)
    (after : Meets step ok s₁ bs s') : Meets step ok s (as ++ bs) s' := by
  induction as generalizing s with
  | nil =>
    cases before.ran
    exact after
  | cons a as ih =>
    obtain ⟨s₂, first, rest⟩ := Option.bind_eq_some_iff.mp before.ran
    obtain ⟨here, later⟩ := before.always
    rw [first] at later
    exact .cons here first (ih ⟨rest, later⟩)

/-- Where a step keeps `P` exactly when it meets `ok`, every state of a run has
`P` exactly when every action of it meets `ok`. -/
theorem always_iff (P inv : σ → Prop) (valid : α → Prop)
    (stepped : ∀ s a, inv s → P s → valid a →
      ∃ s', step s a = some s' ∧ (P s' ↔ ok s a) ∧ (ok s a → inv s'))
    (allValid : ∀ a ∈ as, valid a) (start : inv s) (here : P s) :
    (∀ before, before <+: as → ∃ s', run step s before = some s' ∧ P s') ↔
      Always step ok s as := by
  induction as generalizing s with
  | nil =>
    refine ⟨fun _ => trivial, fun _ before short => ⟨s, ?_, here⟩⟩
    rw [List.prefix_nil.mp short]
    rfl
  | cons a as ih =>
    obtain ⟨s₁, first, exact₁, kept⟩ := stepped s a start here (allValid a List.mem_cons_self)
    have rest : ∀ before, run step s (a :: before) = run step s₁ before := fun before => by
      rw [run, first, Option.bind_some]
    have ih := fun meets here₁ =>
      ih (fun b member => allValid b (List.mem_cons_of_mem _ member)) (kept meets) here₁
    simp only [Always, first]
    constructor
    · intro holds
      obtain ⟨s₂, ran, here₁⟩ := holds [a] (List.prefix_append [a] as)
      rw [rest] at ran
      obtain rfl := Option.some.inj ran
      have meets := exact₁.mp here₁
      refine ⟨meets, (ih meets here₁).mp fun before short => ?_⟩
      rw [← rest]
      exact holds (a :: before) (List.cons_prefix_cons.mpr ⟨rfl, short⟩)
    · rintro ⟨meets, later⟩ before short
      rcases List.prefix_cons_iff.mp short with rfl | ⟨before', rfl, short'⟩
      · exact ⟨s, rfl, here⟩
      · rw [rest]
        exact (ih meets (exact₁.mpr meets)).mpr later before' short'

end Runs
