import ReqRep.Machine.Step

/-!
# What a step leaves alone

A step changes the counter of the goroutine that takes it, and wakes some that
are asleep.
-/

namespace ReqRep

variable {n : Nat} {S : Setup n} {c c' : Cfg n} {t t' : Fin n} {ans : Answer n}

@[simp] theorem goto_thr_self (c : Cfg n) (t : Fin n) (pc : Pc) :
    (c.goto t pc).thr t = { c.thr t with pc := pc } := Function.update_self ..

theorem goto_pc (c : Cfg n) (t : Fin n) (pc : Pc) : ((c.goto t pc).thr t).pc = pc := by
  rw [goto_thr_self]

/-- A step puts its goroutine at a new counter, behind a `futexWake` or behind
updates that leave the goroutines alone. -/
theorem run_goto (ran : c.run S t ans = some c') : ∃ c₀ pc, c' = c₀.goto t pc ∧
    (c₀.thr = c.thr ∨ ∃ l k, c.futexWake S l k ans.woken = some c₀) := by
  have woke : ∀ {l k pc}, (c.futexWake S l k ans.woken).map (·.goto t pc) = some c' →
      ∃ c₀ pc, c' = c₀.goto t pc ∧
        (c₀.thr = c.thr ∨ ∃ l k, c.futexWake S l k ans.woken = some c₀) := by
    intro l k pc mapped
    obtain ⟨c₀, woke, rfl⟩ := Option.map_eq_some_iff.mp mapped
    exact ⟨c₀, pc, rfl, .inr ⟨l, k, woke⟩⟩
  cases here : (c.thr t).pc with
  | wakeCall w next | cancelWake id next | writeWake id =>
    simp only [Cfg.run, here] at ran
    exact woke ran
  | _ =>
    simp only [Cfg.run, here] at ran
    repeat' split at ran
    all_goals first
      | exact ⟨_, _, (Option.some.inj ran).symm, .inl rfl⟩
      | cases ran

/-- A `futexWake` changes goroutines only. -/
theorem mem_futexWake {l : Loc32} {k : Nat} {woken : List (Fin n)}
    (woke : c.futexWake S l k woken = some c') : c'.mem = c.mem := by
  unfold Cfg.futexWake at woke
  split at woke
  · obtain rfl := Option.some.inj woke
    rfl
  · cases woke

/-- Whom a `futexWake` does not find asleep, it leaves alone. -/
theorem thr_futexWake {l : Loc32} {k : Nat} {woken : List (Fin n)}
    (woke : c.futexWake S l k woken = some c') :
    c'.thr t = c.thr t ∨
      (c.thr t).pc.asleepOn = some l ∧ c'.thr t = { c.thr t with pc := (c.thr t).pc.awake } := by
  unfold Cfg.futexWake at woke
  split at woke
  · next valid =>
    obtain rfl := Option.some.inj woke
    by_cases member : t ∈ woken
    · have asleep := valid.2.1 t member
      simp only [Cfg.sleepers, List.mem_filter] at asleep
      exact .inr ⟨(of_decide_eq_true asleep.2).1, if_pos member⟩
    · exact .inl (if_neg member)
  · cases woke

/-- A `futexWake` that finds somebody asleep wakes somebody. -/
theorem some_woken {l : Loc32} {k : Nat} {woken : List (Fin n)}
    (woke : c.futexWake S l k woken = some c') (pos : 0 < k)
    (asleep : (c.thr t).pc.asleepOn = some l) (live : c.dead (S.pid t) = false) :
    ∃ t', (c.thr t').pc.asleepOn = some l ∧ (c'.thr t').pc = (c.thr t').pc.awake := by
  have member : t ∈ c.sleepers S l :=
    List.mem_filter.mpr ⟨List.mem_finRange t, decide_eq_true ⟨asleep, live⟩⟩
  have here := List.length_pos_of_mem member
  unfold Cfg.futexWake at woke
  split at woke
  · next valid =>
    obtain ⟨-, subset, length⟩ := valid
    obtain rfl := Option.some.inj woke
    obtain ⟨t', chosen⟩ := List.exists_mem_of_length_pos (l := woken) (by omega)
    have found := subset t' chosen
    simp only [Cfg.sleepers, List.mem_filter] at found
    refine ⟨t', (of_decide_eq_true found.2).1, ?_⟩
    dsimp only
    rw [if_pos chosen]
  · cases woke

/-- No operation kills a process. -/
theorem run_dead (ran : c.run S t ans = some c') : c'.dead = c.dead := by
  have woke : ∀ {l k pc}, (c.futexWake S l k ans.woken).map (·.goto t pc) = some c' →
      c'.dead = c.dead := by
    intro l k pc mapped
    obtain ⟨c₀, woke, rfl⟩ := Option.map_eq_some_iff.mp mapped
    unfold Cfg.futexWake at woke
    split at woke <;> cases woke
    rfl
  cases here : (c.thr t).pc with
  | wakeCall w next | cancelWake id next | writeWake id =>
    simp only [Cfg.run, here] at ran
    exact woke ran
  | _ =>
    simp only [Cfg.run, here] at ran
    repeat' split at ran
    all_goals first
      | (obtain rfl := Option.some.inj ran; rfl)
      | cases ran

/-- An operation leaves the contexts alone. -/
theorem run_context (ran : c.run S t ans = some c') (u : Fin n) :
    (c'.thr u).ctxErr = (c.thr u).ctxErr ∧ (c'.thr u).pastDeadline = (c.thr u).pastDeadline := by
  obtain ⟨c₀, pc, rfl, before⟩ := run_goto ran
  have kept : (c₀.thr u).ctxErr = (c.thr u).ctxErr ∧
      (c₀.thr u).pastDeadline = (c.thr u).pastDeadline := by
    rcases before with same | ⟨l, k, woke⟩
    · rw [same]
      exact ⟨rfl, rfl⟩
    · rcases thr_futexWake (t := u) woke with same | ⟨-, awake⟩
      · rw [same]
        exact ⟨rfl, rfl⟩
      · rw [awake]
        exact ⟨rfl, rfl⟩
  by_cases own : u = t
  · subst own
    rw [goto_thr_self]
    exact kept
  · rw [show (c₀.goto t pc).thr u = c₀.thr u from Function.update_of_ne own _ _]
    exact kept

/-- Another goroutine moves only when it is woken. -/
theorem run_thr_of_ne (ran : c.run S t ans = some c') (other : t' ≠ t) :
    c'.thr t' = c.thr t' ∨ t' ∈ ans.woken := by
  obtain ⟨c₀, pc, rfl, before⟩ := run_goto ran
  rw [show (c₀.goto t pc).thr t' = c₀.thr t' from Function.update_of_ne other _ _]
  rcases before with same | ⟨l, k, woke⟩
  · exact .inl (by rw [same])
  · unfold Cfg.futexWake at woke
    split at woke <;> cases woke
    by_cases member : t' ∈ ans.woken
    · exact .inr member
    · exact .inl (if_neg member)

/-- A step of another goroutine leaves a goroutine alone, or wakes it. -/
theorem step_thr_of_ne {act : Act n} (stepped : c.step S act = some c')
    (other : act.thread ≠ some t) :
    c'.thr t = c.thr t ∨ (∃ l, (c.thr t).pc.asleepOn = some l) ∧
      c'.thr t = { c.thr t with pc := (c.thr t).pc.awake } := by
  unfold Cfg.step at stepped
  split at stepped
  · cases stepped
  have ne : ∀ {t'}, act.thread = some t' → t ≠ t' := by
    rintro t' acts rfl
    exact other acts
  cases act with
  | run t' ans =>
    obtain ⟨c₀, pc, rfl, same | ⟨l, k, woke⟩⟩ := run_goto stepped
    · left
      rw [Cfg.goto, ← same]
      exact Function.update_of_ne (ne rfl) _ _
    · have moved : (c₀.goto t' pc).thr t = c₀.thr t := Function.update_of_ne (ne rfl) _ _
      rw [moved]
      exact (thr_futexWake woke).imp id fun ⟨asleep, awake⟩ => ⟨⟨l, asleep⟩, awake⟩
  | query t' req | serve t' | wakeup t' =>
    dsimp only at stepped
    split at stepped <;> cases stepped
    exact .inl (Function.update_of_ne (ne rfl) _ _)
  | cancelCtx t' | deadline t' =>
    cases stepped
    exact .inl (Function.update_of_ne (ne rfl) _ _)
  | die pid =>
    cases stepped
    exact .inl rfl

/-- A goroutine in a call that is not asleep goes on by running. -/
theorem run_of_moved {act : Act n} (stepped : c.step S act = some c') (own : act.thread = some t)
    (busy : (c.thr t).pc ≠ .idle) (awake : (c.thr t).pc.asleepOn = none)
    (moved : (c'.thr t).pc ≠ (c.thr t).pc) : ∃ ans, act = .run t ans := by
  unfold Cfg.step at stepped
  split at stepped
  · cases stepped
  cases act with
  | run t' ans =>
    obtain rfl : t' = t := Option.some.inj own
    exact ⟨ans, rfl⟩
  | query t' req | serve t' =>
    obtain rfl : t' = t := Option.some.inj own
    simp [busy] at stepped
  | cancelCtx t' | deadline t' =>
    obtain rfl : t' = t := Option.some.inj own
    cases stepped
    simp at moved
  | wakeup t' =>
    obtain rfl : t' = t := Option.some.inj own
    simp [awake] at stepped
  | die pid => cases own

/-- The operation of a step. -/
theorem step_run {ans : Answer n} (stepped : c.step S (.run t ans) = some c') :
    c.dead (S.pid t) = false ∧ c.run S t ans = some c' := by
  unfold Cfg.step at stepped
  split at stepped
  · cases stepped
  · next alive => exact ⟨by simpa [Act.thread] using alive, stepped⟩

/-- Nobody comes back to life. -/
theorem step_dead {act : Act n} (stepped : c.step S act = some c') :
    c'.dead = c.dead ∨ ∃ pid, act = .die pid ∧ c'.dead = Function.update c.dead pid true := by
  cases act with
  | run t ans => exact .inl (run_dead (step_run stepped).2)
  | die pid =>
    cases stepped
    exact .inr ⟨pid, rfl, rfl⟩
  | cancelCtx t | deadline t =>
    unfold Cfg.step at stepped
    split at stepped <;> cases stepped
    exact .inl rfl
  | query t req | serve t | wakeup t =>
    unfold Cfg.step at stepped
    split at stepped
    · cases stepped
    · dsimp only at stepped
      split at stepped <;> cases stepped
      exact .inl rfl

/-- A run without deaths. -/
theorem steps_dead {acts : List (Act n)} (ran : c.steps S acts = some c')
    (living : ∀ act ∈ acts, act.thread.isSome = true) : c'.dead = c.dead := by
  induction acts generalizing c with
  | nil =>
    cases ran
    rfl
  | cons act acts ih =>
    obtain ⟨c₁, stepped, rest⟩ := Option.bind_eq_some_iff.mp ran
    have same : c₁.dead = c.dead := by
      rcases step_dead stepped with same | ⟨pid, rfl, -⟩
      · exact same
      · cases living _ List.mem_cons_self
    rw [ih rest fun act later => living act (List.mem_cons_of_mem _ later), same]

end ReqRep
