import ReqRep.Machine.Ids
import ReqRep.Machine.Simulate

/-!
# Runs of the machine

A run starts on a mapping where nothing goes on. What the steps of the view keep
under a condition on their labels holds after every run whose steps meet the
condition.
-/

namespace ReqRep

variable {n : Nat} {S : Setup n}

/-- No goroutine is in a call, no request is queued, no slot is taken, no process
has died, and there is no history. The counters, the generations and the owners
are arbitrary. -/
structure Start (S : Setup n) (c : Cfg n) : Prop where
  queue : Represents S.shm c.mem []
  pending : c.pending = []
  idle : ∀ t, (c.thr t).pc = .idle
  free : ∀ i, c.state i = layoutRespFree
  holder : ∀ i, c.holder i = none
  bumps : ∀ i, c.bumps i = 0
  alive : ∀ pid, c.dead pid = false
  log : c.log = []

theorem Start.base {c : Cfg n} (start : Start S c) : Base S c where
  queue := ⟨[], start.queue, start.pending.symm⟩
  short t busy := absurd (start.idle t) busy
  bounded t := by
    rw [start.idle t]
    trivial

theorem Start.role {c : Cfg n} (start : Start S c) (t : Fin n) : c.view.role t = .idle := by
  simp [Cfg.view, start.idle t, Pc.role]

theorem Start.ids {c : Cfg n} (start : Start S c) : Ids S c.gen c.view := by
  have none : ∀ t id, .acquired t id ∉ c.view.log := fun t id => by
    simp [Cfg.view, start.log]
  have issued : ∀ id, ¬ c.view.Issued id := fun id issued => none _ id issued.choose_spec
  refine ⟨fun i => ?_, fun id given => absurd given (issued id),
    fun id given => absurd given (issued id), fun id given => absurd given (issued id),
    fun t _ id first => absurd first (none t id), fun id queued => ?_, fun t => ?_⟩
  · simp [Cfg.view, start.bumps i]
  · simp [Cfg.view, start.pending] at queued
  · rw [start.role t]
    trivial

/-- A fresh file. -/
def freshCfg (n : Nat) : Cfg n where
  mem := freshMem 0
  thr _ := { pc := .idle, req := [], ctxErr := false, pastDeadline := false }
  dead _ := false
  pending := []
  bumps _ := 0
  holder _ := none
  log := []

/-- Each goroutine in its own process, on a small layout with one slot. -/
def tinySetup (n : Nat) : Setup n where
  shm := tinyShm
  pid t := UInt32.ofNat (t.val + 1)

theorem freshCfg_start (n : Nat) : Start (tinySetup n) (freshCfg n) where
  queue := (freshMem_fresh 0).represents
  pending := rfl
  idle _ := rfl
  free _ := rfl
  holder _ := rfl
  bumps _ := rfl
  alive _ := rfl
  log := rfl

/-- Some operations of one goroutine, with the default answers. -/
def go {n : Nat} (t : Fin n) (k : Nat) : List (Act n) := List.replicate k (.run t {})

/-! ## Conditions on the labels -/

/-- The label of the act, if it has one, meets `ok`. -/
def Guarded (S : Setup n) (ok : View n → Label → Prop) (c : Cfg n) (act : Act n) : Prop :=
  match c.label S act with
  | none => True
  | some l => ok c.view l

instance (ok : View n → Label → Prop) [∀ v l, Decidable (ok v l)] (c : Cfg n) (act : Act n) :
    Decidable (Guarded S ok c act) := by
  unfold Guarded
  split
  · exact isTrue trivial
  · infer_instance

theorem Guarded.label {ok : View n → Label → Prop} {c : Cfg n} {act : Act n}
    (guarded : Guarded S ok c act) {l : Label} (same : c.label S act = some l) : ok c.view l := by
  unfold Guarded at guarded
  rwa [same] at guarded

/-! ## Invariants -/

/-- What the steps of the view keep holds after every run. -/
theorem view_invariant (queueOk : S.shm.QueueOk) {ok : View n → Label → Prop}
    (inv : View n → Prop)
    (kept : ∀ v label v', v.Step S label v' → (∀ l, label = some l → ok v l) → inv v → inv v')
    {c c' : Cfg n} {acts : List (Act n)} (base : Base S c) (first : inv c.view)
    (ran : c.steps S acts = some c') (always : Runs.Always (Cfg.step S) (Guarded S ok) c acts) :
    Base S c' ∧ inv c'.view := by
  refine Runs.invariant (fun c => Base S c ∧ inv c.view) ?_ ran always ⟨base, first⟩
  rintro c act c' ⟨base, before⟩ guarded stepped
  obtain ⟨base', step⟩ := step_simulated queueOk base stepped
  exact ⟨base', kept _ _ _ step (fun l same => guarded.label same) before⟩

/-- What the machine keeps holds after every run. -/
theorem Start.reaches (queueOk : S.shm.QueueOk) {c c' : Cfg n} (start : Start S c)
    {acts : List (Act n)} (ran : c.steps S acts = some c') : Base S c' :=
  @Runs.invariant _ _ _ (fun _ _ => True) _ _ _ (Base S)
    (fun _ _ _ base _ stepped => (step_simulated queueOk base stepped).1) ran
    (.of_forall fun _ _ => trivial) start.base

/-- No process has died, and no slot has had 2^32 generation increments. -/
structure View.Healthy (v : View n) : Prop where
  alive : ∀ pid, v.dead pid = false
  few : v.Few

/-- Without a death each step increments a generation once at most. -/
private theorem run_counts (queueOk : S.shm.QueueOk) {c c' : Cfg n} {acts : List (Act n)}
    (base : Base S c) (alive : ∀ pid, c.view.dead pid = false)
    (ran : c.steps S acts = some c') (living : ∀ act ∈ acts, act.thread.isSome) :
    (∀ pid, c'.view.dead pid = false) ∧ ∀ i, c'.view.bumps i ≤ c.view.bumps i + acts.length := by
  induction acts generalizing c with
  | nil =>
    cases ran
    exact ⟨alive, fun i => le_refl _⟩
  | cons act acts ih =>
    obtain ⟨c₁, stepped, rest⟩ := Option.bind_eq_some_iff.mp ran
    obtain ⟨base₁, step⟩ := step_simulated queueOk base stepped
    have lives := living act List.mem_cons_self
    have one : (∀ pid, c₁.view.dead pid = false) ∧ ∀ i, c₁.view.bumps i ≤ c.view.bumps i + 1 := by
      generalize c₁.view = v₁, same : c.label S act = label at step
      cases step with
      | stutter => exact ⟨alive, fun i => Nat.le_succ _⟩
      | move live move => exact ⟨fun pid => by rw [move.dead_eq, alive pid], move.bumps_le_succ⟩
      | die pid =>
        rw [eq_die_of_label same] at lives
        cases lives
    obtain ⟨alive', bumps⟩ :=
      ih base₁ one.1 rest fun act member => living act (List.mem_cons_of_mem _ member)
    refine ⟨alive', fun i => ?_⟩
    have := bumps i
    have := one.2 i
    rw [List.length_cons]
    omega

/-- Runs without deaths that are not too long. -/
theorem Start.healthy (queueOk : S.shm.QueueOk) {c c' : Cfg n} (start : Start S c)
    {acts : List (Act n)} (ran : c.steps S acts = some c')
    (living : ∀ act ∈ acts, act.thread.isSome) (short : acts.length < 2 ^ 32) :
    c'.view.Healthy := by
  obtain ⟨alive, bumps⟩ := run_counts queueOk start.base start.alive ran living
  refine ⟨alive, fun i => ?_⟩
  have := bumps i
  rw [show c.view.bumps i = 0 from start.bumps i] at this
  omega

theorem View.Step.healthy {v v' : View n} {label : Option Label} (step : v.Step S label v')
    (healthy : v'.Healthy) : v.Healthy := by
  refine ⟨?_, step.few_of_few healthy.few⟩
  cases step with
  | stutter => exact healthy.alive
  | move live move => cases move <;> exact healthy.alive
  | die pid =>
    have dead := healthy.alive pid
    simp at dead

/-- What the steps of the view keep while no process dies and ids do not wrap,
beside the ids themselves. -/
theorem healthy_invariant (queueOk : S.shm.QueueOk) {ok : View n → Label → Prop}
    (inv : View n → Prop) {c c' : Cfg n}
    (kept : ∀ v t label v', Ids S c.gen v → v.Healthy → v'.Healthy → Move S v t label v' →
      (∀ l, label = some l → ok v l) → inv v → inv v')
    {acts : List (Act n)} (start : Start S c) (first : inv c.view)
    (ran : c.steps S acts = some c') (always : Runs.Always (Cfg.step S) (Guarded S ok) c acts)
    (healthy : c'.view.Healthy) : Ids S c.gen c'.view ∧ inv c'.view := by
  refine (view_invariant queueOk (fun v => v.Healthy → Ids S c.gen v ∧ inv v) ?_
    start.base (fun _ => ⟨start.ids, first⟩) ran always).2 healthy
  intro v label v' step guarded before healthy'
  have healthy := step.healthy healthy'
  obtain ⟨ids, holds⟩ := before healthy
  refine ⟨ids.step step healthy'.few, ?_⟩
  cases step with
  | stutter => exact holds
  | move live move => exact kept v _ label v' ids healthy healthy' move guarded holds
  | die pid =>
    have dead := healthy'.alive pid
    simp at dead

end ReqRep
