import ReqRep.Machine.Solo
import ReqRep.Slots.Handout

/-!
# The slots of a dead client

A process runs alone and dies at some point. What a live process can then take
back is what is FREE or has the pid of a dead one. Three points are too early or too
late for that: behind the CAS of an acquisition, behind the owner store of a release,
and behind the owner store of the second pass.
-/

namespace ReqRep

variable {n : Nat} {S : Setup n} {c c₁ c' : Cfg n} {t : Fin n} {pid mypid : UInt32}
  {pidAlive : UInt32 → Bool} {acts : List (Act n)}

/-- What a process finds when it comes to the mapping: nobody else is left, and a slot
that is still taken has the pid of a dead process. -/
structure Inherited (S : Setup n) (c : Cfg n) : Prop where
  base : Base S c
  idle : ∀ t, (c.thr t).pc = .idle
  states : ∀ i, c.state i = layoutRespFree ∨ c.state i = layoutRespAcquired ∨
    c.state i = layoutRespReady
  owners : ∀ i, c.owner i = 0 ∨ c.dead (c.owner i) = true
  owned : ∀ i, c.state i ≠ layoutRespFree → c.owner i ≠ 0
  hint : c.mem.u32 .hdrRespHint < S.shm.respSlots

/-- The counters where the slot of a goroutine has no owner: before the owner store of
an acquisition, unless the slot still has the pid of a dead process; before the state
store of a release; before the CAS of the second pass. -/
def Pc.atRisk (owner : UInt32 → UInt32) : Pc → Bool
  | .acqOwner _ slot _ => owner slot = 0
  | .releaseState .. | .recFree .. => true
  | _ => false

/-- A process that dies now dies at one of these counters of goroutine `t`. -/
def Cfg.AtRisk (c : Cfg n) (t : Fin n) : Prop := (c.thr t).pc.atRisk c.owner = true

instance (c : Cfg n) (t : Fin n) : Decidable (c.AtRisk t) :=
  inferInstanceAs (Decidable ((c.thr t).pc.atRisk c.owner = true))

/-- A goroutine that exposes a slot without an owner is at one of the three points. -/
theorem atRisk_of_exposes {i : UInt32} (exposes : (c.thr t).pc.exposes i = true)
    (ownerless : c.owner i = 0) : c.AtRisk t := by
  unfold Cfg.AtRisk
  generalize (c.thr t).pc = pc at exposes ⊢
  cases pc with
  | acqOwner a slot scan =>
    obtain rfl : slot = i := of_decide_eq_true exposes
    exact decide_eq_true ownerless
  | releaseState | recFree => rfl
  | _ => cases exposes

/-! ## Many goroutines -/

theorem Inherited.claimed (start : Inherited S c) (pid : UInt32) : Claimed S pid c.view where
  states := start.states
  owners i := (start.owners i).imp_right .inr
  hint := start.hint
  exposed i taken ownerless := absurd ownerless (start.owned i taken)

/-- A careful step of the process leaves no slot without an owner that no goroutine is at. -/
theorem claimed_step (queueOk : S.shm.QueueOk) (one : ∀ t, S.pid t = pid) (nonzero : pid ≠ 0)
    (base : Base S c) (nested : ∀ t, (c.thr t).pc.WellNested) (inv : Claimed S pid c.view)
    {act : Act n} (careful : Careful c act) (stepped : c.step S act = some c') :
    Claimed S pid c'.view := by
  cases own : act.thread with
  | none =>
    cases act with
    | die p =>
      cases stepped
      exact inv.die p
    | _ => cases own
  | some t =>
    rcases step_view stepped own with ⟨ans, rfl⟩ | view
    · rcases (run_simulated queueOk base (step_run stepped).2).move with ⟨-, view⟩ | move
      · rw [view]
        exact inv
      · exact inv.of_move (one t) nonzero (careful.view nested) move
    · rw [view]
      exact inv

/-- A run of careful steps. -/
theorem Inherited.reaches_claimed (queueOk : S.shm.QueueOk) (one : ∀ t, S.pid t = pid)
    (nonzero : pid ≠ 0) (start : Inherited S c) (ran : c.steps S acts = some c')
    (always : Runs.Always (Cfg.step S) Careful c acts) :
    (∀ t, (c'.thr t).pc.WellNested) ∧ Claimed S pid c'.view := by
  have nested : ∀ t, (c.thr t).pc.WellNested := by
    intro t
    rw [start.idle t]
    trivial
  refine (Runs.invariant (fun c => Base S c ∧ (∀ t, (c.thr t).pc.WellNested) ∧
    Claimed S pid c.view) ?_ ran always ⟨start.base, nested, start.claimed pid⟩).2
  rintro c act c' ⟨base, nested, inv⟩ careful stepped
  exact ⟨(step_simulated queueOk base stepped).1, step_wellNested stepped nested,
    claimed_step queueOk one nonzero base nested inv careful stepped⟩

/-- All slots can be had again exactly where each one that is taken has an owner. -/
theorem Claimed.handsOut_iff (inv : Claimed S pid c.view) (few : S.shm.respSlots.toNat ≤ 2 ^ 31)
    (live : pidAlive mypid = true) (dead : c.dead pid = true)
    (gone : ∀ p, c.dead p = true → pidAlive p = false) :
    HandsOut S.shm c.mem mypid pidAlive ↔
      ∀ i < S.shm.respSlots, c.state i ≠ layoutRespFree → c.owner i ≠ 0 := by
  rw [ReqRep.handsOut_iff few live inv.hint]
  refine forall₂_congr fun i bound => ?_
  constructor
  · rintro (free | ⟨-, owned, -⟩) taken
    · exact absurd free taken
    · exact owned
  · intro owned
    by_cases free : c.state i = layoutRespFree
    · exact .inl free
    · have buried : pidAlive (c.owner i) = false := by
        rcases (inv.owners i).resolve_left (owned free) with mine | other
        · rw [show c.owner i = pid from mine]
          exact gone pid dead
        · exact gone _ other
      exact .inr ⟨(inv.states i).resolve_left free, owned free, buried⟩

/-! ## One goroutine -/

namespace Solo

/-- A goroutine alone is careful. -/
theorem careful (solo : Solo S t c) {act : Act n} (own : ∀ t', act.thread = some t' → t' = t) :
    Careful c act := by
  cases act with
  | run t' ans =>
    obtain rfl := own t' rfl
    have knows := solo.knows
    show (c.thr t').pc.careful c = true
    generalize (c.thr t').pc = pc at knows ⊢
    cases pc with
    | cancelOwner id next => exact decide_eq_true (.inl (knows.1 rfl))
    | recFree a i state => exact decide_eq_true (.inl knows.2.1)
    | _ => rfl
  | _ => trivial

/-- At one of the three points its slot is taken and has no owner. -/
theorem ownerless (solo : Solo S t c) (risk : c.AtRisk t) :
    ∃ i < S.shm.respSlots, c.state i ≠ layoutRespFree ∧ c.owner i = 0 := by
  have knows := solo.knows
  unfold Cfg.AtRisk at risk
  generalize (c.thr t).pc = pc at risk knows
  cases pc with
  | acqOwner a slot scan => exact ⟨slot, knows.1, knows.2, of_decide_eq_true risk⟩
  | releaseState id next => exact ⟨idSlot id, knows.1.1, knows.1.2, knows.2.1 rfl⟩
  | recFree a i state => exact ⟨i, knows.1.1, knows.1.2, knows.2.2⟩
  | _ => cases risk

/-- Every step of a goroutine alone is careful. -/
theorem always_careful (queueOk : S.shm.QueueOk) (solo : Solo S t c)
    (own : ∀ act ∈ acts, ∀ t', act.thread = some t' → t' = t) :
    Runs.Always (Cfg.step S) Careful c acts := by
  induction acts generalizing c with
  | nil => trivial
  | cons act acts ih =>
    have first := own act List.mem_cons_self
    refine ⟨solo.careful first, ?_⟩
    cases stepped : c.step S act with
    | none => trivial
    | some c₁ =>
      exact ih (solo.advance queueOk first stepped)
        fun act' later => own act' (List.mem_cons_of_mem _ later)

end Solo

/-! ## The death -/

/-- A process comes to a mapping that dead processes have left, runs any sequence of
slot operations and dies. If its steps are careful, and it does not die at one of the
three points, all slots can be had again. A process with one goroutine is careful, and
then the three points are exactly where a slot is lost. -/
theorem dead_client_recoverable (queueOk : S.shm.QueueOk) (few : S.shm.respSlots.toNat ≤ 2 ^ 31)
    (one : ∀ t, S.pid t = pid) (nonzero : pid ≠ 0) (live : pidAlive mypid = true)
    (start : Inherited S c) (ran : c.steps S acts = some c₁)
    (died : c₁.step S (.die pid) = some c')
    (gone : ∀ p, c'.dead p = true → pidAlive p = false) :
    (Runs.Always (Cfg.step S) Careful c acts → (∀ t, ¬ c₁.AtRisk t) →
      HandsOut S.shm c'.mem mypid pidAlive) ∧
    ∀ t, (∀ act ∈ acts, ∀ t', act.thread = some t' → t' = t) →
      (HandsOut S.shm c'.mem mypid pidAlive ↔ ¬ c₁.AtRisk t) := by
  cases died
  have exact_of_careful : Runs.Always (Cfg.step S) Careful c acts →
      (HandsOut S.shm c₁.mem mypid pidAlive ↔
        ∀ i < S.shm.respSlots, c₁.state i ≠ layoutRespFree → c₁.owner i ≠ 0) := by
    intro always
    have inv := (start.reaches_claimed queueOk one nonzero ran always).2
    exact (inv.die pid).handsOut_iff
      (c := { c₁ with dead := Function.update c₁.dead pid true }) few live
      (Function.update_self ..) gone
  have safe : Runs.Always (Cfg.step S) Careful c acts → (∀ t, ¬ c₁.AtRisk t) →
      HandsOut S.shm c₁.mem mypid pidAlive := by
    intro always safe
    obtain ⟨nested, inv⟩ := start.reaches_claimed queueOk one nonzero ran always
    refine (exact_of_careful always).mpr fun i bound taken ownerless => ?_
    obtain ⟨t, exposes⟩ := inv.exposed i taken ownerless
    exact safe t (atRisk_of_exposes ((role_exposes_iff (nested t)).mp exposes) ownerless)
  refine ⟨safe, fun t own => ⟨fun hands risk => ?_, fun unharmed => ?_⟩⟩
  · have solo := Solo.start start.base start.idle t
    obtain ⟨i, bound, taken, ownerless⟩ := (solo.reaches queueOk own ran).ownerless risk
    exact (exact_of_careful (solo.always_careful queueOk own)).mp hands i bound taken ownerless
  · have solo := Solo.start start.base start.idle t
    refine safe (solo.always_careful queueOk own) fun t' risk => ?_
    by_cases same : t' = t
    · subst same
      exact unharmed risk
    · unfold Cfg.AtRisk at risk
      rw [(solo.reaches queueOk own ran).others t' same] at risk
      cases risk

/-- A mapping with one slot, which a dead process has left ACQUIRED. -/
def inheritedCfg : Cfg 1 :=
  { ((freshCfg 1).store (.respSlotState 0) layoutRespAcquired).store (.respSlotOwnerPid 0) 7 with
    dead := fun pid => pid == 7 }

theorem inheritedCfg_inherited : Inherited (tinySetup 1) inheritedCfg where
  base := by
    have stored := ((freshCfg_start 1).base.store (l := .respSlotState 0) layoutRespAcquired
      ⟨by simp, by simp, fun _ => id⟩).store (l := .respSlotOwnerPid 0) 7
      ⟨by simp, by simp, fun _ => id⟩
    exact ⟨stored.queue, stored.short, stored.bounded⟩
  idle _ := rfl
  states i := by
    by_cases first : i = 0
    · subst first
      exact .inr (.inl rfl)
    · left
      simp [inheritedCfg, Cfg.state, Cfg.store, first]
      rfl
  owners i := by
    by_cases first : i = 0
    · subst first
      exact .inr rfl
    · left
      simp [inheritedCfg, Cfg.owner, Cfg.store, first]
      rfl
  owned i taken := by
    by_cases first : i = 0
    · subst first
      decide
    · refine absurd ?_ taken
      simp [inheritedCfg, Cfg.state, Cfg.store, first]
      rfl
  hint := by decide

/-- `Query` on that mapping, where the first pass fails and the second one goes on with
the slot. -/
def recoveringQuery (k : Nat) : List (Act 1) :=
  .query 0 [1] :: List.replicate k (.run 0 { alive := false })

/-- The client dies behind the owner store of the second pass, and a little later. -/
theorem dead_client_recoverable_recovery :
    (∃ c₁ c', inheritedCfg.steps (tinySetup 1) (recoveringQuery 6) = some c₁ ∧
      c₁.step (tinySetup 1) (.die 1) = some c' ∧
      ¬ HandsOut tinyShm c'.mem 2 (fun p => p != 1 && p != 7)) ∧
    ∃ c₁ c', inheritedCfg.steps (tinySetup 1) (recoveringQuery 10) = some c₁ ∧
      c₁.step (tinySetup 1) (.die 1) = some c' ∧
      HandsOut tinyShm c'.mem 2 (fun p => p != 1 && p != 7) := by
  have dies : ∀ k c₁, inheritedCfg.steps (tinySetup 1) (recoveringQuery k) = some c₁ →
      ∃ c', c₁.step (tinySetup 1) (.die 1) = some c' ∧
        (HandsOut tinyShm c'.mem 2 (fun p => p != 1 && p != 7) ↔ ¬ c₁.AtRisk 0) := by
    intro k c₁ ran
    have living : ∀ act ∈ recoveringQuery k, act.thread = some 0 := by
      intro act member
      rcases List.mem_cons.mp member with rfl | later
      · rfl
      · rw [List.eq_of_mem_replicate later]
        rfl
    have dead : c₁.dead = inheritedCfg.dead :=
      steps_dead ran fun act member => by rw [living act member]; rfl
    refine ⟨_, rfl, (dead_client_recoverable (by decide) (by decide) (fun t => ?_) (by decide) rfl
      inheritedCfg_inherited ran rfl fun p gone => ?_).2 0 fun act member t' acts => ?_⟩
    · rw [Subsingleton.elim t 0]
      rfl
    · change Function.update c₁.dead 1 true p = true at gone
      rw [dead, Function.update_apply] at gone
      by_cases own : p = 1
      · subst own
        rfl
      · rw [if_neg own] at gone
        rw [show p = 7 from eq_of_beq gone]
        rfl
    · rw [living act member] at acts
      exact (Option.some.inj acts).symm
  constructor
  · have ends : (inheritedCfg.steps (tinySetup 1) (recoveringQuery 6)).any
        (fun c => decide (c.AtRisk 0)) = true := by decide +kernel
    obtain ⟨c₁, ran, risk⟩ := (Option.any_eq_true _ _).mp ends
    obtain ⟨c', died, lost⟩ := dies 6 c₁ ran
    exact ⟨c₁, c', ran, died, fun hands => lost.mp hands (of_decide_eq_true risk)⟩
  · have ends : (inheritedCfg.steps (tinySetup 1) (recoveringQuery 10)).any
        (fun c => decide (¬ c.AtRisk 0)) = true := by decide +kernel
    obtain ⟨c₁, ran, safe⟩ := (Option.any_eq_true _ _).mp ends
    obtain ⟨c', died, kept⟩ := dies 10 c₁ ran
    exact ⟨c₁, c', ran, died, kept.mpr (of_decide_eq_true safe)⟩

/-- A client that dies right after the CAS of `acquireRespSlot`: its slot is taken
and has no owner, and nobody gets it again. -/
theorem ownerless_slot_lost :
    ∃ c', (freshCfg 1).steps (tinySetup 1) ((.query 0 [1] :: go 0 2) ++ [.die 1]) = some c' ∧
      c'.state 0 = layoutRespAcquired ∧ c'.owner 0 = 0 ∧
      ¬ HandsOut tinyShm c'.mem 2 (fun p => p != 1) := by
  have ends : ((freshCfg 1).steps (tinySetup 1) ((.query 0 [1] :: go 0 2) ++ [.die 1])).any
      (fun c => decide (c.state 0 = layoutRespAcquired ∧ c.owner 0 = 0 ∧
        ((acquireMany tinyShm 2 (fun p => p != 1) tinyShm.respSlots.toNat).run c.mem).map
          Prod.fst = some [none])) = true := by decide +kernel
  obtain ⟨c', ran, last⟩ := (Option.any_eq_true _ _).mp ends
  obtain ⟨taken, unowned, fails⟩ := of_decide_eq_true last
  refine ⟨c', ran, taken, unowned, ?_⟩
  rintro ⟨slots, w, calls, -⟩
  rw [calls, Option.map_some] at fails
  cases slots <;> cases fails

end ReqRep
