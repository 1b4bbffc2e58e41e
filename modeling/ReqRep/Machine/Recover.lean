import ReqRep.Machine.Frame
import ReqRep.Machine.Start

/-!
# Stale slots

The second pass of `acquireRespSlot` finds the owner of a taken slot dead, clears
the owner and frees the slot. Nothing ties these steps to one acquisition: they
are right while the slot is not taken anew between the verdict and the CAS, and
while the pid that was judged is that of the holder.
-/

namespace ReqRep

variable {n : Nat} {S : Setup n} {v v' : View n} {c c' : Cfg n} {t t' : Fin n}
  {label : Option Label}

/-- The slot whose owner the goroutine has found dead and that it has yet to free.
A subroutine carries the verdict of its caller. -/
def Role.judged : Role → Option UInt32
  | .recovering i _ .clear | .recovering i _ .free => some i
  | .releasing _ _ next | .cancelling _ _ next => next.judged
  | _ => none

/-- A verdict is about the holder of the slot, and no slot is taken between a
verdict on it and the CAS that follows. -/
def Certain (S : Setup n) (v : View n) : Label → Prop
  | .condemn i _ => ∀ t, v.holder i = some t → v.dead (S.pid t) = true
  | .take i => ∀ t, (v.role t).judged = some i → v.dead (S.pid t) = true
  | _ => True

instance (v : View n) (l : Label) : Decidable (Certain S v l) := by
  unfold Certain
  split <;> infer_instance

/-- A goroutine with a verdict on a slot is behind a dead holder, or it is dead. -/
structure Judged (S : Setup n) (v : View n) : Prop where
  free : ∀ i, v.state i = layoutRespFree ↔ v.holder i = none
  behind : ∀ t i, (v.role t).judged = some i → v.dead (S.pid t) = false →
    ∀ t', v.holder i = some t' → v.dead (S.pid t') = true

/-- A verdict is new or as before. -/
theorem judged_of_move (move : Move S v t label v') {i : UInt32}
    (judged : (v'.role t).judged = some i) :
    (v.role t).judged = some i ∨ v'.holder = v.holder ∧ ∃ pid, label = some (.condemn i pid) := by
  cases move with
  | condemn role bound taken dead =>
    rw [View.become_role] at judged
    obtain rfl := Option.some.inj judged
    exact .inr ⟨rfl, _, rfl⟩
  | clear role | cancelHit role | casHit role | cancelOwner role | cancelMiss role | casMiss role
  | cancelBump role | releaseOwner role | releaseState role =>
    rw [View.become_role] at judged
    exact .inl ((congrArg Role.judged role).trans judged)
  | send role =>
    rw [View.become_role] at judged
    split at judged <;> cases judged
  | readLen role | readByte role =>
    rw [View.become_role, Role.readNext] at judged
    split at judged <;> cases judged
  | _ =>
    rw [View.become_role] at judged
    cases judged

/-- A goroutine that holds a slot has taken it in this step or before. -/
theorem held_of_move (move : Move S v t label v') {i : UInt32} (held : v'.holder i = some t') :
    v.holder i = some t' ∨ label = some (.take i) := by
  have freed : ∀ j, Function.update v.holder j none i = some t' → v.holder i = some t' := by
    intro j held
    by_cases same : i = j
    · simp [same] at held
    · simpa [same] using held
  cases move with
  | @take j role bound free =>
    by_cases same : i = j
    · exact .inr (by rw [same])
    · exact .inl (by simpa [View.become, View.setState, same] using held)
  | free role | releaseState role | casHit role => exact .inl (freed _ held)
  | _ => exact .inl held

namespace Judged

/-- A slot is free when nobody holds it. -/
theorem free_step (inv : Judged S v) (move : Move S v t label v') (i : UInt32) :
    v'.state i = layoutRespFree ↔ v'.holder i = none := by
  have freed : ∀ j, Function.update v.state j layoutRespFree i = layoutRespFree ↔
      Function.update v.holder j none i = none := by
    intro j
    by_cases same : i = j
    · simp [same]
    · simpa [same] using inv.free i
  cases move with
  | @take j role bound free =>
    by_cases same : i = j
    · simp [View.become, View.setState, same, layoutRespAcquired, layoutRespFree]
    · simpa [View.become, View.setState, same] using inv.free i
  | free role | releaseState role | casHit role => exact freed _
  | @publish id response role acquired =>
    by_cases same : i = idSlot id
    · subst same
      have taken : v.holder (idSlot id) ≠ none := by
        intro none
        rw [(inv.free _).mpr none] at acquired
        cases acquired
      refine iff_of_false ?_ taken
      simp [View.become, layoutRespReady, layoutRespFree]
    · simpa [View.become, same] using inv.free i
  | _ => exact inv.free i

/-- A certain step keeps the judgement. -/
theorem step (inv : Judged S v) (step : v.Step S label v')
    (certain : ∀ l, label = some l → Certain S v l) : Judged S v' := by
  cases step with
  | stutter => exact inv
  | die pid =>
    have alive : ∀ p, Function.update v.dead pid true p = false → v.dead p = false := by
      intro p alive
      by_cases same : p = pid
      · simp [same] at alive
      · simpa [same] using alive
    refine ⟨inv.free, fun t₁ i judged live t' held => ?_⟩
    have dead := inv.behind t₁ i judged (alive _ live) t' held
    by_contra still
    rw [alive _ (Bool.eq_false_iff.mpr still)] at dead
    cases dead
  | @move t _ _ live move =>
    refine ⟨inv.free_step move, fun t₁ i judged live₁ t' held => ?_⟩
    rw [move.dead_eq] at live₁ ⊢
    have before : (v.role t₁).judged = some i ∨
        v'.holder = v.holder ∧ ∃ pid, label = some (.condemn i pid) := by
      by_cases same : t₁ = t
      · subst same
        exact judged_of_move move judged
      · exact .inl (by rwa [move.role_of_ne same] at judged)
    rcases before with judged | ⟨same, pid, verdict⟩
    · rcases held_of_move move held with held | take
      · exact inv.behind t₁ i judged live₁ t' held
      · have dead := certain _ take t₁ judged
        rw [live₁] at dead
        cases dead
    · rw [same] at held
      exact certain _ verdict t' held

end Judged

/-! ## The runs -/

/-- In the second pass of `acquireRespSlot`. -/
def Pc.Recovers : Pc → Prop
  | .recState .. | .recOwner .. | .recAlive .. | .recClear .. | .recFree .. | .recStat ..
  | .recGrab .. => True
  | _ => False

instance (pc : Pc) : Decidable pc.Recovers := by
  unfold Pc.Recovers
  split <;> infer_instance

theorem Start.judged {c : Cfg n} (start : Start S c) : Judged S c.view where
  free i := iff_of_true (start.free i) (start.holder i)
  behind t i judged := by
    rw [start.role t] at judged
    cases judged

/-- What a step of the second pass does to a slot: it frees it only behind a dead
holder, and leaves the owner to a live one. -/
structure Spared (S : Setup n) (c c' : Cfg n) (i : UInt32) : Prop where
  freed : c.state i ≠ layoutRespFree → c'.state i = layoutRespFree →
    ∃ t, c.holder i = some t ∧ c.dead (S.pid t) = true
  kept : ∀ t, c.holder i = some t → c.dead (S.pid t) = false →
    c'.owner i = c.owner i ∧ c'.holder i = some t

theorem Spared.same {i : UInt32} (state : c'.state i = c.state i) (owner : c'.owner i = c.owner i)
    (holder : c'.holder i = c.holder i) : Spared S c c' i where
  freed taken free := absurd (state ▸ free) taken
  kept _ held _ := ⟨owner, holder ▸ held⟩

/-- A store to the owner shows in that owner alone. -/
theorem owner_store (c : Cfg n) (i j v : UInt32) (other : i ≠ j) :
    (c.store (.respSlotOwnerPid j) v).owner i = c.owner i :=
  if_neg fun same => other (Loc32.respSlotOwnerPid.inj same)

theorem state_setState (c : Cfg n) (i j v : UInt32) (h : Option (Fin n)) (other : i ≠ j) :
    (c.setState j v h).state i = c.state i :=
  if_neg fun same => other (Loc32.respSlotState.inj same)

/-- A step of the second pass spares the slots of the living. -/
theorem Judged.spares (inv : Judged S c.view) (live : c.dead (S.pid t) = false) {ans : Answer n}
    (ran : c.run S t ans = some c') (recovers : (c.thr t).pc.Recovers) (i : UInt32) :
    Spared S c c' i := by
  have behind : ∀ {j}, (c.thr t).pc.role.judged = some j → ∀ t', c.holder j = some t' →
      c.dead (S.pid t') = true := fun judged => inv.behind t _ judged live
  cases here : (c.thr t).pc with
  | recState a j =>
    simp only [Cfg.run, here] at ran
    split at ran <;> cases ran <;> exact .same rfl rfl rfl
  | recOwner a j state =>
    simp only [Cfg.run, here] at ran
    split at ran <;> cases ran <;> exact .same rfl rfl rfl
  | recAlive a j state pid =>
    simp only [Cfg.run, here] at ran
    split at ran
    · cases ran
      exact .same rfl rfl rfl
    · split at ran <;> cases ran
      exact .same rfl rfl rfl
  | recClear a j state =>
    simp only [Cfg.run, here, Option.some.injEq] at ran
    subst ran
    by_cases same : i = j
    · subst same
      refine ⟨fun taken free => absurd free taken, fun t' held alive => ?_⟩
      have dead := behind (congrArg (fun pc => pc.role.judged) here) t' held
      rw [alive] at dead
      cases dead
    · exact .same rfl (owner_store c i j 0 same) rfl
  | recFree a j state =>
    simp only [Cfg.run, here] at ran
    split at ran <;> cases ran
    · by_cases same : i = j
      · subst same
        have dead := behind (congrArg (fun pc => pc.role.judged) here)
        refine ⟨fun taken _ => ?_, fun t' held alive => ?_⟩
        · obtain ⟨t', held⟩ := Option.ne_none_iff_exists'.mp fun none =>
            taken ((inv.free i).mpr none)
          exact ⟨t', held, dead t' held⟩
        · rw [dead t' held] at alive
          cases alive
      · exact .same (state_setState c i j _ none same) rfl (Function.update_of_ne same _ _)
    · exact .same rfl rfl rfl
  | recStat a j =>
    simp only [Cfg.run, here, Option.some.injEq] at ran
    subst ran
    exact .same rfl rfl rfl
  | recGrab a j =>
    simp only [Cfg.run, here] at ran
    split at ran <;> cases ran
    · next free =>
      by_cases same : i = j
      · subst same
        refine ⟨fun taken => absurd free taken, fun t' held => ?_⟩
        rw [show c.holder i = none from (inv.free i).mp free] at held
        cases held
      · exact .same (state_setState c i j _ (some t) same) rfl (Function.update_of_ne same _ _)
    · exact .same rfl rfl rfl
  | _ =>
    rw [here] at recovers
    exact recovers.elim

/-- Stale recovery only takes slots of dead owners. In every run, with deaths at
any time, whose verdicts are about the holder and in which no slot is taken
between a verdict and its CAS, a step of the second pass of `acquireRespSlot`
frees a slot only behind a dead holder and takes nothing from a live one. -/
theorem recovery_spares_the_living (queueOk : S.shm.QueueOk) {c c₁ c₂ : Cfg n}
    {acts : List (Act n)} (start : Start S c) (ran : c.steps S acts = some c₁)
    (certain : Runs.Always (Cfg.step S) (Guarded S (Certain S)) c acts) {ans : Answer n}
    (stepped : c₁.step S (.run t ans) = some c₂) (recovers : (c₁.thr t).pc.Recovers)
    (i : UInt32) :
    (c₁.state i ≠ layoutRespFree → c₂.state i = layoutRespFree →
      ∃ t', c₁.holder i = some t' ∧ c₁.dead (S.pid t') = true) ∧
    ∀ t', c₁.holder i = some t' → c₁.dead (S.pid t') = false →
      c₂.owner i = c₁.owner i ∧ c₂.holder i = some t' := by
  have inv : Judged S c₁.view := (view_invariant queueOk (Judged S)
    (fun v label v' step certain inv => inv.step step certain) start.base start.judged ran
    certain).2
  unfold Cfg.step at stepped
  split at stepped
  · cases stepped
  · next live =>
    have spared := inv.spares (by simpa [Act.thread] using live) stepped recovers i
    exact ⟨spared.freed, spared.kept⟩

/-- A client dies with its slot, and another one finds it dead. -/
def deadOwner : List (Act 3) :=
  [[.query 0 [1]], go 0 5, [.die 1], [.query 1 [2]], go 1 4, [.run 1 { alive := false }],
    go 1 1].flatten

theorem recovery_spares_the_living_deadOwner :
    ∃ c₁ c₂, (freshCfg 3).steps (tinySetup 3) deadOwner = some c₁ ∧
      c₁.step (tinySetup 3) (.run 1 {}) = some c₂ ∧ c₁.holder 0 = some 0 ∧
      c₂.state 0 = layoutRespFree ∧ ∃ t', c₁.holder 0 = some t' ∧
        c₁.dead ((tinySetup 3).pid t') = true := by
  have ends : ((freshCfg 3).steps (tinySetup 3) deadOwner).any (fun c₁ =>
      (c₁.step (tinySetup 3) (.run 1 {})).any fun c₂ =>
        decide (c₁.holder 0 = some 0 ∧ c₁.state 0 ≠ layoutRespFree ∧
          c₂.state 0 = layoutRespFree ∧ (c₁.thr 1).pc.Recovers)) = true := by decide +kernel
  obtain ⟨c₁, ran, last⟩ := (Option.any_eq_true _ _).mp ends
  obtain ⟨c₂, stepped, last⟩ := (Option.any_eq_true _ _).mp last
  obtain ⟨held, taken, freed, recovers⟩ := of_decide_eq_true last
  have certain : Runs.Always (Cfg.step (tinySetup 3))
      (Guarded (tinySetup 3) (Certain (tinySetup 3))) (freshCfg 3) deadOwner := by decide +kernel
  exact ⟨c₁, c₂, ran, stepped, held, freed,
    (recovery_spares_the_living (by decide) (freshCfg_start 3) ran certain stepped recovers 0).1
      taken freed⟩

/-- Two clients find the same owner dead. The second one frees the slot and takes
it before the first one goes on. -/
def twoRecoverers : List (Act 3) :=
  [[.query 0 [1]], go 0 5, [.die 1], [.query 1 [2]], go 1 4, [.run 1 { alive := false }],
    [.query 2 [3]], go 2 4, [.run 2 { alive := false }], go 2 6, go 1 1].flatten

/-- The first one has cleared the owner of a slot that a live process holds, and
then takes the slot from it. -/
theorem twoRecoverers_steal :
    ∃ c₁ c₂, (freshCfg 3).steps (tinySetup 3) twoRecoverers = some c₁ ∧
      c₁.step (tinySetup 3) (.run 1 {}) = some c₂ ∧ (c₁.thr 1).pc.Recovers ∧
      c₁.holder 0 = some 2 ∧ c₁.dead ((tinySetup 3).pid 2) = false ∧ c₁.owner 0 = 0 ∧
      c₁.state 0 = layoutRespAcquired ∧ c₂.state 0 = layoutRespFree ∧ c₂.holder 0 = none := by
  have ends : ((freshCfg 3).steps (tinySetup 3) twoRecoverers).any (fun c₁ =>
      (c₁.step (tinySetup 3) (.run 1 {})).any fun c₂ =>
        decide ((c₁.thr 1).pc.Recovers ∧ c₁.holder 0 = some 2 ∧
          c₁.dead ((tinySetup 3).pid 2) = false ∧ c₁.owner 0 = 0 ∧
          c₁.state 0 = layoutRespAcquired ∧ c₂.state 0 = layoutRespFree ∧
          c₂.holder 0 = none)) = true := by decide +kernel
  obtain ⟨c₁, ran, last⟩ := (Option.any_eq_true _ _).mp ends
  obtain ⟨c₂, stepped, last⟩ := (Option.any_eq_true _ _).mp last
  exact ⟨c₁, c₂, ran, stepped, of_decide_eq_true last⟩

end ReqRep
