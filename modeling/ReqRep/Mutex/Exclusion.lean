import ReqRep.Mutex.Moves

/-!
# Mutual exclusion under crashes

The word names the process of the live goroutine that holds the mutex, and only
a word that names a dead process is recovered.
-/

namespace ReqRep.Mutex

variable {n : Nat} {pid : Fin n → Pid} {c c' : Cfg n} {t : Fin n} {acts : List (Act n)}

/-! ## The word -/

theorem mutexWord_pid (p : Pid) : mutexWord p &&& layoutMutexPidMask = p := by
  have mask : layoutMutexPidMask.toNat = 2 ^ 31 - 1 := rfl
  have small : p.val.toNat < 2 ^ 31 := Nat.lt_succ_of_le (UInt32.le_iff_toNat_le.mp p.property.2)
  have bound : p.val &&& layoutMutexPidMask = p.val := by
    apply UInt32.toNat_inj.mp
    rw [UInt32.toNat_and, mask, Nat.and_two_pow_sub_one_eq_mod, Nat.mod_eq_of_lt small]
  have word : (mutexWord p).toNat = 2 ^ 31 + p.val.toNat := by
    rw [mutexWord, bound, UInt32.toNat_or, show layoutMutexWriterBit.toNat = 1 <<< 31 from rfl,
      ← Nat.shiftLeft_add_eq_or_of_lt small]
    rfl
  apply UInt32.toNat_inj.mp
  rw [UInt32.toNat_and, word, mask, Nat.and_two_pow_sub_one_eq_mod]
  omega

theorem mutexWord_ne_zero (p : Pid) : mutexWord p ≠ 0 := by
  intro zero
  have same := mutexWord_pid p
  rw [zero, UInt32.zero_and] at same
  exact absurd p.property.1 (same ▸ UInt32.lt_irrefl 0)

/-! ## The invariant -/

/-- A live goroutine between the CAS of its `mutexLock` and the store of its
`mutexUnlock`. -/
def Cfg.Inside (pid : Fin n → Pid) (c : Cfg n) (t : Fin n) : Prop :=
  c.dead (pid t) = false ∧ (c.pc t).place = .inside

instance (pid : Fin n → Pid) (c : Cfg n) (t : Fin n) : Decidable (c.Inside pid t) :=
  inferInstanceAs (Decidable (_ ∧ _))

/-- What ties the word to the holders, live and dead. -/
structure Exclusive (pid : Fin n → Pid) (c : Cfg n) : Prop where
  owned : c.mutex = 0 ∨ ∃ t, c.mutex = mutexWord (pid t)
  word : ∀ t, c.Inside pid t → c.mutex = mutexWord (pid t)
  alone : ∀ t t', c.Inside pid t → c.Inside pid t' → t = t'
  knows : ∀ t, (c.pc t).Knows c.dead

theorem fresh_exclusive : Exclusive pid (fresh n) where
  owned := .inl rfl
  word _ inside := nomatch inside.2
  alone _ _ inside _ := nomatch inside.2
  knows _ := trivial

/-- Nobody enters, and the word stays. -/
theorem Exclusive.of_fewer (before : Exclusive pid c) (same : c'.mutex = c.mutex)
    (fewer : ∀ t, c'.Inside pid t → c.Inside pid t) (knows : ∀ t, (c'.pc t).Knows c'.dead) :
    Exclusive pid c' where
  owned := by
    rw [same]
    exact before.owned
  word t inside := by
    rw [same]
    exact before.word t (fewer t inside)
  alone t t' inside inside' := before.alone t t' (fewer t inside) (fewer t' inside')
  knows := knows

/-- A goroutine goes on to where it does not have the mutex. -/
theorem Exclusive.goto (before : Exclusive pid c) {pc : Pc} (out : pc.place ≠ .inside)
    (knows : pc.Knows c.dead) : Exclusive pid (c.goto t pc) := by
  refine before.of_fewer rfl (fun t' inside => ⟨inside.1, ?_⟩) fun t' => ?_
  · have place := inside.2
    by_cases own : t' = t
    · subst own
      rw [Cfg.goto_self] at place
      exact absurd place out
    · rwa [Cfg.goto_of_ne _ _ own] at place
  · by_cases own : t' = t
    · subst own
      rw [Cfg.goto_self]
      exact knows
    · rw [Cfg.goto_of_ne _ _ own]
      exact before.knows t'

/-- The word is stored 0 where nobody is left inside. -/
theorem Exclusive.of_nobody (free : c'.mutex = 0) (nobody : ∀ t, ¬ c'.Inside pid t)
    (knows : ∀ t, (c'.pc t).Knows c'.dead) : Exclusive pid c' where
  owned := .inl free
  word t inside := absurd inside (nobody t)
  alone t _ inside _ := absurd inside (nobody t)
  knows := knows

/-- A word that names a dead process does not name a live holder. -/
theorem Exclusive.nobody_of_dead (before : Exclusive pid c)
    (dead : c.dead (c.mutex &&& layoutMutexPidMask) = true) : ¬ c.Inside pid t := by
  intro inside
  rw [before.word t inside, mutexWord_pid, inside.1] at dead
  cases dead

/-- Nobody is inside while the mutex is free. -/
theorem Exclusive.nobody_of_free (before : Exclusive pid c) (free : c.mutex = 0) :
    ¬ c.Inside pid t := fun inside =>
  mutexWord_ne_zero (pid t) ((before.word t inside).symm.trans free)

theorem Walk.not_inside {here there : Pc} (walks : Walk c here there)
    (free : here.place ≠ .inside) :
    there.place ≠ .inside := by
  cases walks with
  | stay same => rwa [same]
  | sleep a tm waits sleeps =>
    rw [sleeps]
    nofun
  | start _ ends | rouse _ ends | leave _ ends =>
    rw [ends]
    nofun

/-- A move of a living process keeps the mutex exclusive. -/
theorem Exclusive.move (before : Exclusive pid c) (alive : c.dead (pid t) = false)
    (move : Move pid c t c') : Exclusive pid c' := by
  have knows := move.knows before.knows
  -- another goroutine is inside after the step where it was before
  have other : ∀ {c₀ : Cfg n} {pc t'}, t' ≠ t → (c₀.goto t pc).Inside pid t' →
      c₀.Inside pid t' := by
    intro c₀ pc t' ne inside
    rwa [Cfg.Inside, Cfg.goto_of_ne _ _ ne] at inside
  have own : ∀ {c₀ : Cfg n} {pc}, (c₀.goto t pc).Inside pid t → pc.place = .inside := by
    intro c₀ pc inside
    have place := inside.2
    rwa [Cfg.goto_self] at place
  cases move with
  | take a free tries apart calm =>
    have only : ∀ t', ({ c with mutex := mutexWord (pid t) }.goto t (.locked a)).Inside pid t' →
        t' = t := by
      intro t' inside
      by_contra ne
      exact before.nobody_of_free free (other ne inside)
    refine ⟨.inr ⟨t, rfl⟩, fun t' inside => ?_, fun t₁ t₂ inside inside' => ?_, knows⟩
    · rw [only t' inside]
      rfl
    · rw [only t₁ inside, only t₂ inside']
  | release a holds =>
    refine .of_nobody rfl (fun t' inside => ?_) knows
    by_cases same : t' = t
    · subst same
      cases own inside
    · exact same (before.alone t' t (other same inside) ⟨alive, by rw [holds]; rfl⟩)
  | recover l tm calls =>
    have dead := before.knows t
    rw [calls] at dead
    refine .of_nobody rfl (fun t' inside => ?_) knows
    by_cases same : t' = t
    · subst same
      have place : l.place = .inside := own inside
      cases l <;> cases place
    · exact before.nobody_of_dead dead.2 (other same inside)
  | walk waiters recoveries pc free walks counts keeps =>
    refine before.of_fewer rfl (fun t' inside => ?_) knows
    by_cases same : t' = t
    · subst same
      exact absurd (own inside) (walks.not_inside free)
    · exact other same inside
  | wake woken c₀ pc woke calls apart apart' keeps =>
    obtain ⟨mutex, -, dead⟩ := words_futexWake woke
    refine before.of_fewer mutex (fun t' inside => ?_) knows
    by_cases same : t' = t
    · subst same
      have place := own inside
      rcases calls with ⟨-, out⟩ | ⟨out, -, stays⟩
      · cases place.symm.trans out
      · exact absurd (stays.symm.trans place) out
    · obtain ⟨alive', place⟩ := other same inside
      rw [dead] at alive'
      rcases pc_futexWake (t := t') woke with same | ⟨a, tm, -, awake⟩
      · exact ⟨alive', same ▸ place⟩
      · rw [awake] at place
        cases place

/-- A step keeps the mutex exclusive. -/
theorem Exclusive.step {act : Act n} (before : Exclusive pid c)
    (stepped : c.step pid act = some c') : Exclusive pid c' := by
  rcases step_moves stepped with ⟨t, -, alive, move⟩ | ⟨p, -, rfl⟩
  · exact before.move alive move
  · refine before.of_fewer rfl (fun t inside => ⟨?_, inside.2⟩) fun t => (before.knows t).die p
    have alive := inside.1
    by_cases same : (pid t).val = p
    · simp [same] at alive
    · exact (Function.update_of_ne same ..).symm.trans alive

theorem exclusive_of_run (ran : (fresh n).steps pid acts = some c') : Exclusive pid c' := by
  have always : Runs.Always (Cfg.step pid) (fun _ _ => True) (fresh n) acts :=
    .of_forall fun _ _ => trivial
  exact Runs.invariant (Exclusive pid) (fun _ _ _ before _ stepped => before.step stepped) ran
    always fresh_exclusive

/-! ## Mutual exclusion -/

/-- In every run, with deaths at any step: at most one live goroutine is between
the CAS of its `mutexLock` and the store of its `mutexUnlock`; the mutex word is
then its PID with the writer bit; and a step of `recoverStaleMutex` that changes
the word finds the PID of a dead process in it. -/
theorem mutual_exclusion (ran : (fresh n).steps pid acts = some c') :
    (∀ t t', c'.Inside pid t → c'.Inside pid t' → t = t') ∧
    (∀ t, c'.Inside pid t → c'.mutex = mutexWord (pid t)) ∧
    ∀ t ans c'', (c'.pc t).recovers = true → c'.step pid (.run t ans) = some c'' →
      c''.mutex ≠ c'.mutex →
        ∃ t', c'.dead (pid t') = true ∧ c'.mutex = mutexWord (pid t') := by
  have exclusive := exclusive_of_run ran
  refine ⟨exclusive.alone, exclusive.word, fun t ans c'' recovers stepped changed => ?_⟩
  rcases step_moves stepped with ⟨t', same, -, move⟩ | ⟨p, same, -⟩
  · obtain rfl : t = t' := Option.some.inj same
    cases move with
    | take a free tries apart calm =>
      rw [calm] at recovers
      cases recovers
    | release a holds =>
      rw [holds] at recovers
      cases recovers
    | recover l tm calls =>
      have dead := exclusive.knows t
      rw [calls] at dead
      rcases exclusive.owned with free | ⟨holder, word⟩
      · rw [free] at dead
        exact absurd dead.1 (by decide)
      · have dead := dead.2
        rw [word, mutexWord_pid] at dead
        exact ⟨holder, dead, word⟩
    | walk => exact absurd rfl changed
    | wake woken c₀ pc woke => exact absurd (words_futexWake woke).1 changed
  · cases same

/-- Process `t + 1` for goroutine `t`. -/
def ownProcess (t : Fin 2) : Pid :=
  ⟨UInt32.ofNat (t + 1), by decide +revert, by decide +revert⟩

/-- One wait of goroutine 1 that times out, up to the answer of `pidAlive`. -/
def timedOutWait : List (Act 2) :=
  List.replicate 35 (.run 1 {}) ++
    [.timeout 1, .run 1 {}, .run 1 {}, .run 1 { alive := false }]

/-- A holder dies, and the other process times out on it twice. -/
def deadHolder : List (Act 2) :=
  [.trySend 0, .run 0 {}, .die 1, .trySend 1] ++ timedOutWait ++ timedOutWait

theorem mutual_exclusion_deadHolder :
    ∃ c' c'', (fresh 2).steps ownProcess deadHolder = some c' ∧
      c'.step ownProcess (.run 1 {}) = some c'' ∧ c''.mutex ≠ c'.mutex ∧
      ∃ t, c'.dead (ownProcess t) = true ∧ c'.mutex = mutexWord (ownProcess t) := by
  have ends : ((fresh 2).steps ownProcess deadHolder).any (fun c =>
      (c.pc 1).recovers && (c.step ownProcess (.run 1 {})).any fun c' =>
        decide (c'.mutex ≠ c.mutex)) = true := by decide +kernel
  obtain ⟨c', ran, last⟩ := (Option.any_eq_true _ _).mp ends
  obtain ⟨recovers, next⟩ := Bool.and_eq_true_iff.mp last
  obtain ⟨c'', stepped, changed⟩ := (Option.any_eq_true _ _).mp next
  have changed := of_decide_eq_true changed
  exact ⟨c', c'', ran, stepped, changed,
    (mutual_exclusion ran).2.2 1 {} c'' recovers stepped changed⟩

end ReqRep.Mutex
