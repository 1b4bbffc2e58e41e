import ReqRep.Machine.Blind

/-!
# Goroutines at their sections

What a goroutine at a section does to the queue and to the mutex, and what the
others leave of it.
-/

namespace ReqRep

variable {n : Nat} {t : Fin n}

/-! ## Sections -/

namespace Fine

open Stepwise (Program)

variable {p : Body Outcome} {s : Shm}

theorem asleepOn_of_body {th : Thread} (waits : body s th = some p) :
    th.pc ≠ .idle ∧ th.pc.asleepOn = none := by
  unfold body at waits
  split at waits
  · next here =>
    rw [here]
    exact ⟨(by rintro ⟨⟩), rfl⟩
  · next here =>
    rw [here]
    exact ⟨(by rintro ⟨⟩), rfl⟩
  · cases waits

/-- The protocol of the slots does not see a section. -/
theorem label_of_body {S : ReqRep.Setup n} {c : ReqRep.Cfg n} {ans : ReqRep.Answer n}
    (waits : body s (c.thr t) = some p) : c.label S (.run t ans) = none := by
  unfold body at waits
  split at waits
  · next here => simp only [ReqRep.Cfg.label, here, ReqRep.Cfg.labelAt]
  · next here => simp only [ReqRep.Cfg.label, here, ReqRep.Cfg.labelAt]
  · cases waits

/-- A goroutine stays at its section until it runs. -/
theorem body_kept {act : ReqRep.Act n} {S : ReqRep.Setup n} {c c' : ReqRep.Cfg n}
    (stepped : c.step S act = some c') (waits : body s (c.thr t) = some p)
    (other : ∀ ans, act ≠ .run t ans) : body s (c'.thr t) = some p := by
  obtain ⟨busy, awake⟩ := asleepOn_of_body waits
  by_cases own : act.thread = some t
  · unfold ReqRep.Cfg.step at stepped
    split at stepped
    · cases stepped
    cases act with
    | run t' ans =>
      obtain rfl : t' = t := Option.some.inj own
      exact absurd rfl (other ans)
    | query t' req | serve t' =>
      obtain rfl : t' = t := Option.some.inj own
      simp [busy] at stepped
    | cancelCtx t' | deadline t' =>
      obtain rfl : t' = t := Option.some.inj own
      cases stepped
      simpa [body] using waits
    | wakeup t' =>
      obtain rfl : t' = t := Option.some.inj own
      simp [awake] at stepped
    | die pid => cases own
  · rcases step_thr_of_ne stepped own with same | ⟨⟨l, asleep⟩, -⟩
    · rwa [same]
    · rw [awake] at asleep
      cases asleep

/-- The sections only touch the queue. -/
theorem ofQueue_body {th : Thread} (waits : body s th = some p) : ByAccess.OfQueue p := by
  unfold body at waits
  split at waits <;> cases waits
  · exact (ByAccess.ofQueue_sendLocked s _ _ _).map _
  · exact (ByAccess.ofQueue_recvLocked s).map _

/-- What a section comes to: its outcome, and the stores it makes. -/
def trace (p : Body Outcome) (m : Mem) : Option (Outcome × List Write) :=
  (p.exec ⟨m, []⟩).map fun out => (out.1, out.2.writes)

/-- The accesses of a section, performed without a break. -/
theorem exec_of_trace (queue : ByAccess.OfQueue p) {m : Mem} {outcome : Outcome}
    {ws : List Write} (traced : trace p m = some (outcome, ws)) :
    p.exec ⟨m, []⟩ = some (outcome, ⟨m.writeAll ws, ws⟩) := by
  obtain ⟨⟨outcome, w⟩, ran, same⟩ := Option.map_eq_some_iff.mp traced
  obtain ⟨rfl, rfl⟩ := Prod.mk.inj same
  obtain ⟨ws, rfl, -⟩ := queue.exec_extends ran
  rw [ran]
  rfl

/-- A section does not notice stores elsewhere. -/
theorem trace_elsewhere (queue : ByAccess.OfQueue p) {ws : List Write}
    (others : ∀ w ∈ ws, w.ofQueue = false) (m : Mem) : trace p (m.writeAll ws) = trace p m := by
  induction ws generalizing m with
  | nil => rfl
  | cons w ws ih =>
    obtain ⟨here, later⟩ := List.forall_mem_cons.mp others
    have commutes := queue.exec_elsewhere here ⟨m, []⟩
    rw [World.elsewhere] at commutes
    rw [Mem.writeAll_cons, ih later, trace, commutes, trace, Option.map_map]
    rfl

/-- A section goes on from its first access, which makes the stores `ws`. -/
theorem trace_access {a : Access} {next : a.Answer → Body Outcome} {m : Mem} {ws : List Write}
    (queue : ∀ answer, ByAccess.OfQueue (next answer))
    (stores : (a.perform ⟨m, []⟩).2 = World.extend ⟨m, []⟩ ws) :
    trace (.access (I := mapping) a next) m =
      (trace (next (a.perform ⟨m, []⟩).1) (m.writeAll ws)).map
        fun out => (out.1, ws ++ out.2) := by
  have after := (queue (a.perform ⟨m, []⟩).1).exec_after ws ⟨m.writeAll ws, []⟩
  rw [World.after, List.append_nil] at after
  show ((next (a.perform ⟨m, []⟩).1).exec (a.perform ⟨m, []⟩).2).map _ = _
  rw [stores, World.extend, List.nil_append, after, trace, Option.map_map, Option.map_map]
  rfl

/-- Stores to the queue and stores elsewhere can change places. -/
theorem writeAll_comm (m : Mem) {ws ws' : List Write} (queue : ∀ w ∈ ws, w.ofQueue = true)
    (others : ∀ w ∈ ws', w.ofQueue = false) :
    (m.writeAll ws').writeAll ws = (m.writeAll ws).writeAll ws' := by
  induction ws generalizing m with
  | nil => rfl
  | cons w ws ih =>
    obtain ⟨here, later⟩ := List.forall_mem_cons.mp queue
    have one : (m.writeAll ws').write w = (m.write w).writeAll ws' := by
      clear ih
      induction ws' generalizing m with
      | nil => rfl
      | cons w' ws' ih =>
        obtain ⟨here', later'⟩ := List.forall_mem_cons.mp others
        rw [Mem.writeAll_cons, ih later', Mem.write_comm m here here', Mem.writeAll_cons]
    rw [Mem.writeAll_cons, one, ih _ later, Mem.writeAll_cons]

/-- The one step of the section is its accesses and what follows them. -/
theorem run_of_exec {S : ReqRep.Setup n} {c : ReqRep.Cfg n} {ans : ReqRep.Answer n}
    {outcome : Outcome} {w : World} (waits : body S.shm (c.thr t) = some p)
    (ran : p.exec ⟨c.mem, []⟩ = some (outcome, w)) :
    c.run S t ans = some (finish (c.withMem w.mem) t outcome) := by
  unfold body at waits
  split at waits
  · next a id here =>
    cases waits
    rw [Program.exec_map, ByAccess.exec_sendLocked, Exec.map_apply] at ran
    obtain ⟨⟨ok, w⟩, sent, same⟩ := Option.map_eq_some_iff.mp ran
    obtain ⟨rfl, rfl⟩ := Prod.mk.inj same
    simp only [ReqRep.Cfg.run, here, Exec.run, sent, finish, withMem_thr]
    cases ok <;> rfl
  · next a here =>
    cases waits
    rw [Program.exec_map, ByAccess.exec_recvLocked, Exec.map_apply] at ran
    obtain ⟨⟨got, w⟩, received, same⟩ := Option.map_eq_some_iff.mp ran
    obtain ⟨rfl, rfl⟩ := Prod.mk.inj same
    simp only [ReqRep.Cfg.run, here, Exec.run, received, finish, withMem_thr]
    cases got <;> rfl
  · cases waits

theorem finish_thr_of_ne {c : ReqRep.Cfg n} {outcome : Outcome} {t' : Fin n} (other : t' ≠ t) :
    (finish c t outcome).thr t' = c.thr t' := by
  unfold finish
  split <;> first
    | exact Function.update_of_ne other ..
    | rfl

theorem finish_dead {c : ReqRep.Cfg n} {outcome : Outcome} :
    (finish c t outcome).dead = c.dead := by
  unfold finish
  split <;> rfl

theorem finish_mem {c : ReqRep.Cfg n} {outcome : Outcome} :
    (finish c t outcome).mem = c.mem := by
  unfold finish
  split <;> rfl

/-- The ids that are queued follow what the users of the queue see. -/
theorem finish_pending {c : ReqRep.Cfg n} {m m' : Mem} {outcome : Outcome} {ws : List Write}
    (waits : body s (c.thr t) = some p) (traced : trace p m = some (outcome, ws)) :
    (finish (c.withMem m') t outcome).pending = queuedAfter c.pending (seen (c.thr t) outcome) := by
  unfold body at waits
  split at waits
  · next a id here =>
    cases waits
    rw [trace, Program.exec_map, Exec.map_apply, Option.map_map] at traced
    obtain ⟨⟨ok, w⟩, -, same⟩ := Option.map_eq_some_iff.mp traced
    obtain ⟨rfl, -⟩ := Prod.mk.inj same
    simp only [finish, seen, withMem_thr, here]
    cases ok <;> rfl
  · next a here =>
    cases waits
    rw [trace, Program.exec_map, Exec.map_apply, Option.map_map] at traced
    obtain ⟨⟨got, w⟩, -, same⟩ := Option.map_eq_some_iff.mp traced
    obtain ⟨rfl, -⟩ := Prod.mk.inj same
    simp only [finish, seen, withMem_thr, here]
    cases got <;> rfl
  · cases waits

/-! ## In the functions of the mutex -/

/-- The goroutine came to the mutex from a section, or to the check for a stale
holder from `recvWait`. -/
def Once : Mutex.Pc → Prop
  | .idle | .recvErr _ => True
  | .lockSpin a _ _ | .lockAdd a _ | .lockLoad a _ | .lockFutexWait a _ _ | .lockAsleep a _
  | .lockSub a _ | .lockRetry a _ | .lockTimedOut a _ | .locked a | .unlockLoad a | .unlockWake a
  | .unlocked a => a = .once
  | .staleLoad l _ | .staleAlive l _ _ | .recoverCas l _ _ | .recoverStat l _ | .recoverLoad l _
  | .recoverWake l _ => l = .mutexLock .once ∨ l = .recvWait
  | .recvFutexWait _ => False

variable {pid : Fin n → Mutex.Pid} {l l' : Mutex.Cfg n} {held : Mutex.Answer n}

theorem once_spin {a : Mutex.Caller} (same : a = .once) (tm : Timeouts) (k : Nat) :
    Once (.spin a tm k) := by
  unfold Mutex.Pc.spin
  split <;> exact same

theorem once_checked {x : Mutex.Loop} (same : x = .mutexLock .once ∨ x = .recvWait)
    (tm : Timeouts) : Once (.checked tm x) := by
  rcases same with rfl | rfl
  · rfl
  · trivial

theorem once_goto {pc : Mutex.Pc} (before : ∀ t, Once (l.pc t)) (here : Once pc) :
    ∀ t', Once ((l.goto t pc).pc t') := by
  intro t'
  by_cases own : t' = t
  · subst own
    rwa [Mutex.Cfg.goto_self]
  · rw [Mutex.Cfg.goto_of_ne _ _ own]
    exact before t'

theorem once_futexWake {woken : List (Fin n)} (before : ∀ t, Once (l.pc t))
    (woke : l.futexWake pid woken = some l') : ∀ t, Once (l'.pc t) := by
  intro t
  rcases Mutex.pc_futexWake (t := t) woke with same | ⟨a, tm, asleep, awake⟩
  · rw [same]
    exact before t
  · have here := before t
    rw [asleep] at here
    rw [awake]
    exact here

theorem once_run (before : ∀ t, Once (l.pc t)) (busy : ∀ tm, l.pc t ≠ .recvErr tm)
    (ran : l.run pid t held = some l') : ∀ t, Once (l'.pc t) := by
  have here := before t
  have woke : ∀ {woken pc}, (l.futexWake pid woken).map (·.goto t pc) = some l' →
      Once pc → ∀ t, Once (l'.pc t) := by
    intro woken pc mapped next
    obtain ⟨l₀, woke, rfl⟩ := Option.map_eq_some_iff.mp mapped
    exact once_goto (once_futexWake before woke) next
  cases at_ : l.pc t with
  | recoverWake x tm =>
    rw [at_] at here
    simp only [Mutex.Cfg.run, at_] at ran
    exact woke ran (once_checked here tm)
  | unlockWake a =>
    rw [at_] at here
    simp only [Mutex.Cfg.run, at_] at ran
    exact woke ran here
  | recvFutexWait tm =>
    rw [at_] at here
    exact here.elim
  | recvErr tm => exact absurd at_ (busy tm)
  | _ =>
    rw [at_] at here
    simp only [Mutex.Cfg.run, at_] at ran
    repeat' split at ran
    all_goals first
      | (obtain rfl := Option.some.inj ran
         refine once_goto before ?_
         first
           | exact here
           | exact once_spin here _ _
           | exact once_checked here _
           | exact .inl (congrArg _ here)
           | (cases here; trivial))
      | cases ran

/-- How a step in the functions of the mutex changes the places: a goroutine gets
in where the mutex is free, nobody gets out, and nobody comes to wait. -/
structure Passes (l : Mutex.Cfg n) (t : Fin n) (l' : Mutex.Cfg n) : Prop where
  enters : ∀ t', (l'.pc t').place = .inside → (l.pc t').place = .inside ∨
    t' = t ∧ (l.pc t).place = .trying ∧ l.mutex = 0
  stays : ∀ t', (l.pc t').place = .inside → (l'.pc t').place = .inside
  waits : ∀ t', (l'.pc t').place = .trying ∨ (l'.pc t').place = .asleep →
    (l.pc t').place = .trying ∨ (l.pc t').place = .asleep

/-- Only the goroutine that moves changes its place. -/
theorem Passes.of_goto {l₀ : Mutex.Cfg n} {pc : Mutex.Pc}
    (others : ∀ t', t' ≠ t → (l₀.pc t').place = (l.pc t').place ∨
      (l.pc t').place = .asleep ∧ (l₀.pc t').place = .trying)
    (free : (l.pc t).place ≠ .inside)
    (enters : pc.place = .inside → (l.pc t).place = .trying ∧ l.mutex = 0)
    (waits : pc.place = .trying ∨ pc.place = .asleep →
      (l.pc t).place = .trying ∨ (l.pc t).place = .asleep) : Passes l t (l₀.goto t pc) where
  enters t' inside := by
    by_cases own : t' = t
    · subst own
      rw [Mutex.Cfg.goto_self] at inside
      exact .inr ⟨rfl, enters inside⟩
    · rw [Mutex.Cfg.goto_of_ne _ _ own] at inside
      rcases others t' own with same | ⟨-, tries⟩
      · exact .inl (same ▸ inside)
      · cases tries.symm.trans inside
  stays t' inside := by
    have own : t' ≠ t := by
      rintro rfl
      exact free inside
    rw [Mutex.Cfg.goto_of_ne _ _ own]
    rcases others t' own with same | ⟨asleep, -⟩
    · exact same.trans inside
    · cases asleep.symm.trans inside
  waits t' tries := by
    by_cases own : t' = t
    · subst own
      rw [Mutex.Cfg.goto_self] at tries
      exact waits tries
    · rw [Mutex.Cfg.goto_of_ne _ _ own] at tries
      rcases others t' own with same | ⟨asleep, -⟩
      · rwa [same] at tries
      · exact .inr asleep

/-- A goroutine that has nothing to do with the mutex moves on. -/
theorem Passes.of_outside {l₀ : Mutex.Cfg n} {pc : Mutex.Pc}
    (others : ∀ t', t' ≠ t → (l₀.pc t').place = (l.pc t').place ∨
      (l.pc t').place = .asleep ∧ (l₀.pc t').place = .trying)
    (here : (l.pc t).place = .outside) (there : pc.place = .outside) :
    Passes l t (l₀.goto t pc) := by
  refine .of_goto others ?_ (fun inside => ?_) fun tries => ?_
  · rw [here]
    rintro ⟨⟩
  · cases there.symm.trans inside
  · rw [there] at tries
    exact tries.elim (by rintro ⟨⟩) (by rintro ⟨⟩)

/-- What a `futexWake` does to the others. -/
theorem others_of_futexWake {woken : List (Fin n)} {l₀ : Mutex.Cfg n}
    (woke : l.futexWake pid woken = some l₀) (t' : Fin n) :
    (l₀.pc t').place = (l.pc t').place ∨
      (l.pc t').place = .asleep ∧ (l₀.pc t').place = .trying := by
  rcases Mutex.pc_futexWake (t := t') woke with same | ⟨a, tm, asleep, awake⟩
  · exact .inl (by rw [same])
  · exact .inr ⟨by rw [asleep]; rfl, by rw [awake]; rfl⟩

/-- The check for a stale holder in `recvWait`, and the return from `mutexUnlock`. -/
theorem outside_passes (comes : Once (l.pc t)) (busy : ∀ tm, l.pc t ≠ .recvErr tm)
    (outside : (l.pc t).place = .outside) (ran : l.run pid t held = some l') :
    Passes l t l' := by
  have still : ∀ t', t' ≠ t → (l.pc t').place = (l.pc t').place ∨
      (l.pc t').place = .asleep ∧ (l.pc t').place = .trying := fun _ _ => .inl rfl
  have polls : ∀ {x}, x = .mutexLock .once ∨ x = .recvWait → x.place = .outside →
      x = Mutex.Loop.recvWait := by
    rintro x (rfl | rfl) outside
    · cases outside
    · rfl
  cases at_ : l.pc t with
  | idle => simp [Mutex.Cfg.run, at_] at ran
  | unlocked a =>
    rw [at_] at comes
    obtain rfl : a = .once := comes
    simp only [Mutex.Cfg.run, at_] at ran
    obtain rfl := Option.some.inj ran
    exact .of_outside still outside rfl
  | recvFutexWait tm =>
    rw [at_] at comes
    exact comes.elim
  | recvErr tm => exact absurd at_ (busy tm)
  | recoverWake x tm =>
    rw [at_] at comes
    obtain rfl := polls comes ((congrArg Mutex.Pc.place at_).symm.trans outside)
    simp only [Mutex.Cfg.run, at_] at ran
    obtain ⟨l₀, woke, rfl⟩ := Option.map_eq_some_iff.mp ran
    exact .of_outside (fun t' _ => others_of_futexWake woke t') outside rfl
  | staleLoad x tm | staleAlive x tm v | recoverCas x tm v | recoverStat x tm
  | recoverLoad x tm =>
    rw [at_] at comes
    obtain rfl := polls comes ((congrArg Mutex.Pc.place at_).symm.trans outside)
    simp only [Mutex.Cfg.run, at_] at ran
    repeat' split at ran
    all_goals first
      | (obtain rfl := Option.some.inj ran
         refine .of_outside still outside ?_
         try split
         all_goals rfl)
      | cases ran
  | _ =>
    rw [at_] at outside
    cases outside

theorem run_passes (comes : Once (l.pc t)) (busy : ∀ tm, l.pc t ≠ .recvErr tm)
    (free : (l.pc t).place ≠ .inside) (ran : l.run pid t held = some l') : Passes l t l' := by
  by_cases outside : (l.pc t).place = .outside
  · exact outside_passes comes busy outside ran
  have still : ∀ t', t' ≠ t → (l.pc t').place = (l.pc t').place ∨
      (l.pc t').place = .asleep ∧ (l.pc t').place = .trying := fun _ _ => .inl rfl
  cases Mutex.run_moves ran with
  | take a word tries =>
    exact .of_goto still free (fun _ => ⟨tries, word⟩) (by rintro (⟨⟨⟩⟩ | ⟨⟨⟩⟩))
  | release a holds =>
    rw [holds] at free
    exact absurd rfl free
  | recover x tm calls =>
    have same : (l.pc t).place = x.place := by
      rw [calls]
      rfl
    rw [same] at free
    exact .of_goto still (same ▸ free) (fun inside => absurd inside free)
      (fun tries => same ▸ tries)
  | walk waiters recoveries pc _ walks =>
    refine .of_goto still free (fun inside => absurd inside (walks.not_inside free)) fun tries => ?_
    cases walks with
    | stay same => rwa [same] at tries
    | start out => exact absurd out outside
    | sleep a tm waits =>
      rw [waits]
      exact .inl rfl
    | rouse asleep => exact .inr asleep
    | leave _ out =>
      rw [out] at tries
      exact tries.elim (by rintro ⟨⟩) (by rintro ⟨⟩)
  | wake woken l₀ pc woke calls =>
    refine .of_goto (fun t' _ => others_of_futexWake woke t') free (fun inside => ?_)
      fun tries => ?_
    · rcases calls with ⟨-, out⟩ | ⟨in_, -, same⟩
      · cases out.symm.trans inside
      · exact absurd (same.symm.trans inside) in_
    · rcases calls with ⟨-, out⟩ | ⟨-, -, same⟩
      · rw [out] at tries
        exact tries.elim (by rintro ⟨⟩) (by rintro ⟨⟩)
      · rwa [same] at tries

end Fine

end ReqRep
