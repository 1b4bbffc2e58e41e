import ReqRep.Machine.Matching

/-!
# The critical sections are atomic

Every run of the machine whose sections run access by access under the mutex is
matched by a run of the machine whose sections take one step. The two agree on
everything but the words of the queue, and on these too whenever nobody holds the
mutex.
-/

namespace ReqRep.Fine

open ByAccess (OfQueue)

variable {n : Nat} {S : Setup n} {f f' : Cfg n} {c c' : ReqRep.Cfg n} {t : Fin n}
  {act : Act n}

/-! ## What the protocol sees -/

namespace Matches

/-- No party can tell the two configurations apart. -/
theorem view_eq (before : Matches S f c) : c.view = f.cfg.view := by
  have elsewhere := before.elsewhere
  rw [before.rest]
  unfold ReqRep.Cfg.view ReqRep.Cfg.state ReqRep.Cfg.gen ReqRep.Cfg.owner
  congr 1
  · exact funext fun i => elsewhere.u32 _ rfl
  · exact funext fun i => elsewhere.u32 _ rfl
  · exact funext fun i => elsewhere.u32 _ rfl
  · exact funext fun i => elsewhere.u32 _ rfl
  · exact funext fun i => funext fun k => elsewhere.u8 _ rfl
  · exact elsewhere.u32 _ rfl

/-- An act has the same label in both. -/
theorem label_eq (before : Matches S f c) (act : ReqRep.Act n) :
    c.label S.base act = f.cfg.label S.base act := by
  have thr : c.thr = f.cfg.thr := by
    rw [before.rest]
    rfl
  have state : ∀ i, c.state i = f.cfg.state i := fun i => before.elsewhere.u32 _ rfl
  have gen : ∀ i, c.gen i = f.cfg.gen i := fun i => before.elsewhere.u32 _ rfl
  unfold ReqRep.Cfg.label ReqRep.Cfg.labelAt
  simp only [thr, state, gen]

theorem guarded (before : Matches S f c) {ok : View n → Label → Prop} {act : ReqRep.Act n}
    (guarded : ReqRep.Guarded S.base ok f.cfg act) : ReqRep.Guarded S.base ok c act := by
  unfold ReqRep.Guarded at *
  rwa [before.label_eq, before.view_eq]

end Matches

/-- The label of the act, if it has one, meets `ok`. The operations on the mutex
and on the queue have none. -/
def Cfg.Guarded (S : Setup n) (ok : View n → Label → Prop) (f : Cfg n) : Act n → Prop
  | .run t ans _ => f.lock.pc t = .idle → ReqRep.Guarded S.base ok f.cfg (.run t ans)
  | .die pid => ReqRep.Guarded S.base ok f.cfg (.die pid)
  | _ => True

/-! ## One step -/

/-- What a step is: an operation of a live goroutine, something that happens to one
outside of the mutex, the end of a wait on the mutex, or a death. -/
inductive Happens (S : Setup n) (f : Cfg n) : Act n → Cfg n → Prop where
  | run {t : Fin n} {ans : ReqRep.Answer n} {held : Mutex.Answer n} {f' : Cfg n}
      (alive : f.cfg.dead (S.pid t) = false) (ran : f.run S t ans held = some f') :
      Happens S f (.run t ans held) f'
  | outside {act : Act n} {coarse : ReqRep.Act n} {d : ReqRep.Cfg n} {poll : Fin n → Poll}
      (moved : f.cfg.step S.base coarse = some d) (apart : ∀ t ans, coarse ≠ .run t ans)
      (lives : ∀ pid, coarse ≠ .die pid) : Happens S f act { f with cfg := d, poll := poll }
  | mutex {act : Act n} {t : Fin n} {inner : Mutex.Act n} {l : Mutex.Cfg n}
      (moved : f.lock.step S.pid inner = some l) (kind : inner = .wakeup t ∨ inner = .timeout t) :
      Happens S f act { f with lock := l }
  | die (pid : UInt32) {f' : Cfg n} (stepped : f.step S (.die pid) = some f') :
      Happens S f (.die pid) f'

theorem happens_of_step (stepped : f.step S act = some f') : Happens S f act f' := by
  cases act with
  | run t ans held =>
    simp only [Cfg.step] at stepped
    split at stepped
    · cases stepped
    · next alive => exact .run (Bool.eq_false_of_not_eq_true alive) stepped
  | query t req | cancelCtx t | deadline t | wakeup t =>
    obtain ⟨d, moved, rfl⟩ := Option.map_eq_some_iff.mp stepped
    exact .outside moved (by rintro t ans ⟨⟩) (by rintro pid ⟨⟩)
  | serve t =>
    obtain ⟨f₁, happened, rfl⟩ := Option.map_eq_some_iff.mp stepped
    obtain ⟨d, moved, rfl⟩ := Option.map_eq_some_iff.mp happened
    exact .outside moved (by rintro t ans ⟨⟩) (by rintro pid ⟨⟩)
  | recvTimeout t =>
    simp only [Cfg.step] at stepped
    split at stepped
    · obtain ⟨f₁, happened, rfl⟩ := Option.map_eq_some_iff.mp stepped
      obtain ⟨d, moved, rfl⟩ := Option.map_eq_some_iff.mp happened
      exact .outside moved (by rintro t ans ⟨⟩) (by rintro pid ⟨⟩)
    · cases stepped
  | lockWakeup t =>
    obtain ⟨l, moved, rfl⟩ := Option.map_eq_some_iff.mp stepped
    exact .mutex moved (.inl rfl)
  | lockTimeout t =>
    obtain ⟨l, moved, rfl⟩ := Option.map_eq_some_iff.mp stepped
    exact .mutex moved (.inr rfl)
  | die pid => exact .die pid stepped

/-- What the machine with atomic sections does about a step: it waits, it takes
the step, or it takes the step of a section that ends. -/
inductive Followed (S : Setup n) (f : Cfg n) (act : Act n) (c : ReqRep.Cfg n) (f' : Cfg n) :
    ReqRep.Cfg n → Prop where
  | waits (same : f'.events = f.events) (after : Matches S f' c) : Followed S f act c f' c
  | moves (coarse : ReqRep.Act n) (c' : ReqRep.Cfg n) (ws : List Write)
      (stepped : c.step S.base coarse = some c') (mem : c'.mem = c.mem.writeAll ws)
      (others : ∀ w ∈ ws, w.ofQueue = false) (pending : c'.pending = c.pending)
      (guarded : ∀ ok, f.Guarded S ok act → ReqRep.Guarded S.base ok c coarse)
      (same : f'.events = f.events) (after : Matches S f' c') : Followed S f act c f' c'
  | returns (t : Fin n) (p : Body Outcome) (outcome : Outcome) (ws : List Write)
      (arrived : body S.shm (c.thr t) = some p) (traced : trace p c.mem = some (outcome, ws))
      (stepped : c.step S.base (.run t {}) =
        some (finish (c.withMem (c.mem.writeAll ws)) t outcome))
      (events : f'.events = f.events ++ [seen (c.thr t) outcome])
      (after : Matches S f' (finish (c.withMem (c.mem.writeAll ws)) t outcome)) :
      Followed S f act c f' (finish (c.withMem (c.mem.writeAll ws)) t outcome)

theorem Followed.after (followed : Followed S f act c f' c') : Matches S f' c' := by
  cases followed with
  | waits same after => exact after
  | moves coarse c' ws stepped mem others pending guarded same after => exact after
  | returns t p outcome ws arrived traced stepped events after => exact after

/-- The acts of the machine with atomic sections. -/
theorem Followed.acts (followed : Followed S f act c f' c') :
    ∃ acts, c.steps S.base acts = some c' ∧ ∀ ok, f.Guarded S ok act →
      Runs.Always (ReqRep.Cfg.step S.base) (ReqRep.Guarded S.base ok) c acts := by
  have single : ∀ {coarse c'}, c.step S.base coarse = some c' →
      c.steps S.base [coarse] = some c' := by
    intro coarse c' stepped
    rw [ReqRep.Cfg.steps, Runs.run, stepped]
    rfl
  cases followed with
  | waits same after => exact ⟨[], rfl, fun _ _ => trivial⟩
  | moves coarse c' ws stepped mem others pending guarded same after =>
    refine ⟨[coarse], single stepped, fun ok meets => ⟨guarded ok meets, ?_⟩⟩
    rw [stepped]
    trivial
  | returns t p outcome ws arrived traced stepped events after =>
    refine ⟨[.run t {}], single stepped, fun ok _ => ⟨?_, ?_⟩⟩
    · rw [ReqRep.Guarded, label_of_body arrived]
      trivial
    · rw [stepped]
      trivial

namespace Matches

theorem step_eq_run (before : Matches S f c) (alive : f.cfg.dead (S.pid t) = false)
    (ans : ReqRep.Answer n) : c.step S.base (.run t ans) = c.run S.base t ans := by
  have lives : c.dead (S.pid t) = false := by
    rw [before.rest]
    exact alive
  rw [ReqRep.Cfg.step, if_neg (by simp [ReqRep.Act.thread, Setup.base, lives])]

/-- What happens to a goroutine outside of the mutex. -/
theorem happen (before : Matches S f c) {coarse : ReqRep.Act n} {d : ReqRep.Cfg n}
    (stepped : f.cfg.step S.base coarse = some d) (apart : ∀ t ans, coarse ≠ .run t ans)
    (lives : ∀ pid, coarse ≠ .die pid) {poll : Fin n → Poll} :
    Followed S f act c { f with cfg := d, poll := poll } (d.withMem c.mem) := by
  obtain ⟨mem, pending, anywhere⟩ := step_withMem apart stepped
  have dead : d.dead = f.cfg.dead := by
    rcases step_dead stepped with same | ⟨pid, dies, -⟩
    · exact same
    · exact absurd dies (lives pid)
  have stores : d.mem = f.cfg.mem.writeAll [] := mem
  have after := before.outside stepped stores (by simp) dead
    (fun t ans same => absurd same (apart t ans)) poll
  have there : c.step S.base coarse = some (d.withMem c.mem) := by
    have there := anywhere c.mem
    rwa [← before.rest] at there
  have same : d.pending = c.pending := by
    rw [pending, before.rest]
    rfl
  refine .moves coarse _ [] there rfl (by simp) same (fun ok _ => ?_) rfl after
  unfold ReqRep.Guarded
  cases coarse with
  | run t ans => exact absurd rfl (apart t ans)
  | die pid => exact absurd rfl (lives pid)
  | _ => trivial

/-- What happens to a goroutine asleep on the mutex. -/
theorem disturb (before : Matches S f c) {inner : Mutex.Act n} {l : Mutex.Cfg n}
    (stepped : f.lock.step S.pid inner = some l)
    (kind : inner = .wakeup t ∨ inner = .timeout t) :
    Matches S { f with lock := l } c := by
  have exclusive := before.exclusive.step stepped
  have goes : ∃ pc, (f.lock.pc t).place = .asleep ∧ pc.place = .trying ∧ Once pc ∧
      l = f.lock.goto t pc := by
    have comes := before.once t
    unfold Mutex.Cfg.step at stepped
    split at stepped
    · cases stepped
    rcases kind with rfl | rfl
    · dsimp only at stepped
      split at stepped <;> cases stepped
      next a tm asleep =>
      rw [asleep] at comes ⊢
      exact ⟨.lockSub a tm, rfl, rfl, comes, rfl⟩
    · dsimp only at stepped
      split at stepped <;> cases stepped
      next a tm asleep =>
      rw [asleep] at comes ⊢
      exact ⟨.lockTimedOut a tm, rfl, rfl, comes, rfl⟩
  obtain ⟨pc, asleep, tries, comes, rfl⟩ := goes
  have free : (f.lock.pc t).place ≠ .inside := by
    rw [asleep]
    rintro ⟨⟩
  have out : pc.place ≠ .inside := by
    rw [tries]
    rintro ⟨⟩
  have passes : Passes f.lock t (f.lock.goto t pc) :=
    .of_goto (fun _ _ => .inl rfl) free (fun inside => absurd inside out) fun _ => .inr asleep
  refine before.passes_by passes free ?_ exclusive rfl (once_goto before.once comes)
  rwa [Mutex.Cfg.goto_self]

/-- One operation of a goroutine. -/
theorem run (before : Matches S f c) {ans : ReqRep.Answer n} {held : Mutex.Answer n}
    (alive : f.cfg.dead (S.pid t) = false) (ran : f.run S t ans held = some f') :
    ∃ c', Followed S f (.run t ans held) c f' c' := by
  have locking : f.lock.step S.pid (.run t held) = f.lock.run S.pid t held := by
    rw [Mutex.Cfg.step, if_neg (by simp [Mutex.Act.thread, before.dead, alive])]
  have place : ∀ {pc}, f.lock.pc t = pc → (f.lock.pc t).place = pc.place :=
    fun same => congrArg Mutex.Pc.place same
  unfold Cfg.run at ran
  split at ran
  · next idle =>
    split at ran
    · cases ran
      exact ⟨c, .waits rfl (before.hop (place idle) rfl (.inr rfl) trivial)⟩
    split at ran
    · next outside =>
      obtain ⟨d, moved, rfl⟩ := Option.map_eq_some_iff.mp ran
      obtain ⟨ws, others, blind⟩ := run_blind outside moved
      have mem : d.mem = f.cfg.mem.writeAll ws := by
        have here := blind f.cfg.mem (.refl _)
        rw [show f.cfg.withMem f.cfg.mem = f.cfg from rfl, moved] at here
        exact congrArg ReqRep.Cfg.mem (Option.some.inj here)
      have stepped : f.cfg.step S.base (.run t ans) = some d := by
        rw [ReqRep.Cfg.step, if_neg (by simp [ReqRep.Act.thread, Setup.base, alive])]
        exact moved
      have apart : ∀ t' ans', ReqRep.Act.run t ans = .run t' ans' →
          body S.shm (f.cfg.thr t') = none := by
        rintro t' ans' ⟨⟩
        exact outside
      have after := before.outside stepped mem others (run_dead moved) apart f.poll
      have there := blind c.mem before.elsewhere
      rw [← before.rest, ← before.step_eq_run alive] at there
      have pending : d.pending = c.pending := by
        rw [run_pending outside moved, before.rest]
        rfl
      exact ⟨_, .moves _ _ ws there rfl others pending
        (fun ok guarded => before.guarded (guarded idle)) rfl after⟩
    · next p waits =>
      cases ran
      exact ⟨c, .waits rfl (before.call idle waits)⟩
  · next tm polled =>
    cases ran
    exact ⟨c, .waits rfl (before.hop (place polled) rfl trivial trivial)⟩
  · next a locked =>
    have inside : f.Inside S t := ⟨by rw [before.dead]; exact alive, place locked⟩
    split at ran
    · next access next here =>
      cases ran
      exact ⟨c, .waits rfl (before.access inside here)⟩
    · cases ran
    · next outcome here =>
      obtain ⟨l, unlocked, rfl⟩ := Option.map_eq_some_iff.mp ran
      obtain ⟨p, ws, arrived, traced, there, after⟩ := before.unlock alive locked here unlocked
      rw [← before.step_eq_run alive] at there
      refine ⟨_, .returns t p outcome ws arrived traced there ?_ after⟩
      rw [before.rest]
      rfl
  · next unpolled other =>
    obtain ⟨l, moved, rfl⟩ := Option.map_eq_some_iff.mp ran
    have comes := before.once t
    have busy : ∀ tm, f.lock.pc t ≠ .recvErr tm := unpolled
    have free : (f.lock.pc t).place ≠ .inside := by
      intro inside
      obtain ⟨a, locked⟩ := Mutex.Pc.eq_of_place_inside inside
      exact other a locked
    exact ⟨c, .waits rfl (before.passes f.poll (run_passes comes busy free moved) free
      (before.exclusive.step (locking.trans moved)) (Mutex.run_moves moved).dead_eq
      (once_run before.once busy moved))⟩

/-- A step in which no process dies. -/
theorem step (before : Matches S f c) (stepped : f.step S act = some f')
    (lives : ∀ pid, act ≠ .die pid) : ∃ c', Followed S f act c f' c' := by
  cases happens_of_step stepped with
  | run alive ran => exact before.run alive ran
  | outside moved apart lives => exact ⟨_, before.happen moved apart lives⟩
  | mutex moved kind => exact ⟨c, .waits rfl (before.disturb moved kind)⟩
  | die pid => exact absurd rfl (lives pid)

end Matches

/-! ## Any run -/

/-- No process dies while one of its goroutines has the mutex. -/
def Unbroken (S : Setup n) (f : Cfg n) : Act n → Prop
  | .die pid => ∀ t, f.Inside S t → (S.pid t).val ≠ pid
  | _ => True

instance (f : Cfg n) : DecidablePred (Unbroken S f)
  | .die pid => inferInstanceAs (Decidable (∀ t, f.Inside S t → (S.pid t).val ≠ pid))
  | .run _ _ _ | .query _ _ | .serve _ | .cancelCtx _ | .deadline _ | .wakeup _ | .recvTimeout _
  | .lockWakeup _ | .lockTimeout _ => isTrue trivial

/-- Without goroutines inside, a death does nothing to the queue. -/
theorem cuts_eq_nil {pid : UInt32} (unbroken : ∀ t, f.Inside S t → (S.pid t).val ≠ pid) :
    f.cuts S pid = [] := by
  refine List.map_eq_nil_iff.mpr (List.filter_eq_nil_iff.mpr fun t _ => ?_)
  simp only [decide_eq_true_eq, not_and]
  exact fun own inside => unbroken t inside own

namespace Matches

/-- What happens to the machine with sections happens to the one without. -/
theorem step_unbroken (before : Matches S f c) (stepped : f.step S act = some f')
    (unbroken : Unbroken S f act) :
    ∃ acts c', Matches S f' c' ∧ c.steps S.base acts = some c' ∧ ∀ ok, f.Guarded S ok act →
      Runs.Always (ReqRep.Cfg.step S.base) (ReqRep.Guarded S.base ok) c acts := by
  by_cases dies : ∃ pid, act = .die pid
  · obtain ⟨pid, rfl⟩ := dies
    cases stepped
    rw [cuts_eq_nil unbroken]
    refine ⟨[.die pid], _, before.die unbroken, rfl, fun ok guarded => ⟨before.guarded guarded, ?_⟩⟩
    trivial
  · obtain ⟨c', followed⟩ := before.step stepped fun pid same => dies ⟨pid, same⟩
    obtain ⟨acts, ran, guarded⟩ := followed.acts
    exact ⟨acts, c', followed.after, ran, guarded⟩

/-- A run that breaks no section is matched by a run of the machine with atomic sections. -/
theorem run_unbroken (before : Matches S f c) {acts : List (Act n)}
    (ran : f.steps S acts = some f')
    (unbroken : Runs.Always (Cfg.step S) (Unbroken S) f acts) :
    ∃ coarse c', Matches S f' c' ∧ c.steps S.base coarse = some c' ∧
      ∀ ok, Runs.Always (Cfg.step S) (Cfg.Guarded S ok) f acts →
        Runs.Always (ReqRep.Cfg.step S.base) (ReqRep.Guarded S.base ok) c coarse := by
  induction acts generalizing f c with
  | nil =>
    cases ran
    exact ⟨[], c, before, rfl, fun _ _ => trivial⟩
  | cons act acts ih =>
    obtain ⟨f₁, stepped, rest⟩ := Option.bind_eq_some_iff.mp ran
    obtain ⟨here, later⟩ := unbroken
    rw [stepped] at later
    obtain ⟨coarse, c₁, between, moved, guarded⟩ := before.step_unbroken stepped here
    obtain ⟨coarse', c', after, moved', guarded'⟩ := ih between rest later
    refine ⟨coarse ++ coarse', c', after, ?_, fun ok always => ?_⟩
    · rw [ReqRep.Cfg.steps, Runs.run_append]
      exact Option.bind_eq_some_iff.mpr ⟨c₁, moved, moved'⟩
    · obtain ⟨meets, always⟩ := always
      rw [stepped] at always
      exact (Runs.Meets.append ⟨moved, guarded ok meets⟩ ⟨moved', guarded' ok always⟩).always

end Matches

/-- The machine with atomic sections covers the machine without: every run of the
latter in which no process dies while it has the mutex comes, up to the words of
the queue, to where a run of the former comes, and to the same memory whenever
nobody has the mutex. What the labels of the one run meet, those of the other
meet. -/
theorem sections_atomic (ready : Ready f) {acts : List (Act n)}
    (ran : f.steps S acts = some f')
    (unbroken : Runs.Always (Cfg.step S) (Unbroken S) f acts) :
    ∃ coarse c', f.cfg.steps S.base coarse = some c' ∧
      c' = f'.cfg.withMem c'.mem ∧ f'.cfg.mem.SameElsewhere c'.mem ∧
      ((∀ t, ¬ f'.Inside S t) → c' = f'.cfg) ∧
      ∀ ok, Runs.Always (Cfg.step S) (Cfg.Guarded S ok) f acts →
        Runs.Always (ReqRep.Cfg.step S.base) (ReqRep.Guarded S.base ok) f.cfg coarse := by
  obtain ⟨coarse, c', after, moved, guarded⟩ := ready.matches.run_unbroken ran unbroken
  refine ⟨coarse, c', moved, after.rest, after.elsewhere, fun out => ?_, guarded⟩
  rw [after.rest, after.free out]
  rfl

/-- The server comes to the mutex while the client fills the arena. -/
def overlapping : List (Act 2) :=
  [[.query 0 [1]], go 0 14, [.serve 1], go 1 3, go 0 14, go 1 19].flatten

theorem sections_atomic_overlapping :
    ∃ f', (fresh 2).steps tinySetup overlapping = some f' ∧
      f'.events = [.push ([1], packId 1 0), .pop ([1], packId 1 0)] ∧
      ∃ coarse, (fresh 2).cfg.steps tinySetup.base coarse = some f'.cfg := by
  have ends : ((fresh 2).steps tinySetup overlapping).any (fun f =>
      decide (f.events = [.push ([1], packId 1 0), .pop ([1], packId 1 0)] ∧
        ∀ t, ¬ f.Inside tinySetup t)) = true := by
    decide +kernel
  obtain ⟨f', ran, last⟩ := (Option.any_eq_true _ _).mp ends
  obtain ⟨seen, out⟩ := of_decide_eq_true last
  have unbroken : Runs.Always (Cfg.step tinySetup) (Unbroken tinySetup) (fresh 2) overlapping := by
    decide +kernel
  obtain ⟨coarse, c', moved, -, -, same, -⟩ := sections_atomic (fresh_ready 2) ran unbroken
  rw [same out] at moved
  exact ⟨f', ran, seen, coarse, moved⟩

end ReqRep.Fine
