import ReqRep.Machine.Sections

/-!
# Sections under way

How the machine whose sections run access by access under the mutex is matched by
a configuration of the machine whose sections take one step: a section under way
has made its first stores in the one and none in the other. A section takes its one
step when it releases the mutex.
-/

namespace ReqRep.Fine

open ByAccess (OfQueue)
open Stepwise (Program)

variable {n : Nat} {S : Setup n} {f f' : Cfg n} {c c' : ReqRep.Cfg n} {t : Fin n}
  {p : Body Outcome} {done : List Write}

/-! ## The relation -/

/-- Where the mutex places the goroutine. -/
def Cfg.place (f : Cfg n) (t : Fin n) : Mutex.Place := (f.lock.pc t).place

/-- A goroutine is in its section `p`, and has made the stores `done`. -/
structure Halfway (S : Setup n) (f : Cfg n) (c : ReqRep.Cfg n) (t : Fin n) (p : Body Outcome)
    (done : List Write) : Prop where
  waits : body S.shm (f.cfg.thr t) = some p
  queue : OfQueue (f.job t)
  stores : ∀ w ∈ done, w.ofQueue = true
  mem : f.cfg.mem = c.mem.writeAll done
  trace : trace p c.mem = (trace (f.job t) f.cfg.mem).map fun out => (out.1, done ++ out.2)
  tail : (f.entry t).u64 .hdrReqTail = c.mem.u64 .hdrReqTail
  head : (f.entry t).u64 .hdrReqHead = c.mem.u64 .hdrReqHead

/-- The configuration `c` of the machine with atomic sections matches `f`. -/
structure Matches (S : Setup n) (f : Cfg n) (c : ReqRep.Cfg n) : Prop where
  rest : c = f.cfg.withMem c.mem
  elsewhere : f.cfg.mem.SameElsewhere c.mem
  exclusive : Mutex.Exclusive S.pid f.lock
  dead : f.lock.dead = f.cfg.dead
  once : ∀ t, Once (f.lock.pc t)
  waits : ∀ t, f.place t = .trying ∨ f.place t = .asleep →
    body S.shm (f.cfg.thr t) = some (f.job t)
  free : (∀ t, ¬ f.Inside S t) → c.mem = f.cfg.mem
  inside : ∀ t, f.Inside S t → ∃ p done, Halfway S f c t p done

/-- A run can start here: nobody is in a function of the mutex. -/
structure Ready (f : Cfg n) : Prop where
  mutex : f.lock.mutex = 0
  idle : ∀ t, f.lock.pc t = .idle
  dead : f.lock.dead = f.cfg.dead

theorem fresh_ready (n : Nat) : Ready (fresh n) := ⟨rfl, fun _ => rfl, rfl⟩

theorem Ready.outside (ready : Ready f) (t : Fin n) : ¬ f.Inside S t := by
  rintro ⟨-, inside⟩
  rw [ready.idle t] at inside
  cases inside

theorem Ready.matches (ready : Ready f) : Matches S f f.cfg where
  rest := rfl
  elsewhere := .refl _
  exclusive := by
    refine ⟨.inl ready.mutex, fun t inside => absurd inside (ready.outside t),
      fun t _ inside => absurd inside (ready.outside t), fun t => ?_⟩
    rw [ready.idle t]
    trivial
  dead := ready.dead
  once t := by
    rw [ready.idle t]
    trivial
  waits t tries := by
    rw [Cfg.place, ready.idle t] at tries
    rcases tries with (⟨⟨⟩⟩ | ⟨⟨⟩⟩)
  free _ := rfl
  inside t inside := absurd inside (ready.outside t)

namespace Matches

theorem alone (before : Matches S f c) {t' : Fin n} (inside : f.Inside S t)
    (inside' : f.Inside S t') : t = t' :=
  before.exclusive.alone t t' inside inside'

theorem nobody (before : Matches S f c) (free : f.lock.mutex = 0) (t : Fin n) :
    ¬ f.Inside S t :=
  before.exclusive.nobody_of_free free

/-! ## Steps -/

/-- A step outside of the mutex, which makes the stores `ws`. -/
theorem outside (before : Matches S f c) {act : ReqRep.Act n} {d : ReqRep.Cfg n} {ws : List Write}
    (stepped : f.cfg.step S.base act = some d) (mem : d.mem = f.cfg.mem.writeAll ws)
    (others : ∀ w ∈ ws, w.ofQueue = false) (dead : d.dead = f.cfg.dead)
    (apart : ∀ t ans, act = .run t ans → body S.shm (f.cfg.thr t) = none)
    (poll : Fin n → Poll) :
    Matches S { f with cfg := d, poll := poll } (d.withMem (c.mem.writeAll ws)) := by
  have kept : ∀ t p, body S.shm (f.cfg.thr t) = some p → body S.shm (d.thr t) = some p := by
    intro t p waits
    refine body_kept stepped waits ?_
    rintro ans rfl
    rw [apart t ans rfl] at waits
    cases waits
  refine ⟨rfl, ?_, before.exclusive, before.dead.trans dead.symm, before.once,
    fun t tries => kept t _ (before.waits t tries), fun free => ?_, fun t inside => ?_⟩
  · rw [mem]
    exact before.elsewhere.writeAll ws
  · show c.mem.writeAll ws = d.mem
    rw [before.free free, mem]
  · obtain ⟨p, done, half⟩ := before.inside t inside
    have counter : ∀ l : Loc64, l.ofQueue = true →
        (c.mem.writeAll ws).u64 l = c.mem.u64 l := by
      intro l queue
      refine Mem.writeAll_u64_of_not_mem ?_ c.mem
      intro v member
      cases queue.symm.trans (others _ member)
    refine ⟨p, done, kept t p half.waits, half.queue, half.stores, ?_, ?_, ?_, ?_⟩
    · show d.mem = (c.mem.writeAll ws).writeAll done
      rw [mem, half.mem, writeAll_comm c.mem half.stores others]
    · show trace p (c.mem.writeAll ws) = (trace (f.job t) d.mem).map _
      rw [mem, trace_elsewhere (ofQueue_body half.waits) others,
        trace_elsewhere half.queue others, half.trace]
    · exact half.tail.trans (counter _ rfl).symm
    · exact half.head.trans (counter _ rfl).symm

/-- A step in the functions of the mutex. -/
theorem passes (before : Matches S f c) {l : Mutex.Cfg n} (poll : Fin n → Poll)
    (passes : Passes f.lock t l) (free : (f.lock.pc t).place ≠ .inside)
    (exclusive : Mutex.Exclusive S.pid l) (dead : l.dead = f.lock.dead)
    (once : ∀ t, Once (l.pc t)) :
    Matches S { f with
      lock := l
      poll := poll
      entry := if (l.pc t).place = .inside then Function.update f.entry t f.cfg.mem
        else f.entry } c where
  rest := before.rest
  elsewhere := before.elsewhere
  exclusive := exclusive
  dead := dead.trans before.dead
  once := once
  waits t' tries := before.waits t' (passes.waits t' tries)
  free out := before.free fun t' inside =>
    out t' ⟨dead ▸ inside.1, passes.stays t' inside.2⟩
  inside t' inside := by
    rcases passes.enters t' inside.2 with held | ⟨rfl, tries, word⟩
    · have inside' : f.Inside S t' := ⟨dead ▸ inside.1, held⟩
      obtain ⟨p, done, half⟩ := before.inside t' inside'
      have same : (if (l.pc t).place = .inside then Function.update f.entry t f.cfg.mem
          else f.entry) t' = f.entry t' := by
        split
        · next enters =>
          rcases passes.enters t enters with held' | ⟨-, -, word⟩
          · exact absurd held' free
          · exact absurd inside' (before.nobody word t')
        · rfl
      exact ⟨p, done, half.waits, half.queue, half.stores, half.mem, half.trace,
        (congrArg (Mem.u64 · .hdrReqTail) same).trans half.tail,
        (congrArg (Mem.u64 · .hdrReqHead) same).trans half.head⟩
    · have waits := before.waits t' (.inl tries)
      have same := before.free (before.nobody word)
      have entry : (if (l.pc t').place = .inside then Function.update f.entry t' f.cfg.mem
          else f.entry) t' = c.mem := by
        rw [if_pos inside.2, Function.update_self, same]
      refine ⟨f.job t', [], waits, ofQueue_body waits, by simp, same.symm, ?_,
        congrArg (Mem.u64 · .hdrReqTail) entry, congrArg (Mem.u64 · .hdrReqHead) entry⟩
      rw [same]
      simp

/-- The same where the goroutine does not get the mutex. -/
theorem passes_by (before : Matches S f c) {l : Mutex.Cfg n} {poll : Fin n → Poll}
    (passes : Passes f.lock t l) (free : (f.lock.pc t).place ≠ .inside)
    (out : (l.pc t).place ≠ .inside) (exclusive : Mutex.Exclusive S.pid l)
    (dead : l.dead = f.lock.dead) (once : ∀ t, Once (l.pc t)) :
    Matches S { f with lock := l, poll := poll } c := by
  have after := before.passes poll passes free exclusive dead once
  rwa [if_neg out] at after

/-- A goroutine that has nothing to do with the mutex goes on. -/
theorem hop (before : Matches S f c) {pc : Mutex.Pc} {poll : Fin n → Poll}
    (here : (f.lock.pc t).place = .outside) (there : pc.place = .outside) (comes : Once pc)
    (knows : pc.Knows f.lock.dead) :
    Matches S { f with lock := f.lock.goto t pc, poll := poll } c := by
  have passes : Passes f.lock t (f.lock.goto t pc) :=
    .of_outside (fun _ _ => .inl rfl) here there
  have free : (f.lock.pc t).place ≠ .inside := by
    rw [here]
    rintro ⟨⟩
  have outside : pc.place ≠ .inside := by
    rw [there]
    rintro ⟨⟩
  have out : ((f.lock.goto t pc).pc t).place ≠ .inside := by
    rwa [Mutex.Cfg.goto_self]
  have exclusive : Mutex.Exclusive S.pid (f.lock.goto t pc) :=
    before.exclusive.goto outside knows
  exact before.passes_by passes free out exclusive rfl (once_goto before.once comes)

/-- A goroutine comes to the mutex. -/
theorem call (before : Matches S f c) (idle : f.lock.pc t = .idle)
    (waits : body S.shm (f.cfg.thr t) = some p) :
    Matches S { f with
      lock := f.lock.goto t (.lock .once), job := Function.update f.job t p } c := by
  have moved : ∀ t', t' ≠ t → (f.lock.goto t (.lock .once)).pc t' = f.lock.pc t' :=
    fun t' other => Mutex.Cfg.goto_of_ne _ _ other
  have others : ∀ t', ((f.lock.goto t (.lock .once)).pc t').place = .inside →
      t' ≠ t ∧ (f.lock.pc t').place = .inside := by
    intro t' inside
    have own : t' ≠ t := by
      rintro rfl
      rw [Mutex.Cfg.goto_self] at inside
      cases inside
    rw [moved t' own] at inside
    exact ⟨own, inside⟩
  have exclusive : Mutex.Exclusive S.pid (f.lock.goto t (.lock .once)) :=
    before.exclusive.goto (by rintro ⟨⟩) trivial
  refine ⟨before.rest, before.elsewhere, exclusive, before.dead, once_goto before.once rfl,
    fun t' tries => ?_, fun free => ?_, fun t' inside => ?_⟩
  · dsimp only
    by_cases own : t' = t
    · subst own
      rw [Function.update_self]
      exact waits
    · rw [Cfg.place, moved t' own] at tries
      rw [Function.update_of_ne own]
      exact before.waits t' tries
  · refine before.free fun t' inside => free t' ⟨inside.1, ?_⟩
    have own : t' ≠ t := by
      rintro rfl
      have busy := inside.2
      rw [idle] at busy
      cases busy
    exact (congrArg Mutex.Pc.place (moved t' own)).trans inside.2
  · obtain ⟨own, held⟩ := others t' inside.2
    obtain ⟨p', done, half⟩ := before.inside t' ⟨inside.1, held⟩
    have same : Function.update f.job t p t' = f.job t' := Function.update_of_ne own ..
    refine ⟨p', done, half.waits, ?_, half.stores, half.mem, ?_, half.tail, half.head⟩
    · show OfQueue (Function.update f.job t p t')
      rw [same]
      exact half.queue
    · show trace p' c.mem = (trace (Function.update f.job t p t') f.cfg.mem).map _
      rw [same]
      exact half.trace

/-- An access of a section. -/
theorem access (before : Matches S f c) (inside : f.Inside S t) {a : Access}
    {next : a.Answer → Body Outcome} (here : f.job t = .access (I := mapping) a next) :
    Matches S { f with
      cfg := f.cfg.withMem (a.perform ⟨f.cfg.mem, []⟩).2.mem
      job := Function.update f.job t (next (a.perform ⟨f.cfg.mem, []⟩).1) } c := by
  obtain ⟨p, done, half⟩ := before.inside t inside
  have queue := half.queue
  have traced := half.trace
  rw [here] at queue traced
  obtain ⟨ws, extended, stores⟩ := Access.extends queue.1 ⟨f.cfg.mem, []⟩
  have left : (a.perform ⟨f.cfg.mem, []⟩).2.mem = f.cfg.mem.writeAll ws := by
    rw [extended]
    rfl
  refine ⟨before.rest, ?_, before.exclusive, before.dead, before.once, fun t' tries => ?_,
    fun free => absurd inside (free t), fun t' inside' => ?_⟩
  · show (a.perform ⟨f.cfg.mem, []⟩).2.mem.SameElsewhere c.mem
    rw [left]
    exact (Mem.SameElsewhere.of_writeAll _ stores).symm.trans before.elsewhere
  · replace tries : f.place t' = .trying ∨ f.place t' = .asleep := tries
    have own : t' ≠ t := by
      rintro rfl
      rw [Cfg.place, inside.2] at tries
      exact tries.elim (by rintro ⟨⟩) (by rintro ⟨⟩)
    dsimp only
    rw [Function.update_of_ne own]
    exact before.waits t' tries
  · obtain rfl := before.alone inside' inside
    refine ⟨p, done ++ ws, half.waits, ?_, List.forall_mem_append.mpr ⟨half.stores, stores⟩, ?_, ?_,
      half.tail, half.head⟩
    · dsimp only
      rw [Function.update_self]
      exact queue.2 _
    · show (a.perform ⟨f.cfg.mem, []⟩).2.mem = c.mem.writeAll (done ++ ws)
      rw [left, half.mem, Mem.writeAll_append]
    · show trace p c.mem = (trace (Function.update f.job t' _ t')
        (a.perform ⟨f.cfg.mem, []⟩).2.mem).map _
      rw [Function.update_self, traced, trace_access queue.2 extended, left, Option.map_map]
      congr 1
      funext out
      simp

/-- The end of a section: what the atomic machine does there. -/
theorem unlock (before : Matches S f c) {held : Mutex.Answer n} {l : Mutex.Cfg n}
    {outcome : Outcome} {events : List (BoundedQueue.Event Delivery)} {a : Mutex.Caller}
    (alive : f.cfg.dead (S.pid t) = false) (locked : f.lock.pc t = .locked a)
    (here : f.job t = .done outcome) (ran : f.lock.run S.pid t held = some l) :
    ∃ p done, body S.shm (c.thr t) = some p ∧ trace p c.mem = some (outcome, done) ∧
      c.run S.base t {} = some (finish (c.withMem (c.mem.writeAll done)) t outcome) ∧
      Matches S { f with cfg := finish f.cfg t outcome, lock := l, events := events }
        (finish (c.withMem (c.mem.writeAll done)) t outcome) := by
  have lives : f.lock.dead (S.pid t) = false := by
    rw [before.dead]
    exact alive
  have inside : f.Inside S t := ⟨lives, by rw [locked]; rfl⟩
  obtain ⟨p, done, half⟩ := before.inside t inside
  have traced : trace p c.mem = some (outcome, done) := by
    rw [half.trace, here]
    exact congrArg (fun ws => some (outcome, ws)) (List.append_nil done)
  have back : c.withMem (c.mem.writeAll done) = f.cfg := by
    rw [← half.mem, before.rest]
    rfl
  have arrived : body S.shm (c.thr t) = some p := by
    rw [before.rest]
    exact half.waits
  have exclusive : Mutex.Exclusive S.pid l := by
    have stepped : f.lock.step S.pid (.run t held) = some l := by
      rw [Mutex.Cfg.step, if_neg (by simp [Mutex.Act.thread, lives])]
      exact ran
    exact before.exclusive.step stepped
  simp only [Mutex.Cfg.run, locked] at ran
  obtain rfl := Option.some.inj ran
  have moved : ∀ t', t' ≠ t →
      (({ f.lock with mutex := 0 } : Mutex.Cfg n).goto t (.unlockLoad a)).pc t' = f.lock.pc t' :=
    fun t' other => Mutex.Cfg.goto_of_ne _ _ other
  have nobody : ∀ t', ¬ (({ f.lock with mutex := 0 } : Mutex.Cfg n).goto t
      (.unlockLoad a)).Inside S.pid t' := by
    intro t' inside'
    have place := inside'.2
    by_cases own : t' = t
    · subst own
      rw [Mutex.Cfg.goto_self] at place
      cases place
    · rw [moved t' own] at place
      exact own (before.alone ⟨inside'.1, place⟩ inside)
  have once : Once (.unlockLoad a) := by
    have here := before.once t
    rwa [locked] at here
  refine ⟨p, done, arrived, traced,
    run_of_exec arrived (exec_of_trace (ofQueue_body arrived) traced), ?_⟩
  rw [back]
  refine ⟨rfl, .refl _, exclusive, ?_, once_goto before.once once, fun t' tries => ?_,
    fun _ => rfl, fun t' inside' => absurd inside' (nobody t')⟩
  · exact before.dead.trans finish_dead.symm
  · have own : t' ≠ t := by
      rintro rfl
      rw [Cfg.place, Mutex.Cfg.goto_self] at tries
      exact tries.elim (by rintro ⟨⟩) (by rintro ⟨⟩)
    dsimp only
    rw [finish_thr_of_ne own]
    rw [Cfg.place, moved t' own] at tries
    exact before.waits t' tries

/-! ## Deaths -/

theorem exclusive_die (before : Matches S f c) (pid : UInt32) :
    Mutex.Exclusive S.pid { f.lock with dead := Function.update f.lock.dead pid true } :=
  before.exclusive.step (show f.lock.step S.pid (.die pid) = some _ from rfl)

/-- Who is inside after a death was inside before, and is not of the process. -/
theorem inside_of_die {pid : UInt32} (inside : Mutex.Cfg.Inside S.pid
    { f.lock with dead := Function.update f.lock.dead pid true } t) :
    f.Inside S t ∧ (S.pid t).val ≠ pid := by
  have lives := inside.1
  by_cases own : (S.pid t).val = pid
  · simp [own] at lives
  · exact ⟨⟨(Function.update_of_ne own ..).symm.trans lives, inside.2⟩, own⟩

/-- A process dies, none of whose goroutines has the mutex. -/
theorem die (before : Matches S f c) {pid : UInt32}
    (unbroken : ∀ t, f.Inside S t → (S.pid t).val ≠ pid)
    {events : List (BoundedQueue.Event Delivery)} :
    Matches S { f with
        cfg := { f.cfg with dead := Function.update f.cfg.dead pid true }
        lock := { f.lock with dead := Function.update f.lock.dead pid true }
        events := events }
      { c with dead := Function.update c.dead pid true } where
  rest := by
    have rest := before.rest
    rw [ReqRep.Cfg.withMem] at *
    rw [rest]
  elsewhere := before.elsewhere
  exclusive := before.exclusive_die pid
  dead := by
    dsimp only
    rw [before.dead]
  once := before.once
  waits := before.waits
  free free := before.free fun t inside => free t ⟨by
    dsimp only
    rw [Function.update_of_ne (unbroken t inside)]
    exact inside.1, inside.2⟩
  inside t inside := by
    obtain ⟨p, done, half⟩ := before.inside t (inside_of_die inside).1
    exact ⟨p, done, half.waits, half.queue, half.stores, half.mem, half.trace, half.tail, half.head⟩

/-- A process dies while one of its goroutines has the mutex: the stores made so
far stay. -/
theorem die_inside (before : Matches S f c) {pid : UInt32} (inside : f.Inside S t)
    (own : (S.pid t).val = pid) {pending : List UInt64}
    {events : List (BoundedQueue.Event Delivery)} :
    Matches S { f with
        cfg := { f.cfg with dead := Function.update f.cfg.dead pid true, pending := pending }
        lock := { f.lock with dead := Function.update f.lock.dead pid true }
        events := events }
      { f.cfg with dead := Function.update f.cfg.dead pid true, pending := pending } where
  rest := rfl
  elsewhere := .refl _
  exclusive := before.exclusive_die pid
  dead := by
    dsimp only
    rw [before.dead]
  once := before.once
  waits := before.waits
  free _ := rfl
  inside t' inside' := by
    obtain ⟨held, other⟩ := inside_of_die inside'
    exact absurd (before.alone held inside ▸ own) other

end Matches

end ReqRep.Fine
