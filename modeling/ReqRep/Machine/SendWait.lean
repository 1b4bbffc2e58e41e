import ReqRep.Machine.Frame
import ReqRep.Machine.Start

/-!
# One call of `sendWait`

Success is told from failure by `id != 0`, so the loop would send again after a
request whose id is 0. Whatever the attempts meet, a call that succeeds has
enqueued its request once, and one that fails has enqueued nothing and holds no
slot.
-/

namespace ReqRep

variable {n : Nat}

/-- The request that goroutine `t` enqueues in this act. -/
def Cfg.enqueues (S : Setup n) (c : Cfg n) (t : Fin n) (act : Act n) : List Request :=
  match act, (c.thr t).pc with
  | .run t' _, .send _ id =>
    if t' = t then
      match (sendLocked S.shm (c.thr t).req (idSlot id) (idGen id)).run c.mem with
      | some (true, _) => [⟨(c.thr t).req, idSlot id, idGen id⟩]
      | _ => []
    else []
  | _, _ => []

/-- The slot that goroutine `t` takes in this act. -/
def Cfg.takes (S : Setup n) (c : Cfg n) (t : Fin n) (act : Act n) : List UInt32 :=
  if act.thread = some t then
    match c.label S act with
    | some (.take i) => [i]
    | _ => []
  else []

/-- A call of `sendWait` on its way: what it has enqueued, the slots that it took
and has not lost, and the generation increments that others have made on each
slot since its current attempt began. -/
structure Sending (n : Nat) where
  cfg : Cfg n
  enqueued : List Request
  taken : List UInt32
  others : UInt32 → Nat

namespace Sending

/-- The call begins. -/
def start (c : Cfg n) : Sending n := { cfg := c, enqueued := [], taken := [], others := fun _ => 0 }

/-- The call after an act that leads to `c'`. -/
def next (S : Setup n) (t : Fin n) (x : Sending n) (act : Act n) (c' : Cfg n) : Sending n where
  cfg := c'
  enqueued := x.enqueued ++ x.cfg.enqueues S t act
  taken := (x.cfg.takes S t act ++ x.taken).filter fun i => c'.holder i = some t
  others :=
    if act.thread = some t then
      match (x.cfg.thr t).pc with
      | .acqHint _ => fun _ => 0
      | _ => x.others
    else fun i => x.others i + (c'.bumps i - x.cfg.bumps i)

/-- A step of the machine, with what the call gains by it. -/
def step (S : Setup n) (t : Fin n) (x : Sending n) (act : Act n) : Option (Sending n) :=
  (x.cfg.step S act).map (x.next S t act)

end Sending

/-- `sendWait` has returned: an error, or an id. -/
def Pc.Returned : Pc → Prop
  | .idle => True
  | .spinErr _ i => i = 0
  | _ => False

instance (pc : Pc) : Decidable pc.Returned := by
  unfold Pc.Returned
  split <;> infer_instance

/-- Goroutine `t` acts before the call returns, and when it increments a
generation again that had wrapped to 0, the others have made fewer than 2^32 - 1
increments of the slot in this attempt. -/
def During (t : Fin n) (x : Sending n) (act : Act n) : Prop :=
  act.thread = some t → ¬ (x.cfg.thr t).pc.Returned ∧
    match (x.cfg.thr t).pc with
    | .acqGenAgain _ slot _ => x.others slot < 2 ^ 32 - 1
    | _ => True

instance (t : Fin n) (x : Sending n) (act : Act n) : Decidable (During t x act) := by
  unfold During
  have : Decidable (match (x.cfg.thr t).pc with
    | .acqGenAgain _ slot _ => x.others slot < 2 ^ 32 - 1
    | _ => True) := by split <;> infer_instance
  infer_instance

/-- The counters of the steps that may enqueue the request or take a slot. -/
def Pc.gains : Pc → Bool
  | .send .. | .acqCas .. | .recGrab .. => true
  | _ => false

/-- How far an attempt has come. -/
inductive SendPhase where
  | free
  | holding (i : UInt32)
  | sent (id : UInt64)
  | outside

/-- The phase at a counter; `outside` is no counter of the call. -/
def Pc.sendPhase : Pc → SendPhase
  | .wakeBump _ next | .wakeLoad _ next | .wakeCall _ next =>
    match next.sendPhase with
    | .holding _ => .outside
    | p => p
  | .idle | .acqHint _ | .acqCas .. | .recState .. | .recOwner .. | .recAlive .. | .recClear ..
  | .recFree .. | .recStat .. | .recGrab .. | .sendLoadSeq _ | .sendTimeout .. | .sendAddWaiters ..
  | .sendFutexWait .. | .sendAsleep _ | .sendSubWaiters _ | .sendErr => .free
  | .acqOwner _ slot _ | .acqGen _ slot _ | .acqGenAgain _ slot _ => .holding slot
  | .acqStoreHint _ id | .send _ id => .holding (idSlot id)
  | .releaseOwner id next | .releaseState id next =>
    match next.sendPhase with
    | .free => .holding (idSlot id)
    | _ => .outside
  | .spinErr id i => if i = 0 then .sent id else .outside
  | _ => .outside

theorem sendPhase_wakeBump (w : WakeWord) (next : Pc) : (Pc.wakeBump w next).sendPhase =
    match next.sendPhase with
    | .holding _ => .outside
    | p => p := rfl

theorem sendPhase_releaseOwner (id : UInt64) (next : Pc) : (Pc.releaseOwner id next).sendPhase =
    match next.sendPhase with
    | .free => .holding (idSlot id)
    | _ => .outside := rfl

theorem sendPhase_releaseState (id : UInt64) (next : Pc) : (Pc.releaseState id next).sendPhase =
    match next.sendPhase with
    | .free => .holding (idSlot id)
    | _ => .outside := rfl

theorem sendPhase_spinErr (id : UInt64) (i : Nat) :
    (Pc.spinErr id i).sendPhase = if i = 0 then .sent id else .outside := rfl

@[simp] theorem sendPhase_sendFailed (a : Attempt) (noSlots : Bool) :
    (Pc.sendFailed a noSlots).sendPhase = .free := by
  cases a <;> rfl

@[simp] theorem sendPhase_recover (s : Shm) (a : Attempt) (i : UInt32) :
    (Pc.recover s a i).sendPhase = .free := by
  unfold Pc.recover
  split
  · rfl
  · exact sendPhase_sendFailed a true

@[simp] theorem sendPhase_scan (s : Shm) (a : Attempt) (hint i : UInt32) :
    (Pc.scan s a hint i).sendPhase = .free := by
  unfold Pc.scan
  split
  · rfl
  · exact sendPhase_recover s a 0

@[simp] theorem sendPhase_acquired (a : Attempt) (slot gen : UInt32) (scan : Bool) :
    (Pc.acquired a slot gen scan).sendPhase = .holding slot := by
  cases scan <;> exact congrArg SendPhase.holding (idSlot_packId gen slot)

/-- An id other than 0 is taken for success. -/
theorem sendPhase_sent (a : Attempt) {id : UInt64} (nonzero : id ≠ 0) :
    (Pc.sent a id).sendPhase = .sent id := by
  unfold Pc.sent
  rw [if_pos nonzero]
  rfl

namespace Sending

variable {S : Setup n} {x : Sending n} {t : Fin n} {c' : Cfg n} {data : List UInt8}

/-- What the call has done in each phase. -/
def Done (x : Sending n) (data : List UInt8) : SendPhase → Prop
  | .free => x.enqueued = [] ∧ x.taken = []
  | .holding i => x.enqueued = [] ∧ ∀ j ∈ x.taken, j = i
  | .sent id => id ≠ 0 ∧ x.enqueued = [⟨data, idSlot id, idGen id⟩]
  | .outside => False

/-- The generation is not packed into an id before it is known not to be 0. -/
def Nonzero (x : Sending n) : Pc → Prop
  | .acqGenAgain _ slot _ => ∃ k ≤ x.others slot, x.cfg.gen slot = UInt32.ofNat k
  | .acqStoreHint _ id | .send _ id => id ≠ 0
  | _ => True

/-- The call has done what its phase says, with its own data. -/
structure Once (t : Fin n) (data : List UInt8) (x : Sending n) : Prop where
  req : (x.cfg.thr t).req = data
  done : x.Done data (x.cfg.thr t).pc.sendPhase
  nonzero : x.Nonzero (x.cfg.thr t).pc

variable {act : Act n} {ans : Answer n} {pc pc' : Pc}

/-- A slot in the account was taken by the goroutine, which still holds it. -/
theorem mem_taken {j : UInt32} (member : j ∈ (x.next S t act c').taken) :
    (j ∈ x.cfg.takes S t act ∨ j ∈ x.taken) ∧ c'.holder j = some t := by
  simpa [next, or_and_right] using member

/-- The act enqueues nothing and takes no slot. -/
structure Quiet (S : Setup n) (t : Fin n) (x : Sending n) (act : Act n) : Prop where
  enqueues : x.cfg.enqueues S t act = []
  takes : x.cfg.takes S t act = []

/-- A quiet step changes nothing in the account. -/
theorem Quiet.done {p : SendPhase} (quiet : Quiet S t x act) (done : x.Done data p) :
    (x.next S t act c').Done data p := by
  have enqueued : (x.next S t act c').enqueued = x.enqueued := by
    rw [next, quiet.enqueues, List.append_nil]
  have taken : ∀ j ∈ (x.next S t act c').taken, j ∈ x.taken := by
    intro j member
    have before := (mem_taken member).1
    rw [quiet.takes] at before
    exact before.resolve_left nofun
  cases p with
  | free =>
    refine ⟨enqueued.trans done.1, List.eq_nil_iff_forall_not_mem.mpr fun j member => ?_⟩
    have before := taken j member
    rw [done.2] at before
    cases before
  | holding i => exact ⟨enqueued.trans done.1, fun j member => done.2 j (taken j member)⟩
  | sent id => exact ⟨done.1, enqueued.trans done.2⟩
  | outside => exact done

theorem takes_run (here : (x.cfg.thr t).pc = pc) : x.cfg.takes S t (.run t ans) =
    match x.cfg.labelAt S ans pc with
    | some (.take i) => [i]
    | _ => [] := by
  subst here
  exact if_pos rfl

/-- Only a send enqueues, and only the two CASes of `acquireRespSlot` take a slot. -/
theorem quiet_run (here : (x.cfg.thr t).pc = pc) (plain : pc.gains = false) :
    Quiet S t x (.run t ans) := by
  constructor
  · unfold Cfg.enqueues
    rw [here]
    cases pc <;> first
      | rfl
      | cases plain
  · rw [takes_run here]
    split
    · next taken =>
      rcases labelAt_take taken with ⟨a, hint, k, rfl⟩ | ⟨a, rfl⟩ <;> cases plain
    · rfl

/-- A step of somebody else is quiet. -/
theorem quiet_other (other : act.thread ≠ some t) : Quiet S t x act := by
  constructor
  · unfold Cfg.enqueues
    split
    · next t' _ _ _ _ =>
      rw [if_neg]
      rintro rfl
      exact other rfl
    · rfl
  · exact if_neg other

/-- A step that leaves the call in its phase. -/
theorem Once.keep (once : x.Once t data) (quiet : Quiet S t x act)
    (req : (c'.thr t).req = (x.cfg.thr t).req)
    (phase : (c'.thr t).pc.sendPhase = (x.cfg.thr t).pc.sendPhase)
    (nonzero : (x.next S t act c').Nonzero (c'.thr t).pc) : (x.next S t act c').Once t data where
  req := req.trans once.req
  done := by
    change (x.next S t act c').Done data (c'.thr t).pc.sendPhase
    rw [phase]
    exact quiet.done once.done
  nonzero := nonzero

/-- A quiet step to a counter of the same phase. -/
theorem Once.goto (once : x.Once t data) (here : (x.cfg.thr t).pc = pc) {c₀ : Cfg n}
    (thr : c₀.thr t = x.cfg.thr t) (quiet : Quiet S t x (.run t ans))
    (phase : pc'.sendPhase = pc.sendPhase)
    (nonzero : (x.next S t (.run t ans) (c₀.goto t pc')).Nonzero pc') :
    (x.next S t (.run t ans) (c₀.goto t pc')).Once t data := by
  refine once.keep quiet ?_ ?_ ?_
  · rw [goto_thr_self, thr]
  · rw [goto_pc, phase, here]
  · rwa [goto_pc]

/-- Only who holds a slot has an id. -/
theorem nonzero_of_unheld (unheld : ∀ i, pc.sendPhase ≠ .holding i) : x.Nonzero pc := by
  cases pc <;> first | trivial | exact absurd rfl (unheld _)

theorem nonzero_of_free (free : pc.sendPhase = .free) : x.Nonzero pc :=
  nonzero_of_unheld fun i held => by
    rw [free] at held
    cases held

/-- The helper that `trySend` ends with goes on to a counter that holds no slot. -/
theorem sendPhase_wake {w : WakeWord} {next : Pc}
    (inside : (Pc.wakeBump w next).sendPhase ≠ .outside) :
    next.sendPhase = (Pc.wakeBump w next).sendPhase ∧ ∀ i, next.sendPhase ≠ .holding i := by
  have unheld : ∀ i, next.sendPhase ≠ .holding i := by
    intro i held
    simp [sendPhase_wakeBump, held] at inside
  refine ⟨?_, unheld⟩
  change next.sendPhase = match next.sendPhase with
    | .holding _ => .outside
    | p => p
  split
  · next i held => exact absurd held (unheld i)
  · rfl

/-- The slot that the call takes is the only one it holds. -/
theorem Once.take (once : x.Once t data) (here : (x.cfg.thr t).pc = pc)
    (free : pc.sendPhase = .free) {i : UInt32} {scan : Bool} {a : Attempt}
    (noSend : ∀ a id, pc ≠ .send a id)
    (label : x.cfg.labelAt S ans pc = some (.take i)) {c₀ : Cfg n} (thr : c₀.thr = x.cfg.thr) :
    (x.next S t (.run t ans) (c₀.goto t (.acqOwner a i scan))).Once t data := by
  have done := once.done
  rw [here, free] at done
  obtain ⟨unsent, untaken⟩ := done
  have enqueues : x.cfg.enqueues S t (.run t ans) = [] := by
    unfold Cfg.enqueues
    rw [here]
    cases pc <;> first | rfl | exact absurd rfl (noSend _ _)
  have takes : x.cfg.takes S t (.run t ans) = [i] := by rw [takes_run here, label]
  constructor
  · change ((c₀.goto t (.acqOwner a i scan)).thr t).req = data
    rw [goto_thr_self, thr]
    exact once.req
  · change (x.next S t (.run t ans) (c₀.goto t (.acqOwner a i scan))).Done data
      ((c₀.goto t (.acqOwner a i scan)).thr t).pc.sendPhase
    rw [goto_pc]
    refine ⟨?_, fun j member => ?_⟩
    · rw [next, unsent, enqueues, List.append_nil]
    · have before := (mem_taken member).1
      rw [takes, untaken] at before
      exact List.mem_singleton.mp (before.resolve_right nofun)
  · change (x.next S t (.run t ans) (c₀.goto t (.acqOwner a i scan))).Nonzero
      ((c₀.goto t (.acqOwner a i scan)).thr t).pc
    rw [goto_pc]
    trivial

/-- A step of its own into another phase. -/
theorem Once.of_phase (once : x.Once t data) {c₀ : Cfg n} (thr : c₀.thr t = x.cfg.thr t)
    {p : SendPhase} (phase : pc'.sendPhase = p) (unheld : ∀ i, p ≠ .holding i)
    (done : (x.next S t (.run t ans) (c₀.goto t pc')).Done data p) :
    (x.next S t (.run t ans) (c₀.goto t pc')).Once t data := by
  subst phase
  have there : ((c₀.goto t pc').thr t).pc = pc' := goto_pc c₀ t pc'
  constructor
  · change ((c₀.goto t pc').thr t).req = data
    rw [goto_thr_self, thr]
    exact once.req
  · change (x.next S t (.run t ans) (c₀.goto t pc')).Done data ((c₀.goto t pc').thr t).pc.sendPhase
    rwa [there]
  · change (x.next S t (.run t ans) (c₀.goto t pc')).Nonzero ((c₀.goto t pc').thr t).pc
    rw [there]
    exact nonzero_of_unheld unheld

/-- What an own step of the call does. -/
theorem Once.run (ok : S.shm.QueueOk) (base : Base S x.cfg) (once : x.Once t data)
    (during : During t x (.run t ans)) (ran : x.cfg.run S t ans = some c') :
    (x.next S t (.run t ans) c').Once t data := by
  obtain ⟨calling, few⟩ := during rfl
  have inside : (x.cfg.thr t).pc.sendPhase ≠ .outside := by
    intro outside
    have done := once.done
    rw [outside] at done
    exact done
  cases here : (x.cfg.thr t).pc with
  | idle => exact absurd (by rw [here]; trivial) calling
  | wakeBump w next =>
    obtain rfl : _ = c' := by simpa only [Cfg.run, here, Option.some.injEq] using ran
    exact once.goto here rfl (quiet_run here rfl) rfl trivial
  | wakeLoad w next =>
    obtain rfl : _ = c' := by simpa only [Cfg.run, here, Option.some.injEq] using ran
    rw [here] at inside
    obtain ⟨phase, unheld⟩ := sendPhase_wake (w := w) inside
    have quiet : Quiet S t x (.run t ans) := quiet_run here rfl
    split
    · exact once.goto here rfl quiet rfl trivial
    · exact once.goto here rfl quiet phase (nonzero_of_unheld unheld)
  | wakeCall w next =>
    simp only [Cfg.run, here] at ran
    obtain ⟨c₀, woke, rfl⟩ := Option.map_eq_some_iff.mp ran
    rw [here] at inside
    obtain ⟨phase, unheld⟩ := sendPhase_wake (w := w) inside
    have thr : c₀.thr t = x.cfg.thr t := by
      rcases thr_futexWake (t := t) woke with same | ⟨asleep, -⟩
      · exact same
      · rw [here] at asleep
        cases asleep
    exact once.goto here thr (quiet_run here rfl) phase (nonzero_of_unheld unheld)
  | acqHint a =>
    obtain rfl : _ = c' := by simpa only [Cfg.run, here, Option.some.injEq] using ran
    exact once.goto here rfl (quiet_run here rfl) (sendPhase_scan ..)
      (nonzero_of_free (sendPhase_scan ..))
  | acqCas a hint i =>
    simp only [Cfg.run, here] at ran
    split at ran
    · next free =>
      obtain rfl := Option.some.inj ran
      exact once.take here rfl (by rintro _ _ ⟨⟩) (if_pos free) rfl
    · next other =>
      obtain rfl := Option.some.inj ran
      have quiet : Quiet S t x (.run t ans) := by
        constructor
        · simp [Cfg.enqueues, here]
        · rw [takes_run here, show x.cfg.labelAt S ans (.acqCas a hint i) = none from if_neg other]
      exact once.goto here rfl quiet (sendPhase_scan ..) (nonzero_of_free (sendPhase_scan ..))
  | acqOwner a slot scan =>
    obtain rfl : _ = c' := by simpa only [Cfg.run, here, Option.some.injEq] using ran
    exact once.goto here rfl (quiet_run here rfl) rfl trivial
  | acqGen a slot scan =>
    have quiet : Quiet S t x (.run t ans) := quiet_run here rfl
    simp only [Cfg.run, here] at ran
    split at ran
    · next zero =>
      obtain rfl := Option.some.inj ran
      refine once.goto here rfl quiet rfl ⟨0, Nat.zero_le _, ?_⟩
      exact (if_pos rfl).trans zero
    · next nonzero =>
      obtain rfl := Option.some.inj ran
      refine once.goto here rfl quiet (sendPhase_acquired ..) ?_
      cases scan <;> exact packId_ne_zero slot nonzero
  | acqGenAgain a slot scan =>
    obtain rfl : _ = c' := by simpa only [Cfg.run, here, Option.some.injEq] using ran
    have nonzero := once.nonzero
    rw [here] at nonzero few
    obtain ⟨k, le, gen⟩ := nonzero
    have nonzero : x.cfg.gen slot + 1 ≠ 0 := by
      rw [gen]
      intro zero
      have zero := congrArg UInt32.toNat zero
      rw [UInt32.toNat_add, UInt32.toNat_ofNat'] at zero
      simp only [UInt32.reduceToNat] at zero
      omega
    refine once.goto here rfl (quiet_run here rfl) (sendPhase_acquired ..) ?_
    cases scan <;> exact packId_ne_zero slot nonzero
  | acqStoreHint a id =>
    obtain rfl : _ = c' := by simpa only [Cfg.run, here, Option.some.injEq] using ran
    have nonzero := once.nonzero
    rw [here] at nonzero
    exact once.goto here rfl (quiet_run here rfl) rfl nonzero
  | recState a i =>
    have quiet : Quiet S t x (.run t ans) := quiet_run here rfl
    simp only [Cfg.run, here] at ran
    split at ran
    · obtain rfl := Option.some.inj ran
      exact once.goto here rfl quiet (sendPhase_recover ..) (nonzero_of_free (sendPhase_recover ..))
    · obtain rfl := Option.some.inj ran
      exact once.goto here rfl quiet rfl trivial
  | recOwner a i state =>
    have quiet : Quiet S t x (.run t ans) := quiet_run here rfl
    simp only [Cfg.run, here] at ran
    split at ran
    · obtain rfl := Option.some.inj ran
      exact once.goto here rfl quiet (sendPhase_recover ..) (nonzero_of_free (sendPhase_recover ..))
    · obtain rfl := Option.some.inj ran
      exact once.goto here rfl quiet rfl trivial
  | recAlive a i state pid =>
    have quiet : Quiet S t x (.run t ans) := quiet_run here rfl
    simp only [Cfg.run, here] at ran
    split at ran
    · obtain rfl := Option.some.inj ran
      exact once.goto here rfl quiet (sendPhase_recover ..) (nonzero_of_free (sendPhase_recover ..))
    · split at ran
      · obtain rfl := Option.some.inj ran
        exact once.goto here rfl quiet rfl trivial
      · cases ran
  | recClear a i state =>
    obtain rfl : _ = c' := by simpa only [Cfg.run, here, Option.some.injEq] using ran
    exact once.goto here rfl (quiet_run here rfl) rfl trivial
  | recFree a i state =>
    have quiet : Quiet S t x (.run t ans) := quiet_run here rfl
    simp only [Cfg.run, here] at ran
    split at ran
    · obtain rfl := Option.some.inj ran
      exact once.goto here rfl quiet rfl trivial
    · obtain rfl := Option.some.inj ran
      exact once.goto here rfl quiet (sendPhase_recover ..) (nonzero_of_free (sendPhase_recover ..))
  | recStat a i =>
    obtain rfl : _ = c' := by simpa only [Cfg.run, here, Option.some.injEq] using ran
    exact once.goto here rfl (quiet_run here rfl) rfl trivial
  | recGrab a i =>
    simp only [Cfg.run, here] at ran
    split at ran
    · next free =>
      obtain rfl := Option.some.inj ran
      exact once.take here rfl (by rintro _ _ ⟨⟩) (if_pos free) rfl
    · next other =>
      obtain rfl := Option.some.inj ran
      have quiet : Quiet S t x (.run t ans) := by
        constructor
        · simp [Cfg.enqueues, here]
        · rw [takes_run here, show x.cfg.labelAt S ans (.recGrab a i) = none from if_neg other]
      refine once.goto here rfl quiet ?_ trivial
      simp only [sendPhase_wakeBump, sendPhase_recover]
      rfl
  | releaseOwner id next =>
    obtain rfl : _ = c' := by simpa only [Cfg.run, here, Option.some.injEq] using ran
    exact once.goto here rfl (quiet_run here rfl) rfl trivial
  | sendLoadSeq noSlots =>
    obtain rfl : _ = c' := by simpa only [Cfg.run, here, Option.some.injEq] using ran
    exact once.goto here rfl (quiet_run here rfl) rfl trivial
  | sendTimeout noSlots fseq =>
    obtain rfl : _ = c' := by simpa only [Cfg.run, here, Option.some.injEq] using ran
    have quiet : Quiet S t x (.run t ans) := quiet_run here rfl
    split
    · exact once.goto here rfl quiet rfl trivial
    · exact once.goto here rfl quiet rfl trivial
  | sendAddWaiters noSlots fseq =>
    obtain rfl : _ = c' := by simpa only [Cfg.run, here, Option.some.injEq] using ran
    exact once.goto here rfl (quiet_run here rfl) rfl trivial
  | sendFutexWait noSlots fseq =>
    obtain rfl : _ = c' := by simpa only [Cfg.run, here, Option.some.injEq] using ran
    have quiet : Quiet S t x (.run t ans) := quiet_run here rfl
    unfold Cfg.futexWait
    split
    · exact once.goto here rfl quiet rfl trivial
    · exact once.goto here rfl quiet rfl trivial
  | sendAsleep noSlots => simp [Cfg.run, here] at ran
  | sendSubWaiters noSlots =>
    obtain rfl : _ = c' := by simpa only [Cfg.run, here, Option.some.injEq] using ran
    exact once.goto here rfl (quiet_run here rfl) rfl trivial
  | sendErr =>
    obtain rfl : _ = c' := by simpa only [Cfg.run, here, Option.some.injEq] using ran
    have quiet : Quiet S t x (.run t ans) := quiet_run here rfl
    split
    · exact once.goto here rfl quiet rfl trivial
    · exact once.goto here rfl quiet rfl trivial
  | spinErr id i =>
    rw [here] at inside calling
    rw [sendPhase_spinErr] at inside
    split at inside
    · next first => exact absurd first calling
    · exact absurd rfl inside
  | releaseState id next =>
    obtain rfl : _ = c' := by simpa only [Cfg.run, here, Option.some.injEq] using ran
    have quiet : Quiet S t x (.run t ans) := quiet_run here rfl
    rw [here] at inside
    have free : next.sendPhase = .free := by
      cases phase : next.sendPhase <;> simp [sendPhase_releaseState, phase] at inside ⊢
    have done := once.done
    rw [here, show (Pc.releaseState id next).sendPhase = .holding (idSlot id) by
      simp [sendPhase_releaseState, free]] at done
    refine once.of_phase rfl (p := .free) (by simp [sendPhase_wakeBump, free]) (by rintro _ ⟨⟩) ?_
    refine ⟨(quiet.done done).1, ?_⟩
    refine List.eq_nil_iff_forall_not_mem.mpr fun j member => ?_
    obtain rfl := (quiet.done done).2 j member
    have held := (mem_taken member).2
    simp [Cfg.goto, Cfg.setState] at held
  | send a id =>
    have done := once.done
    have nonzero := once.nonzero
    rw [here] at done nonzero
    obtain ⟨unsent, -⟩ := done
    obtain ⟨sent, ws, run, -⟩ := send_step ok base here
    have takes : x.cfg.takes S t (.run t ans) = [] := by rw [takes_run here]; rfl
    simp only [Cfg.run, here, run] at ran
    cases sent with
    | true =>
      obtain rfl := Option.some.inj ran
      have enqueues : x.cfg.enqueues S t (.run t ans) = [⟨data, idSlot id, idGen id⟩] := by
        rw [← once.req]
        simp [Cfg.enqueues, here, run]
      refine once.of_phase rfl (p := .sent id) ?_ (by rintro _ ⟨⟩) ⟨nonzero, ?_⟩
      · simp [sendPhase_wakeBump, sendPhase_sent a nonzero]
      · rw [next, unsent, enqueues, List.nil_append]
    | false =>
      obtain rfl := Option.some.inj ran
      have quiet : Quiet S t x (.run t ans) := by
        refine ⟨?_, takes⟩
        simp [Cfg.enqueues, here, run]
      refine once.goto here rfl quiet ?_ trivial
      rw [sendPhase_releaseOwner, sendPhase_sendFailed]
      rfl
  | _ =>
    rw [here] at inside
    exact absurd rfl inside

/-! ## The other steps -/

theorem sendPhase_awake (pc : Pc) : pc.awake.sendPhase = pc.sendPhase := by
  cases pc <;> rfl

theorem nonzero_awake {l : Loc32} (asleep : pc.asleepOn = some l) : x.Nonzero pc.awake := by
  cases pc <;> trivial

/-- Others increment a generation and are counted. -/
theorem Nonzero.other (ok : S.shm.QueueOk) (base : Base S x.cfg) (other : act.thread ≠ some t)
    (stepped : x.cfg.step S act = some c') (nonzero : x.Nonzero pc) :
    (x.next S t act c').Nonzero pc := by
  cases pc with
  | acqGenAgain a slot scan =>
    obtain ⟨k, le, gen⟩ := nonzero
    have others : (x.next S t act c').others slot =
        x.others slot + (c'.bumps slot - x.cfg.bumps slot) := congrFun (if_neg other) slot
    obtain ⟨-, step⟩ := step_simulated ok base stepped
    have moved : c'.gen slot = x.cfg.gen slot ∨
        c'.gen slot = x.cfg.gen slot + 1 ∧ c'.bumps slot = x.cfg.bumps slot + 1 := by
      generalize x.cfg.label S act = label, same : c'.view = v at step
      cases step with
      | stutter => exact .inl (congrArg (fun v => v.gen slot) same)
      | move live move =>
        have cases := move.gen_cases slot
        rw [← same] at cases
        exact cases
      | die pid => exact .inl (congrArg (fun v => v.gen slot) same)
    rcases moved with same | ⟨incremented, counted⟩
    · exact ⟨k, by omega, same.trans gen⟩
    · refine ⟨k + 1, by omega, incremented.trans ?_⟩
      rw [gen, UInt32.ofNat_add]
      rfl
  | acqStoreHint a id | send a id => exact nonzero
  | _ => trivial

/-- A context that ends leaves the counter where it is. -/
theorem Once.context (once : x.Once t data) (own : act.thread = some t)
    (quiet : Quiet S t x act) (req : (c'.thr t).req = (x.cfg.thr t).req)
    (same : (c'.thr t).pc = (x.cfg.thr t).pc) (gen : c'.gen = x.cfg.gen) :
    (x.next S t act c').Once t data := by
  refine once.keep quiet req (by rw [same]) ?_
  have nonzero := once.nonzero
  rw [same]
  cases here : (x.cfg.thr t).pc with
  | acqGenAgain a slot scan =>
    rw [here] at nonzero
    obtain ⟨k, le, generation⟩ := nonzero
    have others : (x.next S t act c').others = x.others := by
      rw [next, if_pos own, here]
    refine ⟨k, by rwa [others], ?_⟩
    change c'.gen slot = UInt32.ofNat k
    rw [gen]
    exact generation
  | acqStoreHint a id | send a id =>
    rw [here] at nonzero
    exact nonzero
  | _ => trivial

/-- What any step does. -/
theorem Once.step (ok : S.shm.QueueOk) (base : Base S x.cfg) (once : x.Once t data)
    (during : During t x act) (stepped : x.cfg.step S act = some c') :
    (x.next S t act c').Once t data := by
  by_cases own : act.thread = some t
  · have ran := stepped
    unfold Cfg.step at ran
    split at ran
    · cases ran
    cases act with
    | run t' ans =>
      obtain rfl : t' = t := Option.some.inj own
      exact once.run ok base during ran
    | query t' req | serve t' =>
      obtain rfl : t' = t := Option.some.inj own
      dsimp only at ran
      split at ran
      · next idle => exact absurd (by rw [idle]; trivial) (during rfl).1
      · cases ran
    | cancelCtx t' | deadline t' =>
      obtain rfl : t' = t := Option.some.inj own
      cases ran
      exact once.context rfl ⟨rfl, if_pos rfl⟩ (by simp) (by simp) rfl
    | wakeup t' =>
      obtain rfl : t' = t := Option.some.inj own
      dsimp only at ran
      split at ran
      · cases ran
      · next asleep =>
        cases ran
        obtain ⟨l, asleep⟩ := Option.ne_none_iff_exists'.mp asleep
        refine once.keep ⟨rfl, if_pos rfl⟩ ?_ ?_ ?_
        · rw [goto_thr_self]
        · rw [goto_pc, sendPhase_awake]
        · rw [goto_pc]
          exact nonzero_awake asleep
    | die pid => cases own
  · rcases step_thr_of_ne stepped own with same | ⟨⟨l, asleep⟩, awake⟩
    · refine once.keep (quiet_other own) (by rw [same]) (by rw [same]) ?_
      rw [same]
      exact once.nonzero.other ok base own stepped
    · refine once.keep (quiet_other own) (by rw [awake]) (by rw [awake, sendPhase_awake]) ?_
      rw [awake]
      exact nonzero_awake asleep

end Sending

variable {S : Setup n} {t : Fin n}

/-! ## The whole call -/

end ReqRep
