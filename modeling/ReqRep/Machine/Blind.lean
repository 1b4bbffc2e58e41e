import ReqRep.Machine.Fine
import ReqRep.Machine.Frame

/-!
# What goes on outside of the sections

No operation outside of `sendLocked` and `recvLocked` reads or writes the words of
the queue: whatever they hold, it does the same, and makes the same stores
elsewhere.
-/

namespace ReqRep

variable {n : Nat} {S : Setup n} {c c' : Cfg n} {t : Fin n} {ans : Answer n}

/-! ## Operations outside of the sections -/

@[simp] theorem WakeWord.futex_ofQueue (w : WakeWord) : w.futex.ofQueue = false := by
  cases w <;> rfl

@[simp] theorem WakeWord.waiters_ofQueue (w : WakeWord) : w.waiters.ofQueue = false := by
  cases w <;> rfl

/-- The same configuration with other contents of the memory. -/
def Cfg.withMem (c : Cfg n) (m : Mem) : Cfg n := { c with mem := m }

/-- What the operation does, it does whatever the words of the queue hold: it
makes the stores `ws`, elsewhere. -/
def Blind (S : Setup n) (c : Cfg n) (t : Fin n) (ans : Answer n) (c' : Cfg n) : Prop :=
  ∃ ws : List Write, (∀ w ∈ ws, w.ofQueue = false) ∧
    ∀ m, c.mem.SameElsewhere m →
      (c.withMem m).run S t ans = some (c'.withMem (m.writeAll ws))

section
variable {m : Mem}

theorem withMem_u32 (same : c.mem.SameElsewhere m) (l : Loc32) (other : l.ofQueue = false) :
    (c.withMem m).mem.u32 l = c.mem.u32 l := same.u32 l other
theorem withMem_u64 (same : c.mem.SameElsewhere m) (l : Loc64) (other : l.ofQueue = false) :
    (c.withMem m).mem.u64 l = c.mem.u64 l := same.u64 l other
theorem withMem_u8 (same : c.mem.SameElsewhere m) (l : Loc8) (other : l.ofQueue = false) :
    (c.withMem m).mem.u8 l = c.mem.u8 l := same.u8 l other
theorem withMem_state (same : c.mem.SameElsewhere m) (i : UInt32) :
    (c.withMem m).state i = c.state i := same.u32 _ rfl
theorem withMem_gen (same : c.mem.SameElsewhere m) (i : UInt32) :
    (c.withMem m).gen i = c.gen i := same.u32 _ rfl
theorem withMem_owner (same : c.mem.SameElsewhere m) (i : UInt32) :
    (c.withMem m).owner i = c.owner i := same.u32 _ rfl
theorem withMem_bump (same : c.mem.SameElsewhere m) (i : UInt32) :
    (c.withMem m).bump i =
      (c.bump i).withMem (m.set32 (.respSlotGeneration i) (c.gen i + 1)) := by
  have gen : m.u32 (.respSlotGeneration i) = c.mem.u32 (.respSlotGeneration i) := same.u32 _ rfl
  simp only [Cfg.bump, Cfg.store, Cfg.withMem, Cfg.gen, gen]

/-- `futexWake` does not look at the queue. -/
theorem withMem_futexWake {l : Loc32} {k : Nat} {woken : List (Fin n)}
    (woke : c.futexWake S l k woken = some c') :
    (c.withMem m).futexWake S l k woken = some (c'.withMem m) := by
  unfold Cfg.futexWake at *
  split at woke <;> cases woke
  next valid => exact if_pos valid
theorem withMem_thr : (c.withMem m).thr = c.thr := rfl
theorem withMem_dead : (c.withMem m).dead = c.dead := rfl

end

theorem Blind.jump (same : ∀ m, c.mem.SameElsewhere m →
    (c.withMem m).run S t ans = some (c'.withMem m)) : Blind S c t ans c' :=
  ⟨[], by simp, same⟩

theorem Blind.store {l : Loc32} {v : UInt32} (same : ∀ m, c.mem.SameElsewhere m →
    (c.withMem m).run S t ans = some (c'.withMem (m.set32 l v))) (other : l.ofQueue = false) :
    Blind S c t ans c' :=
  ⟨[.w32 l v], List.forall_mem_singleton.mpr other, same⟩

/-- A step outside the sections neither reads nor writes the queue. -/
theorem run_blind (outside : Fine.body S.shm (c.thr t) = none) (ran : c.run S t ans = some c') :
    Blind S c t ans c' := by
  cases here : (c.thr t).pc with
  | idle | sendAsleep noSlots | waitAsleep id | recvAsleep => simp [Cfg.run, here] at ran
  | send a id | recvTry a => simp [Fine.body, here] at outside
  | wakeCall w next | cancelWake id next | writeWake id =>
    simp only [Cfg.run, here] at ran
    obtain ⟨c₀, woke, rfl⟩ := Option.map_eq_some_iff.mp ran
    refine .jump fun m same => ?_
    simp only [Cfg.run, withMem_thr, here, withMem_futexWake woke]
    rfl
  -- the steps that store nothing
  | wakeLoad w next | acqHint a | sendLoadSeq noSlots | sendTimeout noSlots fseq
  | sendFutexWait noSlots fseq | sendErr | spinErr id i | spinGen id i | spinState id i
  | waitState id | waitGen id state | waitErr id state | waitTimeout id state
  | waitFutexWait id state | waitErrAfter id | answer id result | readLen id registered
  | readCopy id registered length result | cancelGen id next | cancelLoad id next | drainGen id
  | drainState id | recvLoadSeq | recvErr fseq | recvFutexWait fseq | recvErrAfter
  | writeState id response | writeGen id response | writeLoad id =>
    simp only [Cfg.run, here] at ran
    obtain rfl := Option.some.inj ran
    refine .jump fun m same => ?_
    simp only [Cfg.run, Cfg.futexWait, withMem_thr, here, withMem_state same, withMem_gen same,
      withMem_u32 same, withMem_u8 same, WakeWord.futex_ofQueue, WakeWord.waiters_ofQueue]
    rfl
  | recState a i | recOwner a i state =>
    simp only [Cfg.run, here] at ran
    split at ran
    · next decided =>
      obtain rfl := Option.some.inj ran
      refine .jump fun m same => ?_
      simp only [Cfg.run, withMem_thr, here, withMem_state same, withMem_owner same]
      exact if_pos decided
    · next decided =>
      obtain rfl := Option.some.inj ran
      refine .jump fun m same => ?_
      simp only [Cfg.run, withMem_thr, here, withMem_state same, withMem_owner same]
      exact if_neg decided
  | recAlive a i state pid =>
    simp only [Cfg.run, here] at ran
    split at ran
    · next alive =>
      obtain rfl := Option.some.inj ran
      refine .jump fun m same => ?_
      simp only [Cfg.run, withMem_thr, here, if_pos alive]
      rfl
    · next gone =>
      split at ran <;> cases ran
      next dead =>
      refine .jump fun m same => ?_
      simp only [Cfg.run, withMem_thr, withMem_dead, here, if_neg gone]
      exact if_pos dead
  | handle id =>
    simp only [Cfg.run, here] at ran
    split at ran
    · next fails =>
      obtain rfl := Option.some.inj ran
      refine .jump fun m same => ?_
      simp only [Cfg.run, withMem_thr, here, fails]
      rfl
    · next response replies =>
      obtain rfl := Option.some.inj ran
      refine .jump fun m same => ?_
      simp only [Cfg.run, withMem_thr, here, replies]
      rfl
  -- the stores
  | wakeBump w next =>
    simp only [Cfg.run, here] at ran
    obtain rfl := Option.some.inj ran
    refine .store (v := c.mem.u32 w.futex + 1) (fun m same => ?_) w.futex_ofQueue
    simp only [Cfg.run, withMem_thr, here, withMem_u32 same _ w.futex_ofQueue]
    rfl
  | sendAddWaiters noSlots fseq =>
    simp only [Cfg.run, here] at ran
    obtain rfl := Option.some.inj ran
    have word := (sendWord noSlots).waiters_ofQueue
    refine .store (v := c.mem.u32 (sendWord noSlots).waiters + 1) (fun m same => ?_) word
    simp only [Cfg.run, withMem_thr, here, withMem_u32 same _ word]
    rfl
  | sendSubWaiters noSlots =>
    simp only [Cfg.run, here] at ran
    obtain rfl := Option.some.inj ran
    have word := (sendWord noSlots).waiters_ofQueue
    refine .store (v := c.mem.u32 (sendWord noSlots).waiters - 1) (fun m same => ?_) word
    simp only [Cfg.run, withMem_thr, here, withMem_u32 same _ word]
    rfl
  | acqGen a slot scan | acqGenAgain a slot scan | cancelBump id next =>
    simp only [Cfg.run, here] at ran
    repeat' split at ran
    all_goals
      obtain rfl := Option.some.inj ran
      apply Blind.store
      · intro m same
        simp only [Cfg.run, withMem_thr, here, withMem_gen same, withMem_bump same]
        try simp only [*]
        rfl
      · rfl
  | acqOwner a slot scan | acqStoreHint a id | recClear a i state | recStat a i
  | releaseOwner id next | releaseState id next | waitAdd id
  | waitLeave id result | cancelOwner id next | recvAddWaiters fseq
  | recvSubWaiters | writeLen id response | writeFlags id response =>
    simp only [Cfg.run, here] at ran
    obtain rfl := Option.some.inj ran
    apply Blind.store
    · intro m same
      simp only [Cfg.run, withMem_thr, here, withMem_u32 same]
      rfl
    · rfl
  | writeCopy id response k =>
    simp only [Cfg.run, here] at ran
    obtain rfl := Option.some.inj ran
    refine ⟨[.w8 (.respSlotData (idSlot id) k) (response.getD k 0)],
      List.forall_mem_singleton.mpr rfl, fun m same => ?_⟩
    simp only [Cfg.run, withMem_thr, here]
    rfl
  | writeStat =>
    simp only [Cfg.run, here] at ran
    obtain rfl := Option.some.inj ran
    refine ⟨[.w64 .hdrStatReplies (c.mem.u64 .hdrStatReplies + 1)],
      List.forall_mem_singleton.mpr rfl, fun m same => ?_⟩
    simp only [Cfg.run, withMem_thr, here, withMem_u64 same]
    rfl
  | acqCas a hint i | recFree a i state | recGrab a i | cancelCas id next
  | writeCas id response =>
    simp only [Cfg.run, here] at ran
    split at ran
    · next free =>
      obtain rfl := Option.some.inj ran
      apply Blind.store
      · intro m same
        simp only [Cfg.run, withMem_thr, here, withMem_state same, if_pos free]
        rfl
      · rfl
    · next taken =>
      obtain rfl := Option.some.inj ran
      refine .jump fun m same => ?_
      simp only [Cfg.run, withMem_thr, here, withMem_state same, if_neg taken]
      rfl

/-- No operation outside of the sections changes what is queued. -/
theorem run_pending (outside : Fine.body S.shm (c.thr t) = none) (ran : c.run S t ans = some c') :
    c'.pending = c.pending := by
  have woke : ∀ {l k pc}, (c.futexWake S l k ans.woken).map (·.goto t pc) = some c' →
      c'.pending = c.pending := by
    intro l k pc mapped
    obtain ⟨c₀, woke, rfl⟩ := Option.map_eq_some_iff.mp mapped
    unfold Cfg.futexWake at woke
    split at woke <;> cases woke
    rfl
  cases here : (c.thr t).pc with
  | send a id | recvTry a => simp [Fine.body, here] at outside
  | wakeCall w next | cancelWake id next | writeWake id =>
    simp only [Cfg.run, here] at ran
    exact woke ran
  | _ =>
    simp only [Cfg.run, here] at ran
    repeat' split at ran
    all_goals first
      | (obtain rfl := Option.some.inj ran; rfl)
      | cases ran

/-- What happens to a goroutine from outside stores nothing. -/
theorem step_withMem {act : Act n} (outside : ∀ t ans, act ≠ .run t ans)
    (stepped : c.step S act = some c') :
    c'.mem = c.mem ∧ c'.pending = c.pending ∧
      ∀ m, (c.withMem m).step S act = some (c'.withMem m) := by
  unfold Cfg.step at stepped
  split at stepped
  · cases stepped
  next lives =>
  have enters : ∀ {m : Mem} {o o' : Option (Cfg n)}, o = o' →
      (if act.thread.any fun t => (c.withMem m).dead (S.pid t) then none else o) = o' := by
    intro m o o' same
    rw [← same]
    exact if_neg lives
  cases act with
  | run t ans => exact absurd rfl (outside t ans)
  | query t req | serve t =>
    dsimp only at stepped
    split at stepped <;> cases stepped
    next idle => exact ⟨rfl, rfl, fun m => enters (if_pos idle)⟩
  | cancelCtx t | deadline t | die pid =>
    cases stepped
    exact ⟨rfl, rfl, fun m => enters rfl⟩
  | wakeup t =>
    dsimp only at stepped
    split at stepped <;> cases stepped
    next asleep => exact ⟨rfl, rfl, fun m => enters (if_neg asleep)⟩

end ReqRep
