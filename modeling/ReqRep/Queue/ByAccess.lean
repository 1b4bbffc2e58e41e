import ReqRep.Misc.Program
import ReqRep.Slots.Whole

/-!
# The critical sections, access by access

`sendLocked` and `recvLocked` once more, as programs that make one access to the
mapping at a time: every atomic operation, every plain load and store of a slot
field, and every byte of a copy is an access of its own. Run alone they are the
functions of `Queue.Locked`.
-/

namespace ReqRep

open Stepwise (Program)

/-! ## Accesses -/

/-- An access to the mapping. -/
inductive Access where
  | load32 (l : Loc32)
  | load64 (l : Loc64)
  | load8 (l : Loc8)
  | store (w : Write)
  | add32 (l : Loc32) (d : UInt32)
  | add64 (l : Loc64) (d : UInt64)

/-- What an access gives back; an add gives the new value. -/
def Access.Answer : Access → Type
  | .load32 _ | .add32 _ _ => UInt32
  | .load64 _ | .add64 _ _ => UInt64
  | .load8 _ => UInt8
  | .store _ => Unit

/-- What an access does. -/
def Access.perform : (a : Access) → World → a.Answer × World
  | .load32 l, w => (w.mem.u32 l, w)
  | .load64 l, w => (w.mem.u64 l, w)
  | .load8 l, w => (w.mem.u8 l, w)
  | .store wr, w => ((), w.extend [wr])
  | .add32 l d, w => (w.mem.u32 l + d, w.extend [.w32 l (w.mem.u32 l + d)])
  | .add64 l d, w => (w.mem.u64 l + d, w.extend [.w64 l (w.mem.u64 l + d)])

/-- The mapping, access by access. -/
abbrev mapping : Stepwise.Interface World := ⟨Access, Access.Answer, Access.perform⟩

/-- A function that runs access by access. -/
abbrev Body := Program mapping

namespace ByAccess

/-- A load. -/
def load32 (l : Loc32) : Body UInt32 := .ask (I := mapping) (Access.load32 l)
def load64 (l : Loc64) : Body UInt64 := .ask (I := mapping) (Access.load64 l)
def load8 (l : Loc8) : Body UInt8 := .ask (I := mapping) (Access.load8 l)

/-- A store. -/
def store32 (l : Loc32) (v : UInt32) : Body Unit := .ask (I := mapping) (Access.store (.w32 l v))
def store8 (l : Loc8) (v : UInt8) : Body Unit := .ask (I := mapping) (Access.store (.w8 l v))

/-- An atomic add. -/
def add32 (l : Loc32) (d : UInt32) : Body UInt32 := .ask (I := mapping) (Access.add32 l d)
def add64 (l : Loc64) (d : UInt64) : Body UInt64 := .ask (I := mapping) (Access.add64 l d)

/-! ## The functions of the source -/

/-- `copy(mem[start:], bs)`, a byte an access. -/
def copyIn (dst : Nat → Loc8) (start : Nat) : List UInt8 → Body Unit
  | [] => return
  | b :: bs => do
    store8 (dst start) b
    copyIn dst (start + 1) bs

/-- `copy(buf, mem[start:start+len])`, a byte an access. -/
def copyOut (src : Nat → Loc8) (start : Nat) : Nat → Body (List UInt8)
  | 0 => return []
  | n + 1 => do
    let b ← load8 (src start)
    let bs ← copyOut src (start + 1) n
    return b :: bs

/-- The slice expression `arena[lo:hi]`; it panics out of range. -/
def arenaSlice (s : Shm) (lo hi : UInt32) : Body Unit :=
  if lo ≤ hi ∧ hi ≤ s.reqArenaCap then return else .abort

/-- `writeArenaLocked`. -/
def writeArenaLocked (s : Shm) (data : List UInt8) : Body (Option (UInt32 × UInt32)) := do
  let length := UInt32.ofNat data.length
  if length > s.reqArenaCap then
    return none
  let alloc := arenaAlloc length
  let wpos ← load32 .hdrArenaWpos
  let wraps := wpos.toUInt64 + alloc.toUInt64 > s.reqArenaCap.toUInt64
  let skip := if wraps then
      alloc.toUInt64 + (s.reqArenaCap.toUInt64 - wpos.toUInt64)
    else alloc.toUInt64
  let wpos := if wraps then 0 else wpos
  let arenaUsed ← load32 .hdrArenaUsed
  let (wpos, skip) ←
    if arenaUsed.toUInt64 + skip > s.reqArenaCap.toUInt64 then do
      let head ← load64 .hdrReqHead
      let tail ← load64 .hdrReqTail
      if tail = head then
        store32 .hdrArenaWpos 0
        store32 .hdrArenaUsed 0
        pure (0, alloc.toUInt64)
      else
        let _ ← add64 .hdrStatSendFull 1
        return none
    else pure (wpos, skip)
  arenaSlice s wpos (wpos + length)
  copyIn .arena wpos.toNat (data.take length.toNat)
  store32 .hdrArenaWpos (wpos + alloc)
  let _ ← add32 .hdrArenaUsed skip.toUInt32
  return some (wpos, skip.toUInt32)

/-- `readArena`, together with the copy that `recvLocked` makes of it. -/
def readArena (s : Shm) (off length : UInt32) : Body (List UInt8) := do
  arenaSlice s off (off + length)
  copyOut .arena off.toNat length.toNat

/-- `releaseArenaLocked`. -/
def releaseArenaLocked (skip : UInt32) : Body Unit := do
  let used ← load32 .hdrArenaUsed
  let used := if used ≥ skip then used - skip else 0
  store32 .hdrArenaUsed used
  if used = 0 then
    store32 .hdrArenaWpos 0

/-- `sendLocked`. -/
def sendLocked (s : Shm) (data : List UInt8) (respSlotIdx respGen : UInt32) : Body Bool := do
  if respSlotIdx ≥ s.respSlots then
    .abort
  let head ← load64 .hdrReqHead
  let tail ← load64 .hdrReqTail
  if tail - head ≥ s.reqCap.toUInt64 then
    let _ ← add64 .hdrStatSendFull 1
    return false
  let some (arenaOff, arenaSkip) ← writeArenaLocked s data | return false
  let idx := tail &&& s.reqCapMask.toUInt64
  store32 (.reqSlotArenaOff idx) arenaOff
  store32 (.reqSlotPackedLen idx) (UInt32.ofNat data.length)
  store32 (.reqSlotArenaSkip idx) arenaSkip
  store32 (.reqSlotRespSlot idx) respSlotIdx
  store32 (.reqSlotRespGen idx) respGen
  let _ ← add64 .hdrReqTail 1
  let _ ← add64 .hdrStatRequests 1
  return true

/-- `recvLocked`. -/
def recvLocked (s : Shm) : Body (Option Delivery) := do
  let head ← load64 .hdrReqHead
  let tail ← load64 .hdrReqTail
  if tail = head then
    let _ ← add32 .hdrStatRecvEmpty 1
    return none
  let idx := head &&& s.reqCapMask.toUInt64
  let arenaOff ← load32 (.reqSlotArenaOff idx)
  let packedLen ← load32 (.reqSlotPackedLen idx)
  let arenaSkip ← load32 (.reqSlotArenaSkip idx)
  let respSlot ← load32 (.reqSlotRespSlot idx)
  let respGen ← load32 (.reqSlotRespGen idx)
  let length := packedLen &&& layoutStrLenMask
  let data ← readArena s arenaOff length
  releaseArenaLocked arenaSkip
  let id := packId respGen respSlot
  let _ ← add64 .hdrReqHead 1
  return some (data, id)

/-! ## Run alone -/

@[simp] theorem exec_load32 (l : Loc32) : (load32 l).exec = Exec.load32 l := rfl
@[simp] theorem exec_load64 (l : Loc64) : (load64 l).exec = Exec.load64 l := rfl
@[simp] theorem exec_load8 (l : Loc8) : (load8 l).exec = Exec.load8 l := rfl
@[simp] theorem exec_store32 (l : Loc32) (v : UInt32) :
    (store32 l v).exec = Exec.store32 l v := rfl
@[simp] theorem exec_store8 (l : Loc8) (v : UInt8) : (store8 l v).exec = Exec.store8 l v := rfl
@[simp] theorem exec_add32 (l : Loc32) (d : UInt32) : (add32 l d).exec = Exec.add32 l d := rfl
@[simp] theorem exec_add64 (l : Loc64) (d : UInt64) : (add64 l d).exec = Exec.add64 l d := rfl

@[simp] theorem exec_copyIn (dst : Nat → Loc8) (start : Nat) (bs : List UInt8) :
    (copyIn dst start bs).exec = Exec.copyIn dst start bs := by
  induction bs generalizing start with
  | nil => rfl
  | cons b bs ih => simp [copyIn, Exec.copyIn, ih]

@[simp] theorem exec_copyOut (src : Nat → Loc8) (start n : Nat) :
    (copyOut src start n).exec = Exec.copyOut src start n := by
  induction n generalizing start with
  | zero => rfl
  | succ n ih => simp [copyOut, Exec.copyOut, ih]

@[simp] theorem exec_arenaSlice (s : Shm) (lo hi : UInt32) :
    (arenaSlice s lo hi).exec = ReqRep.arenaSlice s lo hi := by
  unfold arenaSlice ReqRep.arenaSlice
  split <;> rfl

@[simp] theorem exec_writeArenaLocked (s : Shm) (data : List UInt8) :
    (writeArenaLocked s data).exec = ReqRep.writeArenaLocked s data := by
  simp [writeArenaLocked, ReqRep.writeArenaLocked]

@[simp] theorem exec_readArena (s : Shm) (off length : UInt32) :
    (readArena s off length).exec = ReqRep.readArena s off length := by
  simp [readArena, ReqRep.readArena]

@[simp] theorem exec_releaseArenaLocked (skip : UInt32) :
    (releaseArenaLocked skip).exec = ReqRep.releaseArenaLocked skip := by
  simp [releaseArenaLocked, ReqRep.releaseArenaLocked]

@[simp] theorem exec_sendLocked (s : Shm) (data : List UInt8) (slot gen : UInt32) :
    (sendLocked s data slot gen).exec = ReqRep.sendLocked s data slot gen := by
  unfold sendLocked ReqRep.sendLocked
  split
  · rfl
  simp only [Program.exec_ite, Program.exec_bind, exec_load64, exec_writeArenaLocked]
  congr! 4 with head tail
  split
  · simp
  · congr 1
    funext allocated
    cases allocated <;> simp

@[simp] theorem exec_recvLocked (s : Shm) :
    (recvLocked s).exec = ReqRep.recvLocked s := by
  simp [recvLocked, ReqRep.recvLocked]

end ByAccess

/-! ## The words of the queue -/

/-- The words that only the critical sections use. -/
@[reducible] def Loc32.ofQueue : Loc32 → Bool
  | .hdrArenaWpos | .hdrArenaUsed | .hdrStatRecvEmpty | .reqSlotArenaOff _ | .reqSlotPackedLen _
  | .reqSlotArenaSkip _ | .reqSlotRespSlot _ | .reqSlotRespGen _ => true
  | .hdrMutex | .hdrMutexWaiters | .hdrRespHint | .hdrStatRecoveries | .hdrSlotFutex
  | .hdrSlotWaiters | .hdrRecvWaiters | .hdrRecvFutex | .hdrSendWaiters | .hdrSendFutex
  | .respSlotState _ | .respSlotWaiters _ | .respSlotOwnerPid _ | .respSlotLen _
  | .respSlotFlags _ | .respSlotGeneration _ => false

/-- The 64-bit ones. -/
@[reducible] def Loc64.ofQueue : Loc64 → Bool
  | .hdrReqHead | .hdrReqTail | .hdrStatRequests | .hdrStatSendFull => true
  | .hdrStatReplies => false

/-- The bytes of the arena. -/
@[reducible] def Loc8.ofQueue : Loc8 → Bool
  | .arena _ => true
  | .respSlotData _ _ => false

/-- A store to one of them. -/
def Write.ofQueue : Write → Bool
  | .w32 l _ => l.ofQueue
  | .w64 l _ => l.ofQueue
  | .w8 l _ => l.ofQueue

/-- An access to one of them. -/
def Access.ofQueue : Access → Bool
  | .load32 l | .add32 l _ => l.ofQueue
  | .load64 l | .add64 l _ => l.ofQueue
  | .load8 l => l.ofQueue
  | .store w => w.ofQueue

namespace Mem

variable {w : Write}

theorem write_u32 (m : Mem) {l : Loc32} (apart : l.ofQueue ≠ w.ofQueue) :
    (m.write w).u32 l = m.u32 l := by
  cases w with
  | w32 l' v =>
    have ne : l ≠ l' := by
      rintro rfl
      exact apart rfl
    simp [ne]
  | w64 l' v | w8 l' v => rfl

theorem write_u64 (m : Mem) {l : Loc64} (apart : l.ofQueue ≠ w.ofQueue) :
    (m.write w).u64 l = m.u64 l := by
  cases w with
  | w64 l' v =>
    have ne : l ≠ l' := by
      rintro rfl
      exact apart rfl
    simp [ne]
  | w32 l' v | w8 l' v => rfl

theorem write_u8 (m : Mem) {l : Loc8} (apart : l.ofQueue ≠ w.ofQueue) :
    (m.write w).u8 l = m.u8 l := by
  cases w with
  | w8 l' v =>
    have ne : l ≠ l' := by
      rintro rfl
      exact apart rfl
    simp [ne]
  | w32 l' v | w64 l' v => rfl

end Mem

/-- The two memories differ in words of the queue only. -/
structure Mem.SameElsewhere (m m' : Mem) : Prop where
  u32 : ∀ l, l.ofQueue = false → m'.u32 l = m.u32 l
  u64 : ∀ l, l.ofQueue = false → m'.u64 l = m.u64 l
  u8 : ∀ l, l.ofQueue = false → m'.u8 l = m.u8 l

namespace Mem.SameElsewhere

variable {m m' m'' : Mem}

theorem refl (m : Mem) : SameElsewhere m m := ⟨fun _ _ => rfl, fun _ _ => rfl, fun _ _ => rfl⟩

theorem symm (same : SameElsewhere m m') : SameElsewhere m' m where
  u32 l other := (same.u32 l other).symm
  u64 l other := (same.u64 l other).symm
  u8 l other := (same.u8 l other).symm

theorem trans (same : SameElsewhere m m') (same' : SameElsewhere m' m'') :
    SameElsewhere m m'' where
  u32 l other := (same'.u32 l other).trans (same.u32 l other)
  u64 l other := (same'.u64 l other).trans (same.u64 l other)
  u8 l other := (same'.u8 l other).trans (same.u8 l other)

/-- The same store on both sides. -/
theorem write (same : SameElsewhere m m') (w : Write) :
    SameElsewhere (m.write w) (m'.write w) where
  u32 l other := by
    cases w with
    | w32 l' v => simp only [Mem.write_w32, Mem.set32_u32, same.u32 l other]
    | w64 l' v | w8 l' v => exact same.u32 l other
  u64 l other := by
    cases w with
    | w64 l' v => simp only [Mem.write_w64, Mem.set64_u64, same.u64 l other]
    | w32 l' v | w8 l' v => exact same.u64 l other
  u8 l other := by
    cases w with
    | w8 l' v => simp only [Mem.write_w8, Mem.set8_u8, same.u8 l other]
    | w32 l' v | w64 l' v => exact same.u8 l other

theorem writeAll (same : SameElsewhere m m') (ws : List Write) :
    SameElsewhere (m.writeAll ws) (m'.writeAll ws) := by
  induction ws generalizing m m' with
  | nil => exact same
  | cons w ws ih => exact ih (same.write w)

theorem of_write (m : Mem) {w : Write} (queue : w.ofQueue = true) :
    SameElsewhere m (m.write w) where
  u32 _ other := m.write_u32 (by simp [other, queue])
  u64 _ other := m.write_u64 (by simp [other, queue])
  u8 _ other := m.write_u8 (by simp [other, queue])

theorem of_writeAll (m : Mem) {ws : List Write} (queue : ∀ w ∈ ws, w.ofQueue = true) :
    SameElsewhere m (m.writeAll ws) := by
  induction ws generalizing m with
  | nil => exact refl m
  | cons w ws ih =>
    obtain ⟨here, later⟩ := List.forall_mem_cons.mp queue
    exact (of_write m here).trans (ih _ later)

end Mem.SameElsewhere

/-- A store to the queue and a store elsewhere can change places. -/
theorem Mem.write_comm (m : Mem) {w w' : Write} (queue : w.ofQueue = true)
    (other : w'.ofQueue = false) : (m.write w').write w = (m.write w).write w' := by
  cases w with
  | w32 l v =>
    cases w' with
    | w32 l' v' =>
      have ne : l ≠ l' := by
        rintro rfl
        cases queue.symm.trans other
      refine Mem.ext (funext fun x => ?_) rfl rfl
      by_cases here : x = l <;> simp [here, ne]
    | w64 l' v' | w8 l' v' => rfl
  | w64 l v =>
    cases w' with
    | w64 l' v' =>
      have ne : l ≠ l' := by
        rintro rfl
        cases queue.symm.trans other
      refine Mem.ext rfl (funext fun x => ?_) rfl
      by_cases here : x = l <;> simp [here, ne]
    | w32 l' v' | w8 l' v' => rfl
  | w8 l v =>
    cases w' with
    | w8 l' v' =>
      have ne : l ≠ l' := by
        rintro rfl
        cases queue.symm.trans other
      refine Mem.ext rfl rfl (funext fun x => ?_)
      by_cases here : x = l <;> simp [here, ne]
    | w32 l' v' | w64 l' v' => rfl

/-! ## Stores of others -/

/-- Another goroutine's store. -/
def World.elsewhere (w : Write) (world : World) : World := { world with mem := world.mem.write w }

/-- Stores made before. -/
def World.after (ws : List Write) (world : World) : World :=
  { world with writes := ws ++ world.writes }

/-- An access to the queue does not notice a store elsewhere. -/
theorem Access.commutes {a : Access} {w : Write} (queue : a.ofQueue = true)
    (other : w.ofQueue = false) : Program.Commutes (I := mapping) (World.elsewhere w) a := by
  intro world
  have apart : ∀ {b}, b = true → b ≠ w.ofQueue := by
    rintro b rfl
    simp [other]
  cases a with
  | load32 l => exact congrArg (·, _) (world.mem.write_u32 (apart queue))
  | load64 l => exact congrArg (·, _) (world.mem.write_u64 (apart queue))
  | load8 l => exact congrArg (·, _) (world.mem.write_u8 (apart queue))
  | store wr => exact congrArg (fun m => ((), World.mk m _)) (Mem.write_comm world.mem queue other)
  | add32 l d =>
    have same := world.mem.write_u32 (apart queue)
    have comm := Mem.write_comm world.mem (w := .w32 l (world.mem.u32 l + d)) queue other
    simp only [mapping, Access.perform, World.elsewhere, World.extend, Mem.writeAll_cons,
      Mem.writeAll_nil, same, comm]
  | add64 l d =>
    have same := world.mem.write_u64 (apart queue)
    have comm := Mem.write_comm world.mem (w := .w64 l (world.mem.u64 l + d)) queue other
    simp only [mapping, Access.perform, World.elsewhere, World.extend, Mem.writeAll_cons,
      Mem.writeAll_nil, same, comm]

/-- No access looks at the stores made before. -/
theorem Access.commutes_after (a : Access) (ws : List Write) :
    Program.Commutes (I := mapping) (World.after ws) a := by
  intro world
  cases a with
  | load32 l | load64 l | load8 l => rfl
  | store w | add32 l d | add64 l d =>
    simp [mapping, Access.perform, World.after, World.extend]

/-- An access to the queue makes stores to the queue. -/
theorem Access.extends {a : Access} (queue : a.ofQueue = true) (world : World) :
    ∃ ws, (a.perform world).2 = world.extend ws ∧ ∀ w ∈ ws, w.ofQueue = true := by
  cases a with
  | load32 l | load64 l | load8 l => exact ⟨[], world.extend_nil.symm, by simp⟩
  | store w => exact ⟨[w], rfl, List.forall_mem_singleton.mpr queue⟩
  | add32 l d => exact ⟨[.w32 l _], rfl, List.forall_mem_singleton.mpr queue⟩
  | add64 l d => exact ⟨[.w64 l _], rfl, List.forall_mem_singleton.mpr queue⟩

/-! ## What the critical sections touch -/

namespace ByAccess

/-- The program stays within the queue. -/
def OfQueue {α : Type} (p : Body α) : Prop := p.Uses fun a : Access => a.ofQueue = true

variable {α : Type} {p : Body α}

/-- A store elsewhere can be made before the program or after it. -/
theorem OfQueue.exec_elsewhere (queue : OfQueue p) {w : Write} (other : w.ofQueue = false)
    (world : World) :
    p.exec (world.elsewhere w) = (p.exec world).map fun out => (out.1, out.2.elsewhere w) :=
  Program.exec_commutes (queue.imp fun _ here => Access.commutes here other) world

theorem OfQueue.exec_after (queue : OfQueue p) (ws : List Write) (world : World) :
    p.exec (world.after ws) = (p.exec world).map fun out => (out.1, out.2.after ws) :=
  Program.exec_commutes (queue.imp fun a _ => Access.commutes_after a ws) world

/-- The program makes stores to the queue. -/
theorem OfQueue.exec_extends (queue : OfQueue p) {world world' : World} {result : α}
    (ran : p.exec world = some (result, world')) :
    ∃ ws, world' = world.extend ws ∧ ∀ w ∈ ws, w.ofQueue = true := by
  refine Program.exec_keeps (fun w' => ∃ ws, w' = world.extend ws ∧ ∀ w ∈ ws, w.ofQueue = true)
    (queue.imp ?_) ⟨[], world.extend_nil.symm, by simp⟩ ran
  rintro a here w' ⟨ws, rfl, all⟩
  obtain ⟨ws', extended, all'⟩ := Access.extends here (world.extend ws)
  exact ⟨ws ++ ws', extended.trans (World.extend_extend _ _ _),
    List.forall_mem_append.mpr ⟨all, all'⟩⟩

theorem ofQueue_copyIn (start : Nat) (bs : List UInt8) : OfQueue (copyIn .arena start bs) := by
  induction bs generalizing start with
  | nil => trivial
  | cons b bs ih => exact .bind ⟨rfl, fun _ => trivial⟩ fun _ => ih _

theorem ofQueue_copyOut (start n : Nat) : OfQueue (copyOut .arena start n) := by
  induction n generalizing start with
  | zero => trivial
  | succ n ih => exact .bind ⟨rfl, fun _ => trivial⟩ fun _ => .bind (ih _) fun _ => trivial

theorem ofQueue_arenaSlice (s : Shm) (lo hi : UInt32) : OfQueue (arenaSlice s lo hi) :=
  .ite (fun _ => trivial) fun _ => trivial

theorem ofQueue_writeArenaLocked (s : Shm) (data : List UInt8) :
    OfQueue (writeArenaLocked s data) := by
  unfold writeArenaLocked
  repeat' first
    | exact trivial
    | exact ⟨rfl, fun _ => trivial⟩
    | exact ofQueue_arenaSlice s _ _
    | exact ofQueue_copyIn _ _
    | refine Program.Uses.ite (fun _ => ?_) fun _ => ?_
    | refine Program.Uses.bind ?_ fun _ => ?_

theorem ofQueue_readArena (s : Shm) (off length : UInt32) : OfQueue (readArena s off length) :=
  .bind (ofQueue_arenaSlice s _ _) fun _ => ofQueue_copyOut _ _

theorem ofQueue_releaseArenaLocked (skip : UInt32) : OfQueue (releaseArenaLocked skip) :=
  .bind ⟨rfl, fun _ => trivial⟩ fun _ => .bind ⟨rfl, fun _ => trivial⟩ fun _ =>
    .ite (fun _ => ⟨rfl, fun _ => trivial⟩) fun _ => trivial

theorem ofQueue_sendLocked (s : Shm) (data : List UInt8) (slot gen : UInt32) :
    OfQueue (sendLocked s data slot gen) := by
  unfold sendLocked
  repeat' first
    | exact trivial
    | exact ⟨rfl, fun _ => trivial⟩
    | exact ofQueue_writeArenaLocked s _
    | refine Program.Uses.ite (fun _ => ?_) fun _ => ?_
    | refine Program.Uses.bind ?_ fun _ => ?_
    | split

theorem ofQueue_recvLocked (s : Shm) : OfQueue (recvLocked s) := by
  unfold recvLocked
  repeat' first
    | exact trivial
    | exact ⟨rfl, fun _ => trivial⟩
    | exact ofQueue_readArena s _ _
    | exact ofQueue_releaseArenaLocked _
    | refine Program.Uses.ite (fun _ => ?_) fun _ => ?_
    | refine Program.Uses.bind ?_ fun _ => ?_

end ByAccess

end ReqRep
