import ReqRep.Queue.Fifo

/-!
# Deaths inside the critical section

A process dies after some store of `sendLocked` or `recvLocked`;
`recoverStaleMutex` frees its mutex and repairs nothing else. The accounting of
the arena survives this except in two windows, and there a later send can
overwrite a queued request.
-/

namespace ReqRep

open Exec
open BoundedQueue (Event Step Steps pushed popped taken Agrees)

/-- What participants do: a call, or the death of process `pid` inside one after
`stores` of its stores, with the recovery of the mutex it held. -/
inductive QueueAct where
  | call (c : QueueCall)
  | dieSending (pid : UInt32) (r : Request) (stores : Nat)
  | dieReceiving (pid : UInt32) (stores : Nat)
  deriving DecidableEq, Repr

/-- What is sent is a request that `trySend` would send. -/
def QueueAct.Ok (s : Shm) : QueueAct → Prop
  | .call c => c.Ok s
  | .dieSending _ r _ => (QueueCall.send r).Ok s
  | .dieReceiving _ _ => True

instance (s : Shm) (a : QueueAct) : Decidable (a.Ok s) := by
  cases a <;> unfold QueueAct.Ok <;> infer_instance

/-- A process with the mutex runs `p` and dies after `stores` of its stores:
the memory, and the stores it did not make. -/
def cutShort {α : Type} (pid : UInt32) (p : Exec α) (stores : Nat) (m : Mem) :
    Option (Mem × List Write) := do
  let locked := m.set32 .hdrMutex (mutexWord pid)
  let (_, w) ← p.run locked
  return (locked.writeAll (w.writes.take stores), w.writes.drop stores)

/-- One action and what it does to the queue. A dead sender's request counts
from the increment of `req_tail` on; a dead receiver's is gone, unreturned, from
the increment of `req_head` on. -/
def runAct (s : Shm) (m : Mem) : QueueAct → Option (Event Delivery × Mem)
  | .call c => do
    let (e, w) ← (runCall s c).run m
    return (e, w.mem)
  | .dieSending pid r stores => do
    let (cut, _) ← cutShort pid (sendLocked s r.data r.respSlot r.respGen) stores m
    let (_, w) ← (recoverStaleMutex (mutexWord pid)).run cut
    return (if cut.u64 .hdrReqTail = m.u64 .hdrReqTail then .skip else .push r.delivery, w.mem)
  | .dieReceiving pid stores => do
    let (cut, _) ← cutShort pid (recvLocked s) stores m
    let (_, w) ← (recoverStaleMutex (mutexWord pid)).run cut
    return (if cut.u64 .hdrReqHead = m.u64 .hdrReqHead then .skip else .drop, w.mem)

/-- Some actions, one after another, and what they do to the queue. -/
def runActs (s : Shm) : List QueueAct → Mem → Option (Mem × List (Event Delivery))
  | [], m => some (m, [])
  | a :: as, m => do
    let (e, m') ← runAct s m a
    let (m'', es) ← runActs s as m'
    return (m'', e :: es)

/-- The action is not a death in one of the two windows: of a sender between its
stores of `arena_wpos` and `arena_used` while requests are queued, or of a
receiver between its store of `arena_used` and its increment of `req_head`. -/
def SafeDeath (s : Shm) (m : Mem) : QueueAct → Prop
  | .call _ => True
  | .dieSending pid r stores =>
    match cutShort pid (sendLocked s r.data r.respSlot r.respGen) stores m with
    | some (cut, rest) => SafeSendCut cut rest
    | none => True
  | .dieReceiving pid stores =>
    match cutShort pid (recvLocked s) stores m with
    | some (_, rest) => SafeRecvCut rest
    | none => True

/-- Every death of the run is outside the two windows. -/
def SafeDeaths (s : Shm) : List QueueAct → Mem → Prop
  | [], _ => True
  | a :: as, m => SafeDeath s m a ∧
    match runAct s m a with
    | some (_, m') => SafeDeaths s as m'
    | none => True

instance (s : Shm) (m : Mem) (a : QueueAct) : Decidable (SafeDeath s m a) := by
  unfold SafeDeath
  split
  · infer_instance
  · split <;> infer_instance
  · split <;> infer_instance

instance (s : Shm) : ∀ as m, Decidable (SafeDeaths s as m)
  | [], _ => isTrue trivial
  | a :: as, m => by
    have rest : ∀ m', Decidable (SafeDeaths s as m') := instDecidableSafeDeaths s as
    unfold SafeDeaths
    have : Decidable (match runAct s m a with
      | some (_, m') => SafeDeaths s as m'
      | none => True) := by
      split
      · exact rest _
      · exact isTrue trivial
    infer_instance

variable {s : Shm} {m : Mem} {q : List Request}

theorem recover_represents (queue : Represents s m q) (observed : UInt32) :
    ∃ w, (recoverStaleMutex observed).run m = some ((), w) ∧ Represents s w.mem q := by
  unfold recoverStaleMutex
  simp only [Exec.run, bind_apply, cas32_apply]
  split
  · refine ⟨_, rfl, ?_⟩
    exact (queue.foreign (w := .w32 _ _) ⟨by decide, by decide, fun _ => id⟩).foreign
      (w := .w32 _ _) ⟨by decide, by decide, fun _ => id⟩
  · exact ⟨_, rfl, queue⟩

/-- Every memory a death inside `recvLocked` leaves behind. -/
private theorem recv_cut {lm : Mem} (queue : Represents s lm q) (stores : Nat) :
    ∃ cut rest, (do
        let (_, w) ← (recvLocked s).run lm
        return (lm.writeAll (w.writes.take stores), w.writes.drop stores)) = some (cut, rest) ∧
      (SafeRecvCut rest → RecvLeaves s lm q cut) ∧
      (q = [] → cut.u64 .hdrReqHead = lm.u64 .hdrReqHead) := by
  cases q with
  | nil =>
    have run := recv_run_nil (w := ⟨lm, []⟩) queue
    have kept : Along (fun m' _ => Represents s m' [] ∧ m'.u64 = lm.u64) lm
        [.w32 .hdrStatRecvEmpty (lm.u32 .hdrStatRecvEmpty + 1)] :=
      ⟨⟨queue, rfl⟩, queue.foreign (w := .w32 _ _) ⟨by decide, by decide, fun _ => id⟩, rfl⟩
    obtain ⟨after, same⟩ := kept.cut stores
    refine ⟨_, _, by simp only [Exec.run, run]; rfl, fun _ => ?_, fun _ => congrFun same _⟩
    rw [RecvLeaves, if_pos (congrFun same _)]
    exact after
  | cons r q =>
    have run := recv_run_cons (w := ⟨lm, []⟩) queue
    exact ⟨_, _, by simp only [Exec.run, run]; rfl, (recv_along queue).cut stores, (by rintro ⟨⟩)⟩

/-- One action is one step of the abstract queue. -/
theorem act_step (ok : s.QueueOk) (queue : Represents s m q) {a : QueueAct} (valid : a.Ok s)
    (safe : SafeDeath s m a) :
    ∃ e m' q', runAct s m a = some (e, m') ∧ Represents s m' q' ∧
      Step s.reqCap.toNat (q.map Request.delivery) e (q'.map Request.delivery) := by
  have locked : ∀ pid, Represents s (m.set32 .hdrMutex (mutexWord pid)) q := fun pid =>
    queue.foreign (w := .w32 _ _) ⟨by decide, by decide, fun _ => id⟩
  cases a with
  | call c =>
    obtain ⟨e, w, q', run, after, step, -⟩ := call_step ok queue valid
    exact ⟨e, w.mem, q', by simp [runAct, run], after, step⟩
  | dieSending pid r stores =>
    obtain ⟨sent, ws, run, outcome⟩ := sendLocked_run valid.1 valid.2
      ⟨m.set32 .hdrMutex (mutexWord pid), []⟩ (locked pid).wpos_bound
    have outcome : Sent s (m.set32 .hdrMutex (mutexWord pid)) r sent ws := outcome
    have cut : cutShort pid (sendLocked s r.data r.respSlot r.respGen) stores m =
        some ((m.set32 .hdrMutex (mutexWord pid)).writeAll (ws.take stores), ws.drop stores) := by
      simp only [cutShort, Exec.run, run]
      rfl
    have leaves := (send_along ok (locked pid) valid.1 outcome).cut stores (by
      simpa only [SafeDeath, cut] using safe)
    unfold SendLeaves at leaves
    rw [Mem.set32_u64] at leaves
    obtain ⟨w, recovered, after⟩ := recover_represents leaves (mutexWord pid)
    refine ⟨_, w.mem, _, by
      simp only [runAct, cut, recovered, Option.bind_eq_bind, Option.bind_some]; rfl, after, ?_⟩
    split
    · exact .skip
    · next moved =>
      rw [if_neg moved] at leaves
      have bound := leaves.bounded
      rw [List.length_append, List.length_singleton] at bound
      rw [List.map_append]
      exact .push (by rw [List.length_map]; exact bound)
  | dieReceiving pid stores =>
    obtain ⟨cut, rest, run, leaves, idle⟩ := recv_cut (locked pid) stores
    have run : cutShort pid (recvLocked s) stores m = some (cut, rest) := run
    have leaves := leaves (by simpa only [SafeDeath, run] using safe)
    unfold RecvLeaves at leaves
    rw [Mem.set32_u64] at leaves
    obtain ⟨w, recovered, after⟩ := recover_represents leaves (mutexWord pid)
    refine ⟨_, w.mem, _, by
      simp only [runAct, run, recovered, Option.bind_eq_bind, Option.bind_some]; rfl, after, ?_⟩
    split
    · exact .skip
    · next moved =>
      cases q with
      | nil => exact absurd (idle rfl) moved
      | cons r q => exact .drop

/-! ## Any run -/

theorem acts_steps (ok : s.QueueOk) {acts : List QueueAct} (valid : ∀ a ∈ acts, a.Ok s)
    (safe : SafeDeaths s acts m) (queue : Represents s m q) :
    ∃ m' es q', runActs s acts m = some (m', es) ∧ Represents s m' q' ∧
      Steps s.reqCap.toNat (q.map Request.delivery) es (q'.map Request.delivery) := by
  induction acts generalizing m q with
  | nil => exact ⟨m, [], q, rfl, queue, .nil⟩
  | cons a acts ih =>
    obtain ⟨e, m', q', run, queue', step⟩ :=
      act_step ok queue (valid a List.mem_cons_self) safe.1
    obtain ⟨m'', es, q'', runs, queue'', steps⟩ :=
      ih (fun a member => valid a (List.mem_cons_of_mem _ member))
        (by simpa only [run] using safe.2) queue'
    exact ⟨m'', e :: es, q'', by simp [runActs, run, runs], queue'', .cons step steps⟩

/-- Deaths outside the two windows damage no request. The requests whose
`req_tail` increment was done leave the queue in order and unchanged, each once:
returned by a `recvLocked`, or lost with a receiver that died after its
`req_head` increment. The others are still queued, and the next `recvLocked`
returns the oldest of them. -/
theorem deaths_keep_requests (ok : s.QueueOk) (fresh : FreshQueue m) {acts : List QueueAct}
    (valid : ∀ a ∈ acts, a.Ok s) (safe : SafeDeaths s acts m) :
    ∃ m' es gone waiting, runActs s acts m = some (m', es) ∧
      pushed es = gone ++ waiting ∧ Agrees gone (taken es) ∧
      ∃ w, (runCall s .recv).run m' = some (received waiting, w) := by
  obtain ⟨m', es, q, runs, queue, steps⟩ := acts_steps ok valid safe fresh.represents
  obtain ⟨gone, split, agrees⟩ := steps.conserves
  obtain ⟨w, next, -⟩ := recv_call queue
  exact ⟨m', es, gone, _, runs, split, agrees, w, next⟩

/-- A sender that dies right after its store of `arena_used`, and a receiver
that dies before its first store, are outside the windows. -/
theorem deaths_keep_requests_tiny :
    ∃ m' es gone waiting, runActs tinyShm
        [.call (.send ⟨[1], 0, 1⟩), .dieSending 7 ⟨[2], 0, 2⟩ 3, .dieReceiving 8 0, .call .recv]
        (freshMem 0) = some (m', es) ∧
      pushed es = gone ++ waiting ∧ Agrees gone (taken es) ∧
      ∃ w, (runCall tinyShm .recv).run m' = some (received waiting, w) := by
  exact deaths_keep_requests (by decide) (freshMem_fresh 0) (by decide) (by decide +kernel)

/-- A receiver that dies right after its store of `arena_used` has taken the
charge of a request that stays queued. The next receive takes it again, so the
arena counts as empty while the second request is in it, and a third one
overwrites it: the second is returned with a byte of the third. -/
theorem receiver_death_damages_request :
    ∃ es, (runActs tinyShm
        [.call (.send ⟨[1], 0, 1⟩), .call (.send ⟨[2], 0, 2⟩), .dieReceiving 7 1, .call .recv,
         .call (.send ⟨[3, 3, 3, 3, 3, 3, 3, 3, 3], 0, 3⟩), .call .recv]
        (freshMem 0)).map Prod.snd = some es ∧
      ¬ ∃ gone waiting, pushed es = gone ++ waiting ∧ Agrees gone (taken es) := by
  refine ⟨[.push ([1], packId 1 0), .push ([2], packId 2 0), .skip, .pop ([1], packId 1 0),
    .push ([3, 3, 3, 3, 3, 3, 3, 3, 3], packId 3 0), .pop ([3], packId 2 0)],
    by decide +kernel, ?_⟩
  rintro ⟨gone, waiting, split, agrees⟩
  simp only [pushed, taken, List.filterMap_cons, List.filterMap_nil] at split agrees
  cases agrees with
  | @cons a _ gone _ _ rest =>
    cases rest with
    | @cons b _ gone _ same rest =>
      have second : b = ([2], packId 2 0) := (List.cons.inj (List.cons.inj split).2).1.symm
      rw [second] at same
      exact absurd same (by decide)

end ReqRep
