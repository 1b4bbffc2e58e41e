import ReqRep.Machine.Step

/-!
# The slot protocol

What the machine does to the response slots, with everything else left out: each
goroutine has a role towards at most one slot, and each move changes one role and
the words of one slot. The waits, the wake helpers and the loops around them are
no moves.
-/

namespace ReqRep

/-- Acquiring a slot: between its CAS and its last generation increment. -/
inductive Taking where
  | own
  | inc
  | again
  deriving DecidableEq, Repr

/-- `readAndRelease`: the load of the length, then the copy. -/
inductive Reading where
  | length
  | bytes (length : Nat) (result : List UInt8)
  deriving DecidableEq, Repr

/-- `releaseRespSlot`: the owner store, then the state store. -/
inductive Releasing where
  | owner
  | state
  deriving DecidableEq, Repr

/-- `cancelRequest`: the generation check, the CAS, the owner store and the increment. -/
inductive Cancelling where
  | gen
  | cas
  | owner
  | bump
  deriving DecidableEq, Repr

/-- `writeResponse`: two checks, the copy, the length and the CAS. -/
inductive Writing where
  | state
  | gen
  | copy (k : Nat)
  | len
  | cas
  deriving DecidableEq, Repr

/-- Behind a dead owner in the second pass of `acquireRespSlot`. -/
inductive Recovering where
  | clear
  | free
  | grab
  deriving DecidableEq, Repr

/-- What a goroutine is doing with a slot. A subroutine carries the role of its
caller. -/
inductive Role where
  | idle
  | taking (i : UInt32) (p : Taking)
  | recovering (i state : UInt32) (p : Recovering)
  | unsent (id : UInt64)
  | waiting (id : UInt64)
  | sawReady (id : UInt64)
  | reading (id : UInt64) (p : Reading)
  | releasing (id : UInt64) (p : Releasing) (next : Role)
  | answering (id : UInt64) (bytes : List UInt8)
  | cancelling (id : UInt64) (p : Cancelling) (next : Role)
  | leaving (id : UInt64)
  | draining (id : UInt64)
  | serving (id : UInt64)
  | writing (id : UInt64) (response : List UInt8) (p : Writing)
  deriving DecidableEq, Repr

/-- The role of a `Query` whose `waitResponse` failed. -/
def Role.givingUp (id : UInt64) : Role := .cancelling id .gen (.leaving id)

/-- `readAndRelease` copies, then releases. -/
def Role.readNext (id : UInt64) (length : Nat) (result : List UInt8) : Role :=
  if result.length < length then .reading id (.bytes length result)
  else .releasing id .owner (.answering id result)

/-- `writeResponse` copies, then stores the length. -/
def Role.writeNext (id : UInt64) (response : List UInt8) (k : Nat) : Role :=
  .writing id response (if k < response.length then .copy k else .len)

/-- The role at a counter. -/
def Pc.role : Pc → Role
  | .wakeBump _ next | .wakeLoad _ next | .wakeCall _ next => next.role
  | .acqOwner _ slot _ => .taking slot .own
  | .acqGen _ slot _ => .taking slot .inc
  | .acqGenAgain _ slot _ => .taking slot .again
  | .recClear _ i state => .recovering i state .clear
  | .recFree _ i state => .recovering i state .free
  | .recStat _ i | .recGrab _ i => .recovering i layoutRespFree .grab
  | .acqStoreHint _ id | .send _ id => .unsent id
  | .releaseOwner id next => .releasing id .owner next.role
  | .releaseState id next => .releasing id .state next.role
  | .spinErr id _ | .spinGen id _ | .spinState id _ | .waitAdd id | .waitState id | .waitErr id _
  | .waitTimeout id _ | .waitFutexWait id _ | .waitAsleep id | .waitErrAfter id => .waiting id
  | .waitGen id state => if state = layoutRespReady then .sawReady id else .waiting id
  | .waitLeave id (some bytes) | .answer id bytes => .answering id bytes
  | .waitLeave id none => .givingUp id
  | .readLen id _ => .reading id .length
  | .readCopy id _ length result => .reading id (.bytes length result)
  | .cancelGen id next => .cancelling id .gen next.role
  | .cancelCas id next => .cancelling id .cas next.role
  | .cancelOwner id next => .cancelling id .owner next.role
  | .cancelBump id next => .cancelling id .bump next.role
  | .cancelLoad _ next | .cancelWake _ next => next.role
  | .drainGen id => .leaving id
  | .drainState id => .draining id
  | .handle id => .serving id
  | .writeState id response => .writing id response .state
  | .writeGen id response => .writing id response .gen
  | .writeCopy id response k => .writing id response (.copy k)
  | .writeLen id response => .writing id response .len
  | .writeFlags id response | .writeCas id response => .writing id response .cas
  | .idle | .acqHint _ | .acqCas .. | .recState .. | .recOwner .. | .recAlive .. | .sendLoadSeq _
  | .sendTimeout .. | .sendAddWaiters .. | .sendFutexWait .. | .sendAsleep _ | .sendSubWaiters _
  | .sendErr | .recvTry _ | .recvLoadSeq | .recvErr _ | .recvAddWaiters _ | .recvFutexWait _
  | .recvAsleep | .recvSubWaiters | .recvErrAfter | .writeLoad _ | .writeWake _
  | .writeStat => .idle

/-- The slot that a goroutine is acquiring. -/
def Role.takes : Role → Option UInt32
  | .taking i _ => some i
  | _ => none

/-- The steps that take a slot, or that act on a slot after checks which other
goroutines can have overtaken: the CAS of `acquireRespSlot`, the CAS, the owner
store and the increment of `cancelRequest`, the decisions to read and to drain a
READY slot, the stores and the CAS of `writeResponse`, and the verdict that an
owner is dead. The death of a process has a label too. -/
inductive Label where
  | take (i : UInt32)
  | cancel (id : UInt64)
  | clearOwner (id : UInt64)
  | bump (id : UInt64)
  | read (id : UInt64)
  | drain (id : UInt64)
  | fill (id : UInt64)
  | publish (id : UInt64)
  | condemn (i pid : UInt32)
  | die (pid : UInt32)
  deriving DecidableEq, Repr

/-- The slots, the roles and the history. -/
@[ext] structure View (n : Nat) where
  state : UInt32 → UInt32
  gen : UInt32 → UInt32
  owner : UInt32 → UInt32
  len : UInt32 → UInt32
  data : UInt32 → Nat → UInt8
  hint : UInt32
  dead : UInt32 → Bool
  bumps : UInt32 → Nat
  holder : UInt32 → Option (Fin n)
  pending : List UInt64
  log : List (Mark n)
  role : Fin n → Role

namespace View

variable {n : Nat}

/-- Goroutine `t` takes a role. -/
def become (v : View n) (t : Fin n) (r : Role) : View n :=
  { v with role := Function.update v.role t r }

@[simp] theorem become_role (v : View n) (t : Fin n) (r : Role) : (v.become t r).role t = r := by
  simp [become]

theorem become_role_of_ne (v : View n) {t t' : Fin n} (r : Role) (other : t' ≠ t) :
    (v.become t r).role t' = v.role t' := by
  simp [become, other]

/-- A mark of the history. -/
def note (v : View n) (e : Mark n) : View n := { v with log := e :: v.log }

/-- A store to the owner of a slot. -/
def setOwner (v : View n) (i pid : UInt32) : View n :=
  { v with owner := Function.update v.owner i pid }

/-- A store to a state that takes or frees the slot. -/
def setState (v : View n) (i state : UInt32) (h : Option (Fin n)) : View n :=
  { v with state := Function.update v.state i state, holder := Function.update v.holder i h }

/-- A generation increment, counted. -/
def bump (v : View n) (i : UInt32) : View n :=
  { v with
    gen := Function.update v.gen i (v.gen i + 1)
    bumps := Function.update v.bumps i (v.bumps i + 1) }

/-- Some goroutine is between the CAS of `acquireRespSlot` on slot `i` and its
last generation increment. -/
def InWindow (v : View n) (i : UInt32) : Prop := ∃ t, (v.role t).takes = some i

instance (v : View n) (i : UInt32) : Decidable (v.InWindow i) :=
  inferInstanceAs (Decidable (∃ t, (v.role t).takes = some i))

/-- The id is that of the request which holds its slot. -/
def Current (v : View n) (id : UInt64) : Prop :=
  v.state (idSlot id) ≠ layoutRespFree ∧ v.gen (idSlot id) = idGen id ∧ ¬ v.InWindow (idSlot id)

instance (v : View n) (id : UInt64) : Decidable (v.Current id) :=
  inferInstanceAs (Decidable (_ ∧ _ ∧ _))

end View

/-- One move of goroutine `t`. -/
inductive Move {n : Nat} (S : Setup n) (v : View n) (t : Fin n) :
    Option Label → View n → Prop where
  | take {i : UInt32}
      (role : v.role t = .idle ∨ v.role t = .recovering i layoutRespFree .grab)
      (bound : i < S.shm.respSlots) (free : v.state i = layoutRespFree) :
      Move S v t (some (.take i))
        ((v.setState i layoutRespAcquired (some t)).become t (.taking i .own))
  | condemn {i state pid : UInt32} (role : v.role t = .idle) (bound : i < S.shm.respSlots)
      (taken : state ≠ layoutRespFree) (dead : v.dead pid = true) :
      Move S v t (some (.condemn i pid)) (v.become t (.recovering i state .clear))
  | clear {i state : UInt32} (role : v.role t = .recovering i state .clear) :
      Move S v t none ((v.setOwner i 0).become t (.recovering i state .free))
  | free {i state : UInt32} (role : v.role t = .recovering i state .free)
      (same : v.state i = state) :
      Move S v t none ((v.setState i layoutRespFree none).become t
        (.recovering i layoutRespFree .grab))
  | recoverMiss {i state : UInt32} {p : Recovering} (role : v.role t = .recovering i state p)
      (behind : p ≠ .clear) (other : v.state i ≠ state) : Move S v t none (v.become t .idle)
  | own {i : UInt32} (role : v.role t = .taking i .own) :
      Move S v t none ((v.setOwner i (S.pid t)).become t (.taking i .inc))
  | incZero {i : UInt32} (role : v.role t = .taking i .inc) (zero : v.gen i + 1 = 0) :
      Move S v t none ((v.bump i).become t (.taking i .again))
  | inc {i : UInt32} {p : Taking} (role : v.role t = .taking i p)
      (last : (p = .inc ∧ v.gen i + 1 ≠ 0) ∨ p = .again) :
      Move S v t none (((v.bump i).note (.acquired t (packId (v.gen i + 1) i))).become t
        (.unsent (packId (v.gen i + 1) i)))
  | hint {id : UInt64} (role : v.role t = .unsent id) :
      Move S v t none ({ v with hint := (idSlot id + 1) % S.shm.respSlots }.become t (.unsent id))
  | send {id : UInt64} (role : v.role t = .unsent id) :
      Move S v t none ({ v with pending := v.pending ++ [id] }.become t
        (if id ≠ 0 then .waiting id else .idle))
  | drop {id : UInt64} (role : v.role t = .unsent id) :
      Move S v t none (v.become t (.releasing id .owner .idle))
  | releaseOwner {id : UInt64} {next : Role} (role : v.role t = .releasing id .owner next) :
      Move S v t none (((v.setOwner (idSlot id) 0).note (.ended id)).become t
        (.releasing id .state next))
  | releaseState {id : UInt64} {next : Role} (role : v.role t = .releasing id .state next) :
      Move S v t none ((v.setState (idSlot id) layoutRespFree none).become t next)
  | look {id : UInt64} (role : v.role t = .waiting id)
      (ready : v.state (idSlot id) = layoutRespReady) :
      Move S v t none (v.become t (.sawReady id))
  | read {id : UInt64}
      (role : (v.role t = .waiting id ∧ v.state (idSlot id) = layoutRespReady) ∨
        (v.role t = .sawReady id ∧ v.gen (idSlot id) = idGen id)) :
      Move S v t (some (.read id)) (v.become t (.reading id .length))
  | readLen {id : UInt64} (role : v.role t = .reading id .length)
      (fits : v.len (idSlot id) ≤ S.shm.respDataMax) :
      Move S v t none (v.become t (.readNext id (v.len (idSlot id)).toNat []))
  | readLong {id : UInt64} (role : v.role t = .reading id .length) :
      Move S v t none (v.become t (.releasing id .owner (.givingUp id)))
  | readByte {id : UInt64} {length : Nat} {result : List UInt8}
      (role : v.role t = .reading id (.bytes length result)) :
      Move S v t none (v.become t
        (.readNext id length (result ++ [v.data (idSlot id) result.length])))
  | answer {id : UInt64} {bytes : List UInt8} (role : v.role t = .answering id bytes) :
      Move S v t none ((v.note (.answered t id bytes)).become t .idle)
  | giveUp {id : UInt64} (role : v.role t = .waiting id ∨ v.role t = .sawReady id) :
      Move S v t none (v.become t (.givingUp id))
  | cancelMiss {id : UInt64} {next : Role} (role : v.role t = .cancelling id .gen next)
      (miss : idSlot id ≥ S.shm.respSlots ∨ v.gen (idSlot id) ≠ idGen id) :
      Move S v t none (v.become t next)
  | cancelHit {id : UInt64} {next : Role} (role : v.role t = .cancelling id .gen next)
      (gen : v.gen (idSlot id) = idGen id) :
      Move S v t none (v.become t (.cancelling id .cas next))
  | casHit {id : UInt64} {next : Role} (role : v.role t = .cancelling id .cas next)
      (acquired : v.state (idSlot id) = layoutRespAcquired) :
      Move S v t (some (.cancel id)) (((v.setState (idSlot id) layoutRespFree none).note
        (.ended id)).become t (.cancelling id .owner next))
  | casMiss {id : UInt64} {next : Role} (role : v.role t = .cancelling id .cas next)
      (other : v.state (idSlot id) ≠ layoutRespAcquired) :
      Move S v t none (v.become t next)
  | cancelOwner {id : UInt64} {next : Role} (role : v.role t = .cancelling id .owner next) :
      Move S v t (some (.clearOwner id))
        ((v.setOwner (idSlot id) 0).become t (.cancelling id .bump next))
  | cancelBump {id : UInt64} {next : Role} (role : v.role t = .cancelling id .bump next) :
      Move S v t (some (.bump id)) ((v.bump (idSlot id)).become t next)
  | drainMiss {id : UInt64} (role : v.role t = .leaving id)
      (miss : idSlot id ≥ S.shm.respSlots ∨ v.gen (idSlot id) ≠ idGen id) :
      Move S v t none (v.become t .idle)
  | drainHit {id : UInt64} (role : v.role t = .leaving id)
      (gen : v.gen (idSlot id) = idGen id) :
      Move S v t none (v.become t (.draining id))
  | drainFree {id : UInt64} (role : v.role t = .draining id)
      (ready : v.state (idSlot id) = layoutRespReady) :
      Move S v t (some (.drain id)) (v.become t (.releasing id .owner .idle))
  | drainEnd {id : UInt64} (role : v.role t = .draining id)
      (other : v.state (idSlot id) ≠ layoutRespReady) :
      Move S v t none (v.become t .idle)
  | recv {id : UInt64} {rest : List UInt64} (role : v.role t = .idle)
      (queued : v.pending = id :: rest) :
      Move S v t none ({ v with pending := rest }.become t (.serving id))
  | fail {id : UInt64} (role : v.role t = .serving id) :
      Move S v t none (v.become t (.cancelling id .gen .idle))
  | reply {id : UInt64} {response : List UInt8} (role : v.role t = .serving id)
      (fits : response.length ≤ S.shm.respDataMax.toNat) :
      Move S v t none ((v.note (.wrote id response)).become t (.writing id response .state))
  | refuse {id : UInt64} {response : List UInt8} (role : v.role t = .serving id) :
      Move S v t none ((v.note (.wrote id response)).become t .idle)
  | writeState {id : UInt64} {response : List UInt8}
      (role : v.role t = .writing id response .state)
      (acquired : v.state (idSlot id) = layoutRespAcquired) :
      Move S v t none (v.become t (.writing id response .gen))
  | writeGen {id : UInt64} {response : List UInt8} (role : v.role t = .writing id response .gen)
      (gen : v.gen (idSlot id) = idGen id) :
      Move S v t none (v.become t (.writeNext id response 0))
  | writeStop {id : UInt64} {response : List UInt8} {p : Writing}
      (role : v.role t = .writing id response p) : Move S v t none (v.become t .idle)
  | writeByte {id : UInt64} {response : List UInt8} {k : Nat}
      (role : v.role t = .writing id response (.copy k)) :
      Move S v t (some (.fill id)) ({ v with
        data := Function.update v.data (idSlot id)
          (Function.update (v.data (idSlot id)) k (response.getD k 0)) }.become t
        (.writeNext id response (k + 1)))
  | writeLen {id : UInt64} {response : List UInt8} (role : v.role t = .writing id response .len) :
      Move S v t (some (.fill id)) ({ v with
        len := Function.update v.len (idSlot id) (UInt32.ofNat response.length) }.become t
        (.writing id response .cas))
  | publish {id : UInt64} {response : List UInt8} (role : v.role t = .writing id response .cas)
      (acquired : v.state (idSlot id) = layoutRespAcquired) :
      Move S v t (some (.publish id)) ({ v with
        state := Function.update v.state (idSlot id) layoutRespReady }.become t .idle)

/-- What a step of the machine does to the view. Goroutines of dead processes do
not move. -/
inductive View.Step {n : Nat} (S : Setup n) (v : View n) : Option Label → View n → Prop where
  | stutter : View.Step S v none v
  | move {t : Fin n} {label : Option Label} {v' : View n} (live : v.dead (S.pid t) = false)
      (move : Move S v t label v') : View.Step S v label v'
  | die (pid : UInt32) :
      View.Step S v (some (.die pid)) { v with dead := Function.update v.dead pid true }

end ReqRep
