import ReqRep.Machine.Route
import ReqRep.Machine.Survive

/-!
# Every answer is for the request that was asked

Two histories beside a configuration, which no step reads: what `sendLocked` has
queued and what `recvLocked` has returned, request by request. While no process
dies, ids do not wrap, and the checks of every party hold when it acts on them,
the handler whose response a `Query` returns was given the bytes of that `Query`.
-/

namespace ReqRep

/-- A configuration, the requests that have been queued and those that have been received,
oldest first. -/
structure Post (n : Nat) where
  cfg : Cfg n
  sent : List Delivery
  received : List Delivery

variable {n : Nat} {S : Setup n} {g₀ : UInt32 → UInt32} {v v' : View n} {c c' : Cfg n}
  {P P' : Post n} {t : Fin n} {label : Option Label}

/-- What the next operation of a goroutine queues. -/
def Cfg.sends (S : Setup n) (c : Cfg n) (t : Fin n) : List Delivery :=
  match (c.thr t).pc with
  | .send _ id =>
    match (sendLocked S.shm (c.thr t).req (idSlot id) (idGen id)).run c.mem with
    | some (true, _) => [((c.thr t).req, id)]
    | _ => []
  | _ => []

/-- What the next operation of a goroutine takes from the queue. -/
def Cfg.receives (S : Setup n) (c : Cfg n) (t : Fin n) : List Delivery :=
  match (c.thr t).pc with
  | .recvTry _ =>
    match (recvLocked S.shm).run c.mem with
    | some (some got, _) => [got]
    | _ => []
  | _ => []

namespace Post

/-- A step of the machine, with what it queues and receives. -/
def step (S : Setup n) (P : Post n) (act : Act n) : Option (Post n) :=
  (P.cfg.step S act).map fun c' =>
    match act with
    | .run t _ => ⟨c', P.sent ++ P.cfg.sends S t, P.received ++ P.cfg.receives S t⟩
    | _ => ⟨c', P.sent, P.received⟩

/-- The post after some acts, oldest first. -/
def steps (S : Setup n) (P : Post n) (acts : List (Act n)) : Option (Post n) :=
  Runs.run (step S) P acts

/-- Nothing has been queued or received. -/
def start (c : Cfg n) : Post n := ⟨c, [], []⟩

theorem map_step (S : Setup n) (P : Post n) (act : Act n) :
    (P.step S act).map Post.cfg = P.cfg.step S act := by
  rw [step, Option.map_map]
  cases act <;> exact Option.map_id'

theorem step_eq {act : Act n} (stepped : P.step S act = some P') :
    P.cfg.step S act = some P'.cfg := by
  rw [← map_step, stepped]
  rfl

theorem steps_eq {acts : List (Act n)} (ran : P.steps S acts = some P') :
    P.cfg.steps S acts = some P'.cfg := by
  have mapped : (P.steps S acts).map Post.cfg = P.cfg.steps S acts :=
    Runs.run_map Post.cfg (map_step S) P acts
  rw [← mapped, ran]
  rfl

end Post

/-! ## What a move does to the ids that a goroutine goes by -/

/-- The id whose answer a goroutine waits for or has. -/
def Role.asks : Role → Option UInt64
  | .waiting id | .sawReady id | .reading id _ | .answering id _ => some id
  | .releasing _ _ next | .cancelling _ _ next => next.asks
  | _ => none

/-- Who asks under an id has asked before, or queues its request now. -/
theorem Move.asks_cases (move : Move S v t label v') {id : UInt64}
    (asks : (v'.role t).asks = some id) :
    (v.role t).asks = some id ∨ v.role t = .unsent id ∧ v'.pending = v.pending ++ [id] := by
  cases move with
  | @send id' role =>
    rw [View.become_role] at asks
    split at asks
    · obtain rfl := Option.some.inj asks
      exact .inr ⟨role, rfl⟩
    · cases asks
  | look role | readLong role | releaseOwner role | releaseState role | cancelHit role
  | casHit role | cancelMiss role | casMiss role | cancelOwner role | cancelBump role =>
    rw [View.become_role] at asks
    rw [role]
    first
      | exact .inl asks
      | cases asks
  | readLen role | readByte role =>
    rw [View.become_role, Role.readNext] at asks
    rw [role]
    split at asks <;> exact .inl asks
  | read role =>
    rw [View.become_role] at asks
    rcases role with ⟨role, -⟩ | ⟨role, -⟩ <;> rw [role] <;> exact .inl asks
  | _ =>
    rw [View.become_role] at asks
    cases asks

/-- An id that a goroutine has not sent yet is one that it had, or is new. -/
theorem Move.unsent_cases (ids : Ids S g₀ v) (few : v'.Few) (move : Move S v t label v')
    {id : UInt64} (unsent : v'.role t = .unsent id) :
    v.role t = .unsent id ∨ ¬ v.Issued id := by
  have roles := ids.roles t
  cases move with
  | inc role last =>
    rw [View.become_role] at unsent
    cases unsent
    exact .inr (ids.not_issued few role last (Function.update_self ..))
  | hint role =>
    rw [View.become_role] at unsent
    cases unsent
    exact .inl role
  | releaseState role =>
    rw [role] at roles
    rw [View.become_role] at unsent
    rcases roles.2 with rfl | ⟨bytes, rfl⟩ | rfl <;> cases unsent
  | cancelMiss role | casMiss role | cancelBump role =>
    rw [role] at roles
    rw [View.become_role] at unsent
    rcases roles.2 with rfl | ⟨rfl, -⟩ <;> cases unsent
  | send role =>
    rw [View.become_role] at unsent
    split at unsent <;> cases unsent
  | readLen role | readByte role =>
    rw [View.become_role, Role.readNext] at unsent
    split at unsent <;> cases unsent
  | _ =>
    rw [View.become_role] at unsent
    cases unsent

/-- A response is written by a server of its id. -/
theorem Move.wrote_cases (move : Move S v t label v') {id : UInt64} {response : List UInt8}
    (wrote : .wrote id response ∈ v'.log) :
    .wrote id response ∈ v.log ∨ (v.role t).serves = some id := by
  cases move with
  | reply role | refuse role =>
    rcases List.mem_cons.mp wrote with same | old
    · cases same
      rw [role]
      exact .inr rfl
    · exact .inl old
  | inc | releaseOwner | answer | casHit =>
    rcases List.mem_cons.mp wrote with same | old
    · cases same
    · exact .inl old
  | _ => exact .inl wrote

/-! ## What an operation does to them -/

/-- A goroutine keeps its request while it runs. -/
theorem run_req {ans : Answer n} (ran : c.run S t ans = some c') (u : Fin n) :
    (c'.thr u).req = (c.thr u).req := by
  obtain ⟨c₀, pc, rfl, before⟩ := run_goto ran
  have kept : (c₀.thr u).req = (c.thr u).req := by
    rcases before with same | ⟨l, k, woke⟩
    · rw [same]
    · rcases thr_futexWake (t := u) woke with same | ⟨-, awake⟩
      · rw [same]
      · rw [awake]
  by_cases own : u = t
  · subst own
    rw [goto_thr_self]
    exact kept
  · rw [show (c₀.goto t pc).thr u = c₀.thr u from Function.update_of_ne own _ _]
    exact kept

/-- How the view moves on in an operation of `t`. -/
structure Onward (c : Cfg n) (t : Fin n) (c' : Cfg n) : Prop where
  asks : ∀ u id, (c'.view.role u).asks = some id → (c.view.role u).asks = some id ∨
    u = t ∧ c.view.role t = .unsent id ∧ c'.pending = c.pending ++ [id]
  unsent : ∀ u id, c'.view.role u = .unsent id → c.view.role u = .unsent id ∨ ¬ c.view.Issued id
  serves : ∀ u id, (c'.view.role u).serves = some id → (c.view.role u).serves = some id ∨
    ∃ rest, c.pending = id :: rest ∧ c'.pending = rest
  wrote : ∀ id response, .wrote id response ∈ c'.log → .wrote id response ∈ c.log ∨
    ∃ u, (c.view.role u).serves = some id
  issued : ∀ id, c.view.Issued id → c'.view.Issued id

theorem Onward.of_view (same : c'.view = c.view) : Onward c t c' where
  asks u id asks := .inl (by rwa [same] at asks)
  unsent u id unsent := .inl (by rwa [same] at unsent)
  serves u id serves := .inl (by rwa [same] at serves)
  wrote id response wrote := by
    have logs : c'.log = c.log := congrArg View.log same
    rw [logs] at wrote
    exact .inl wrote
  issued id issued := by rwa [same]

/-- What a move does to those who ask and serve. -/
theorem Onward.of_move (ids : Ids S g₀ c.view) (few : c'.view.Few)
    (move : Move S c.view t label c'.view) : Onward c t c' where
  asks u id asks := by
    by_cases own : u = t
    · subst own
      exact (move.asks_cases asks).imp_right fun sent => ⟨rfl, sent⟩
    · rw [move.role_of_ne own] at asks
      exact .inl asks
  unsent u id unsent := by
    by_cases own : u = t
    · subst own
      exact move.unsent_cases ids few unsent
    · rw [move.role_of_ne own] at unsent
      exact .inl unsent
  serves u id serves := by
    by_cases own : u = t
    · subst own
      exact Tokens.serves_of_move ids move serves
    · rw [move.role_of_ne own] at serves
      exact .inl serves
  wrote id response wrote := (move.wrote_cases wrote).imp_right fun serves => ⟨t, serves⟩
  issued id issued := issued.mono move.log_subset

/-- What an operation does to the queue, and to the histories. -/
inductive Carries (S : Setup n) (c : Cfg n) (t : Fin n) (q : List Request) (c' : Cfg n) : Prop where
  | neither (sends : c.sends S t = []) (receives : c.receives S t = [])
      (queue : Represents S.shm c'.mem q) (same : c'.pending = c.pending)
  | sends (id : UInt64) (role : c.view.role t = .unsent id)
      (sends : c.sends S t = [((c.thr t).req, id)]) (receives : c.receives S t = [])
      (queue : Represents S.shm c'.mem (q ++ [⟨(c.thr t).req, idSlot id, idGen id⟩]))
      (more : c'.pending = c.pending ++ [id]) (done : ∀ id', c'.view.role t ≠ .unsent id')
  | receives (r : Request) (rest : List Request) (first : q = r :: rest)
      (sends : c.sends S t = []) (receives : c.receives S t = [r.delivery])
      (queue : Represents S.shm c'.mem rest) (less : c.pending = r.id :: c'.pending)

/-- What a step does to the queue is what it adds to the histories. -/
theorem carries_of_run (queueOk : S.shm.QueueOk) (base : Base S c) {ans : Answer n}
    {q : List Request} (queue : Represents S.shm c.mem q) (ids : q.map Request.id = c.pending)
    (ran : c.run S t ans = some c') : Carries S c t q c' := by
  cases here : (c.thr t).pc with
  | send a id =>
    have busy : (c.thr t).pc ≠ .idle := by
      rw [here]
      rintro ⟨⟩
    have short := base.short t busy
    obtain ⟨sent, ws, run, outcome⟩ :=
      sendLocked_run (r := ⟨(c.thr t).req, idSlot id, idGen id⟩) short (base.bounded_at here)
        ⟨c.mem, []⟩ queue.wpos_bound
    have run : (sendLocked S.shm (c.thr t).req (idSlot id) (idGen id)).run c.mem =
        some (sent, World.extend ⟨c.mem, []⟩ ws) := run
    have receives : c.receives S t = [] := by
      simp only [Cfg.receives, here]
    simp only [Cfg.run, here, run] at ran
    rcases send_represents queueOk queue short outcome with ⟨rfl, after⟩ | ⟨rfl, -, after⟩
    · cases ran
      refine .neither ?_ receives after rfl
      simp only [Cfg.sends, here, run]
    · cases ran
      refine .sends id ?_ ?_ receives after rfl fun id' unsent => ?_
      · show (c.thr t).pc.role = _
        rw [here]
        rfl
      · simp only [Cfg.sends, here, run]
      · simp only [Cfg.view, goto_thr_self, Pc.role] at unsent
        unfold Pc.sent at unsent
        split at unsent
        · cases unsent
        · cases a <;> cases unsent
  | recvTry a =>
    have sends : c.sends S t = [] := by
      simp only [Cfg.sends, here]
    cases q with
    | nil =>
      have run : (recvLocked S.shm).run c.mem = _ := recv_run_nil (w := ⟨c.mem, []⟩) queue
      simp only [Cfg.run, here, run] at ran
      cases ran
      refine .neither sends ?_ ?_ rfl
      · simp only [Cfg.receives, here, run]
      · exact queue.foreign (w := .w32 .hdrStatRecvEmpty _) ⟨by decide, by decide, fun _ h => h⟩
    | cons r q =>
      have run : (recvLocked S.shm).run c.mem = _ := recv_run_cons (w := ⟨c.mem, []⟩) queue
      have leaves := (recv_along queue).final trivial
      unfold RecvLeaves at leaves
      rw [if_neg (by simp [recvWrites, Mem.writeAll_append])] at leaves
      have same : r.delivery = (r.data, r.id) := rfl
      rw [same] at run
      simp only [Cfg.run, here, run] at ran
      cases ran
      refine .receives r q rfl sends ?_ leaves ?_
      · simp only [Cfg.receives, here, run]
        rfl
      · show c.pending = r.id :: c.pending.tail
        rw [← ids]
        rfl
  | _ =>
    have outside : Fine.body S.shm (c.thr t) = none := by
      simp only [Fine.body, here]
    obtain ⟨ws, others, blind⟩ := run_blind outside ran
    have mem : c'.mem = c.mem.writeAll ws := by
      have there := blind c.mem (.refl _)
      rw [show c.withMem c.mem = c from rfl, ran] at there
      exact congrArg Cfg.mem (Option.some.inj there)
    refine .neither ?_ ?_ ?_ (run_pending outside ran)
    · simp only [Cfg.sends, here]
    · simp only [Cfg.receives, here]
    · rw [mem]
      exact Fine.represents_elsewhere queue others

/-- What happens to a goroutine from outside leaves roles and requests alone. -/
theorem roles_of_step {act : Act n} (outside : ∀ t ans, act ≠ .run t ans)
    (stepped : c.step S act = some c') :
    (∀ u, c'.view.role u = c.view.role u ∧
      ((c.view.role u).asks = none ∨ (c'.thr u).req = (c.thr u).req)) ∧ c'.log = c.log := by
  have update : ∀ {t : Fin n} {th : Thread}, th.pc.role = (c.thr t).pc.role →
      ((c.thr t).pc.role.asks = none ∨ th.req = (c.thr t).req) → ∀ u,
      (Function.update c.thr t th u).pc.role = (c.thr u).pc.role ∧
        ((c.thr u).pc.role.asks = none ∨ (Function.update c.thr t th u).req = (c.thr u).req) := by
    intro t th role req u
    by_cases own : u = t
    · subst own
      rw [Function.update_self]
      exact ⟨role, req⟩
    · rw [Function.update_of_ne own]
      exact ⟨rfl, .inr rfl⟩
  unfold Cfg.step at stepped
  split at stepped
  · cases stepped
  cases act with
  | run t ans => exact absurd rfl (outside t ans)
  | query t req =>
    dsimp only at stepped
    split at stepped <;> cases stepped
    next idle =>
    refine ⟨update ?_ (.inl ?_), rfl⟩
    · rw [idle]
      dsimp only
      split <;> rfl
    · rw [idle]
      rfl
  | serve t =>
    dsimp only at stepped
    split at stepped <;> cases stepped
    next idle =>
    refine ⟨update ?_ (.inl ?_), rfl⟩
    · rw [idle]
      rfl
    · rw [idle]
      rfl
  | cancelCtx t | deadline t =>
    cases stepped
    exact ⟨update rfl (.inr rfl), rfl⟩
  | wakeup t =>
    dsimp only at stepped
    split at stepped <;> cases stepped
    exact ⟨update (role_awake _) (.inr rfl), rfl⟩
  | die pid =>
    cases stepped
    exact ⟨fun u => ⟨rfl, .inr rfl⟩, rfl⟩

/-! ## The invariant -/

/-- The queue holds what was sent and not yet received, each id is sent once, by the
`Query` that has it, and whoever serves an id has received it. -/
structure Couriered (S : Setup n) (P : Post n) : Prop where
  queue : ∃ q, Represents S.shm P.cfg.mem q ∧ q.map Request.id = P.cfg.pending ∧
    P.sent = P.received ++ q.map Request.delivery
  distinct : (P.sent.map Prod.snd).Nodup
  issued : ∀ id ∈ P.sent.map Prod.snd, P.cfg.view.Issued id
  unsent : ∀ t id, P.cfg.view.role t = .unsent id → id ∉ P.sent.map Prod.snd
  asked : ∀ t id, (P.cfg.view.role t).asks = some id → ((P.cfg.thr t).req, id) ∈ P.sent
  served : ∀ t id, (P.cfg.view.role t).serves = some id → id ∈ P.received.map Prod.snd
  wrote : ∀ id response, .wrote id response ∈ P.cfg.log → id ∈ P.received.map Prod.snd

/-- No two deliveries have one id: those under the id of `x` are `x`. -/
theorem filter_eq_singleton {α β : Type} [DecidableEq β] {l : List (α × β)} {x : α × β}
    (distinct : (l.map Prod.snd).Nodup) (member : x ∈ l) :
    (l.filter fun y => y.2 = x.2) = [x] := by
  induction l with
  | nil => cases member
  | cons y l ih =>
    obtain ⟨fresh, distinct⟩ := List.nodup_cons.mp distinct
    rcases List.mem_cons.mp member with rfl | later
    · have none : (l.filter fun y => y.2 = x.2) = [] := by
        rw [List.filter_eq_nil_iff]
        intro z there same
        exact fresh (List.mem_map.mpr ⟨z, there, of_decide_eq_true same⟩)
      rw [List.filter_cons_of_pos (by simp), none]
    · have other : y.2 ≠ x.2 := fun same =>
        fresh (same ▸ List.mem_map.mpr ⟨x, later, rfl⟩)
      rw [List.filter_cons_of_neg (by simpa using other), ih distinct later]

namespace Couriered

theorem start (start : Start S c) : Couriered S (Post.start c) where
  queue := ⟨[], start.queue, start.pending.symm, rfl⟩
  distinct := List.nodup_nil
  issued id member := by cases member
  unsent t id _ member := by cases member
  asked t id asks := by
    rw [show (Post.start c).cfg.view.role t = .idle from start.role t] at asks
    cases asks
  served t id serves := by
    rw [show (Post.start c).cfg.view.role t = .idle from start.role t] at serves
    cases serves
  wrote id response wrote := by
    rw [show (Post.start c).cfg.log = [] from start.log] at wrote
    cases wrote

/-- An id of which nothing was known is not one that was sent. -/
theorem unsent_kept (inv : Couriered S P) (onward : Onward P.cfg t c') {u : Fin n} {id : UInt64}
    (unsent : c'.view.role u = .unsent id) : id ∉ P.sent.map Prod.snd := by
  rcases onward.unsent u id unsent with before | new
  · exact inv.unsent u id before
  · exact fun member => new (inv.issued id member)

/-- Where nothing is queued, nobody comes to ask. -/
theorem asked_kept (inv : Couriered S P) (onward : Onward P.cfg t c')
    (req : ∀ u, (c'.thr u).req = (P.cfg.thr u).req)
    (fewer : c'.pending.length ≤ P.cfg.pending.length) {u : Fin n} {id : UInt64}
    (asks : (c'.view.role u).asks = some id) : ((c'.thr u).req, id) ∈ P.sent := by
  rcases onward.asks u id asks with before | ⟨-, -, more⟩
  · rw [req]
    exact inv.asked u id before
  · rw [more, List.length_append, List.length_singleton] at fewer
    omega

/-- Where nothing is taken, nobody comes to serve. -/
theorem served_kept (inv : Couriered S P) (onward : Onward P.cfg t c')
    (more : P.cfg.pending.length ≤ c'.pending.length) {u : Fin n} {id : UInt64}
    (serves : (c'.view.role u).serves = some id) : id ∈ P.received.map Prod.snd := by
  rcases onward.serves u id serves with before | ⟨rest, first, rfl⟩
  · exact inv.served u id before
  · rw [first, List.length_cons] at more
    omega

/-- A response that was written is for a request that was received. -/
theorem wrote_kept (inv : Couriered S P) (onward : Onward P.cfg t c') {id : UInt64}
    {response : List UInt8} (wrote : .wrote id response ∈ c'.log) :
    id ∈ P.received.map Prod.snd := by
  rcases onward.wrote id response wrote with before | ⟨u, serves⟩
  · exact inv.wrote id response before
  · exact inv.served u id serves

/-- An operation. -/
theorem run (queueOk : S.shm.QueueOk) (inv : Couriered S P) (base : Base S P.cfg)
    (ids : Ids S g₀ P.cfg.view) (holders : Holders g₀ P.cfg.view) {ans : Answer n}
    (few : c'.view.Few) (ran : P.cfg.run S t ans = some c') :
    Couriered S ⟨c', P.sent ++ P.cfg.sends S t, P.received ++ P.cfg.receives S t⟩ := by
  have onward : Onward P.cfg t c' := by
    rcases (run_simulated queueOk base ran).move with ⟨-, same⟩ | move
    · exact .of_view same
    · exact .of_move ids few move
  have req := run_req ran
  obtain ⟨q, queue, queued, split⟩ := inv.queue
  cases carries_of_run queueOk base queue queued ran with
  | neither sends receives queue' same =>
    have equal : c'.pending.length = P.cfg.pending.length := congrArg List.length same
    rw [sends, receives, List.append_nil, List.append_nil]
    exact ⟨⟨q, queue', queued.trans same.symm, split⟩, inv.distinct,
      fun id member => onward.issued id (inv.issued id member),
      fun _ _ unsent => inv.unsent_kept onward unsent,
      fun _ _ asks => inv.asked_kept onward req equal.le asks,
      fun _ _ serves => inv.served_kept onward equal.ge serves,
      fun _ _ wrote => inv.wrote_kept onward wrote⟩
  | sends id role sends receives queue' more done =>
    have secret := holders.roles t
    rw [role] at secret
    have given : P.cfg.view.Issued id := ids.issued_of_role (by rw [role]; rfl)
    rw [sends, receives, List.append_nil]
    refine ⟨⟨_, queue', ?_, ?_⟩, ?_, fun id' member => ?_, fun u id' unsent => ?_,
      fun u id' asks => ?_, fun u id' serves => ?_, fun id' response wrote => ?_⟩
    · rw [List.map_append, queued, more]
      simp [Request.id, packId_idGen_idSlot]
    · rw [split, List.map_append, List.append_assoc]
      simp [Request.delivery, Request.id, packId_idGen_idSlot]
    · rw [List.map_append]
      refine List.Nodup.append inv.distinct (List.nodup_singleton id) ?_
      exact List.disjoint_singleton.mpr (inv.unsent t id role)
    · rw [List.map_append] at member
      rcases List.mem_append.mp member with old | new
      · exact onward.issued id' (inv.issued id' old)
      · obtain rfl := List.mem_singleton.mp new
        exact onward.issued _ given
    · rw [List.map_append]
      intro member
      rcases List.mem_append.mp member with old | new
      · exact inv.unsent_kept onward unsent old
      · obtain rfl := List.mem_singleton.mp new
        by_cases own : u = t
        · subst own
          exact done _ unsent
        · rcases onward.unsent u _ unsent with before | fresh
          · exact secret.2 u own (by rw [before]; rfl)
          · exact fresh given
    · show ((c'.thr u).req, id') ∈ P.sent ++ [((P.cfg.thr t).req, id)]
      rw [req]
      rcases onward.asks u id' asks with before | ⟨rfl, unsent, -⟩
      · exact List.mem_append_left _ (inv.asked u id' before)
      · rw [role] at unsent
        cases unsent
        exact List.mem_append_right _ List.mem_cons_self
    · refine inv.served_kept onward ?_ serves
      rw [more, List.length_append]
      omega
    · exact inv.wrote_kept onward wrote
  | receives r rest first sends receives queue' less =>
    subst first
    have member : ∀ id, id ∈ P.received.map Prod.snd →
        id ∈ (P.received ++ [r.delivery]).map Prod.snd := fun id old => by
      rw [List.map_append]
      exact List.mem_append_left _ old
    rw [sends, receives, List.append_nil]
    refine ⟨⟨rest, queue', ?_, ?_⟩, inv.distinct,
      fun id member => onward.issued id (inv.issued id member), fun u id unsent => ?_,
      fun u id asks => ?_, fun u id serves => ?_, fun id response wrote => ?_⟩
    · rw [less, List.map_cons] at queued
      exact (List.cons.inj queued).2
    · rw [split, List.append_assoc]
      rfl
    · exact inv.unsent_kept onward unsent
    · refine inv.asked_kept onward req ?_ asks
      rw [less, List.length_cons]
      omega
    · rcases onward.serves u id serves with before | ⟨rest', first, rfl⟩
      · exact member id (inv.served u id before)
      · rw [less] at first
        obtain ⟨rfl, -⟩ := List.cons.inj first
        rw [List.map_append]
        exact List.mem_append_right _ List.mem_cons_self
    · exact member id (inv.wrote_kept onward wrote)

/-- What happens to a goroutine from outside. -/
theorem happen (inv : Couriered S P) {act : Act n} (outside : ∀ t ans, act ≠ .run t ans)
    (stepped : P.cfg.step S act = some c') : Couriered S ⟨c', P.sent, P.received⟩ := by
  obtain ⟨mem, pending, -⟩ := step_withMem outside stepped
  obtain ⟨roles, log⟩ := roles_of_step outside stepped
  have role : ∀ u, c'.view.role u = P.cfg.view.role u := fun u => (roles u).1
  obtain ⟨q, queue, queued, split⟩ := inv.queue
  refine ⟨⟨q, ?_, queued.trans pending.symm, split⟩, inv.distinct, fun id member => ?_,
    fun u id unsent => ?_, fun u id asks => ?_, fun u id serves => ?_, fun id response wrote => ?_⟩
  · show Represents S.shm c'.mem q
    rwa [mem]
  · obtain ⟨t, acquired⟩ := inv.issued id member
    exact ⟨t, show _ ∈ c'.log from log ▸ acquired⟩
  · rw [role] at unsent
    exact inv.unsent u id unsent
  · rw [role] at asks
    have asked := inv.asked u id asks
    rcases (roles u).2 with none | same
    · rw [none] at asks
      cases asks
    · show ((c'.thr u).req, id) ∈ P.sent
      rwa [same]
  · rw [role] at serves
    exact inv.served u id serves
  · rw [show c'.log = P.cfg.log from log] at wrote
    exact inv.wrote id response wrote

/-- A step keeps the histories and the queue in accord. -/
theorem step (queueOk : S.shm.QueueOk) (inv : Couriered S P) (base : Base S P.cfg)
    (ids : Ids S g₀ P.cfg.view) (holders : Holders g₀ P.cfg.view) {act : Act n}
    (few : P'.cfg.view.Few) (stepped : P.step S act = some P') : Couriered S P' := by
  obtain ⟨c', moved, rfl⟩ := Option.map_eq_some_iff.mp stepped
  cases act with
  | run t ans => exact inv.run queueOk base ids holders few (step_run moved).2
  | query t req | serve t | cancelCtx t | deadline t | wakeup t | die pid =>
    exact inv.happen (by rintro t ans ⟨⟩) moved

/-- Who has an answer has the answer to its own request: of what has been received, the
one delivery under its id. -/
theorem answer (inv : Couriered S P) (routed : Routed S P.cfg.view) {t : Fin n} {id : UInt64}
    {bytes : List UInt8} (answers : (P.cfg.thr t).pc = .answer id bytes) :
    (P.received.filter fun d => d.2 = id) = [((P.cfg.thr t).req, id)] ∧
      .wrote id bytes ∈ P.cfg.log := by
  have role : P.cfg.view.role t = .answering id bytes := by
    show (P.cfg.thr t).pc.role = _
    rw [answers]
    rfl
  have wrote : .wrote id bytes ∈ P.cfg.log := by
    have roles := routed.roles t
    rwa [role] at roles
  have asked := inv.asked t id (by rw [role]; rfl)
  obtain ⟨q, -, -, split⟩ := inv.queue
  have distinct : (P.received.map Prod.snd).Nodup := by
    have distinct := inv.distinct
    rw [split, List.map_append] at distinct
    exact distinct.of_append_left
  obtain ⟨⟨data, id'⟩, got, same⟩ := List.mem_map.mp (inv.wrote id bytes wrote)
  obtain rfl : id' = id := same
  have sent : (data, id') ∈ P.sent := by
    rw [split]
    exact List.mem_append_left _ got
  have own : data = (P.cfg.thr t).req :=
    congrArg Prod.fst (List.inj_on_of_nodup_map inv.distinct sent asked rfl)
  subst own
  exact ⟨filter_eq_singleton distinct got, wrote⟩

end Couriered

/-! ## Any run -/

/-- What a run with its histories keeps, while no process dies and ids do not wrap. -/
structure Delivers (S : Setup n) (g₀ : UInt32 → UInt32) (P : Post n) : Prop where
  ids : Ids S g₀ P.cfg.view
  holders : Holders g₀ P.cfg.view
  tokens : Tokens P.cfg.view
  routed : Routed S P.cfg.view
  couriered : Couriered S P

theorem view_kept (ids : Ids S g₀ v) (holders : Holders g₀ v) (tokens : Tokens v)
    (routed : Routed S v) (healthy : v.Healthy) (healthy' : v'.Healthy) (step : v.Step S label v')
    (routable : ∀ l, label = some l → Routable v l) :
    Holders g₀ v' ∧ Tokens v' ∧ Routed S v' := by
  cases step with
  | stutter => exact ⟨holders, tokens, routed⟩
  | move live move =>
    have holders' := holders.step ids healthy healthy'.few move fun l same =>
      (routable l same).timely
    exact ⟨holders', tokens.step ids holders move,
      routed.step ids holders holders' tokens healthy'.few move routable⟩
  | die pid =>
    have dead := healthy'.alive pid
    simp at dead

namespace Delivers

theorem start (start : Start S c) : Delivers S c.gen (Post.start c) :=
  ⟨start.ids, start.holders, start.tokens, start.routed, .start start⟩

theorem step (queueOk : S.shm.QueueOk) (base : Base S P.cfg) (inv : Delivers S g₀ P)
    {act : Act n} (healthy : P.cfg.view.Healthy) (healthy' : P'.cfg.view.Healthy)
    (routable : Guarded S Routable P.cfg act) (stepped : P.step S act = some P') :
    Delivers S g₀ P' := by
  obtain ⟨-, step⟩ := step_simulated queueOk base (Post.step_eq stepped)
  obtain ⟨holders, tokens, routed⟩ := view_kept inv.ids inv.holders inv.tokens inv.routed healthy
    healthy' step fun l same => routable.label same
  exact ⟨inv.ids.step step healthy'.few, holders, tokens, routed,
    inv.couriered.step queueOk base inv.ids inv.holders healthy'.few stepped⟩

/-- Any run. -/
theorem run (queueOk : S.shm.QueueOk) (start : Start S c) {acts : List (Act n)}
    (ran : (Post.start c).steps S acts = some P)
    (routable : Runs.Always (Post.step S) (fun P => Guarded S Routable P.cfg) (Post.start c) acts)
    (healthy : P.cfg.view.Healthy) : Delivers S c.gen P := by
  refine (Runs.invariant (fun P => Base S P.cfg ∧ (P.cfg.view.Healthy → Delivers S c.gen P)) ?_ ran
    routable ⟨start.base, fun _ => .start start⟩).2 healthy
  rintro P act P' ⟨base, inv⟩ guarded stepped
  obtain ⟨base', step⟩ := step_simulated queueOk base (Post.step_eq stepped)
  refine ⟨base', fun healthy' => ?_⟩
  have healthy := step.healthy healthy'
  exact (inv healthy).step queueOk base healthy healthy' guarded stepped

end Delivers

/-- While no process dies, ids do not wrap, and the checks of every party hold when
it acts on them: when a `Query` is about to return some bytes, exactly one delivery
under its id was received, that of its own request, and the bytes are the response of
the handler that was given it. -/
theorem answers_are_for_their_requests (queueOk : S.shm.QueueOk) (start : Start S c)
    {acts : List (Act n)} (ran : (Post.start c).steps S acts = some P)
    (routable : Runs.Always (Post.step S) (fun P => Guarded S Routable P.cfg) (Post.start c) acts)
    (healthy : P.cfg.view.Healthy) {id : UInt64} {bytes : List UInt8}
    (answers : (P.cfg.thr t).pc = .answer id bytes) :
    (P.received.filter fun d => d.2 = id) = [((P.cfg.thr t).req, id)] ∧
      .wrote id bytes ∈ P.cfg.log := by
  have delivers := Delivers.run queueOk start ran routable healthy
  exact delivers.couriered.answer delivers.routed answers

/-- The first request is cancelled, and the second one about to be answered. -/
def laterRequest : List (Act 2) :=
  [[.query 0 [1]], go 0 8, [.serve 1], go 1 11, [.cancelCtx 0], go 0 3, [.query 0 [2]], go 0 8,
    [.serve 1], go 1 3, [.run 1 { reply := some [7, 8] }], go 1 9, go 0 10].flatten

theorem answers_are_for_their_requests_laterRequest :
    ∃ P, (Post.start (freshCfg 2)).steps (tinySetup 2) laterRequest = some P ∧
      P.received = [([1], packId 1 0), ([2], packId 3 0)] ∧
      (P.received.filter fun d => d.2 = packId 3 0) = [([2], packId 3 0)] ∧
      .wrote (packId 3 0) [7, 8] ∈ P.cfg.log := by
  have ends : ((Post.start (freshCfg 2)).steps (tinySetup 2) laterRequest).any (fun P =>
      decide (P.received = [([1], packId 1 0), ([2], packId 3 0)] ∧
        (P.cfg.thr 0).pc = .answer (packId 3 0) [7, 8] ∧ (P.cfg.thr 0).req = [2])) = true := by
    decide +kernel
  obtain ⟨P, ran, last⟩ := (Option.any_eq_true _ _).mp ends
  obtain ⟨seen, answers, asked⟩ := of_decide_eq_true last
  have healthy := (freshCfg_start 2).healthy (by decide) (Post.steps_eq ran) (by decide) (by decide)
  have routable : Runs.Always (Post.step (tinySetup 2))
      (fun P => Guarded (tinySetup 2) Routable P.cfg) (Post.start (freshCfg 2)) laterRequest := by
    decide +kernel
  obtain ⟨own, wrote⟩ :=
    answers_are_for_their_requests (by decide) (freshCfg_start 2) ran routable healthy answers
  rw [asked] at own
  exact ⟨P, ran, seen, own, wrote⟩

end ReqRep
