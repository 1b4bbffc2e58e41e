import ReqRep.Machine.Holder

/-!
# Responses reach their own request

A READY slot holds the response that `writeResponse` was given for the id of its
generation, and nobody writes there before the reader is done. The checks of
every party have to hold when it acts on them, and a late writer must not store
into a slot that is READY or that the writer of another request fills.
-/

namespace ReqRep

variable {n : Nat} {S : Setup n} {g₀ : UInt32 → UInt32} {v v' : View n} {t : Fin n}
  {label : Option Label}

/-- The id that a server has received and not done with. -/
def Role.serves : Role → Option UInt64
  | .serving id | .writing id .. => some id
  | _ => none

/-- The id whose slot `writeResponse` is filling, after its checks. -/
def Role.fills : Role → Option UInt64
  | .writing id _ (.copy _) | .writing id _ .len | .writing id _ .cas => some id
  | _ => none

/-- The checks still hold when a step acts on them, and a store of
`writeResponse` hits no READY slot, nor one that another request's writer fills
with good reason. -/
def Routable (v : View n) : Label → Prop
  | .cancel id | .read id | .drain id | .publish id => v.Current id
  | .fill id => v.state (idSlot id) ≠ layoutRespReady ∧
    ∀ t id', (v.role t).fills = some id' → idSlot id' = idSlot id → v.Current id' → id' = id
  | _ => True

instance (v : View n) (id : UInt64) :
    Decidable (∀ t id', (v.role t).fills = some id' → idSlot id' = idSlot id → v.Current id' →
      id' = id) :=
  -- not by trying every id
  have (t : Fin n) : Decidable (∀ id', (v.role t).fills = some id' → idSlot id' = idSlot id →
      v.Current id' → id' = id) :=
    match (v.role t).fills with
    | none => isTrue nofun
    | some id' => decidable_of_iff (idSlot id' = idSlot id → v.Current id' → id' = id) (by simp)
  inferInstance

instance (v : View n) : ∀ l, Decidable (Routable v l)
  | .cancel id | .read id | .drain id | .publish id => inferInstanceAs (Decidable (v.Current id))
  | .fill id => inferInstanceAs (Decidable (v.state (idSlot id) ≠ layoutRespReady ∧
      ∀ t id', (v.role t).fills = some id' → idSlot id' = idSlot id → v.Current id' → id' = id))
  | .take _ | .clearOwner _ | .bump _ | .condemn _ _ | .die _ => inferInstanceAs (Decidable True)

theorem Routable.timely {l : Label} (routable : Routable v l) : Timely v l := by
  cases l <;> first | exact routable | trivial

/-! ## Every request is received once -/

/-- Each queued or received id is in one place. -/
structure Tokens (v : View n) : Prop where
  distinct : v.pending.Nodup
  queued : ∀ t, ∀ id ∈ v.pending, (v.role t).serves ≠ some id
  once : ∀ t t' id, (v.role t).serves = some id → (v.role t').serves = some id → t = t'

theorem Role.id_of_serves {r : Role} {id : UInt64} (serves : r.serves = some id) :
    r.id = some id := by
  cases r <;> first | exact serves | cases serves

namespace Tokens

/-- A server goes on with its request, or has just received one. -/
theorem serves_of_move (ids : Ids S g₀ v) (move : Move S v t label v') {id : UInt64}
    (has : (v'.role t).serves = some id) :
    (v.role t).serves = some id ∨ ∃ rest, v.pending = id :: rest ∧ v'.pending = rest := by
  have roles := ids.roles t
  cases move with
  | @recv _ rest role first =>
    rw [View.become_role] at has
    obtain rfl := Option.some.inj has
    exact .inr ⟨rest, first, rfl⟩
  | reply role | writeState role | writeGen role | writeByte role | writeLen role =>
    rw [View.become_role] at has
    exact .inl ((congrArg Role.serves role).trans has)
  | releaseState role =>
    rw [role] at roles
    rw [View.become_role] at has
    rcases roles.2 with rfl | ⟨bytes, rfl⟩ | rfl <;> cases has
  | cancelMiss role | casMiss role | cancelBump role =>
    rw [role] at roles
    rw [View.become_role] at has
    rcases roles.2 with rfl | ⟨rfl, -⟩ <;> cases has
  | send role =>
    rw [View.become_role] at has
    split at has <;> cases has
  | readLen role | readByte role =>
    rw [View.become_role, Role.readNext] at has
    split at has <;> cases has
  | _ =>
    rw [View.become_role] at has
    cases has

/-- Only sending queues a request, one that nobody has yet. -/
theorem pending_cases (move : Move S v t label v') :
    v'.pending = v.pending ∨ (∃ id, v.pending = id :: v'.pending) ∨
      ∃ id, v.role t = .unsent id ∧ v'.pending = v.pending ++ [id] := by
  cases move with
  | send role => exact .inr (.inr ⟨_, role, rfl⟩)
  | recv role first => exact .inr (.inl ⟨_, first⟩)
  | _ => exact .inl rfl

theorem step (inv : Tokens v) (ids : Ids S g₀ v) (holders : Holders g₀ v)
    (move : Move S v t label v') : Tokens v' := by
  -- who serves an id in the new view served it before, or it was first in the queue
  have serves : ∀ {t' id}, (v'.role t').serves = some id → (v.role t').serves = some id ∨
      t' = t ∧ ∃ rest, v.pending = id :: rest ∧ v'.pending = rest := by
    intro t' id has
    by_cases same : t' = t
    · subst same
      exact (serves_of_move ids move has).imp_right fun first => ⟨rfl, first⟩
    · rw [move.role_of_ne same] at has
      exact .inl has
  have unserved : ∀ {id}, v.role t = .unsent id → ∀ t', (v.role t').serves ≠ some id := by
    intro id role t' has
    have secret := holders.roles t
    rw [role] at secret
    by_cases same : t' = t
    · subst same
      rw [role] at has
      cases has
    · exact secret.2 t' same (Role.id_of_serves has)
  refine ⟨?_, fun t' id queued has => ?_, fun t₁ t₂ id first second => ?_⟩
  · rcases pending_cases move with same | ⟨id, first⟩ | ⟨id, role, more⟩
    · rw [same]
      exact inv.distinct
    · have distinct := inv.distinct
      rw [first] at distinct
      exact (List.nodup_cons.mp distinct).2
    · have secret := holders.roles t
      rw [role] at secret
      rw [more]
      refine List.Nodup.append inv.distinct (List.nodup_singleton id) ?_
      exact List.disjoint_singleton.mpr secret.1
  · rcases serves has with before | ⟨-, rest, first, left⟩
    · rcases pending_cases move with same | ⟨id', first⟩ | ⟨id', role, more⟩
      · exact inv.queued t' id (same ▸ queued) before
      · exact inv.queued t' id (by rw [first]; exact List.mem_cons_of_mem _ queued) before
      · rw [more] at queued
        rcases List.mem_append.mp queued with old | new
        · exact inv.queued t' id old before
        · exact unserved role t' (List.mem_singleton.mp new ▸ before)
    · have distinct := inv.distinct
      rw [first] at distinct
      exact (List.nodup_cons.mp distinct).1 (left ▸ queued)
  · rcases serves first with before₁ | ⟨rfl, rest, head, -⟩
    · rcases serves second with before₂ | ⟨rfl, rest, head, -⟩
      · exact inv.once t₁ t₂ id before₁ before₂
      · exact absurd before₁ (inv.queued t₁ id (by rw [head]; exact List.mem_cons_self))
    · rcases serves second with before₂ | ⟨rfl, -⟩
      · exact absurd before₂ (inv.queued t₂ id (by rw [head]; exact List.mem_cons_self))
      · rfl

end Tokens

/-! ## What a slot holds -/

/-- How much of the response a writer has stored. -/
def View.Written (v : View n) (id : UInt64) (response : List UInt8) : Writing → Prop
  | .state | .gen => True
  | .copy k => ∀ j < k, v.data (idSlot id) j = response.getD j 0
  | .len => ∀ j < response.length, v.data (idSlot id) j = response.getD j 0
  | .cas => (∀ j < response.length, v.data (idSlot id) j = response.getD j 0) ∧
    v.len (idSlot id) = UInt32.ofNat response.length

/-- The slot holds a response that was written for the id. -/
def View.Response (S : Setup n) (v : View n) (id : UInt64) (response : List UInt8) : Prop :=
  .wrote id response ∈ v.log ∧ response.length ≤ S.shm.respDataMax.toNat ∧
    v.Written id response .cas

/-- What a role says about responses. -/
def View.RoleRouted (S : Setup n) (v : View n) : Role → Prop
  | .reading id .length => ∃ response, v.Response S id response
  | .reading id (.bytes length result) => ∃ response, v.Response S id response ∧
    length = response.length ∧ result.length < length ∧ result = response.take result.length
  | .releasing id _ (.answering _ bytes) | .answering id bytes => .wrote id bytes ∈ v.log
  | .writing id response p => .wrote id response ∈ v.log ∧
    response.length ≤ S.shm.respDataMax.toNat ∧
    (∀ k, p = .copy k → k < response.length) ∧ (v.Current id → v.Written id response p)
  | _ => True

/-- A READY slot holds the whole response to the id that it belongs to, and so do the
copies that clients have made of it. -/
structure Routed (S : Setup n) (v : View n) : Prop where
  window : ∀ i, v.InWindow i → v.state i ≠ layoutRespReady
  ready : ∀ id, v.Issued id → v.gen (idSlot id) = idGen id →
    v.state (idSlot id) = layoutRespReady → ∃ response, v.Response S id response
  roles : ∀ t, v.RoleRouted S (v.role t)
  answered : ∀ t id bytes, .answered t id bytes ∈ v.log →
    .acquired t id ∈ v.log ∧ .wrote id bytes ∈ v.log

namespace Routed

/-- An id that was given out does not become current again. -/
theorem current_of_move (ids : Ids S g₀ v) (few : v'.Few) (move : Move S v t label v') {id : UInt64}
    (issued : v.Issued id) (current : v'.Current id) : v.Current id := by
  obtain ⟨taken, gen, settled⟩ := current
  have counted : ¬ (v'.gen (idSlot id) = v.gen (idSlot id) + 1 ∧
      v'.bumps (idSlot id) = v.bumps (idSlot id) + 1) := by
    rintro ⟨next, bumps⟩
    exact ids.gen_succ_ne (bumps ▸ few (idSlot id)) issued (next ▸ gen)
  refine ⟨fun free => ?_, ?_, fun ⟨t', takes⟩ => ?_⟩
  · rcases move.state_cases (idSlot id) with same | freed | ⟨-, -, window⟩ | ⟨acquired, -⟩
    · exact taken (same.trans free)
    · exact taken freed
    · exact settled ⟨t, congrArg Role.takes window⟩
    · rw [free] at acquired
      exact absurd acquired (by decide)
  · exact ((move.gen_cases _).resolve_right counted).symm.trans gen
  · by_cases same : t' = t
    · subst same
      exact settled ⟨t', (move.takes_cases takes).resolve_right counted⟩
    · exact settled ⟨t', by rwa [move.role_of_ne same]⟩

/-- The response of a slot that nobody stores into. -/
theorem written_frame {id : UInt64} {response : List UInt8} {p : Writing}
    (len : v'.len (idSlot id) = v.len (idSlot id)) (data : v'.data (idSlot id) = v.data (idSlot id))
    (written : v.Written id response p) : v'.Written id response p := by
  cases p with
  | state | gen => trivial
  | copy k | len =>
    unfold View.Written
    rw [data]
    exact written
  | cas =>
    unfold View.Written
    rw [data, len]
    exact written

/-- The response in a READY slot is not overwritten. -/
theorem response_frame (move : Move S v t label v')
    (routable : ∀ l, label = some l → Routable v l) {id : UInt64} {response : List UInt8}
    (ready : v.state (idSlot id) = layoutRespReady) (there : v.Response S id response) :
    v'.Response S id response := by
  obtain ⟨wrote, fits, written⟩ := there
  refine ⟨move.log_subset wrote, fits, ?_⟩
  rcases move.fill_cases (idSlot id) with ⟨len, data⟩ | ⟨id', _, _, rfl, slot, -⟩
  · exact written_frame len data written
  · exact absurd (slot ▸ ready) (routable _ rfl).1

/-- A role stays good when another goroutine moves. -/
theorem role_frame (inv : Routed S v) (ids : Ids S g₀ v) (holders : Holders g₀ v)
    (tokens : Tokens v) (few : v'.Few) (move : Move S v t label v')
    (routable : ∀ l, label = some l → Routable v l) {t' : Fin n} (other : t' ≠ t) :
    v'.RoleRouted S (v.role t') := by
  have routed := inv.roles t'
  have holding := holders.roles t'
  cases role : v.role t' with
  | reading id p =>
    rw [role] at routed holding
    cases p with
    | length =>
      obtain ⟨response, there⟩ := routed
      exact ⟨response, response_frame move routable holding there⟩
    | bytes length result =>
      obtain ⟨response, there, rest⟩ := routed
      exact ⟨response, response_frame move routable holding there, rest⟩
  | releasing id p next =>
    rw [role] at routed
    cases next <;> first | exact move.log_subset routed | trivial
  | answering id bytes =>
    rw [role] at routed
    exact move.log_subset routed
  | writing id response p =>
    rw [role] at routed
    obtain ⟨wrote, fits, room, written⟩ := routed
    refine ⟨move.log_subset wrote, fits, room, fun current' => ?_⟩
    have current := current_of_move ids few move (ids.issued_of_role (congrArg Role.id role))
      current'
    rcases move.fill_cases (idSlot id) with ⟨len, data⟩ | ⟨id', response', p', rfl, slot, mover⟩
    · exact written_frame len data (written current)
    · -- another goroutine fills the slot: it would have the same id
      have same : (v.role t').fills = some id → id = id' := fun fills =>
        (routable _ rfl).2 t' id fills slot.symm current
      have clash : id ≠ id' := by
        rintro rfl
        exact other (tokens.once t' t id (congrArg Role.serves role) (congrArg Role.serves mover))
      cases p with
      | state | gen => trivial
      | copy k => exact absurd (same (congrArg Role.fills role)) clash
      | len => exact absurd (same (congrArg Role.fills role)) clash
      | cas => exact absurd (same (congrArg Role.fills role)) clash
  | _ => trivial

/-- A reader goes on with the next byte, or returns the whole response. -/
theorem readNext_routed {id : UInt64} {response result : List UInt8}
    (there : v.Response S id response) (done : result = response.take result.length) :
    v.RoleRouted S (.readNext id response.length result) := by
  unfold Role.readNext
  split
  · next more => exact ⟨response, there, rfl, more, done⟩
  · next all =>
    rw [List.take_of_length_le (Nat.le_of_not_lt all)] at done
    rw [done]
    exact there.1

/-- A writer goes on with the next byte, or with the length. -/
theorem writeNext_routed {id : UInt64} {response : List UInt8} {k : Nat}
    (wrote : .wrote id response ∈ v.log) (fits : response.length ≤ S.shm.respDataMax.toNat)
    (written : v.Current id → v.Written id response (.copy k)) :
    v.RoleRouted S (.writeNext id response k) := by
  unfold Role.writeNext
  split
  · next more =>
    refine ⟨wrote, fits, fun k' same => ?_, written⟩
    obtain rfl := Writing.copy.inj same
    exact more
  · next all =>
    exact ⟨wrote, fits, nofun, fun current j bound =>
      written current j (Nat.lt_of_lt_of_le bound (Nat.le_of_not_lt all))⟩

/-- A routable move leaves its goroutine with what its role says. -/
theorem role_of_move (inv : Routed S v) (ids : Ids S g₀ v) (few : v'.Few)
    (holders' : Holders g₀ v') (move : Move S v t label v')
    (routable : ∀ l, label = some l → Routable v l) :
    v'.RoleRouted S (v'.role t) := by
  have routed := inv.roles t
  have roles := ids.roles t
  have holding := holders'.roles t
  have before : ∀ {id}, (v.role t).id = some id → v'.Current id → v.Current id :=
    fun has => current_of_move ids few move (ids.issued_of_role has)
  cases move with
  | @read id role =>
    rw [View.become_role] at holding ⊢
    have current : v.Current id := routable _ rfl
    have has : (v.role t).id = some id := by
      rcases role with ⟨role, -⟩ | ⟨role, -⟩ <;> exact congrArg Role.id role
    exact inv.ready id (ids.issued_of_role has) current.2.1 holding
  | @readLen id role fits =>
    rw [role] at routed
    rw [View.become_role]
    obtain ⟨response, there⟩ := routed
    have length : (v.len (idSlot id)).toNat = response.length := by
      have small := S.shm.respDataMax.toNat_lt
      rw [there.2.2.2, UInt32.toNat_ofNat']
      exact Nat.mod_eq_of_lt (Nat.lt_of_le_of_lt there.2.1 small)
    rw [length]
    exact readNext_routed there rfl
  | @readByte id length result role =>
    rw [role] at routed
    rw [View.become_role]
    obtain ⟨response, there, rfl, more, done⟩ := routed
    refine readNext_routed there ?_
    rw [there.2.2.1 _ more, List.length_append, List.length_singleton, List.take_add_one, ← done,
      List.getD_eq_getElem?_getD, List.getElem?_eq_getElem more]
    rfl
  | releaseOwner role =>
    rw [role] at routed roles
    rw [View.become_role]
    rcases roles.2 with rfl | ⟨bytes, rfl⟩ | rfl
    · trivial
    · exact List.mem_cons_of_mem _ routed
    · trivial
  | releaseState role =>
    rw [role] at routed roles
    rw [View.become_role]
    rcases roles.2 with rfl | ⟨bytes, rfl⟩ | rfl
    · trivial
    · exact routed
    · trivial
  | cancelMiss role | casMiss role | cancelBump role =>
    rw [role] at roles
    rw [View.become_role]
    rcases roles.2 with rfl | ⟨rfl, -⟩ <;> trivial
  | send role =>
    rw [View.become_role]
    split <;> trivial
  | @reply id response role fits =>
    rw [View.become_role]
    exact ⟨List.mem_cons_self, fits, (by rintro _ ⟨⟩), fun _ => trivial⟩
  | writeState role =>
    rw [role] at routed
    rw [View.become_role]
    exact ⟨routed.1, routed.2.1, (by rintro _ ⟨⟩), fun _ => trivial⟩
  | writeGen role =>
    rw [role] at routed
    rw [View.become_role]
    exact writeNext_routed routed.1 routed.2.1 fun _ j bound => absurd bound (Nat.not_lt_zero j)
  | @writeByte id response k role =>
    rw [role] at routed
    rw [View.become_role]
    obtain ⟨wrote, fits, room, written⟩ := routed
    refine writeNext_routed wrote fits fun current j bound => ?_
    by_cases here : j = k
    · subst here
      simp [View.become]
    · have stored := written (before (congrArg Role.id role) current) j (by omega)
      simpa [View.become, here] using stored
  | @writeLen id response role =>
    rw [role] at routed
    rw [View.become_role]
    obtain ⟨wrote, fits, room, written⟩ := routed
    exact ⟨wrote, fits, (by rintro _ ⟨⟩), fun current =>
      ⟨written (before (congrArg Role.id role) current), by simp [View.become]⟩⟩
  | _ =>
    rw [View.become_role]
    trivial

/-- No response is published while a slot is in the window. -/
theorem window_step (inv : Routed S v) (ids : Ids S g₀ v) (move : Move S v t label v')
    (routable : ∀ l, label = some l → Routable v l) {i : UInt32} (window : v'.InWindow i) :
    v'.state i ≠ layoutRespReady := by
  intro ready
  have before : v.state i ≠ layoutRespFree → v.InWindow i := by
    intro taken
    obtain ⟨t', takes⟩ := window
    by_cases same : t' = t
    · subst same
      exact ⟨t', (ids.takes_of_move move takes).resolve_right taken⟩
    · exact ⟨t', by rwa [← move.role_of_ne same]⟩
  rcases move.state_cases i with same | freed | ⟨-, acquired, -⟩ | ⟨acquired, -, id, _, rfl, rfl, -⟩
  · rw [ready] at same
    exact inv.window i (before (by rw [← same]; decide)) same.symm
  · rw [ready] at freed
    exact absurd freed (by decide)
  · rw [ready] at acquired
    exact absurd acquired (by decide)
  · have current : v.Current id := routable _ rfl
    exact current.2.2 (before current.1)

/-- The response in a READY slot was written for the current id. -/
theorem ready_step (inv : Routed S v) (ids : Ids S g₀ v) (few : v'.Few)
    (move : Move S v t label v') (routable : ∀ l, label = some l → Routable v l) {id : UInt64}
    (issued : v'.Issued id) (gen : v'.gen (idSlot id) = idGen id)
    (ready : v'.state (idSlot id) = layoutRespReady) : ∃ response, v'.Response S id response := by
  obtain ⟨t', own⟩ := issued
  rcases move.acquired_of own with old | ⟨rfl, i, p, role, last, rfl, -, rfl⟩
  · have issued : v.Issued id := ⟨t', old⟩
    have same : v.gen (idSlot id) = idGen id := by
      rcases move.gen_cases (idSlot id) with same | ⟨next, bumps⟩
      · rw [← same, gen]
      · exact absurd (next ▸ gen) (ids.gen_succ_ne (bumps ▸ few (idSlot id)) issued)
    rcases move.state_cases (idSlot id) with kept | freed | ⟨-, acquired, -⟩ |
      ⟨-, -, id', response, rfl, slot, role⟩
    · rw [kept] at ready
      obtain ⟨response, there⟩ := inv.ready id issued same ready
      exact ⟨response, response_frame move routable ready there⟩
    · rw [ready] at freed
      exact absurd freed (by decide)
    · rw [ready] at acquired
      exact absurd acquired (by decide)
    · -- a publication, of what its writer has stored for this very id
      have current : v.Current id' := routable _ rfl
      obtain rfl : id' = id := by
        rw [← packId_idGen_idSlot id', ← packId_idGen_idSlot id, ← current.2.1, slot, same]
      have routed := inv.roles t
      rw [role] at routed
      obtain ⟨wrote, fits, -, written⟩ := routed
      refine ⟨response, move.log_subset wrote, fits, ?_⟩
      rcases move.fill_cases (idSlot id') with ⟨len, data⟩ | ⟨_, _, _, fill, -⟩
      · exact written_frame len data (written current)
      · cases fill
  · rw [idSlot_packId] at ready
    exact absurd ready (inv.window i ⟨t', congrArg Role.takes role⟩)

/-- What a `Query` returns is what its role says. -/
theorem answered_of (move : Move S v t label v') {t' : Fin n} {id : UInt64} {bytes : List UInt8}
    (member : .answered t' id bytes ∈ v'.log) :
    .answered t' id bytes ∈ v.log ∨ t' = t ∧ v.role t = .answering id bytes := by
  cases move with
  | answer role =>
    rcases List.mem_cons.mp member with new | old
    · obtain ⟨rfl, rfl, rfl⟩ := Mark.answered.inj new
      exact .inr ⟨rfl, role⟩
    · exact .inl old
  | _ => exact .inl (by
      simpa [View.become, View.note, View.setOwner, View.setState, View.bump] using member)

/-- A routable move keeps the routes. -/
theorem step (inv : Routed S v) (ids : Ids S g₀ v) (holders : Holders g₀ v)
    (holders' : Holders g₀ v') (tokens : Tokens v) (few : v'.Few) (move : Move S v t label v')
    (routable : ∀ l, label = some l → Routable v l) : Routed S v' := by
  refine ⟨fun i window => inv.window_step ids move routable window,
    fun id issued gen ready => inv.ready_step ids few move routable issued gen ready,
    fun t' => ?_, fun t' id bytes member => ?_⟩
  · by_cases same : t' = t
    · subst same
      exact inv.role_of_move ids few holders' move routable
    · rw [move.role_of_ne same]
      exact inv.role_frame ids holders tokens few move routable same
  · refine And.imp (fun h => move.log_subset h) (fun h => move.log_subset h) ?_
    rcases answered_of move member with old | ⟨rfl, role⟩
    · exact inv.answered t' id bytes old
    · have own := ids.roles t'
      have routed := inv.roles t'
      rw [role] at own routed
      exact ⟨own, routed⟩

end Routed

/-! ## The runs -/

theorem Start.tokens {c : Cfg n} (start : Start S c) : Tokens c.view := by
  have queue : c.view.pending = [] := start.pending
  refine ⟨?_, fun t id queued => ?_, fun t t' id has => ?_⟩
  · rw [queue]
    exact List.nodup_nil
  · rw [queue] at queued
    cases queued
  · rw [start.role t] at has
    cases has

theorem Start.routed {c : Cfg n} (start : Start S c) : Routed S c.view := by
  have free : ∀ i, c.view.state i ≠ layoutRespReady := by
    intro i
    rw [show c.view.state i = layoutRespFree from start.free i]
    decide
  refine ⟨fun i _ => free i, fun id _ _ ready => absurd ready (free _), fun t => ?_, ?_⟩
  · rw [start.role t]
    trivial
  · intro t id bytes member
    simp [Cfg.view, start.log] at member

/-- Response routing. In every run without deaths whose checks still hold when a
step acts on them, and whose writers store into no slot that is READY or filled
for another request, a `Query` returns only what some `writeResponse` was given
for the id that this `Query` acquired. -/
theorem responses_routed (queueOk : S.shm.QueueOk) {c c' : Cfg n} {acts : List (Act n)}
    (start : Start S c) (ran : c.steps S acts = some c')
    (routable : Runs.Always (Cfg.step S) (Guarded S Routable) c acts) (healthy : c'.view.Healthy)
    {t : Fin n} {id : UInt64} {bytes : List UInt8} (answered : .answered t id bytes ∈ c'.log) :
    .acquired t id ∈ c'.log ∧ .wrote id bytes ∈ c'.log := by
  have invs : Holders c.gen c'.view ∧ Tokens c'.view ∧ Routed S c'.view :=
    (healthy_invariant queueOk (fun v => Holders c.gen v ∧ Tokens v ∧ Routed S v)
      (fun v t label v' ids healthy healthy' move ok inv => by
        have holders' := inv.1.step ids healthy healthy'.few move fun l same => (ok l same).timely
        exact ⟨holders', inv.2.1.step ids inv.1 move,
          inv.2.2.step ids inv.1 holders' inv.2.1 healthy'.few move ok⟩)
      start ⟨start.holders, start.tokens, start.routed⟩ ran routable healthy).2
  exact invs.2.2.answered t id bytes answered

/-- The first request is cancelled, the second one is answered. -/
def answeredRequest : List (Act 2) :=
  [[.query 0 [1]], go 0 8, [.serve 1], go 1 11, [.cancelCtx 0], go 0 3, [.query 0 [2]], go 0 8,
    [.serve 1], go 1 3, [.run 1 { reply := some [7, 8] }], go 1 9, go 0 11].flatten

theorem responses_routed_answeredRequest :
    ∃ c', (freshCfg 2).steps (tinySetup 2) answeredRequest = some c' ∧
      .acquired 0 (packId 3 0) ∈ c'.log ∧ .wrote (packId 3 0) [7, 8] ∈ c'.log := by
  have ends : ((freshCfg 2).steps (tinySetup 2) answeredRequest).any (fun c =>
      decide (.answered 0 (packId 3 0) [7, 8] ∈ c.log)) = true := by
    decide +kernel
  obtain ⟨c', ran, last⟩ := (Option.any_eq_true _ _).mp ends
  have answered := of_decide_eq_true last
  have healthy := (freshCfg_start 2).healthy (by decide) ran (by decide) (by decide)
  have routable : Runs.Always (Cfg.step (tinySetup 2)) (Guarded (tinySetup 2) Routable)
      (freshCfg 2) answeredRequest := by decide +kernel
  exact ⟨c', ran, responses_routed (by decide) (freshCfg_start 2) ran routable healthy answered⟩

/-- The writer of the first request passes its checks, the client cancels and
another client takes the slot: the CAS of the writer finds it ACQUIRED again, and
the other client returns the response of the first request. -/
def lateWriter : List (Act 3) :=
  [[.query 0 [1]], go 0 8, [.serve 2], go 2 3, [.run 2 { reply := some [7] }], go 2 2,
    [.cancelCtx 0], go 0 9, [.query 1 [2]], go 1 8, go 2 4, go 1 10].flatten

theorem lateWriter_misroutes :
    ∃ c', (freshCfg 3).steps (tinySetup 3) lateWriter = some c' ∧ c'.view.Healthy ∧
      .answered 1 (packId 3 0) [7] ∈ c'.log ∧ .wrote (packId 3 0) [7] ∉ c'.log := by
  have ends : ((freshCfg 3).steps (tinySetup 3) lateWriter).any (fun c =>
      decide (.answered 1 (packId 3 0) [7] ∈ c.log ∧ .wrote (packId 3 0) [7] ∉ c.log)) = true := by
    decide +kernel
  obtain ⟨c', ran, last⟩ := (Option.any_eq_true _ _).mp ends
  have wrong := of_decide_eq_true last
  have healthy := (freshCfg_start 3).healthy (by decide) ran (by decide) (by decide)
  exact ⟨c', ran, healthy, wrong⟩

end ReqRep
