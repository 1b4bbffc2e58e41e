import ReqRep.Machine.Protocol

/-!
# Request ids

An id is given out once, by the last generation increment of an acquisition, and
while a slot has fewer than 2^32 increments its generation never comes back. A
goroutine has only ids that were given out, a client only its own.
-/

namespace ReqRep

variable {n : Nat} {S : Setup n} {g₀ : UInt32 → UInt32} {v v' : View n} {t t' : Fin n}
  {label : Option Label}

/-! ## What moves leave alone -/

theorem Move.role_of_ne (move : Move S v t label v') (other : t' ≠ t) :
    v'.role t' = v.role t' := by
  cases move <;> exact Function.update_of_ne other _ _

theorem Move.log_subset (move : Move S v t label v') : v.log ⊆ v'.log := by
  cases move <;> first | exact fun _ member => member | exact List.subset_cons_self _ _

theorem Move.bumps_le (move : Move S v t label v') (i : UInt32) : v.bumps i ≤ v'.bumps i := by
  have increment : ∀ j, v.bumps i ≤ Function.update v.bumps j (v.bumps j + 1) i := by
    intro j
    rw [Function.update_apply]
    split
    · next same => rw [same]; exact Nat.le_succ _
    · exact le_refl _
  cases move <;> first | exact le_refl _ | exact increment _

/-- A move increments a generation once at most. -/
theorem Move.bumps_le_succ (move : Move S v t label v') (i : UInt32) :
    v'.bumps i ≤ v.bumps i + 1 := by
  have increment : ∀ j, Function.update v.bumps j (v.bumps j + 1) i ≤ v.bumps i + 1 := by
    intro j
    rw [Function.update_apply]
    split
    · next same => rw [same]
    · exact Nat.le_succ _
  cases move <;> first | exact Nat.le_succ _ | exact increment _

theorem Move.dead_eq (move : Move S v t label v') : v'.dead = v.dead := by
  cases move <;> rfl

theorem Move.dead_mono (move : Move S v t label v') (pid : UInt32) (dead : v.dead pid = true) :
    v'.dead pid = true := by
  rwa [move.dead_eq]

/-- A generation stays or is incremented, which counts. -/
theorem Move.gen_cases (move : Move S v t label v') (i : UInt32) :
    v'.gen i = v.gen i ∨ v'.gen i = v.gen i + 1 ∧ v'.bumps i = v.bumps i + 1 := by
  have increment : ∀ j, Function.update v.gen j (v.gen j + 1) i = v.gen i ∨
      Function.update v.gen j (v.gen j + 1) i = v.gen i + 1 ∧
      Function.update v.bumps j (v.bumps j + 1) i = v.bumps i + 1 := by
    intro j
    by_cases same : i = j
    · subst same
      simp
    · simp [same]
  cases move <;> first | exact .inl rfl | exact increment _

/-- A state stays, becomes FREE, is taken or is published. -/
theorem Move.state_cases (move : Move S v t label v') (i : UInt32) :
    v'.state i = v.state i ∨ v'.state i = layoutRespFree ∨
      (v.state i = layoutRespFree ∧ v'.state i = layoutRespAcquired ∧ v'.role t = .taking i .own) ∨
      v.state i = layoutRespAcquired ∧ v'.state i = layoutRespReady ∧ ∃ id response,
        label = some (.publish id) ∧ idSlot id = i ∧ v.role t = .writing id response .cas := by
  cases move with
  | @take j role bound free =>
    by_cases same : i = j
    · subst same
      exact .inr (.inr (.inl ⟨free, by simp [View.become, View.setState], View.become_role _ _ _⟩))
    · exact .inl (by simp [View.become, View.setState, same])
  | @free j _ _ _ =>
    by_cases same : i = j
    · exact .inr (.inl (by simp [View.become, View.setState, same]))
    · exact .inl (by simp [View.become, View.setState, same])
  | @releaseState id _ _ =>
    by_cases same : i = idSlot id
    · exact .inr (.inl (by simp [View.become, View.setState, same]))
    · exact .inl (by simp [View.become, View.setState, same])
  | @casHit id _ _ _ =>
    by_cases same : i = idSlot id
    · exact .inr (.inl (by simp [View.become, View.note, View.setState, same]))
    · exact .inl (by simp [View.become, View.note, View.setState, same])
  | @publish id response role acquired =>
    by_cases same : i = idSlot id
    · subst same
      exact .inr (.inr (.inr ⟨acquired, by simp [View.become], id, response, rfl, rfl, role⟩))
    · exact .inl (by simp [View.become, same])
  | _ => exact .inl rfl

/-- Only `writeResponse` stores a length or data. -/
theorem Move.fill_cases (move : Move S v t label v') (i : UInt32) :
    v'.len i = v.len i ∧ v'.data i = v.data i ∨
      ∃ id response p, label = some (.fill id) ∧ idSlot id = i ∧
        v.role t = .writing id response p := by
  cases move with
  | @writeByte id response k role =>
    by_cases same : i = idSlot id
    · exact .inr ⟨id, response, _, rfl, same.symm, role⟩
    · exact .inl ⟨rfl, by simp [View.become, same]⟩
  | @writeLen id response role =>
    by_cases same : i = idSlot id
    · exact .inr ⟨id, response, _, rfl, same.symm, role⟩
    · exact .inl ⟨by simp [View.become, same], rfl⟩
  | _ => exact .inl ⟨rfl, rfl⟩

theorem Role.eq_of_takes {r : Role} {i : UInt32} (takes : r.takes = some i) :
    ∃ p, r = .taking i p := by
  cases r with
  | taking j p =>
    obtain rfl := Option.some.inj takes
    exact ⟨p, rfl⟩
  | _ => cases takes

/-- An acquirer stays in its window until it counts a generation. -/
theorem Move.takes_cases (move : Move S v t label v') {i : UInt32}
    (takes : (v.role t).takes = some i) :
    (v'.role t).takes = some i ∨ v'.gen i = v.gen i + 1 ∧ v'.bumps i = v.bumps i + 1 := by
  obtain ⟨p, here⟩ := Role.eq_of_takes takes
  cases move with
  | own role | incZero role =>
    rw [here] at role
    obtain ⟨rfl, -⟩ := Role.taking.inj role
    exact .inl (congrArg Role.takes (View.become_role _ _ _))
  | inc role =>
    rw [here] at role
    obtain ⟨rfl, -⟩ := Role.taking.inj role
    exact .inr (by simp [View.become, View.note, View.bump])
  | _ => simp_all

/-- Fewer than 2^32 generation increments on each slot. -/
def View.Few (v : View n) : Prop := ∀ i, v.bumps i < 2 ^ 32

theorem View.Step.few_of_few (step : v.Step S label v') (few : v'.Few) : v.Few := by
  cases step with
  | stutter => exact few
  | move live move => exact fun i => lt_of_le_of_lt (move.bumps_le i) (few i)
  | die pid => exact few

/-! ## Ids -/

/-- How many increments its slot had when the id was made, given that there were
fewer than 2^32; `g₀` are the first generations. -/
def age (g₀ : UInt32 → UInt32) (id : UInt64) : Nat := (idGen id - g₀ (idSlot id)).toNat

/-- The id was given out to somebody. -/
def View.Issued (v : View n) (id : UInt64) : Prop := ∃ t, .acquired t id ∈ v.log

/-- The id of a role, if it has one. -/
def Role.id : Role → Option UInt64
  | .idle | .taking .. | .recovering .. => none
  | .unsent id | .waiting id | .sawReady id | .reading id _ | .releasing id .. | .answering id _
  | .cancelling id .. | .leaving id | .draining id | .serving id | .writing id .. => some id

theorem Role.id_readNext (id : UInt64) (length : Nat) (result : List UInt8) :
    (Role.readNext id length result).id = some id := by
  unfold Role.readNext
  split <;> rfl

/-- What a role of goroutine `t` says about ids. A caller goes on with the id of
its subroutine. -/
def View.RoleIds (S : Setup n) (g₀ : UInt32 → UInt32) (v : View n) (t : Fin n) : Role → Prop
  | .idle => True
  | .recovering .. => ∃ pid, v.dead pid = true
  | .taking i p => i < S.shm.respSlots ∧
    (p = .again → ∃ k, 1 ≤ k ∧ k ≤ v.bumps i ∧ g₀ i + UInt32.ofNat k = 0)
  | .unsent id | .waiting id | .sawReady id | .reading id _ | .answering id _ | .leaving id
  | .draining id => .acquired t id ∈ v.log
  | .releasing id _ next => .acquired t id ∈ v.log ∧
    (next = .idle ∨ (∃ bytes, next = .answering id bytes) ∨ next = .givingUp id)
  | .cancelling id _ next => v.Issued id ∧
    (next = .idle ∨ (next = .leaving id ∧ .acquired t id ∈ v.log))
  | .serving id | .writing id .. => v.Issued id

/-- Nobody else has the id, and it is not in the queue. -/
def View.Secret (v : View n) (t : Fin n) (id : UInt64) : Prop :=
  id ∉ v.pending ∧ ∀ t' ≠ t, (v.role t').id ≠ some id

/-- Ids are given out once, in the order of the generations; whoever has one got it from the
acquirer. -/
structure Ids (S : Setup n) (g₀ : UInt32 → UInt32) (v : View n) : Prop where
  gen : ∀ i, v.gen i = g₀ i + UInt32.ofNat (v.bumps i)
  bound : ∀ id, v.Issued id → idSlot id < S.shm.respSlots
  nonzero : ∀ id, v.Issued id → id ≠ 0
  young : ∀ id, v.Issued id → age g₀ id ≤ v.bumps (idSlot id)
  once : ∀ t t' id, .acquired t id ∈ v.log → .acquired t' id ∈ v.log → t = t'
  pending : ∀ id ∈ v.pending, v.Issued id
  roles : ∀ t, v.RoleIds S g₀ t (v.role t)

theorem View.Issued.mono {id : UInt64} (issued : v.Issued id) (logs : v.log ⊆ v'.log) :
    v'.Issued id :=
  issued.imp fun _ member => logs member

theorem View.RoleIds.mono {r : Role} (ids : v.RoleIds S g₀ t r) (logs : v.log ⊆ v'.log)
    (bumps : ∀ i, v.bumps i ≤ v'.bumps i) (dead : ∀ pid, v.dead pid = true → v'.dead pid = true) :
    v'.RoleIds S g₀ t r := by
  cases r with
  | idle => trivial
  | recovering => exact ids.imp dead
  | taking i p =>
    refine ⟨ids.1, fun again => ?_⟩
    obtain ⟨k, pos, le, zero⟩ := ids.2 again
    exact ⟨k, pos, le.trans (bumps i), zero⟩
  | unsent | waiting | sawReady | reading | answering | leaving | draining => exact logs ids
  | releasing => exact ⟨logs ids.1, ids.2⟩
  | cancelling => exact ⟨ids.1.mono logs, ids.2.imp id fun own => ⟨own.1, logs own.2⟩⟩
  | serving | writing => exact View.Issued.mono (v := v) ids logs

namespace Ids

/-- The id of a role was given out. -/
theorem issued_of_role (ids : Ids S g₀ v) {id : UInt64} (has : (v.role t).id = some id) :
    v.Issued id := by
  have roles := ids.roles t
  cases role : v.role t <;> rw [role] at has roles <;> simp only [Role.id, Option.some.injEq,
    reduceCtorEq] at has <;> subst has <;> first
      | exact ⟨t, roles⟩
      | exact ⟨t, roles.1⟩
      | exact roles.1
      | exact roles

/-- Nobody is behind a dead owner while nobody has died. -/
theorem calm (ids : Ids S g₀ v) (alive : ∀ pid, v.dead pid = false) {i state : UInt32}
    {p : Recovering} : v.role t ≠ .recovering i state p := by
  intro role
  have roles := ids.roles t
  rw [role] at roles
  obtain ⟨pid, dead⟩ := roles
  rw [alive pid] at dead
  cases dead

theorem age_of_gen (ids : Ids S g₀ v) (few : v.Few) {id : UInt64}
    (gen : v.gen (idSlot id) = idGen id) : age g₀ id = v.bumps (idSlot id) := by
  have bumps := few (idSlot id)
  have word := ids.gen (idSlot id)
  rw [gen] at word
  unfold age
  rw [word, UInt32.toNat_sub, UInt32.toNat_add, UInt32.toNat_ofNat']
  have := (g₀ (idSlot id)).toNat_lt
  omega

/-- Ids with the same age are equal. -/
theorem eq_of_age {id id' : UInt64} (slot : idSlot id = idSlot id')
    (same : age g₀ id = age g₀ id') :
    id = id' := by
  unfold age at same
  rw [slot, UInt32.toNat_inj] at same
  have gen : idGen id = idGen id' := by simpa using same
  rw [← packId_idGen_idSlot id, ← packId_idGen_idSlot id', slot, gen]

end Ids

/-- An acquired mark is old, or the move is the last increment of its
acquisition. -/
theorem Move.acquired_of (move : Move S v t label v') {id : UInt64}
    (member : .acquired t' id ∈ v'.log) :
    .acquired t' id ∈ v.log ∨ t' = t ∧ ∃ i p, v.role t = .taking i p ∧
      (p = .inc ∧ v.gen i + 1 ≠ 0 ∨ p = .again) ∧ id = packId (v.gen i + 1) i ∧
      v'.bumps i = v.bumps i + 1 ∧
      v' = ((v.bump i).note (.acquired t id)).become t (.unsent id) := by
  cases move with
  | @inc i p role last =>
    rcases List.mem_cons.mp member with new | old
    · obtain ⟨rfl, rfl⟩ := Mark.acquired.inj new
      exact .inr ⟨rfl, i, p, role, last, rfl, by simp [View.become, View.note, View.bump], rfl⟩
    · exact .inl old
  | _ => exact .inl (by
      simpa [View.become, View.note, View.setOwner, View.setState, View.bump] using member)

namespace Ids

/-- The id of a finished acquisition is new, sound, and not the zero id. -/
theorem of_acquired (ids : Ids S g₀ v) (few : v'.Few) {i : UInt32} {p : Taking}
    (role : v.role t = .taking i p) (last : p = .inc ∧ v.gen i + 1 ≠ 0 ∨ p = .again)
    (bumps : v'.bumps i = v.bumps i + 1) :
    i < S.shm.respSlots ∧ packId (v.gen i + 1) i ≠ 0 ∧
      age g₀ (packId (v.gen i + 1) i) = v.bumps i + 1 := by
  have roles := ids.roles t
  rw [role] at roles
  have few := few i
  have word := ids.gen i
  have first := (g₀ i).toNat_lt
  refine ⟨roles.1, packId_ne_zero i ?_, ?_⟩
  · rcases last with ⟨-, nonzero⟩ | again
    · exact nonzero
    · -- the increment to zero was an earlier one, and zero has not come back
      obtain ⟨k, pos, le, zero⟩ := roles.2 again
      intro back
      rw [word] at back
      have zero := congrArg UInt32.toNat zero
      have back := congrArg UInt32.toNat back
      simp only [UInt32.toNat_add, UInt32.toNat_ofNat', UInt32.toNat_zero, UInt32.toNat_one]
        at zero back
      omega
  · unfold age
    rw [idGen_packId, idSlot_packId, word, UInt32.toNat_sub]
    simp only [UInt32.toNat_add, UInt32.toNat_ofNat', UInt32.toNat_one]
    omega

/-- The generation of a slot is what it was at the start and the increments since. -/
theorem gen_step (ids : Ids S g₀ v) (move : Move S v t label v') (i : UInt32) :
    v'.gen i = g₀ i + UInt32.ofNat (v'.bumps i) := by
  have increment : ∀ j, Function.update v.gen j (v.gen j + 1) i =
      g₀ i + UInt32.ofNat (Function.update v.bumps j (v.bumps j + 1) i) := by
    intro j
    by_cases same : i = j
    · subst same
      simp [ids.gen i, UInt32.ofNat_add, UInt32.add_assoc]
    · simp [same, ids.gen i]
  cases move <;> first | exact ids.gen i | exact increment _

/-- An id that a move gives out was not there before. -/
theorem not_issued (ids : Ids S g₀ v) (few : v'.Few) {i : UInt32} {p : Taking}
    (role : v.role t = .taking i p) (last : p = .inc ∧ v.gen i + 1 ≠ 0 ∨ p = .again)
    (bumps : v'.bumps i = v.bumps i + 1) : ¬ v.Issued (packId (v.gen i + 1) i) := by
  intro issued
  have old := ids.young _ issued
  rw [idSlot_packId, (ids.of_acquired few role last bumps).2.2] at old
  omega

/-- An increment leaves every id of its slot behind. -/
theorem gen_succ_ne (ids : Ids S g₀ v) {id : UInt64} (few : v.bumps (idSlot id) + 1 < 2 ^ 32)
    (issued : v.Issued id) : v.gen (idSlot id) + 1 ≠ idGen id := by
  intro same
  have old := ids.young id issued
  have first := (g₀ (idSlot id)).toNat_lt
  unfold age at old
  rw [← same, ids.gen, UInt32.toNat_sub] at old
  simp only [UInt32.toNat_add, UInt32.toNat_ofNat', UInt32.toNat_one] at old
  omega

/-- No two goroutines get one id. -/
theorem once_step (ids : Ids S g₀ v) (move : Move S v t label v') (few : v'.Few)
    {t₁ t₂ : Fin n} {id : UInt64} (first : .acquired t₁ id ∈ v'.log)
    (second : .acquired t₂ id ∈ v'.log) : t₁ = t₂ := by
  rcases move.acquired_of first with old₁ | ⟨rfl, i, p, role, last, rfl, bumps, -⟩
  · rcases move.acquired_of second with old₂ | ⟨rfl, i, p, role, last, rfl, bumps, -⟩
    · exact ids.once t₁ t₂ id old₁ old₂
    · exact absurd ⟨t₁, old₁⟩ (ids.not_issued few role last bumps)
  · rcases move.acquired_of second with old₂ | ⟨rfl, -⟩
    · exact absurd ⟨t₂, old₂⟩ (ids.not_issued few role last bumps)
    · rfl

theorem pending_step (ids : Ids S g₀ v) (move : Move S v t label v') {id : UInt64}
    (queued : id ∈ v'.pending) : v'.Issued id := by
  suffices issued : v.Issued id from issued.mono move.log_subset
  cases move with
  | @send id' role =>
    rcases List.mem_append.mp queued with old | new
    · exact ids.pending id old
    · obtain rfl := List.mem_singleton.mp new
      exact ids.issued_of_role (by rw [role]; rfl)
  | @recv id' rest role first =>
    exact ids.pending id (by rw [first]; exact List.mem_cons_of_mem _ queued)
  | _ => exact ids.pending id queued

/-- The role of a goroutine has ids that were given out to it. -/
theorem roles_step (ids : Ids S g₀ v) (move : Move S v t label v') (few : v'.Few) :
    v'.RoleIds S g₀ t (v'.role t) := by
  have before := ids.roles t
  have kept := before.mono move.log_subset move.bumps_le move.dead_mono
  cases move with
  | take role bound free =>
    rw [View.become_role]
    exact ⟨bound, nofun⟩
  | own role =>
    rw [role] at kept
    rw [View.become_role]
    exact ⟨kept.1, nofun⟩
  | condemn role bound taken dead =>
    rw [View.become_role]
    exact ⟨_, dead⟩
  | @incZero i role zero =>
    rw [role] at kept
    rw [View.become_role]
    have word := ids.gen_step (.incZero role zero) i
    refine ⟨kept.1, fun _ => ⟨v.bumps i + 1, Nat.succ_pos _, ?_, ?_⟩⟩
    · simp [View.become, View.bump]
    · rw [← zero]
      simpa [View.become, View.bump] using word.symm
  | inc role last =>
    rw [View.become_role]
    exact List.mem_cons_self
  | send role =>
    rw [role] at kept
    rw [View.become_role]
    split
    · exact kept
    · trivial
  | drop role | readLong role =>
    rw [role] at kept
    rw [View.become_role]
    exact ⟨kept, by simp⟩
  | clear role | free role | releaseOwner role | cancelHit role | casHit role | cancelOwner role =>
    rw [role] at kept
    rw [View.become_role]
    exact kept
  | releaseState role =>
    rw [role] at kept
    rw [View.become_role]
    rcases kept with ⟨own, rfl | ⟨bytes, rfl⟩ | rfl⟩
    · trivial
    · exact own
    · exact ⟨⟨t, own⟩, .inr ⟨rfl, own⟩⟩
  | cancelMiss role | casMiss role | cancelBump role =>
    rw [role] at kept
    rw [View.become_role]
    rcases kept with ⟨-, rfl | ⟨rfl, own⟩⟩
    · trivial
    · exact own
  | hint role | look role | drainHit role | reply role | writeState role | writeGen role
  | writeByte role | writeLen role =>
    rw [role] at kept
    rw [View.become_role]
    exact kept
  | read role =>
    rw [View.become_role]
    rcases role with ⟨role, -⟩ | ⟨role, -⟩
    · rw [role] at kept
      exact kept
    · rw [role] at kept
      exact kept
  | giveUp role =>
    rw [View.become_role]
    rcases role with role | role
    · rw [role] at kept
      exact ⟨⟨t, kept⟩, .inr ⟨rfl, kept⟩⟩
    · rw [role] at kept
      exact ⟨⟨t, kept⟩, .inr ⟨rfl, kept⟩⟩
  | readLen role | readByte role =>
    rw [role] at kept
    rw [View.become_role, Role.readNext]
    split
    · exact kept
    · exact ⟨kept, .inr (.inl ⟨_, rfl⟩)⟩
  | drainFree role | fail role =>
    rw [role] at kept
    rw [View.become_role]
    exact ⟨kept, .inl rfl⟩
  | recv role first =>
    rw [View.become_role]
    exact ids.pending _ (by rw [first]; exact List.mem_cons_self)
  | _ =>
    rw [View.become_role]
    trivial

theorem step (ids : Ids S g₀ v) (step : v.Step S label v') (few : v'.Few) : Ids S g₀ v' := by
  cases step with
  | stutter => exact ids
  | die pid =>
    refine ⟨ids.gen, ids.bound, ids.nonzero, ids.young, ids.once, ids.pending, fun t => ?_⟩
    refine (ids.roles t).mono (fun _ member => member) (fun _ => le_refl _) fun pid' dead => ?_
    dsimp only
    rw [Function.update_apply]
    split
    · rfl
    · exact dead
  | @move t _ _ live move =>
    refine ⟨ids.gen_step move, ?_, ?_, ?_, ?_, ?_, ?_⟩
    · rintro id ⟨t', member⟩
      rcases move.acquired_of member with old | ⟨rfl, i, p, role, last, rfl, bumps, -⟩
      · exact ids.bound id ⟨t', old⟩
      · rw [idSlot_packId]
        exact (ids.of_acquired few role last bumps).1
    · rintro id ⟨t', member⟩
      rcases move.acquired_of member with old | ⟨rfl, i, p, role, last, rfl, bumps, -⟩
      · exact ids.nonzero id ⟨t', old⟩
      · exact (ids.of_acquired few role last bumps).2.1
    · rintro id ⟨t', member⟩
      rcases move.acquired_of member with old | ⟨rfl, i, p, role, last, rfl, bumps, -⟩
      · exact (ids.young id ⟨t', old⟩).trans (move.bumps_le _)
      · rw [idSlot_packId, (ids.of_acquired few role last bumps).2.2, bumps]
    · exact fun t₁ t₂ id first second => ids.once_step move few first second
    · exact fun id queued => ids.pending_step move queued
    · intro t'
      by_cases same : t' = t
      · subst same
        exact ids.roles_step move few
      · rw [move.role_of_ne same]
        exact (ids.roles t').mono move.log_subset move.bumps_le move.dead_mono

/-- A goroutine comes to acquire a slot only by the CAS on a free one. -/
theorem takes_of_move (ids : Ids S g₀ v) (move : Move S v t label v') {i : UInt32}
    (has : (v'.role t).takes = some i) :
    (v.role t).takes = some i ∨ v.state i = layoutRespFree := by
  have roles := ids.roles t
  cases move with
  | take role bound free =>
    rw [View.become_role] at has
    obtain rfl := Option.some.inj has
    exact .inr free
  | own role | incZero role =>
    rw [View.become_role] at has
    exact .inl ((congrArg Role.takes role).trans has)
  | releaseState role =>
    rw [role] at roles
    rw [View.become_role] at has
    rcases roles.2 with rfl | ⟨bytes, rfl⟩ | rfl <;> cases has
  | cancelMiss role | casMiss role | cancelBump role =>
    rw [role] at roles
    rw [View.become_role] at has
    rcases roles.2 with rfl | ⟨rfl, -⟩ <;> cases has
  | send role =>
    rw [View.become_role] at has
    split at has <;> cases has
  | readLen role | readByte role =>
    rw [View.become_role, Role.readNext] at has
    split at has <;> cases has
  | _ =>
    rw [View.become_role] at has
    cases has

/-- A goroutine comes to free its slot by the owner store of its release. -/
theorem releasing_of_move (ids : Ids S g₀ v) (move : Move S v t label v') {id : UInt64}
    {next : Role} (role' : v'.role t = .releasing id .state next) : .ended id ∈ v'.log := by
  have roles := ids.roles t
  cases move with
  | releaseOwner role =>
    rw [View.become_role] at role'
    obtain ⟨rfl, -, -⟩ := Role.releasing.inj role'
    exact List.mem_cons_self
  | releaseState role =>
    rw [role] at roles
    rw [View.become_role] at role'
    rcases roles.2 with rfl | ⟨bytes, rfl⟩ | rfl <;> cases role'
  | cancelMiss role | casMiss role | cancelBump role =>
    rw [role] at roles
    rw [View.become_role] at role'
    rcases roles.2 with rfl | ⟨rfl, -⟩ <;> cases role'
  | send role =>
    rw [View.become_role] at role'
    split at role' <;> cases role'
  | readLen role | readByte role =>
    rw [View.become_role, Role.readNext] at role'
    split at role' <;> cases role'
  | _ =>
    rw [View.become_role] at role'
    cases role'

end Ids

end ReqRep
