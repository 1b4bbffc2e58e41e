import ReqRep.Machine.Nested
import ReqRep.Machine.Start

/-!
# Slots without an owner

A goroutine that acquires, releases or recovers a slot passes through states in
which the slot is taken and nobody is its owner. Nobody else leaves a slot so,
as long as a cancellation stores to the owner of its own slot and a recovery frees
the slot that it has looked at.
-/

namespace ReqRep

variable {n : Nat} {S : Setup n} {v v' : View n} {t t' : Fin n} {label : Option Label}
  {pid i : UInt32}

/-- Between the CAS of `acquireRespSlot` and its owner store, between the two stores
of `releaseRespSlot`, or between the owner store of the second pass and its CAS. -/
def Role.exposes (i : UInt32) : Role → Prop
  | .taking j .own => j = i
  | .releasing id .state _ => idSlot id = i
  | .recovering j _ .free => j = i
  | _ => False

/-- The owner store of a cancellation finds its slot FREE, or exposed by somebody
already; the CAS of the second pass finds the state that the pass has loaded, or
FREE. -/
def View.Careful (v : View n) (t : Fin n) : Prop :=
  match v.role t with
  | .cancelling id .owner _ =>
    v.state (idSlot id) = layoutRespFree ∨ ∃ t', (v.role t').exposes (idSlot id)
  | .recovering i state .free => v.state i = state ∨ v.state i = layoutRespFree
  | _ => True

/-! ## The counters -/

/-- The counters of these roles: a goroutine is there between two operations that
come right behind each other. -/
def Pc.exposes (i : UInt32) : Pc → Bool
  | .acqOwner _ slot _ => slot = i
  | .releaseState id _ => idSlot id = i
  | .recFree _ j _ => j = i
  | _ => false

/-- The owner store of `cancelRequest` finds its slot FREE, or exposed by somebody
already; the CAS of the second pass finds the state that the pass has loaded, or
FREE. -/
def Pc.careful (c : Cfg n) : Pc → Bool
  | .cancelOwner id _ =>
    c.state (idSlot id) = layoutRespFree ∨ ∃ t, (c.thr t).pc.exposes (idSlot id) = true
  | .recFree _ i state => c.state i = state ∨ c.state i = layoutRespFree
  | _ => true

/-- The operation of the act, if it is one, is careful. -/
def Careful (c : Cfg n) : Act n → Prop
  | .run t _ => (c.thr t).pc.careful c = true
  | _ => True

instance (c : Cfg n) : DecidablePred (Careful c)
  | .run t _ => inferInstanceAs (Decidable ((c.thr t).pc.careful c = true))
  | .query .. | .serve _ | .cancelCtx _ | .deadline _ | .wakeup _ | .die _ => isTrue trivial

/-- The roles that a goroutine has only right behind the operation before. -/
def Role.fleeting : Role → Prop
  | .taking _ .own | .releasing _ .state _ | .recovering _ _ .free | .cancelling _ .owner _ => True
  | _ => False

theorem not_fleeting_of_resumable {pc : Pc} (resumable : pc.Resumable) : ¬ pc.role.fleeting := by
  induction pc with
  | wakeBump w next ih | wakeLoad w next ih | wakeCall w next ih | cancelLoad id next ih
  | cancelWake id next ih => exact ih resumable
  | waitGen id state =>
    unfold Pc.role
    split <;> exact fun fleeting => fleeting
  | waitLeave id result => cases result <;> exact fun fleeting => fleeting
  | recOwner | recAlive | acqOwner | recFree | releaseState | cancelOwner => exact resumable.elim
  | _ => exact id

/-- The role says whether a counter exposes a slot, if the calls are well nested. -/
theorem role_exposes_iff {pc : Pc} (nested : pc.WellNested) :
    pc.role.exposes i ↔ pc.exposes i = true := by
  by_cases resumable : pc.Resumable
  · have steady := not_fleeting_of_resumable resumable
    constructor
    · intro exposes
      refine absurd ?_ steady
      unfold Role.exposes at exposes
      split at exposes <;> first
        | exact exposes.elim
        | (rename_i same; rw [same]; trivial)
    · intro exposes
      cases pc <;> first
        | cases exposes
        | exact resumable.elim
  · cases pc with
    | acqOwner | releaseState | recFree => simp [Pc.exposes, Pc.role, Role.exposes]
    | recOwner | recAlive | cancelOwner => exact iff_of_false id Bool.false_ne_true
    | _ => exact absurd nested resumable

/-- A careful operation is careful with the slot of its goroutine. -/
theorem Careful.view {c : Cfg n} {ans : Answer n} (careful : Careful c (.run t ans))
    (nested : ∀ t, (c.thr t).pc.WellNested) : c.view.Careful t := by
  have exposed : ∀ i, (∃ t', (c.thr t').pc.exposes i = true) ↔ ∃ t', (c.view.role t').exposes i :=
    fun i => exists_congr fun t' => (role_exposes_iff (nested t')).symm
  by_cases resumable : (c.thr t).pc.Resumable
  · have steady := not_fleeting_of_resumable resumable
    show View.Careful c.view t
    unfold View.Careful
    split
    · next same => exact absurd (by rw [show (c.thr t).pc.role = _ from same]; trivial) steady
    · next same => exact absurd (by rw [show (c.thr t).pc.role = _ from same]; trivial) steady
    · trivial
  · have inside := nested t
    change (c.thr t).pc.careful c = true at careful
    unfold View.Careful
    rw [show c.view.role t = (c.thr t).pc.role from rfl]
    cases here : (c.thr t).pc with
    | cancelOwner id next =>
      rw [here] at careful
      exact (of_decide_eq_true careful).imp_right (exposed _).mp
    | recFree a j state =>
      rw [here] at careful
      have found : c.state j = state ∨ c.state j = layoutRespFree := of_decide_eq_true careful
      exact found
    | recOwner | recAlive | acqOwner | releaseState => trivial
    | _ =>
      rw [here] at inside resumable
      exact absurd inside resumable

/-! ## What a move does to a slot -/

/-- An owner word stays, is cleared, or gets the pid of who moves. -/
theorem Move.owner_cases (move : Move S v t label v') (i : UInt32) :
    v'.owner i = v.owner i ∨ v'.owner i = 0 ∨ v'.owner i = S.pid t := by
  have stored : ∀ j p, Function.update v.owner j p i = v.owner i ∨
      Function.update v.owner j p i = p := by
    intro j p
    by_cases same : i = j
    · exact .inr (by rw [same, Function.update_self])
    · exact .inl (Function.update_of_ne same _ _)
  cases move with
  | clear role | releaseOwner role | cancelOwner role => exact (stored _ _).imp_right .inl
  | own role => exact (stored _ _).imp_right .inr
  | _ => exact .inl rfl

theorem Move.hint_cases (move : Move S v t label v') :
    v'.hint = v.hint ∨ ∃ slot, v'.hint = slot % S.shm.respSlots := by
  cases move with
  | hint role => exact .inr ⟨_, rfl⟩
  | _ => exact .inl rfl

/-- What a careful move does to a slot that is taken and has no owner then: it
exposes the slot, or the slot was like that, and the move has not exposed it. -/
theorem Move.ownerless_cases (move : Move S v t label v') (careful : v.Careful t)
    (nonzero : S.pid t ≠ 0) (taken : v'.state i ≠ layoutRespFree) (ownerless : v'.owner i = 0) :
    (∃ t', (v'.role t').exposes i) ∨
      v.state i ≠ layoutRespFree ∧ v.owner i = 0 ∧ ¬ (v.role t).exposes i := by
  unfold View.Careful at careful
  cases move with
  | @take j role bound free =>
    by_cases same : j = i
    · exact .inl ⟨t, by rw [View.become_role]; exact same⟩
    · refine .inr ⟨?_, ownerless, ?_⟩
      · simpa [View.become, View.setState, Ne.symm same] using taken
      · rcases role with role | role <;> rw [role] <;> exact id
  | @clear j state role =>
    by_cases same : j = i
    · exact .inl ⟨t, by rw [View.become_role]; exact same⟩
    · refine .inr ⟨taken, ?_, by rw [role]; exact id⟩
      simpa [View.become, View.setOwner, Ne.symm same] using ownerless
  | @free j state role same =>
    by_cases here : j = i
    · simp [View.become, View.setState, here] at taken
    · refine .inr ⟨?_, ownerless, by rw [role]; exact here⟩
      simpa [View.become, View.setState, Ne.symm here] using taken
  | @recoverMiss j state p role behind other =>
    refine .inr ⟨taken, ownerless, ?_⟩
    rw [role] at careful ⊢
    cases p with
    | clear => exact absurd rfl behind
    | free =>
      rintro rfl
      exact taken (careful.resolve_left other)
    | grab => exact id
  | @own j role =>
    by_cases same : j = i
    · simp [View.become, View.setOwner, same, nonzero] at ownerless
    · refine .inr ⟨taken, ?_, by rw [role]; exact same⟩
      simpa [View.become, View.setOwner, Ne.symm same] using ownerless
  | @releaseOwner id next role =>
    by_cases same : idSlot id = i
    · exact .inl ⟨t, by rw [View.become_role]; exact same⟩
    · refine .inr ⟨taken, ?_, by rw [role]; exact fun h => h⟩
      simpa [View.become, View.note, View.setOwner, Ne.symm same] using ownerless
  | @releaseState id next role =>
    by_cases same : idSlot id = i
    · simp [View.become, View.setState, same] at taken
    · refine .inr ⟨?_, ownerless, by rw [role]; exact same⟩
      simpa [View.become, View.setState, Ne.symm same] using taken
  | @casHit id next role acquired =>
    by_cases same : idSlot id = i
    · simp [View.become, View.note, View.setState, same] at taken
    · refine .inr ⟨?_, ownerless, by rw [role]; exact fun h => h⟩
      simpa [View.become, View.note, View.setState, Ne.symm same] using taken
  | @cancelOwner id next role =>
    have unexposed : ¬ (v.role t).exposes i := by rw [role]; exact fun h => h
    rw [role] at careful
    by_cases same : idSlot id = i
    · subst same
      obtain ⟨t', exposes⟩ := careful.resolve_left taken
      have other : t' ≠ t := by
        rintro rfl
        exact unexposed exposes
      exact .inl ⟨t', by rwa [View.become_role_of_ne _ _ other]⟩
    · refine .inr ⟨taken, ?_, unexposed⟩
      simpa [View.become, View.setOwner, Ne.symm same] using ownerless
  | @publish id response role acquired =>
    refine .inr ⟨?_, ownerless, by rw [role]; exact fun h => h⟩
    by_cases same : i = idSlot id
    · rw [same, acquired]
      decide
    · simpa [View.become, same] using taken
  | @read id role =>
    refine .inr ⟨taken, ownerless, ?_⟩
    rcases role with ⟨role, -⟩ | ⟨role, -⟩ <;> rw [role] <;> exact fun h => h
  | giveUp role =>
    refine .inr ⟨taken, ownerless, ?_⟩
    rcases role with role | role <;> rw [role] <;> exact fun h => h
  | @inc j p role last =>
    refine .inr ⟨taken, ownerless, ?_⟩
    rw [role]
    rcases last with ⟨rfl, -⟩ | rfl <;> exact fun h => h
  | condemn role | incZero role | hint role | send role | drop role | look role | readLen role
  | readLong role | readByte role | answer role | cancelMiss role | cancelHit role | casMiss role
  | cancelBump role | drainMiss role | drainHit role | drainFree role | drainEnd role | recv role
  | fail role | reply role | refuse role | writeState role | writeGen role | writeStop role
  | writeByte role | writeLen role =>
    exact .inr ⟨taken, ownerless, by rw [role]; exact fun h => h⟩

/-! ## The invariant -/

/-- The slots that a process has to do with, beside those of dead ones: a slot that is
taken and has no owner is exposed by somebody. -/
structure Claimed (S : Setup n) (pid : UInt32) (v : View n) : Prop where
  states : ∀ i, v.state i = layoutRespFree ∨ v.state i = layoutRespAcquired ∨
    v.state i = layoutRespReady
  owners : ∀ i, v.owner i = 0 ∨ v.owner i = pid ∨ v.dead (v.owner i) = true
  hint : v.hint < S.shm.respSlots
  exposed : ∀ i, v.state i ≠ layoutRespFree → v.owner i = 0 → ∃ t, (v.role t).exposes i

namespace Claimed

/-- A careful move leaves a slot without an owner only to a goroutine that is at it. -/
theorem of_move (inv : Claimed S pid v) (own : S.pid t = pid) (nonzero : pid ≠ 0)
    (careful : v.Careful t) (move : Move S v t label v') : Claimed S pid v' where
  states i := by
    rcases move.state_cases i with same | free | ⟨-, acquired, -⟩ | ⟨-, ready, -⟩
    · rw [same]
      exact inv.states i
    · exact .inl free
    · exact .inr (.inl acquired)
    · exact .inr (.inr ready)
  owners i := by
    rw [move.dead_eq]
    rcases move.owner_cases i with same | zero | mine
    · rw [same]
      exact inv.owners i
    · exact .inl zero
    · exact .inr (.inl (mine.trans own))
  hint := by
    rcases move.hint_cases with same | ⟨slot, next⟩
    · rw [same]
      exact inv.hint
    · have pos := Nat.zero_lt_of_lt (UInt32.lt_iff_toNat_lt.mp inv.hint)
      rw [next, UInt32.lt_iff_toNat_lt, UInt32.toNat_mod]
      exact Nat.mod_lt _ pos
  exposed i taken ownerless := by
    subst own
    rcases move.ownerless_cases careful nonzero taken ownerless with found | ⟨was, had, unexposed⟩
    · exact found
    · obtain ⟨t', exposes⟩ := inv.exposed i was had
      have other : t' ≠ t := by
        rintro rfl
        exact unexposed exposes
      exact ⟨t', by rwa [move.role_of_ne other]⟩

theorem die (inv : Claimed S pid v) (p : UInt32) :
    Claimed S pid { v with dead := Function.update v.dead p true } where
  states := inv.states
  owners i := by
    refine (inv.owners i).imp_right fun known => known.imp_right fun dead => ?_
    show Function.update v.dead p true (v.owner i) = true
    rw [Function.update_apply]
    split
    · rfl
    · exact dead
  hint := inv.hint
  exposed := inv.exposed

end Claimed

end ReqRep
