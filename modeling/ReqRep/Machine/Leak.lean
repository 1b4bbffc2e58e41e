import ReqRep.Machine.Start

/-!
# No slot leaks

Every taken slot is being acquired, or there is a client that has yet to free it:
one with an id of the slot's generation, before the CAS of its cancellation
succeeds. A client steps back only from a slot whose generation has moved on or
which is free or being acquired by then. What breaks this is the late generation
increment of a cancellation on a slot that is in use again.
-/

namespace ReqRep

variable {n : Nat} {S : Setup n} {g₀ : UInt32 → UInt32} {v v' : View n} {t : Fin n}
  {label : Option Label}

/-- The id whose slot a client has yet to free. -/
def Role.duty : Role → Option UInt64
  | .unsent id | .waiting id | .sawReady id | .reading id _ | .releasing id .. | .leaving id
  | .draining id | .cancelling id .gen (.leaving _) | .cancelling id .cas (.leaving _) => some id
  | _ => none

/-- A slot that is taken is being acquired, or some client has yet to free it. -/
structure Covered (v : View n) : Prop where
  states : ∀ i, v.state i = layoutRespFree ∨ v.state i = layoutRespAcquired ∨
    v.state i = layoutRespReady
  covered : ∀ i, v.state i ≠ layoutRespFree → v.InWindow i ∨
    ∃ t id, (v.role t).duty = some id ∧ idSlot id = i ∧ v.gen i = idGen id
  missed : ∀ t id, v.role t = .leaving id ∨ v.role t = .draining id →
    v.state (idSlot id) = layoutRespAcquired → v.gen (idSlot id) = idGen id →
    v.InWindow (idSlot id)

/-- A window stays open unless its acquirer closes it. -/
theorem View.InWindow.become {i : UInt32} {r : Role} (window : v.InWindow i)
    (open_ : ∀ i, (v.role t).takes = some i → r.takes = some i) : (v.become t r).InWindow i := by
  obtain ⟨t', takes⟩ := window
  refine ⟨t', ?_⟩
  by_cases same : t' = t
  · subst same
    rw [View.become_role]
    exact open_ i takes
  · rwa [View.become_role_of_ne v r same]

namespace Covered

/-- A change of role may drop a duty only where nothing is left to do. -/
theorem become (inv : Covered v) {r : Role}
    (open_ : ∀ i, (v.role t).takes = some i → r.takes = some i)
    (duty : ∀ id, (v.role t).duty = some id → v.state (idSlot id) ≠ layoutRespFree →
      v.gen (idSlot id) = idGen id → r.duty = some id ∨ v.InWindow (idSlot id))
    (missed : ∀ id, r = .leaving id ∨ r = .draining id →
      v.state (idSlot id) = layoutRespAcquired → v.gen (idSlot id) = idGen id →
      v.InWindow (idSlot id)) : Covered (v.become t r) where
  states := inv.states
  covered i taken := by
    rcases inv.covered i taken with window | ⟨t', id, has, rfl, gen⟩
    · exact .inl (window.become open_)
    · by_cases same : t' = t
      · subst same
        rcases duty id has taken gen with still | window
        · exact .inr ⟨t', id, by rwa [View.become_role], rfl, gen⟩
        · exact .inl (window.become open_)
      · exact .inr ⟨t', id, by rwa [View.become_role_of_ne v r same], rfl, gen⟩
  missed t' id role acquired gen := by
    refine View.InWindow.become ?_ open_
    by_cases same : t' = t
    · subst same
      rw [View.become_role] at role
      exact missed id role acquired gen
    · rw [View.become_role_of_ne v r same] at role
      exact inv.missed t' id role acquired gen

/-- A goroutine without a window or a duty may take any role but the last two. -/
theorem become_of_none (inv : Covered v) {r : Role} (takes : (v.role t).takes = none)
    (duty : (v.role t).duty = none) (last : ∀ id, r ≠ .leaving id ∧ r ≠ .draining id) :
    Covered (v.become t r) := by
  refine inv.become (fun i has => ?_) (fun id has => ?_) fun id role => ?_
  · rw [takes] at has
    cases has
  · rw [duty] at has
    cases has
  · rcases role with role | role
    · exact absurd role (last id).1
    · exact absurd role (last id).2

/-- A duty may go on under another role. -/
theorem become_of_duty (inv : Covered v) {r : Role} {id : UInt64} (takes : (v.role t).takes = none)
    (duty : (v.role t).duty = some id) (same : r.duty = some id)
    (last : ∀ id, r ≠ .leaving id ∧ r ≠ .draining id) : Covered (v.become t r) := by
  refine inv.become (fun i has => ?_) (fun id' has _ _ => ?_) fun id role => ?_
  · rw [takes] at has
    cases has
  · rw [← has, duty]
    exact .inl same
  · rcases role with role | role
    · exact absurd role (last id).1
    · exact absurd role (last id).2

theorem become_of_takes (inv : Covered v) {r : Role} {i : UInt32}
    (takes : (v.role t).takes = some i) (still : r.takes = some i)
    (duty : (v.role t).duty = none) : Covered (v.become t r) := by
  refine inv.become (fun j has => ?_) (fun id has => ?_) fun id role => ?_
  · rwa [still, ← takes]
  · rw [duty] at has
    cases has
  · rcases role with rfl | rfl <;> cases still

theorem setOwner (inv : Covered v) (i pid : UInt32) : Covered (v.setOwner i pid) :=
  ⟨inv.states, inv.covered, inv.missed⟩

theorem note (inv : Covered v) (e : Mark n) : Covered (v.note e) :=
  ⟨inv.states, inv.covered, inv.missed⟩

theorem setFree (inv : Covered v) (i : UInt32) :
    Covered (v.setState i layoutRespFree none) := by
  have other : ∀ {j}, (v.setState i layoutRespFree none).state j ≠ layoutRespFree →
      v.state j = (v.setState i layoutRespFree none).state j := by
    intro j taken
    by_cases same : j = i
    · simp [View.setState, same] at taken
    · simp [View.setState, same]
  refine ⟨fun j => ?_, fun j taken => ?_, fun t id role acquired gen => ?_⟩
  · by_cases free : (v.setState i layoutRespFree none).state j = layoutRespFree
    · exact .inl free
    · rw [← other free]
      exact inv.states j
  · exact inv.covered j (by rwa [other taken])
  · refine inv.missed t id role ?_ gen
    rwa [other (by rw [acquired]; decide)]

/-- Publishing a response changes no duty. -/
theorem publish (inv : Covered v) {i : UInt32} (acquired : v.state i = layoutRespAcquired) :
    Covered { v with state := Function.update v.state i layoutRespReady } := by
  refine ⟨fun j => ?_, fun j taken => ?_, fun t id role taken gen => ?_⟩
  · by_cases same : j = i
    · simp [same]
    · simpa [same] using inv.states j
  · refine inv.covered j fun free => taken ?_
    have other : j ≠ i := by
      rintro rfl
      rw [free] at acquired
      exact absurd acquired (by decide)
    simpa [other] using free
  · refine inv.missed t id role ?_ gen
    by_cases same : idSlot id = i
    · simp [same, layoutRespReady, layoutRespAcquired] at taken
    · simpa [same] using taken

/-- A generation is incremented while the slot is FREE or in the window of an acquisition.
-/
theorem bump (inv : Covered v) {i : UInt32}
    (window : v.state i ≠ layoutRespFree → v.InWindow i) : Covered (v.bump i) := by
  refine ⟨inv.states, fun j taken => ?_, fun t id role acquired gen => ?_⟩
  · by_cases same : j = i
    · subst same
      exact .inl (window taken)
    · rcases inv.covered j taken with open_ | ⟨t, id, duty, slot, gen⟩
      · exact .inl open_
      · exact .inr ⟨t, id, duty, slot, by simpa [View.bump, same] using gen⟩
  · by_cases same : idSlot id = i
    · rw [same]
      refine window ?_
      rw [← same, show v.state (idSlot id) = layoutRespAcquired from acquired]
      decide
    · exact inv.missed t id role acquired (by simpa [View.bump, same] using gen)

theorem take (inv : Covered v) {i : UInt32} (takes : (v.role t).takes = none)
    (duty : (v.role t).duty = none) :
    Covered ((v.setState i layoutRespAcquired (some t)).become t (.taking i .own)) := by
  have here : ((v.setState i layoutRespAcquired (some t)).become t (.taking i .own)).InWindow i :=
    ⟨t, by simp [Role.takes]⟩
  have kept : ∀ {j}, v.InWindow j →
      ((v.setState i layoutRespAcquired (some t)).become t (.taking i .own)).InWindow j := by
    intro j window
    refine View.InWindow.become (v := v.setState i layoutRespAcquired (some t)) window ?_
    intro k has
    rw [show (v.setState i layoutRespAcquired (some t)).role t = v.role t from rfl, takes] at has
    cases has
  refine ⟨fun j => ?_, fun j taken => ?_, fun t' id role acquired gen => ?_⟩
  · by_cases same : j = i
    · simp [View.become, View.setState, same]
    · simpa [View.become, View.setState, same] using inv.states j
  · by_cases same : j = i
    · exact .inl (same ▸ here)
    · rcases inv.covered j (by simpa [View.become, View.setState, same] using taken) with
        window | ⟨t', id, has, slot, gen⟩
      · exact .inl (kept window)
      · have other : t' ≠ t := by
          rintro rfl
          rw [duty] at has
          cases has
        exact .inr ⟨t', id, by rwa [View.become_role_of_ne _ _ other], slot, gen⟩
  · by_cases same : idSlot id = i
    · exact same ▸ here
    · have other : t' ≠ t := by
        rintro rfl
        simp at role
      rw [View.become_role_of_ne _ _ other] at role
      exact kept (inv.missed t' id role
        (by simpa [View.become, View.setState, same] using acquired) gen)

/-- The last increment of an acquisition: the window becomes a duty. -/
theorem inc (inv : Covered v) (ids : Ids S g₀ v) {i : UInt32} {p : Taking}
    (role : v.role t = .taking i p) (fresh : ¬ v.Issued (packId (v.gen i + 1) i)) :
    Covered (((v.bump i).note (.acquired t (packId (v.gen i + 1) i))).become t
      (.unsent (packId (v.gen i + 1) i))) := by
  have kept : ∀ {j}, j ≠ i → v.InWindow j → (((v.bump i).note
      (.acquired t (packId (v.gen i + 1) i))).become t (.unsent (packId (v.gen i + 1) i))).InWindow
      j := by
    rintro j other ⟨t', takes⟩
    refine ⟨t', ?_⟩
    have thread : t' ≠ t := by
      rintro rfl
      rw [role] at takes
      exact other (Option.some.inj takes).symm
    rwa [View.become_role_of_ne _ _ thread]
  have gen_other : ∀ {j}, j ≠ i → (v.bump i).gen j = v.gen j := fun other => by
    simp [View.bump, other]
  refine ⟨inv.states, fun j taken => ?_, fun t' id role' acquired gen => ?_⟩
  · by_cases same : j = i
    · subst same
      refine .inr ⟨t, _, by rw [View.become_role]; rfl, idSlot_packId _ _, ?_⟩
      simp [View.become, View.note, View.bump]
    · rcases inv.covered j taken with window | ⟨t', id, has, slot, gen⟩
      · exact .inl (kept same window)
      · have other : t' ≠ t := by
          rintro rfl
          rw [role] at has
          cases has
        refine .inr ⟨t', id, by rwa [View.become_role_of_ne _ _ other], slot, ?_⟩
        exact (gen_other same).trans gen
  · have other : t' ≠ t := by
      rintro rfl
      simp at role'
    rw [View.become_role_of_ne _ _ other] at role'
    by_cases same : idSlot id = i
    · -- the generation is one that nobody else has
      refine absurd (ids.issued_of_role (show (v.role t').id = some id from ?_)) ?_
      · rcases role' with role' | role' <;> exact congrArg Role.id role'
      · have gen : v.gen i + 1 = idGen id := by
          simpa [View.become, View.note, View.bump, same] using gen
        rwa [← packId_idGen_idSlot id, ← gen, same]
    · exact kept same (inv.missed t' id role' acquired ((gen_other same).symm.trans gen))

/-- A cancellation goes on after the slot was not its own, or not its to free. -/
theorem cancelled (inv : Covered v) (ids : Ids S g₀ v) {id : UInt64} {p : Cancelling} {next : Role}
    (role : v.role t = .cancelling id p next)
    (miss : v.gen (idSlot id) = idGen id → v.state (idSlot id) ≠ layoutRespAcquired) :
    Covered (v.become t next) := by
  have roles := ids.roles t
  rw [role] at roles
  rcases roles with ⟨-, rfl | ⟨rfl, -⟩⟩
  · refine inv.become_of_none (by rw [role]; rfl) ?_ fun _ => ⟨nofun, nofun⟩
    rw [role]
    cases p <;> rfl
  · refine inv.become (fun i has => ?_) (fun id' has _ _ => .inl ?_) fun id' role' acquired gen =>
      ?_
    · rw [role] at has
      cases has
    · rw [role] at has
      cases p <;> first | exact has | cases has
    · obtain rfl : id = id' := by simpa using role'
      exact absurd acquired (miss gen)

end Covered

/-- A late increment hits no slot that is in use. -/
def BumpsHarmless (v : View n) : Label → Prop
  | .bump id => v.state (idSlot id) ≠ layoutRespFree → v.InWindow (idSlot id)
  | _ => True

instance (v : View n) (l : Label) : Decidable (BumpsHarmless v l) := by
  unfold BumpsHarmless
  split <;> infer_instance

/-- A harmless step leaves no slot behind. -/
theorem Covered.step (inv : Covered v) (ids : Ids S g₀ v) (healthy' : v'.Healthy)
    (move : Move S v t label v') (harmless : ∀ l, label = some l → BumpsHarmless v l) :
    Covered v' := by
  have few := healthy'.few
  cases move with
  | take role bound free =>
    rcases role with role | role <;> exact inv.take (by rw [role]; rfl) (by rw [role]; rfl)
  | own role =>
    exact (inv.setOwner _ _).become_of_takes (congrArg Role.takes role) rfl
      (congrArg Role.duty role)
  | incZero role zero =>
    refine (inv.bump fun _ => ⟨t, congrArg Role.takes role⟩).become_of_takes
      (congrArg Role.takes role) rfl (congrArg Role.duty role)
  | inc role last =>
    exact inv.inc ids role
      (ids.not_issued few role last (by simp [View.become, View.note, View.bump]))
  | condemn role | fail role | writeState role | writeStop role | recoverMiss role | answer role
  | reply role | refuse role | recv role =>
    refine become_of_none ?_ (congrArg Role.takes role) (congrArg Role.duty role)
      fun _ => ⟨(by rintro ⟨⟩), (by rintro ⟨⟩)⟩
    exact ⟨inv.states, inv.covered, inv.missed⟩
  | writeGen role =>
    exact inv.become_of_none (congrArg Role.takes role) (congrArg Role.duty role)
      fun _ => ⟨(by rintro ⟨⟩), (by rintro ⟨⟩)⟩
  | clear role => 
    exact (inv.setOwner _ _).become_of_none (congrArg Role.takes role) (congrArg Role.duty role)
      fun _ => ⟨(by rintro ⟨⟩), (by rintro ⟨⟩)⟩
  | free role =>
    exact (inv.setFree _).become_of_none (congrArg Role.takes role) (congrArg Role.duty role)
      fun _ => ⟨(by rintro ⟨⟩), (by rintro ⟨⟩)⟩
  | hint role =>
    refine become_of_duty ?_ (congrArg Role.takes role) (congrArg Role.duty role) rfl
      fun _ => ⟨(by rintro ⟨⟩), (by rintro ⟨⟩)⟩
    exact ⟨inv.states, inv.covered, inv.missed⟩
  | @send id role =>
    have given : v.Issued id := ids.issued_of_role (congrArg Role.id role)
    rw [if_pos (ids.nonzero id given)]
    refine become_of_duty ?_ (congrArg Role.takes role) (congrArg Role.duty role) rfl
      fun _ => ⟨(by rintro ⟨⟩), (by rintro ⟨⟩)⟩
    exact ⟨inv.states, inv.covered, inv.missed⟩
  | drop role | look role | readLong role | drainFree role =>
    exact inv.become_of_duty (congrArg Role.takes role) (congrArg Role.duty role) rfl
      fun _ => ⟨(by rintro ⟨⟩), (by rintro ⟨⟩)⟩
  | read role =>
    rcases role with ⟨role, -⟩ | ⟨role, -⟩ <;>
      exact inv.become_of_duty (congrArg Role.takes role) (congrArg Role.duty role) rfl
        fun _ => ⟨(by rintro ⟨⟩), (by rintro ⟨⟩)⟩
  | giveUp role =>
    rcases role with role | role <;>
      exact inv.become_of_duty (congrArg Role.takes role) (congrArg Role.duty role) rfl
        fun _ => ⟨(by rintro ⟨⟩), (by rintro ⟨⟩)⟩
  | readLen role | readByte role =>
    refine inv.become_of_duty (congrArg Role.takes role) (congrArg Role.duty role) ?_ ?_
    · unfold Role.readNext
      split <;> rfl
    · unfold Role.readNext
      split <;> exact fun _ => ⟨(by rintro ⟨⟩), (by rintro ⟨⟩)⟩
  | releaseOwner role =>
    exact ((inv.setOwner _ _).note _).become_of_duty (congrArg Role.takes role)
      (congrArg Role.duty role) rfl fun _ => ⟨(by rintro ⟨⟩), (by rintro ⟨⟩)⟩
  | releaseState role =>
    have roles := ids.roles t
    rw [role] at roles
    refine (inv.setFree _).become (fun i has => ?_) (fun id has taken => ?_) fun id last => ?_
    · cases (congrArg Role.takes role).symm.trans has
    · obtain rfl := Option.some.inj ((congrArg Role.duty role).symm.trans has)
      simp [View.setState] at taken
    · rcases roles.2 with rfl | ⟨bytes, rfl⟩ | rfl <;> simp [Role.givingUp] at last
  | cancelMiss role miss =>
    refine inv.cancelled ids role fun gen => ?_
    rcases miss with beyond | moved
    · have bound := ids.bound _ (ids.issued_of_role (congrArg Role.id role))
      exact absurd bound (UInt32.not_lt.mpr beyond)
    · exact absurd gen moved
  | casMiss role other => exact inv.cancelled ids role fun _ => other
  | @cancelHit id next role gen =>
    refine inv.become (fun i has => ?_) (fun id has _ _ => .inl ?_) fun id last => ?_
    · cases (congrArg Role.takes role).symm.trans has
    · rw [role] at has
      cases next <;> exact has
    · simp at last
  | @casHit id next role acquired =>
    refine ((inv.setFree _).note _).become (fun i has => ?_) (fun id' has taken => ?_)
      fun id last => ?_
    · cases (congrArg Role.takes role).symm.trans has
    · have has := (congrArg Role.duty role).symm.trans has
      obtain rfl : id = id' := by
        cases next <;> first | exact Option.some.inj has | cases has
      simp [View.note, View.setState] at taken
    · simp at last
  | cancelOwner role =>
    exact (inv.setOwner _ _).become_of_none (congrArg Role.takes role) (congrArg Role.duty role)
      fun _ => ⟨(by rintro ⟨⟩), (by rintro ⟨⟩)⟩
  | @cancelBump id next role =>
    have bumped := inv.bump (harmless _ rfl)
    have given : v.Issued id := ids.issued_of_role (congrArg Role.id role)
    have roles := ids.roles t
    rw [role] at roles
    rcases roles.2 with rfl | ⟨rfl, -⟩
    · exact bumped.become_of_none (congrArg Role.takes role) (congrArg Role.duty role)
        fun _ => ⟨(by rintro ⟨⟩), (by rintro ⟨⟩)⟩
    · refine bumped.become (fun i has => ?_) (fun id' has => ?_) fun id' last _ gen => ?_
      · cases (congrArg Role.takes role).symm.trans has
      · cases (congrArg Role.duty role).symm.trans has
      · obtain rfl : id = id' := by simpa using last
        have few := healthy'.few (idSlot id)
        simp only [View.become, View.bump, Function.update_self] at few gen
        exact absurd gen (ids.gen_succ_ne few given)
  | @drainMiss id role miss =>
    refine inv.become (fun i has => ?_) (fun id' has _ gen => ?_) fun id last => ?_
    · cases (congrArg Role.takes role).symm.trans has
    · obtain rfl := Option.some.inj ((congrArg Role.duty role).symm.trans has)
      rcases miss with beyond | moved
      · have bound := ids.bound _ (ids.issued_of_role (congrArg Role.id role))
        exact absurd bound (UInt32.not_lt.mpr beyond)
      · exact absurd gen moved
    · simp at last
  | @drainHit id role =>
    refine inv.become (fun i has => ?_) (fun id' has _ _ => ?_) fun id' last => ?_
    · cases (congrArg Role.takes role).symm.trans has
    · exact .inl ((congrArg Role.duty role).symm.trans has)
    · obtain rfl : id = id' := by simpa using last
      exact inv.missed t id (.inl role)
  | @drainEnd id role other =>
    refine inv.become (fun i has => ?_) (fun id' has taken gen => ?_) fun id last => ?_
    · cases (congrArg Role.takes role).symm.trans has
    · obtain rfl := Option.some.inj ((congrArg Role.duty role).symm.trans has)
      refine .inr (inv.missed t id (.inr role) ?_ gen)
      rcases inv.states (idSlot id) with free | acquired | ready
      · exact absurd free taken
      · exact acquired
      · exact absurd ready other
    · simp at last
  | writeByte role | writeLen role =>
    refine become_of_none ?_ (congrArg Role.takes role) (congrArg Role.duty role)
      fun _ => ⟨(by rintro ⟨⟩), (by rintro ⟨⟩)⟩
    exact ⟨inv.states, inv.covered, inv.missed⟩
  | publish role acquired =>
    exact (inv.publish acquired).become_of_none (congrArg Role.takes role) (congrArg Role.duty role)
      fun _ => ⟨(by rintro ⟨⟩), (by rintro ⟨⟩)⟩

/-! ## The runs -/

/-- Not in a call of `Query`, nor with a request: at most waiting for one. -/
def Pc.Finished : Pc → Prop
  | .idle | .recvTry _ | .recvLoadSeq | .recvErr _ | .recvAddWaiters _ | .recvFutexWait _
  | .recvAsleep | .recvSubWaiters | .recvErrAfter => True
  | _ => False

instance : ∀ pc : Pc, Decidable pc.Finished
  | .idle | .recvTry _ | .recvLoadSeq | .recvErr _ | .recvAddWaiters _ | .recvFutexWait _
  | .recvAsleep | .recvSubWaiters | .recvErrAfter => inferInstanceAs (Decidable True)
  | .wakeBump .. | .wakeLoad .. | .wakeCall .. | .acqHint .. | .acqCas .. | .acqOwner ..
  | .acqGen .. | .acqGenAgain .. | .acqStoreHint .. | .recState .. | .recOwner .. | .recAlive ..
  | .recClear .. | .recFree .. | .recStat .. | .recGrab .. | .releaseOwner .. | .releaseState ..
  | .send .. | .sendLoadSeq .. | .sendTimeout .. | .sendAddWaiters .. | .sendFutexWait ..
  | .sendAsleep .. | .sendSubWaiters .. | .sendErr | .spinErr .. | .spinGen .. | .spinState ..
  | .waitAdd .. | .waitState .. | .waitGen .. | .waitErr .. | .waitTimeout .. | .waitFutexWait ..
  | .waitAsleep .. | .waitErrAfter .. | .waitLeave .. | .answer .. | .readLen .. | .readCopy ..
  | .cancelGen .. | .cancelCas .. | .cancelOwner .. | .cancelBump .. | .cancelLoad ..
  | .cancelWake .. | .drainGen .. | .drainState .. | .handle .. | .writeState .. | .writeGen ..
  | .writeCopy .. | .writeLen .. | .writeFlags .. | .writeCas .. | .writeLoad .. | .writeWake ..
  | .writeStat => inferInstanceAs (Decidable False)

theorem Pc.Finished.role {pc : Pc} (finished : pc.Finished) : pc.role = .idle := by
  cases pc <;> first | rfl | exact finished.elim

theorem Start.covered {c : Cfg n} (start : Start S c) : Covered c.view := by
  refine ⟨fun i => .inl (start.free i), fun i taken => absurd (start.free i) taken, ?_⟩
  intro t id role
  rw [start.role t] at role
  simp at role

/-- No response slot leaks. In every run without deaths in which no late
generation increment of a `cancelRequest` hits a slot that is in use again, the
slots are free whenever all goroutines are finished. -/
theorem no_slot_leaks (queueOk : S.shm.QueueOk) {c c' : Cfg n} {acts : List (Act n)}
    (start : Start S c) (ran : c.steps S acts = some c')
    (harmless : Runs.Always (Cfg.step S) (Guarded S BumpsHarmless) c acts)
    (healthy : c'.view.Healthy) (finished : ∀ t, (c'.thr t).pc.Finished) (i : UInt32) :
    c'.state i = layoutRespFree := by
  have inv : Covered c'.view := (healthy_invariant queueOk Covered
    (fun v t label v' ids _ healthy' move ok inv => inv.step ids healthy' move ok) start
    start.covered ran harmless healthy).2
  have idle : ∀ t, c'.view.role t = .idle := fun t => (finished t).role
  by_contra taken
  rcases inv.covered i taken with ⟨t, takes⟩ | ⟨t, id, duty, -⟩
  · rw [idle t] at takes
    cases takes
  · rw [idle t] at duty
    cases duty

/-- The handler fails, the request is cancelled, and its client gives up. -/
def failedRequest : List (Act 2) :=
  [[.query 0 [1]], go 0 8, [.serve 1], go 1 11, [.cancelCtx 0], go 0 3].flatten

theorem no_slot_leaks_failedRequest :
    ∃ c', (freshCfg 2).steps (tinySetup 2) failedRequest = some c' ∧
      c'.state 0 = layoutRespFree := by
  have ends : ((freshCfg 2).steps (tinySetup 2) failedRequest).any
      (fun c => decide (∀ t, (c.thr t).pc.Finished)) = true := by decide +kernel
  obtain ⟨c', ran, last⟩ := (Option.any_eq_true _ _).mp ends
  have finished := of_decide_eq_true last
  have healthy := (freshCfg_start 2).healthy (by decide) ran (by decide) (by decide)
  have harmless : Runs.Always (Cfg.step (tinySetup 2)) (Guarded (tinySetup 2) BumpsHarmless)
      (freshCfg 2) failedRequest := by decide +kernel
  exact ⟨c', ran, no_slot_leaks (by decide) (freshCfg_start 2) ran harmless healthy finished 0⟩

/-- As before, but the increment of the cancellation waits until another client
has the slot: its id is no longer that of the slot, so neither it nor its server
frees the slot. -/
def lateIncrement : List (Act 3) :=
  [[.query 0 [1]], go 0 8, [.serve 1], go 1 6, [.cancelCtx 0], go 0 5, [.query 2 [2]], go 2 8,
    go 1 5, [.cancelCtx 2], go 2 3, [.serve 1], go 1 3, [.run 1 { reply := some [7] }],
    go 1 2].flatten

theorem lateIncrement_leaks :
    ∃ c', (freshCfg 3).steps (tinySetup 3) lateIncrement = some c' ∧ c'.view.Healthy ∧
      (∀ t, (c'.thr t).pc = .idle) ∧ c'.pending = [] ∧ c'.state 0 = layoutRespAcquired := by
  have ends : ((freshCfg 3).steps (tinySetup 3) lateIncrement).any (fun c =>
      decide ((∀ t, (c.thr t).pc = .idle) ∧ c.pending = [] ∧ c.state 0 = layoutRespAcquired)) =
      true := by
    decide +kernel
  obtain ⟨c', ran, last⟩ := (Option.any_eq_true _ _).mp ends
  have leaked := of_decide_eq_true last
  have healthy := (freshCfg_start 3).healthy (by decide) ran (by decide) (by decide)
  exact ⟨c', ran, healthy, leaked⟩

end ReqRep
