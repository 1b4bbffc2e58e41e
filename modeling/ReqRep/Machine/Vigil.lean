import ReqRep.Machine.Attended

/-!
# Every step keeps the accounts

What the operations of the machine do for each wake word, and that the accounts
of the words are kept by every step that is fair to them.
-/

namespace ReqRep

variable {n : Nat} {S : Setup n} {T T' : Tally n} {c c' c₀ : Cfg n} {t u : Fin n} {w : WakeWord}
  {ck : Check} {ans : Answer n}

/-! ## What an operation tells -/

/-- A step that the word does not tell of: nothing is missed that was not, and the
goroutine stays in or out of the wake helper. -/
theorem Tells.still {woken : List (Fin n)} (pc : Pc) (here : (c'.thr t).pc = pc)
    (missed : ∀ ck, ck.word = w → c'.missed S ck = c.missed S ck)
    (silent : (c.thr t).pc.bumps ≠ some w)
    (due : decide (pc.due = some w) = decide ((c.thr t).pc.due = some w))
    (unsaid : decide (pc.unsaid = some w) = decide ((c.thr t).pc.unsaid = some w))
    (checks : ∀ ck, pc.checks = some ck → ck.word = w →
      (∃ ck₀, (c.thr t).pc.checks = some ck₀ ∧ ck₀.word = w ∧ c.missed S ck ≤ c.missed S ck₀) ∨
        c.missed S ck = 0)
    (awake : pc.sleepsOn ≠ some w)
    (stays : (c.thr t).pc.loops w = true → pc.loops w = true ∨
      pc = .idle ∧ (c.thr t).live w = false)
    (unsettled : Pc.settles w (c.thr t).pc pc = true → pc = .idle) : Tells S c t woken w c' := by
  refine .moves pc here (fun ck word => ?_) ?_ silent (fun ck found word => ?_) awake stays
    unsettled
  · rw [missed ck word]
    simp only [one, unsaid, le_refl]
  · simp only [one, due, unsaid]
  · rw [missed ck word]
    refine (checks ck found word).imp_left fun ⟨ck₀, found₀, word₀, less⟩ =>
      ⟨ck₀, found₀, word₀, ?_⟩
    simp only [one, unsaid]
    omega

theorem unsettled_of_useless {before pc : Pc} (useless : before.uses = false)
    (awake : pc.sleepsOn ≠ some w) (settled : Pc.settles w before pc = true) : pc = .idle := by
  simp only [Pc.settles, awake, decide_false, Bool.or_false] at settled
  cases before <;> first | (cases useless; done) | (cases w <;> simpa using settled)

/-- A gliding step tells nothing. -/
theorem Glides.tells {woken : List (Fin n)} {pc : Pc} (glides : Glides (c.thr t) pc)
    (here : (c'.thr t).pc = pc) (missed : ∀ ck, c'.missed S ck = c.missed S ck) :
    Tells S c t woken w c' := by
  refine .still pc here (fun ck _ => missed ck) (by rw [glides.silent]; nofun)
    (by rw [glides.due]) (by rw [glides.unsaid]) (fun ck found word => .inl ⟨ck, ?_, word, le_rfl⟩)
    (by rw [glides.awake]; nofun) (glides.stays w)
    (unsettled_of_useless glides.useless (by rw [glides.awake]; nofun))
  rcases glides.checks with same | none
  · rw [← same, found]
  · rw [none] at found
    cases found

/-- A sender that has failed has not looked for requests. -/
theorem checks_ne_recv {a : Attempt} {pc : Pc} (loaded : pc.loaded = a.loaded)
    (checks : pc.checks = some ck) : ck.word ≠ .recv := by
  obtain ⟨f, same⟩ := loaded_of_checks checks
  rw [loaded] at same
  rcases a with _ | ⟨noSlots, fseq⟩ | _
  · cases same
  · have word : sendWord noSlots = ck.word := congrArg Prod.fst (Option.some.inj same)
    rw [← word]
    cases noSlots <;> nofun
  · cases same

/-- The second pass keeps what the first one has looked for. -/
theorem checks_recover {s : Shm} {a : Attempt} {i : UInt32}
    (checks : (Pc.recover s a i).checks = some ck) :
    (∃ fseq, a = .second false fseq ∧ ck = .whole .send) ∨
      ∃ fseq, a = .second true fseq ∧ ck = .whole .slot := by
  unfold Pc.recover at checks
  rcases a with _ | ⟨_ | _, fseq⟩ | _ <;> split at checks <;> cases checks
  · exact .inl ⟨fseq, rfl, rfl⟩
  · exact .inr ⟨fseq, rfl, rfl⟩
  · exact .inr ⟨fseq, rfl, rfl⟩

theorem checks_of_attempt {a : Attempt} {pc : Pc} (attempt : pc.attempt = some a)
    (checks : pc.checks = some ck) : ck.word = .slot := by
  cases pc with
  | acqCas a hint i | recState a i | recOwner a i state | recAlive a i state pid =>
    rcases a with _ | ⟨_ | _, fseq⟩ | _ <;> cases checks
    rfl
  | _ => first | (cases attempt; done) | cases checks

/-- The attempts of a sender tell receivers nothing. -/
theorem tells_recv {woken : List (Fin n)} {a : Attempt} {pc : Pc}
    (before : (c.thr t).pc.attempt = some a) (here : (c'.thr t).pc = pc)
    (pending : c'.pending = c.pending) (within : pc.Within a) : Tells S c t woken .recv c' := by
  have silent := Pc.of_attempt before
  obtain ⟨due, unsaid, -, awake, -⟩ := Pc.of_plain within.plain
  refine .still pc here (fun ck word => missed_queue pending (by rw [word]; nofun))
    (by rw [silent.silent]; nofun) (by rw [silent.due, due]) (by rw [silent.unsaid, unsaid])
    (fun ck found word => absurd word (checks_ne_recv within.loaded found)) (by rw [awake]; nofun)
    (fun loops => ?_) (fun settled => ?_)
  · cases at' : (c.thr t).pc <;> rw [at'] at before loops <;>
      first | (cases before; done) | cases loops
  · cases at' : (c.thr t).pc <;> rw [at'] at before settled <;>
      first | (cases before; done) | simpa [Pc.settles, awake] using settled

/-- What an operation does for each word. -/
theorem Signals.tells {c' : Cfg n} (signals : Signals S T.cfg t ans.woken c')
    (fair : Fair S w T (.run t ans)) (flat : (T.cfg.thr t).pc.Flat)
    (calm : w ≠ .recv → (∀ pid, T.cfg.dead pid = false) ∧
      ∀ u, (T.cfg.thr u).pc.condemns = false)
    (slots : w ≠ .recv → 0 < S.shm.respSlots) : Tells S T.cfg t ans.woken w c' := by
  cases signals with
  | quiet c₀ pc agrees glides now =>
    subst now
    exact glides.tells (goto_pc ..) agrees.missed
  | wakes i k c₀ pc woke glides now =>
    subst now
    have missed := missed_futexWake woke
    exact glides.tells (goto_pc ..) missed
  | load s here now =>
    subst now
    refine .still _ (goto_pc ..) (fun ck _ => rfl) (by rw [here]; cases s <;> rintro ⟨⟩)
      (by rw [here]; cases s <;> rfl) (by rw [here]; cases s <;> rfl)
      (fun ck found => by cases s <;> cases found) (by cases s <;> rintro ⟨⟩) ?_
      (unsettled_of_useless (by rw [here]; cases s <;> rfl) (by cases s <;> rintro ⟨⟩))
    rw [here]
    cases s <;> cases w <;> first | exact fun _ => .inl rfl | rintro ⟨⟩
  | bump w' next here now =>
    subst now
    have missed : ∀ ck, (T.cfg.store w'.futex (T.cfg.seq w' + 1)).missed S ck =
        T.cfg.missed S ck := missed_store _ (by cases w' <;> rintro _ ⟨⟩)
    by_cases same : w' = w
    · subst same
      exact .bump next here (goto_pc ..) missed
    · refine .still _ (goto_pc ..) (fun ck _ => missed ck)
        (by rw [here]; simpa [Pc.bumps] using same) (by rw [here]; rfl)
        (by rw [here]; simpa [Pc.unsaid] using same)
        (fun ck found word => .inl ⟨ck, ?_, word, le_rfl⟩)
        (by rintro ⟨⟩) ?_ (unsettled_of_useless (by rw [here]; rfl) (by rintro ⟨⟩))
      · rw [here]
        exact Option.filter_eq_some_iff.mpr ⟨found, decide_eq_true (word ▸ Ne.symm same)⟩
      · rw [here]
        intro loops
        exact .inl (by cases w' <;> cases w <;> exact loops)
  | quit w' next here none now =>
    subst now
    rw [here] at flat
    obtain ⟨due, unsaid, -, awake, -⟩ := Pc.of_plain flat.1
    by_cases same : w' = w
    · subst same
      exact .quit next here none (goto_pc ..) fun ck => rfl
    · refine .still _ (goto_pc ..) (fun ck _ => rfl) (by rw [here]; rintro ⟨⟩)
        (by rw [here, due]; simp [Pc.due, same]) (by rw [here, unsaid]; rfl)
        (fun ck found word => .inl ⟨ck, by rw [here]; exact found, word, le_rfl⟩)
        (by rw [awake]; rintro ⟨⟩) ?_ (by rw [here]; exact unsettled_next flat.1 ⟨w', .inl rfl⟩)
      rw [here]
      cases w <;> cases w' <;> first | exact .inl | rintro ⟨⟩
  | call w' next c₀ here woke now =>
    by_cases same : w' = w
    · subst same
      exact .call next c₀ here woke now
    · subst now
      rw [here] at flat
      obtain ⟨due, unsaid, -, awake, -⟩ := Pc.of_plain flat.1
      have missed := missed_futexWake woke
      refine .still _ (goto_pc ..) (fun ck _ => missed ck) (by rw [here]; rintro ⟨⟩)
        (by rw [here, due]; simp [Pc.due, same]) (by rw [here, unsaid]; rfl)
        (fun ck found word => .inl ⟨ck, by rw [here]; exact found, word, le_rfl⟩)
        (by rw [awake]; rintro ⟨⟩) ?_ (by rw [here]; exact unsettled_next flat.1 ⟨w', .inr rfl⟩)
      rw [here]
      cases w <;> cases w' <;> first | exact .inl | rintro ⟨⟩
  | join s f here now =>
    subst now
    have missed := missed_store (S := S) (c := T.cfg) (T.cfg.waiting s.word + 1)
      (l := s.word.waiters) (by rcases s with ⟨_ | _⟩ | _ <;> rintro _ ⟨⟩)
    refine .still _ (goto_pc ..) (fun ck _ => missed ck) (by rw [here]; cases s <;> rintro ⟨⟩)
      (by rw [here]; cases s <;> rfl) (by rw [here]; cases s <;> rfl)
      (fun ck found word => .inl ⟨ck, ?_, word, le_rfl⟩) (by cases s <;> rintro ⟨⟩) ?_
      (unsettled_of_useless (by rw [here]; cases s <;> rfl) (by cases s <;> rintro ⟨⟩))
    · rw [here]
      cases s <;> exact found
    · rw [here]
      cases s <;> cases w <;> first | exact fun _ => .inl rfl | rintro ⟨⟩
  | wait s f here now =>
    have missed : ∀ ck, c'.missed S ck = T.cfg.missed S ck := fun ck => by
      rw [now]
      exact missed_congr rfl rfl ck
    have pc : (c'.thr t).pc = if T.cfg.seq s.word = f then s.asleep else s.asleep.awake := by
      rw [now, Cfg.futexWait, goto_pc]
      rfl
    by_cases sleeps : T.cfg.seq s.word = f ∧ s.word = w
    · obtain ⟨same, rfl⟩ := sleeps
      rw [if_pos same] at pc
      exact .sleep s f rfl here same pc missed
    · have awake : (if T.cfg.seq s.word = f then s.asleep else s.asleep.awake).sleepsOn ≠
          some w := by
        split
        · next same =>
          intro asleep
          refine sleeps ⟨same, ?_⟩
          cases s <;> exact Option.some.inj asleep
        · rw [awake_sleepsOn]
          rintro ⟨⟩
      refine .still _ pc (fun ck _ => missed ck) (by rw [here]; cases s <;> rintro ⟨⟩) ?_ ?_
        (fun ck found => ?_) awake ?_ (unsettled_of_useless (by rw [here]; cases s <;> rfl) awake)
      · rw [here]
        split <;> cases s <;> rfl
      · rw [here]
        split <;> cases s <;> rfl
      · split at found <;> cases s <;> cases found
      · rw [here]
        split <;> cases s <;> cases w <;> first | exact fun _ => .inl rfl | rintro ⟨⟩
  | leave s here now =>
    subst now
    have missed := missed_store (S := S) (c := T.cfg) (T.cfg.waiting s.word - 1)
      (l := s.word.waiters) (by rcases s with ⟨_ | _⟩ | _ <;> rintro _ ⟨⟩)
    refine .still _ (goto_pc ..) (fun ck _ => missed ck) (by rw [here]; cases s <;> rintro ⟨⟩)
      (by rw [here]; cases s <;> rfl) (by rw [here]; cases s <;> rfl)
      (fun ck found => by cases s <;> cases found) (by cases s <;> rintro ⟨⟩) ?_
      (unsettled_of_useless (by rw [here]; cases s <;> rfl) (by cases s <;> rintro ⟨⟩))
    rw [here]
    cases s <;> cases w <;> first | exact fun _ => .inl rfl | rintro ⟨⟩
  | enqueue a id c₀ here room agrees now =>
    subst now
    have length : c₀.pending.length = T.cfg.pending.length + 1 := by
      rw [agrees.pending]
      exact List.length_append ..
    have silent : w ≠ .recv → (Pc.wakeBump .recv (.sent a id)).checks = Option.none := by
      intro sends
      have issued : id ≠ 0 := by
        rintro rfl
        exact fair.ids sends t rfl (by rw [here]; rfl)
      rw [Pc.checks, (Pc.outside_sent issued).checks]
      rfl
    cases w with
    | recv =>
      refine .moves _ (goto_pc ..) (fun ck word => ?_) (by rw [here]; rfl) (by rw [here]; rintro ⟨⟩)
        (fun ck found word => absurd word ?_) (by rintro ⟨⟩) (by rw [here]; rintro ⟨⟩)
        (by rw [here]; rintro ⟨⟩)
      · rw [whole_of_word word (by rintro ⟨⟩), here]
        exact Nat.le_of_eq length
      · exact of_decide_eq_true (Option.filter_eq_some_iff.mp found).2
    | send =>
      have less : (c₀.goto t (.wakeBump .recv (.sent a id))).missed S (.whole .send) + 1 ≤
          T.cfg.missed S (.whole .send) := by
        show S.shm.reqCap.toNat - c₀.pending.length + 1 ≤
          S.shm.reqCap.toNat - T.cfg.pending.length
        omega
      refine .uses _ (goto_pc ..) (fun ck word => ?_) (.inl less) (by rw [here]; exact ⟨rfl, rfl⟩)
        ⟨(by rintro ⟨⟩), (by rintro ⟨⟩)⟩ (by rw [here]; rintro ⟨⟩) (fun ck found => ?_)
        (by rintro ⟨⟩) (by rw [here]; rfl)
      · rw [whole_of_word word (by rintro ⟨⟩)]
        exact Nat.le_of_succ_le less
      · rw [silent (by rintro ⟨⟩)] at found
        cases found
    | slot =>
      refine .still _ (goto_pc ..) (fun ck word => missed_free ?_ word) (by rw [here]; rintro ⟨⟩)
        (by rw [here]; rfl) (by rw [here]; rfl) (fun ck found => ?_) (by rintro ⟨⟩)
        (by rw [here]; rintro ⟨⟩)
        (by rw [here]; rintro ⟨⟩)
      · exact agrees.free
      · rw [silent (by rintro ⟨⟩)] at found
        cases found
  | refuse a id c₀ here refused agrees now =>
    subst now
    have missed := agrees.missed (S := S)
    have within := Pc.within_sendFailed a false
    refine .still _ (goto_pc ..) (fun ck _ => missed ck) (by rw [here]; rintro ⟨⟩)
      (by rw [here]; rfl)
      (by rw [here]; rfl) (fun ck found word => ?_) (by rintro ⟨⟩) ?_
      (by rw [here]; cases w <;> rintro ⟨⟩)
    · obtain ⟨found, apart⟩ := Option.filter_eq_some_iff.mp found
      cases w with
      | recv => exact absurd word (checks_ne_recv within.loaded found)
      | slot => exact absurd word (of_decide_eq_true apart)
      | send =>
        -- the queue is full
        refine .inr ?_
        obtain ⟨w', refused⟩ := refused
        have full := fair.full rfl t rfl id (by rw [here]; rfl) (by rw [refused]; rfl)
        cases ck with
        | whole w' =>
          obtain rfl : w' = .send := word
          simp only [Cfg.missed, full, Nat.sub_self]
        | scanned hint i => cases word
    · rw [here]
      cases w with
      | recv => rintro ⟨⟩
      | slot => rintro ⟨⟩
      | send => exact fun _ => .inl within.sends
  | dequeue a id c₀ here first agrees now =>
    subst now
    have length : T.cfg.pending.length = c₀.pending.length + 1 := by
      rw [agrees.pending, first]
      rfl
    cases w with
    | recv =>
      have less : (c₀.goto t (.wakeBump .send (.handle id))).missed S (.whole .recv) + 1 ≤
          T.cfg.missed S (.whole .recv) := Nat.le_of_eq length.symm
      refine .uses _ (goto_pc ..) (fun ck word => ?_) (.inl less) (by rw [here]; exact ⟨rfl, rfl⟩)
        ⟨(by rintro ⟨⟩), (by rintro ⟨⟩)⟩ (by rw [here]; rintro ⟨⟩) (by rintro _ ⟨⟩) (by rintro ⟨⟩)
        (by rw [here]; rfl)
      rw [whole_of_word word (by rintro ⟨⟩)]
      exact Nat.le_of_succ_le less
    | send =>
      refine .moves _ (goto_pc ..) (fun ck word => ?_) (by rw [here]; rfl) (by rw [here]; rintro ⟨⟩)
        (by rintro _ ⟨⟩) (by rintro ⟨⟩) (by rw [here]; rintro ⟨⟩) (by rw [here]; rintro ⟨⟩)
      rw [whole_of_word word (by rintro ⟨⟩), here]
      show S.shm.reqCap.toNat - c₀.pending.length ≤ S.shm.reqCap.toNat - T.cfg.pending.length + 1
      omega
    | slot =>
      refine .still _ (goto_pc ..) (fun ck word => missed_free ?_ word) (by rw [here]; rintro ⟨⟩)
        (by rw [here]; rfl) (by rw [here]; rfl) (by rintro _ ⟨⟩) (by rintro ⟨⟩)
        (by rw [here]; rintro ⟨⟩)
        (by rw [here]; rintro ⟨⟩)
      exact agrees.free
  | empty a c₀ here none agrees now =>
    subst now
    have pending : c₀.pending = [] := agrees.pending.trans none
    have missed := agrees.missed (S := S)
    have word : ∀ ck, (Pc.recvFailed a).checks = some ck → ck.word = .recv := by
      intro ck found
      cases a <;> cases found
      rfl
    by_cases recv : w = .recv
    · subst recv
      have gone : ∀ ck, ck.word = .recv →
          (c₀.goto t (.recvFailed a)).missed S ck = 0 := by
        intro ck word
        rw [whole_of_word word (by rintro ⟨⟩)]
        exact congrArg List.length pending
      refine .uses _ (goto_pc ..) (fun ck word => ?_) (.inr (gone _ rfl))
        (by rw [here]; exact ⟨rfl, rfl⟩) ?_ (by rw [here]; rintro ⟨⟩)
        (fun ck _ word => gone ck word) ?_
        (by rw [here]; cases a <;> rfl)
      · rw [gone ck word]
        exact Nat.zero_le _
      · cases a <;> exact ⟨(by rintro ⟨⟩), (by rintro ⟨⟩)⟩
      · cases a <;> rintro ⟨⟩
    · refine .still _ (goto_pc ..) (fun ck _ => missed ck) (by rw [here]; rintro ⟨⟩)
        (by rw [here]; cases a <;> rfl) (by rw [here]; cases a <;> rfl)
        (fun ck found same => absurd ((word ck found).symm.trans same) (Ne.symm recv))
        (by cases a <;> rintro ⟨⟩) ?_ ?_
      · rw [here]
        cases w <;> first | exact absurd rfl recv | rintro ⟨⟩
      · rw [here]
        cases a <;> cases w <;> first | exact absurd rfl recv | rintro ⟨⟩
  | scan a here now =>
    subst now
    by_cases recv : w = .recv
    · subst recv
      exact tells_recv (by rw [here]; rfl) (goto_pc ..) rfl (Pc.within_scan S.shm a _ 0)
    have goes : Pc.scan S.shm a (T.cfg.mem.u32 .hdrRespHint) 0 =
        .acqCas a (T.cfg.mem.u32 .hdrRespHint) 0 := if_pos (slots recv)
    rw [goes]
    refine .still _ (goto_pc ..) (fun ck _ => rfl) (by rw [here]; rintro ⟨⟩) (by rw [here]; rfl)
      (by rw [here]; rfl) (fun ck found word => .inr ?_) (by rintro ⟨⟩) ?_
      (unsettled_of_useless (by rw [here]; rfl) (by rintro ⟨⟩))
    · rcases a with _ | ⟨_ | _, fseq⟩ | _ <;> cases found
      exact freeSlots_begin ..
    · rw [here]
      cases w <;> first | exact fun _ => .inl rfl | rintro ⟨⟩
  | pass a hint i here busy now =>
    subst now
    have within := Pc.within_scan S.shm a hint (i + 1)
    by_cases recv : w = .recv
    · subst recv
      exact tells_recv (by rw [here]; rfl) (goto_pc ..) rfl within
    obtain ⟨due, unsaid, -, awake, -⟩ := Pc.of_plain within.plain
    have passed := freeSlots_pass (S := S) busy
    have goes : (i + 1 < S.shm.respSlots ∧
        Pc.scan S.shm a hint (i + 1) = .acqCas a hint (i + 1)) ∨
        (¬ i + 1 < S.shm.respSlots ∧ Pc.scan S.shm a hint (i + 1) = .recState a 0) := by
      unfold Pc.scan
      split
      · next inside => exact .inl ⟨inside, rfl⟩
      · next ended => exact .inr ⟨ended, if_pos (slots recv)⟩
    refine .still _ (goto_pc ..) (fun ck _ => rfl) (by rw [here]; rintro ⟨⟩)
      (by rw [here, due]; rfl)
      (by rw [here, unsaid]; rfl) (fun ck found word => .inl ?_) (by rw [awake]; rintro ⟨⟩) ?_ ?_
    · rw [here]
      rcases goes with ⟨-, goes⟩ | ⟨ended, goes⟩ <;> rw [goes] at found <;>
        rcases a with _ | ⟨_ | _, fseq⟩ | _ <;> cases found
      · exact ⟨.scanned hint i, rfl, word, passed⟩
      · obtain rfl : WakeWord.slot = w := word
        have reaches := fair.scans rfl t rfl hint (by rw [here]; rfl)
        exact ⟨.scanned hint i, rfl, rfl, Nat.le_trans (freeSlots_end reaches ended) passed⟩
    · rw [here]
      rcases goes with ⟨-, goes⟩ | ⟨-, goes⟩ <;> rw [goes] <;> cases w <;>
        first | exact fun _ => .inl rfl | rintro ⟨⟩
    · rw [here]
      rcases goes with ⟨-, goes⟩ | ⟨-, goes⟩ <;> rw [goes] <;> cases w <;> rintro ⟨⟩
  | take a hint i here was now =>
    subst now
    by_cases slot : w = .slot
    · subst slot
      have inside : (hint + i) % S.shm.respSlots < S.shm.respSlots := by
        rw [UInt32.lt_iff_toNat_lt, UInt32.toNat_mod]
        exact Nat.mod_lt _ (UInt32.lt_iff_toNat_lt.mp (slots (by rintro ⟨⟩)))
      have taken := freeSlots_take_lt (S := S) T.cfg (some t) inside was
      exact .uses _ (goto_pc ..) (fun ck word => by
          rw [missed_slot word, missed_slot word]
          exact freeSlots_take T.cfg (some t) ck)
        (.inl taken) (by rw [here]; exact ⟨rfl, rfl⟩) ⟨(by rintro ⟨⟩), (by rintro ⟨⟩)⟩
        (by rw [here]; rintro ⟨⟩) (by rintro _ ⟨⟩)
        (by rintro ⟨⟩) (by rw [here]; rfl)
    · refine .still _ (goto_pc ..) (fun ck word => missed_queue rfl (word ▸ slot))
        (by rw [here]; rintro ⟨⟩) (by rw [here]; rfl) (by rw [here]; rfl) (by rintro _ ⟨⟩)
        (by rintro ⟨⟩) ?_ ?_
      · rw [here]
        cases w <;> first | exact absurd rfl slot | exact fun _ => .inl rfl | rintro ⟨⟩
      · rw [here]
        cases w <;> first | exact absurd rfl slot | rintro ⟨⟩
  | recover a i here now =>
    subst now
    have attempt := Pc.attempt_of_recovering here
    have before := Pc.of_attempt attempt
    have within := Pc.within_recover S.shm a i
    obtain ⟨due, unsaid, -, awake, -⟩ := Pc.of_plain within.plain
    have seeks : (Pc.recover S.shm a i).seeks = true := by
      unfold Pc.recover
      split
      · rfl
      · cases a <;> rfl
    have useless : (T.cfg.thr t).pc.uses = false := by
      cases pc : (T.cfg.thr t).pc <;> rw [pc] at here <;> first | rfl | cases here
    refine .still _ (goto_pc ..) (fun ck _ => rfl) (by rw [before.silent]; rintro ⟨⟩)
      (by rw [before.due, due]) (by rw [before.unsaid, unsaid]) (fun ck found word => .inl ?_)
      (by rw [awake]; rintro ⟨⟩) ?_ (unsettled_of_useless useless (by rw [awake]; rintro ⟨⟩))
    · rcases checks_recover found with ⟨fseq, rfl, rfl⟩ | ⟨fseq, rfl, rfl⟩
      · obtain rfl : WakeWord.send = w := word
        exact absurd rfl (fair.slot rfl t rfl _ here)
      · refine ⟨.whole .slot, ?_, word, le_rfl⟩
        cases pc : (T.cfg.thr t).pc <;> rw [pc] at here <;> cases here <;> rfl
    · cases w with
      | recv =>
        intro loops
        have sends := before.sends
        cases pc : (T.cfg.thr t).pc <;> rw [pc] at loops sends <;>
          first | (cases loops; done) | cases sends
      | send => exact fun _ => .inl within.sends
      | slot => exact fun _ => .inl seeks
  | release id next here now =>
    subst now
    by_cases slot : w = .slot
    · subst slot
      refine .moves _ (goto_pc ..) (fun ck word => ?_) (by rw [here]; rfl) (by rw [here]; rintro ⟨⟩)
        (fun ck found word => ?_) (by rintro ⟨⟩) (by rw [here]; rintro ⟨⟩) (by rw [here]; rintro ⟨⟩)
      · rw [here, missed_slot word, missed_slot word]
        exact freeSlots_setState T.cfg _ _ none ck
      · exact absurd word (of_decide_eq_true (Option.filter_eq_some_iff.mp found).2)
    · refine .still _ (goto_pc ..) (fun ck word => missed_queue rfl (word ▸ slot))
        (by rw [here]; rintro ⟨⟩) ?_ ?_
        (fun ck found word => .inl ⟨ck, by rw [here]; exact found, word, le_rfl⟩) (by rintro ⟨⟩) ?_
        (unsettled_of_useless (by rw [here]; rfl) (by rintro ⟨⟩))
      · rw [here]
        simpa [Pc.due] using Ne.symm slot
      · rw [here]
        simpa [Pc.unsaid] using Ne.symm slot
      · rw [here]
        cases w <;> first | exact absurd rfl slot | exact .inl
  | cancel id next here now =>
    subst now
    by_cases slot : w = .slot
    · subst slot
      have freed : ∀ ck, ck.word = .slot → ((((T.cfg.setState (idSlot id) layoutRespFree none).note
          (.ended id)).goto t (.cancelOwner id next)).missed S ck) ≤ T.cfg.missed S ck + 1 := by
        intro ck word
        rw [missed_slot word, missed_slot word]
        exact freeSlots_setState T.cfg _ _ none ck
      refine .moves _ (goto_pc ..) (fun ck word => ?_) (by rw [here]; rfl) (by rw [here]; rintro ⟨⟩)
        (fun ck found word => .inl ⟨ck, by rw [here]; exact found, word, ?_⟩) (by rintro ⟨⟩)
        (by rw [here]; rintro ⟨⟩) (by rw [here]; rintro ⟨⟩)
      · rw [here]
        exact freed ck word
      · rw [here]
        exact freed ck word
    · refine .still _ (goto_pc ..) (fun ck word => missed_queue rfl (word ▸ slot))
        (by rw [here]; rintro ⟨⟩) ?_ ?_
        (fun ck found word => .inl ⟨ck, by rw [here]; exact found, word, le_rfl⟩) (by rintro ⟨⟩) ?_
        (unsettled_of_useless (by rw [here]; rfl) (by rintro ⟨⟩))
      · rw [here]
        simpa [Pc.due] using Ne.symm slot
      · rw [here]
        simpa [Pc.unsaid] using Ne.symm slot
      · rw [here]
        cases w <;> rintro ⟨⟩
  | condemn c₀ pc gone thr seq waiting pending within now =>
    subst now
    obtain ⟨a, attempt, after⟩ := within
    have before := Pc.of_attempt attempt
    obtain rfl : w = .recv := by
      by_contra sends
      obtain ⟨alive, others⟩ := calm sends
      rcases gone with ⟨pid, dead⟩ | condemns
      · rw [alive] at dead
        cases dead
      · rw [others] at condemns
        cases condemns
    have awake : pc.sleepsOn = none := by
      rcases after with attempt' | within | ⟨next, rfl, -⟩
      · exact (Pc.of_attempt attempt').sleeps
      · exact (Pc.of_plain within.plain).sleeps
      · rfl
    refine .still _ (goto_pc ..) (fun ck word => missed_queue pending (by rw [word]; rintro ⟨⟩))
      (by rw [before.silent]; rintro ⟨⟩) ?_ ?_ (fun ck found word => absurd word ?_)
      (by rw [awake]; rintro ⟨⟩) ?_ ?_
    · rw [before.due]
      rcases after with attempt' | within | ⟨next, rfl, -⟩
      · rw [(Pc.of_attempt attempt').due]
      · rw [(Pc.of_plain within.plain).due]
      · rfl
    · rw [before.unsaid]
      rcases after with attempt' | within | ⟨next, rfl, -⟩
      · rw [(Pc.of_attempt attempt').unsaid]
      · rw [(Pc.of_plain within.plain).unsaid]
      · rfl
    · rcases after with attempt' | within | ⟨next, rfl, within⟩
      · rw [checks_of_attempt attempt' found]
        rintro ⟨⟩
      · exact checks_ne_recv within.loaded found
      · exact checks_ne_recv within.loaded (Option.filter_eq_some_iff.mp found).1
    · intro loops
      cases here : (T.cfg.thr t).pc <;> rw [here] at attempt loops <;>
        first | (cases attempt; done) | cases loops
    · intro settled
      cases here : (T.cfg.thr t).pc <;> rw [here] at attempt settled <;>
        first | (cases attempt; done) | simpa [Pc.settles, awake] using settled

/-- Where nobody is dead, no slot is recovered. -/
theorem Signals.calm {woken : List (Fin n)} (signals : Signals S c t woken c')
    (flat : (c.thr t).pc.Flat) (alive : ∀ pid, c.dead pid = false)
    (before : (c.thr t).pc.condemns = false) : (c'.thr t).pc.condemns = false := by
  cases signals with
  | quiet c₀ pc agrees glides now | wakes i k c₀ pc woke glides now =>
    subst now
    rw [goto_pc]
    exact glides.calm
  | quit w' next here none now | call w' next c₀ here woke now =>
    subst now
    rw [here] at flat
    rw [goto_pc]
    exact (Pc.of_plain flat.1).calm
  | load s here now | leave s here now =>
    subst now
    rw [goto_pc]
    cases s <;> rfl
  | join s f here now =>
    subst now
    rw [goto_pc]
    cases s <;> rfl
  | wait s f here now =>
    subst now
    rw [Cfg.futexWait, goto_pc]
    split <;> cases s <;> rfl
  | scan a here now | pass a hint i here busy now =>
    subst now
    rw [goto_pc]
    exact (Pc.of_plain (Pc.within_scan ..).plain).calm
  | recover a i here now =>
    subst now
    rw [goto_pc]
    exact (Pc.of_plain (Pc.within_recover ..).plain).calm
  | empty a c₀ here none agrees now =>
    subst now
    rw [goto_pc]
    cases a <;> rfl
  | bump w' next here now | enqueue a id c₀ here room agrees now
  | refuse a id c₀ here refused agrees now | dequeue a id c₀ here first agrees now
  | take a hint i here was now | release id next here now | cancel id next here now =>
    subst now
    rw [goto_pc]
    rfl
  | condemn c₀ pc gone thr seq waiting pending within now =>
    rcases gone with ⟨pid, dead⟩ | condemns
    · rw [alive] at dead
      cases dead
    · rw [before] at condemns
      cases condemns

/-! ## Every step -/

/-- The context of a goroutine in a loop ends by acts on its context only. -/
theorem step_live {act : Act n} (stepped : c.step S act = some c')
    (other : ∀ t ans, act ≠ .run t ans) (loops : (c.thr u).pc.loops w = true)
    (stays : act.ends w u = false)
    (live : (c.thr u).live w = true) : (c'.thr u).live w = true := by
  have busy : (c.thr u).pc ≠ .idle := by
    intro idle
    rw [idle] at loops
    cases w <;> cases loops
  have context : ∀ {th : Thread}, th.ctxErr = (c.thr u).ctxErr →
      th.pastDeadline = (c.thr u).pastDeadline → th.live w = true := by
    intro th ctxErr pastDeadline
    rw [← live]
    cases w <;> simp only [Thread.live, ctxErr, pastDeadline]
  by_cases own : act.thread = some u
  · unfold Cfg.step at stepped
    split at stepped
    · cases stepped
    cases act with
    | run t ans => exact absurd rfl (other t ans)
    | query t req | serve t =>
      obtain rfl := Option.some.inj own
      simp [busy] at stepped
    | cancelCtx t =>
      obtain rfl := Option.some.inj own
      simp [Act.ends] at stays
    | deadline t =>
      obtain rfl := Option.some.inj own
      cases w with
      | recv =>
        cases stepped
        simpa [Thread.live] using live
      | send | slot => simp [Act.ends] at stays
    | wakeup t =>
      obtain rfl := Option.some.inj own
      dsimp only at stepped
      split at stepped <;> cases stepped
      rw [goto_thr_self]
      exact context rfl rfl
    | die pid => cases own
  · rcases step_thr_of_ne stepped own with same | ⟨-, awake⟩
    · rw [same]
      exact live
    · rw [awake]
      exact context rfl rfl

/-- The account is kept by every step that is fair. -/
theorem Attended.step {act : Act n} (queueOk : S.shm.QueueOk)
    (slots : w ≠ .recv → 0 < S.shm.respSlots) (tallied : Tally.Tallied S T)
    (attended : Attended S w T) (fair : Fair S w T act)
    (stepped : T.step S act = some T') : Attended S w T' := by
  obtain ⟨moved, since, owes⟩ := Tally.step_eq stepped
  by_cases runs : ∃ t ans, act = .run t ans
  · obtain ⟨t, ans, rfl⟩ := runs
    obtain ⟨-, ran⟩ := step_run moved
    have flat := tallied.flat t
    have signals := (run_signalled queueOk tallied.base flat ran).signals
    have others : ∀ u ≠ t, Same (T.cfg.thr u) (T'.cfg.thr u) := fun u ne =>
      step_same moved fun ans' same => ne (by cases same; rfl)
    exact attended.run fair ⟨tallied, ran, others, since, owes⟩
      (signals.tells fair flat attended.calm slots) fun sends =>
        signals.calm flat (attended.calm sends).1 ((attended.calm sends).2 t)
  · have other : ∀ t ans, act ≠ .run t ans := fun t ans same => runs ⟨t, ans, same⟩
    have same : ∀ u, Same (T.cfg.thr u) (T'.cfg.thr u) := fun u =>
      step_same moved fun ans => other u ans
    obtain ⟨mem, pending⟩ := step_mem moved other
    have missed : ∀ ck, T'.cfg.missed S ck = T.cfg.missed S ck := fun ck =>
      missed_congr pending (funext fun i => by rw [Cfg.free, Cfg.free, Cfg.state, Cfg.state, mem])
        ck
    have dues : T'.cfg.dues w = T.cfg.dues w := Count.count_congr fun u => by rw [(same u).due]
    have unsaids : T'.cfg.unsaids w = T.cfg.unsaids w :=
      Count.count_congr fun u => by rw [(same u).unsaid]
    have kept : T'.owes = T.owes := by
      rw [owes]
      funext w' u
      cases act <;> first | rfl | exact absurd rfl (other _ _)
    have dead : ∀ pid, T'.cfg.dead pid = false → T.cfg.dead pid = false := by
      intro pid alive
      rcases step_dead moved with same | ⟨pid', -, died⟩
      · rwa [same] at alive
      · rw [died, Function.update_apply] at alive
        split at alive
        · cases alive
        · exact alive
    refine ⟨fun u ck found word zero => ?_, fun u asleep live => ?_, fun u owed => ?_,
      fun sends => ?_⟩
    · rw [(same u).checks] at found
      obtain ⟨f, loaded⟩ := loaded_of_checks found
      rw [since] at zero
      rw [missed, unsaids]
      exact attended.heard u ck found word (since_eq_zero zero loaded).2
    · have before : (T.cfg.thr u).pc.sleepsOn = some w := by
        rcases (same u).sleeps with sleeps | none
        · rw [← sleeps, asleep]
        · rw [none] at asleep
          cases asleep
      rw [missed, dues, Tally.owing, kept]
      exact attended.watched u before (dead _ live)
    · rw [kept] at owed
      obtain ⟨loops, live, awake⟩ := attended.owes u owed
      refine ⟨(same u).loops w loops, step_live moved other loops (fair.stays u owed) live, ?_⟩
      rcases (same u).sleeps with sleeps | none
      · rwa [sleeps]
      · rw [none]
        rintro ⟨⟩
    · obtain ⟨alive, calm⟩ := attended.calm sends
      refine ⟨fun pid => ?_, fun u => by rw [(same u).calm, calm u]⟩
      rcases step_dead moved with same | ⟨pid', died, -⟩
      · rw [same, alive pid]
      · have acts := fair.alive sends
        rw [died] at acts
        cases acts

/-! ## Runs -/

theorem Start.attended (start : Start S c) (w : WakeWord) : Attended S w (Tally.start c) := by
  have idle : ∀ u, ((Tally.start c).cfg.thr u).pc = .idle := start.idle
  refine ⟨fun u ck found => ?_, fun u asleep => ?_, (fun u owes => nomatch owes),
    fun _ => ⟨start.alive, fun u => by rw [idle]; rfl⟩⟩
  · rw [idle] at found
    cases found
  · rw [idle] at asleep
    cases asleep

end ReqRep
