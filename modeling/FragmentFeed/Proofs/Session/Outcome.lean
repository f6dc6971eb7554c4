import FragmentFeed.Proofs.Session.Waiting

/-!
# Outcomes

A load ends once. Whatever comes first ends it: its source comes back, or it is stopped; what comes
later changes nothing. Its handle says that it is pending, then once how it has ended, and from then on
that this has been said. `Story` puts together the phase of a load, all that would have ended it, and
what its handle has answered; each step keeps them so.
-/

namespace FragmentFeed

/-- What a handle says of the phase of its load. -/
def Answer.ofPhase : Option Phase → Answer
  | none => .noLoad
  | some (.waiting _) => .pending
  | some (.finished o false) => .outcome o
  | some (.finished _ true) => .taken

/-- What the handle of a load is to answer, going by all that would have ended the load and by what the
handle has answered: the first end, unless it has been given. -/
def Answer.ofEndings (ends : List Outcome) (answers : List Answer) : Answer :=
  match ends.head? with
  | none => .pending
  | some o => if .outcome o ∈ answers then .taken else .outcome o

/-- The phase of a load that has been asked for its outcome. -/
def Phase.asked : Phase → Phase
  | .waiting w => .waiting w
  | .finished o _ => .finished o true

namespace Session

variable {ctx : Context} {s s' : Session} {t : Step} {c : Option Completion} {report : Report}
variable {steps : List Step} {n k : Nat} {load : Load} {l : Loader}

/-! ## A load is one of a loader that there is -/

/-- Each load is one of a loader that there is. -/
def LoadsHaveLoaders (s : Session) : Prop :=
  ∀ (k : Nat) (load : Load), s.loads[k]? = some load → load.loader < s.slots.length

theorem LoadsHaveLoaders.addLoad (h : s.LoadsHaveLoaders) (hn : load.loader < s.slots.length) :
    (s.addLoad load).LoadsHaveLoaders := by
  intro i other hi
  rw [addLoad_loads, List.getElem?_append] at hi
  split at hi
  · exact h i other hi
  · rw [List.getElem?_singleton] at hi
    split at hi
    · cases hi; exact hn
    · cases hi

theorem LoadsHaveLoaders.setPhase (h : s.LoadsHaveLoaders) (k : Nat) (p : Phase) :
    (s.setPhase k p).LoadsHaveLoaders := by
  intro i other hi
  rw [setPhase_getElem?, Option.map_eq_some_iff] at hi
  obtain ⟨old, hold, rfl⟩ := hi
  have hloader : (if i = k then { old with phase := p } else old).loader = old.loader := by
    split <;> rfl
  rw [hloader]
  exact h i old hold

theorem LoadsHaveLoaders.setLoader (h : s.LoadsHaveLoaders) (n : Nat) (l : Loader) :
    (s.setLoader n l).LoadsHaveLoaders := by
  intro i other hi
  rw [setLoader_slots_length]
  exact h i other hi

theorem Transition.loadsHaveLoaders (ht : Transition ctx s t c s' report)
    (h : s.LoadsHaveLoaders) : s'.LoadsHaveLoaders := by
  cases ht with
  | new ho =>
    intro i other hi
    rw [addLoader_slots_length]
    exact Nat.lt_succ_of_lt (h i other hi)
  | release hl =>
    intro i other hi
    rw [release_slots_length]
    exact h i other hi
  | begin hl hw => exact h.addLoad (lt_length_of_loader? (loader?_of_held? hl))
  | endAtOnce hl hr =>
    refine (h.setLoader _ _).addLoad ?_
    rw [setLoader_slots_length]
    exact lt_length_of_loader? (loader?_of_held? hl)
  | endInPlace hl hr => exact h.setLoader _ _
  | goOn hk hp hw => exact h.setPhase _ _
  | finish hk hp hr => exact (h.setLoader _ _).setPhase _ _
  | stop hk hp => exact h.setPhase _ _
  | takeOutcome hk hp => exact h.setPhase _ _
  | _ => exact h

theorem loadsHaveLoaders (ctx : Context) (steps : List Step) :
    (empty.after ctx steps).LoadsHaveLoaders := by
  refine run_induction (P := fun _ s => s.LoadsHaveLoaders) ?_ ?_ steps
  · intro k load hk
    simp [empty] at hk
  · intro steps t h
    exact (transition_step ctx _ t).loadsHaveLoaders h

/-- So a load can be found with its loader. -/
theorem LoadsHaveLoaders.exists_load? (h : s.LoadsHaveLoaders) (hk : s.loads[k]? = some load) :
    ∃ l, s.load? k = some (load, l) := by
  obtain ⟨l, hl⟩ : ∃ l, s.loader? load.loader = some l := by
    rw [← Option.isSome_iff_exists, Option.isSome_iff_ne_none]
    exact fun hnone => absurd (h k load hk) (Nat.not_lt.mpr (loader?_eq_none_iff.mp hnone))
  exact ⟨l, load?_eq_some_iff.mpr ⟨hk, hl⟩⟩

/-! ## The phase of a load -/

/-- The phase of a load, if it has been begun. -/
def phase? (s : Session) (k : Nat) : Option Phase := s.loads[k]?.map (·.phase)

theorem phase?_eq_none_iff : s.phase? k = none ↔ s.loads.length ≤ k := by
  simp [phase?]

theorem phase?_setPhase {p : Phase} :
    (s.setPhase n p).phase? k = (s.phase? k).map fun q => if k = n then p else q := by
  rw [phase?, phase?, setPhase_getElem?, Option.map_map, Option.map_map]
  congr 1
  funext load
  show (if k = n then { load with phase := p } else load).phase = _
  by_cases hk : k = n
  · simp [hk]
  · simp [hk]

theorem phase?_addLoad :
    (s.addLoad load).phase? k = if k = s.loads.length then some load.phase else s.phase? k := by
  unfold phase?
  rw [addLoad_loads]
  rcases Nat.lt_trichotomy k s.loads.length with h | h | h
  · rw [List.getElem?_append_left h, if_neg (Nat.ne_of_lt h)]
  · rw [h, List.getElem?_concat_length, if_pos rfl, Option.map_some]
  · have hnone : (s.loads ++ [load])[k]? = none := List.getElem?_eq_none (by simp; omega)
    have hnone' : s.loads[k]? = none := List.getElem?_eq_none (by omega)
    rw [hnone, hnone', if_neg (Nat.ne_of_gt h)]

theorem phase?_of_load? (hk : s.load? k = some (load, l)) : s.phase? k = some load.phase := by
  rw [phase?, (load?_eq_some_iff.mp hk).1, Option.map_some]

/-! ## What ends a load -/

/-- What would end a load at a step: its source comes back, or it is stopped. A load that has ended can
still be stopped, in vain. -/
def endingOf? (ctx : Context) (s : Session) (k : Nat) (t : Step) : Option Outcome :=
  if t = .abort k then if k < s.loads.length then some .cancelled else none
  else (s.completion? ctx t).bind fun e =>
    if e.load = some k then some (.ended e.reply.ending) else none

/-- All that would have ended a load in a run, in this order. -/
def endingsOf (ctx : Context) (s : Session) (k : Nat) : List Step → List Outcome
  | [] => []
  | t :: more => (s.endingOf? ctx k t).toList ++ endingsOf ctx (s.step ctx t).1 k more

theorem endingsOf_append (first more : List Step) :
    s.endingsOf ctx k (first ++ more)
      = s.endingsOf ctx k first ++ (s.after ctx first).endingsOf ctx k more := by
  induction first generalizing s with
  | nil => rfl
  | cons t first ih =>
    rw [List.cons_append, endingsOf, ih, endingsOf, after_cons, List.append_assoc]

/-- What a step can do to a load, other than to ask for its outcome: its phase before, what would end
it, and its phase after. -/
inductive Move : Option Phase → Option Outcome → Option Phase → Prop
  | stay (p : Option Phase) : Move p none p
  | begin (w : Loader.Wait) : Move none none (some (.waiting w))
  | goOn (w w' : Loader.Wait) : Move (some (.waiting w)) none (some (.waiting w'))
  | endAtOnce (o : Outcome) : Move none (some o) (some (.finished o false))
  | finish (w : Loader.Wait) (o : Outcome) : Move (some (.waiting w)) (some o) (some (.finished o false))
  /-- What comes too late changes nothing. -/
  | inVain (o o' : Outcome) (taken : Bool) :
    Move (some (.finished o taken)) (some o') (some (.finished o taken))

/-- A phase is put into another load. -/
theorem move_setPhase_of_ne {p : Phase} (hk : k ≠ n) :
    Move (s.phase? k) none ((s.setPhase n p).phase? k) := by
  have h : (s.setPhase n p).phase? k = s.phase? k := by
    rw [phase?_setPhase]
    simp [hk]
  rw [h]
  exact .stay _

theorem Transition.move (h : Transition ctx s t c s' report) (hhandle : t ≠ .handle k)
    (habort : t ≠ .abort k) :
    Move (s.phase? k)
      (c.bind fun e => if e.load = some k then some (.ended e.reply.ending) else none)
      (s'.phase? k) := by
  cases h with
  | @begin n supply l w hl hw =>
    show Move _ none _
    rw [phase?_addLoad]
    by_cases hk : k = s.loads.length
    · rw [if_pos hk, phase?_eq_none_iff.mpr (Nat.le_of_eq hk.symm)]
      exact .begin w
    · rw [if_neg hk]
      exact .stay _
  | @endAtOnce n supply l r hl hr =>
    rw [Option.bind_some, phase?_addLoad, setLoader_loads]
    by_cases hk : k = s.loads.length
    · rw [if_pos hk, if_pos (by rw [hk]), phase?_eq_none_iff.mpr (Nat.le_of_eq hk.symm)]
      exact .endAtOnce _
    · rw [if_neg hk, if_neg (fun he => hk (Option.some.inj he).symm)]
      exact .stay _
  | @goOn n d load l w w' hk' hp hw =>
    show Move _ none _
    by_cases hk : k = n
    · subst hk
      rw [phase?_setPhase, phase?_of_load? hk', hp, Option.map_some, if_pos rfl]
      exact .goOn w w'
    · exact move_setPhase_of_ne hk
  | @finish n d load l w r hk' hp hr =>
    rw [Option.bind_some]
    by_cases hk : k = n
    · subst hk
      have hphase : (s.setLoader load.loader (l.accept r)).phase? k = s.phase? k := rfl
      rw [if_pos rfl, phase?_setPhase, hphase, phase?_of_load? hk', hp, Option.map_some, if_pos rfl]
      exact .finish w _
    · rw [if_neg (fun he => hk (Option.some.inj he).symm)]
      exact move_setPhase_of_ne hk
  | @stop n load l w hk' hp => exact move_setPhase_of_ne fun hk => habort (by rw [hk])
  | @takeOutcome n load l o hk' hp => exact move_setPhase_of_ne fun hk => hhandle (by rw [hk])
  | _ => exact .stay _

/-- Stopping ends a load that waits, and is in vain otherwise. -/
theorem move_abort (h : s.LoadsHaveLoaders) :
    Move (s.phase? k) (if k < s.loads.length then some .cancelled else none)
      ((s.step ctx (.abort k)).1.phase? k) := by
  cases hload : s.loads[k]? with
  | none =>
    have hk : s.load? k = none := by rw [load?, hload]
    rw [if_neg (Nat.not_lt.mpr (List.getElem?_eq_none_iff.mp hload)), step, withLoad, hk]
    exact .stay _
  | some load =>
    obtain ⟨l, hk⟩ := h.exists_load? hload
    rw [if_pos (List.getElem?_eq_some_iff.mp hload).1, step, withLoad, hk, phase?_of_load? hk]
    show Move _ _ ((s.abort k load).1.phase? k)
    unfold abort
    cases hp : load.phase with
    | waiting w =>
      show Move _ _ ((s.setPhase k _).phase? k)
      rw [phase?_setPhase, phase?_of_load? hk, Option.map_some, if_pos rfl]
      exact .finish w .cancelled
    | finished o taken =>
      show Move _ _ (s.phase? k)
      rw [phase?_of_load? hk, hp]
      exact .inVain o .cancelled taken

theorem move_step (h : s.LoadsHaveLoaders) (hhandle : t ≠ .handle k) :
    Move (s.phase? k) (s.endingOf? ctx k t) ((s.step ctx t).1.phase? k) := by
  by_cases habort : t = .abort k
  · subst habort
    rw [endingOf?, if_pos rfl]
    exact move_abort h
  · rw [endingOf?, if_neg habort]
    exact (transition_step ctx s t).move hhandle habort

/-! ## What a handle answers -/

theorem step_handle (ctx : Context) (k : Nat) (h : s.LoadsHaveLoaders) :
    (s.step ctx (.handle k)).2.answer = .ofPhase (s.phase? k) ∧
      (s.step ctx (.handle k)).1.phase? k = (s.phase? k).map .asked := by
  cases hload : s.loads[k]? with
  | none =>
    have hk : s.load? k = none := by rw [load?, hload]
    have hphase : s.phase? k = none := by rw [phase?, hload]; rfl
    rw [step, withLoad, hk, hphase]
    exact ⟨rfl, rfl⟩
  | some load =>
    obtain ⟨l, hk⟩ := h.exists_load? hload
    have hphase := phase?_of_load? hk
    rw [step, withLoad, hk, hphase]
    show (s.handle k load).2.answer = _ ∧ (s.handle k load).1.phase? k = _
    unfold handle
    cases hp : load.phase with
    | waiting w => exact ⟨rfl, by rw [hphase, hp]; rfl⟩
    | finished o taken =>
      cases taken with
      | false =>
        refine ⟨rfl, ?_⟩
        rw [phase?_setPhase, hphase, Option.map_some, if_pos rfl]
        rfl
      | true => exact ⟨rfl, by rw [hphase, hp]; rfl⟩

/-- What the handle of a load has answered in a run. -/
def handleAnswers (ctx : Context) (s : Session) (k : Nat) (steps : List Step) : List Answer :=
  ((s.transcript ctx steps).filter (·.1 = .handle k)).map (·.2.answer)

theorem handleAnswers_snoc (steps : List Step) (t : Step) :
    s.handleAnswers ctx k (steps ++ [t]) = s.handleAnswers ctx k steps
      ++ if t = .handle k then [((s.after ctx steps).step ctx t).2.answer] else [] := by
  rw [handleAnswers, handleAnswers, transcript_append, List.filter_append, List.map_append]
  by_cases ht : t = .handle k
  · simp [ht]
  · simp [ht]

/-- The answers of a handle that has not given an outcome: that there is no such load, as long as there
is none, and then that it is pending. -/
def unanswered (absent pending : Nat) : List Answer :=
  List.replicate absent .noLoad ++ List.replicate pending .pending

/-- **How it can stand with a load**: its phase, all that would have ended it so far, and what its handle
has answered. The outcome is the first of what would have ended it, and it has been given once or not
at all. -/
inductive Story : Option Phase → List Outcome → List Answer → Prop
  | absent (a : Nat) : Story none [] (unanswered a 0)
  | waiting (w : Loader.Wait) (a b : Nat) : Story (some (.waiting w)) [] (unanswered a b)
  | ended (o : Outcome) (later : List Outcome) (a b : Nat) :
    Story (some (.finished o false)) (o :: later) (unanswered a b)
  | taken (o : Outcome) (later : List Outcome) (a b c : Nat) :
    Story (some (.finished o true)) (o :: later)
      (unanswered a b ++ .outcome o :: List.replicate c .taken)

section story

variable {p p' : Option Phase} {ends : List Outcome} {answers : List Answer}

theorem Story.move {e : Option Outcome} (h : Story p ends answers) (hm : Move p e p') :
    Story p' (ends ++ e.toList) answers := by
  cases hm with
  | stay p =>
    rw [Option.toList_none, List.append_nil]
    exact h
  | begin w => cases h with | absent a => exact .waiting w a 0
  | goOn w w' => cases h with | waiting w a b => exact .waiting w' a b
  | endAtOnce o => cases h with | absent a => exact .ended o [] a 0
  | finish w o => cases h with | waiting w a b => exact .ended o [] a b
  | inVain o o' taken =>
    cases h with
    | ended o later a b => exact .ended o (later ++ [o']) a b
    | taken o later a b c => exact .taken o (later ++ [o']) a b c

theorem Story.asked (h : Story p ends answers) :
    Story (p.map .asked) ends (answers ++ [.ofPhase p]) := by
  cases h with
  | absent a =>
    have hsnoc : unanswered a 0 ++ [.noLoad] = unanswered (a + 1) 0 := by
      simp [unanswered, List.replicate_succ']
    show Story none [] (unanswered a 0 ++ [.noLoad])
    rw [hsnoc]
    exact .absent (a + 1)
  | waiting w a b =>
    have hsnoc : unanswered a b ++ [.pending] = unanswered a (b + 1) := by
      simp [unanswered, List.replicate_succ']
    show Story (some (.waiting w)) [] (unanswered a b ++ [.pending])
    rw [hsnoc]
    exact .waiting w a (b + 1)
  | ended o later a b => exact .taken o later a b 0
  | taken o later a b c =>
    have hsnoc : (Answer.outcome o :: List.replicate c .taken) ++ [.taken]
        = .outcome o :: List.replicate (c + 1) .taken := by
      rw [List.cons_append, List.replicate_succ']
    show Story (some (.finished o true)) (o :: later) (_ ++ [.taken])
    rw [List.append_assoc, hsnoc]
    exact .taken o later a b (c + 1)

/-- What a handle has answered ends with an outcome that has been taken, or has come to none. -/
theorem Story.answers_eq (h : Story p ends answers) :
    ∃ absent pending, answers = unanswered absent pending ∨
      ∃ o taken, ends.head? = some o ∧
        answers = unanswered absent pending ++ .outcome o :: List.replicate taken .taken := by
  cases h with
  | absent a => exact ⟨a, 0, .inl rfl⟩
  | waiting w a b => exact ⟨a, b, .inl rfl⟩
  | ended o later a b => exact ⟨a, b, .inl rfl⟩
  | taken o later a b c => exact ⟨a, b, .inr ⟨o, c, rfl, rfl⟩⟩

/-- The outcome is given next unless it has been given before. -/
theorem Story.ofPhase_eq (h : Story p ends answers) :
    Answer.ofPhase p = if p = none then .noLoad else .ofEndings ends answers := by
  have hmem : ∀ (o : Outcome) (a b : Nat), Answer.outcome o ∉ unanswered a b := by
    intro o a b
    simp [unanswered]
  cases h with
  | absent a => rfl
  | waiting w a b => rfl
  | ended o later a b => simp [Answer.ofPhase, Answer.ofEndings, hmem]
  | taken o later a b c => simp [Answer.ofPhase, Answer.ofEndings]

end story

/-- **The story of a load goes on with each step.** -/
theorem story (ctx : Context) (steps : List Step) (k : Nat) :
    Story ((empty.after ctx steps).phase? k) (empty.endingsOf ctx k steps)
      (empty.handleAnswers ctx k steps) := by
  refine run_induction (P := fun steps s => Story (s.phase? k) (empty.endingsOf ctx k steps)
    (empty.handleAnswers ctx k steps)) ?_ ?_ steps
  · exact .absent 0
  · intro steps t h
    have hloads := loadsHaveLoaders ctx steps
    have hends : empty.endingsOf ctx k (steps ++ [t]) = empty.endingsOf ctx k steps
        ++ ((empty.after ctx steps).endingOf? ctx k t).toList := by
      rw [endingsOf_append, endingsOf, endingsOf, List.append_nil]
    rw [hends, handleAnswers_snoc]
    by_cases ht : t = .handle k
    · subst ht
      obtain ⟨hanswer, hphase⟩ := step_handle ctx k hloads
      have hnone : (empty.after ctx steps).endingOf? ctx k (.handle k) = none := rfl
      rw [hphase, if_pos rfl, hanswer, hnone, Option.toList_none, List.append_nil]
      exact h.asked
    · rw [if_neg ht, List.append_nil]
      exact h.move (move_step hloads ht)

end Session

end FragmentFeed
