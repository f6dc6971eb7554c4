import FragmentFeed.Proofs.Loader.Fetch
import FragmentFeed.Proofs.Session.Content

/-!
# Loads in stages

A web load goes the same way whether its responses are at hand when it begins, are given to it one at a
time while other things are done, or are given to a fetch that has nothing to do with the session.
-/

namespace FragmentFeed

/-- Whether a step gives something to a load. -/
def Step.delivers (k : Nat) : Step → Bool
  | .deliver n _ => n = k
  | _ => false

/-- Steps that give a load its responses one at a time, each after some other steps. -/
def Step.staged (k : Nat) (stages : List (List Step × List UInt8)) : List Step :=
  stages.flatMap fun stage => stage.1 ++ [.deliver k (.response stage.2)]

/-- What answers a load that is begun and then given so many responses: it waits as long as there is
another one. -/
def Answer.inStages (k : Nat) : Nat → List Answer
  | 0 => [.load k false]
  | more + 1 => .load k true :: (List.replicate more .waiting ++ [.finished])

/-- What has been seen in all of some reports. -/
def Report.traceOf (reports : List Report) : Trace :=
  reports.flatMap (·.trace)

namespace Session

variable {ctx : Context} {s s' : Session} {t : Step} {c : Option Completion} {report : Report}
variable {steps : List Step} {n k : Nat} {l : Loader} {load : Load} {w : Loader.Wait}

/-- What came of the steps that gave something to a load. -/
def deliveries (ctx : Context) (s : Session) (k : Nat) (steps : List Step) : List Report :=
  ((s.transcript ctx steps).filter (·.1.delivers k)).map (·.2)

theorem deliveries_append (first more : List Step) :
    s.deliveries ctx k (first ++ more)
      = s.deliveries ctx k first ++ (s.after ctx first).deliveries ctx k more := by
  simp [deliveries, transcript_append]

/-! ## Steps that spare a load -/

theorem delivers_eq_false_of_spares (ht : t.spares k) : t.delivers k = false := by
  cases t <;> first | rfl | exact decide_eq_false ht

theorem deliveries_of_spares (h : ∀ t ∈ steps, t.spares k) : s.deliveries ctx k steps = [] := by
  induction steps generalizing s with
  | nil => rfl
  | cons t steps ih =>
    have ht := delivers_eq_false_of_spares (h t (by simp))
    have hmore := ih (s := (s.step ctx t).1) fun t' ht' => h t' (by simp [ht'])
    unfold deliveries at hmore ⊢
    rw [transcript_cons, List.filter_cons_of_neg (by simp [ht])]
    exact hmore

/-! ## A run that ends a load -/

/-- A run whose last step ends a load, so that its loader accepts the reply. No step before does. -/
structure EndsLoad (ctx : Context) (s : Session) (n k : Nat) (steps : List Step) (r : Reply) :
    Prop where
  completions : ∃ others, s.completions ctx steps = others ++ [⟨n, some k, r⟩] ∧
    ∀ e ∈ others, e.load ≠ some k
  phase : (s.after ctx steps).loads[k]? = some ⟨n, .finished (.ended r.ending) false⟩
  loader : (s.after ctx steps).loader? n
    = ((s.after ctx steps.dropLast).loader? n).map (·.accept r)

/-- A step that ends a load is such a run. -/
theorem endsLoad_of_completion {r : Reply} (hc : s.completion? ctx t = some ⟨n, some k, r⟩) :
    EndsLoad ctx s n k [t] r := by
  have ht := transition_step ctx s t
  rw [hc] at ht
  refine ⟨⟨[], ?_, List.forall_mem_nil _⟩, ?_, ?_⟩
  · rw [Session.completions, hc]
    rfl
  · rw [after_cons, after_nil]
    exact ht.getElem?_of_load
  · rw [List.dropLast_singleton, after_cons, after_nil, after_nil, ht.loader?_eq ht.loader_lt]
    simp [Completion.repliesTo]

/-- What is done before, to others than the load, does not matter. -/
theorem EndsLoad.of_append {first : List Step} {r : Reply}
    (hfirst : ∀ e ∈ s.completions ctx first, e.load ≠ some k) (hne : steps ≠ [])
    (h : EndsLoad ctx (s.after ctx first) n k steps r) : EndsLoad ctx s n k (first ++ steps) r := by
  obtain ⟨others, hcs, hothers⟩ := h.completions
  refine ⟨⟨s.completions ctx first ++ others, ?_, ?_⟩, ?_, ?_⟩
  · rw [completions_append, hcs, List.append_assoc]
  · intro e he
    rcases List.mem_append.mp he with he | he
    · exact hfirst e he
    · exact hothers e he
  · rw [after_append]
    exact h.phase
  · rw [List.dropLast_append_of_ne_nil hne, after_append, after_append]
    exact h.loader

/-! ## A load that is given its responses one at a time -/

theorem deliveries_cons_deliver (d : Delivery) :
    s.deliveries ctx k (.deliver k d :: steps)
      = (s.step ctx (.deliver k d)).2 :: (s.step ctx (.deliver k d)).1.deliveries ctx k steps := by
  simp [deliveries, Step.delivers]

/-- A waiting load that is given its responses in stages goes as a fetch that comes to a result, with
so much of it yet to be seen: it waits until the last response, and ends with that one. -/
structure GoesAs (ctx : Context) (s : Session) (n k : Nat) (l : Loader)
    (stages : List (List Step × List UInt8)) (result : Except FetchError String) (trace : Trace) :
    Prop where
  answers : (s.deliveries ctx k (Step.staged k stages)).map (·.answer)
    = List.replicate (stages.length - 1) .waiting ++ [.finished]
  trace : Report.traceOf (s.deliveries ctx k (Step.staged k stages))
    = trace ++ l.closing (.ofResult result)
  ends : EndsLoad ctx s n k (Step.staged k stages) (.ofResult result)

section goesAs

variable {x x' : Exchange} {bytes : List UInt8} {result : Except FetchError String}
variable {stages : List (List Step × List UInt8)} {gap : List Step} {trace : Trace}

theorem staged_cons : Step.staged k ((gap, bytes) :: stages)
    = gap ++ .deliver k (.response bytes) :: Step.staged k stages := by
  simp [Step.staged]

theorem staged_ne_nil (h : stages ≠ []) : Step.staged k stages ≠ [] := by
  cases stages with
  | nil => exact absurd rfl h
  | cons stage stages => rw [staged_cons]; simp

/-- Only the URL of the loader is told of. -/
theorem GoesAs.congr {l' : Loader} (hurl : l'.url = l.url)
    (h : GoesAs ctx s n k l' stages result trace) : GoesAs ctx s n k l stages result trace := by
  refine ⟨h.answers, ?_, h.ends⟩
  rw [← Loader.closing_congr hurl]
  exact h.trace

/-- What is done before the first response, to others than the load, does not matter. -/
theorem GoesAs.of_gap (hgap : ∀ t ∈ gap, t.spares k) (hk : s.loads[k]? = some load)
    (hw : load.phase = .waiting w)
    (h : GoesAs ctx (s.after ctx gap) n k l (([], bytes) :: stages) result trace) :
    GoesAs ctx s n k l ((gap, bytes) :: stages) result trace := by
  have hsteps : Step.staged k ((gap, bytes) :: stages)
      = gap ++ Step.staged k (([], bytes) :: stages) := by
    rw [staged_cons, staged_cons, List.nil_append]
  have hdeliveries : s.deliveries ctx k (Step.staged k ((gap, bytes) :: stages))
      = (s.after ctx gap).deliveries ctx k (Step.staged k (([], bytes) :: stages)) := by
    rw [hsteps, deliveries_append, deliveries_of_spares hgap, List.nil_append]
  refine ⟨?_, ?_, ?_⟩
  · rw [hdeliveries]
    exact h.answers
  · rw [hdeliveries]
    exact h.trace
  · rw [hsteps]
    exact h.ends.of_append (load_ne_of_mem_completions hgap hk hw) (staged_ne_nil (by simp))

theorem give_response_of_finished (hp : (x.receive ctx bytes).progress = .finished result) :
    (Loader.Wait.give ctx (.response x) (.response bytes)).state = .inr (.ofResult result) := by
  simp [Loader.Wait.give, hp, Loader.ofProgress]

theorem give_response_of_waiting (hp : (x.receive ctx bytes).progress = .waiting x') :
    (Loader.Wait.give ctx (.response x) (.response bytes)).state = .inl (.response x') := by
  simp [Loader.Wait.give, hp, Loader.ofProgress]

/-- The response that ends the fetch ends the load. -/
theorem goesAs_of_finished (hk : s.loads[k]? = some ⟨n, .waiting (.response x)⟩)
    (hl : s.loader? n = some l) (hp : (x.receive ctx bytes).progress = .finished result) :
    GoesAs ctx s n k l [([], bytes)] result (x.receive ctx bytes).trace := by
  have hgive := give_response_of_finished hp
  have hstep : s.step ctx (.deliver k (.response bytes))
      = s.finish k ⟨n, .waiting (.response x)⟩ l (.ofResult result) (x.receive ctx bytes).trace := by
    rw [step_deliver (.response bytes) hk hl rfl, hgive]; rfl
  have hc := completion?_deliver hk (lt_length_of_loader? hl) rfl hgive
  have hsteps : Step.staged k [([], bytes)] = [.deliver k (.response bytes)] := rfl
  have hdeliveries : s.deliveries ctx k (Step.staged k [([], bytes)])
      = [⟨.finished, (x.receive ctx bytes).trace ++ l.closing (.ofResult result)⟩] := by
    rw [hsteps, deliveries_cons_deliver, hstep]; rfl
  refine ⟨?_, ?_, ?_⟩
  · rw [hdeliveries]
    rfl
  · rw [hdeliveries]
    exact List.append_nil _
  · rw [hsteps]
    exact endsLoad_of_completion hc

/-- A response after which the fetch waits leaves the load waiting, for all that is to come. -/
theorem goesAs_of_waiting (hk : s.loads[k]? = some ⟨n, .waiting (.response x)⟩)
    (hl : s.loader? n = some l) (hp : (x.receive ctx bytes).progress = .waiting x')
    (hne : stages ≠ [])
    (h : GoesAs ctx (s.setPhase k (.waiting (.response x'))) n k l stages result trace) :
    GoesAs ctx s n k l (([], bytes) :: stages) result ((x.receive ctx bytes).trace ++ trace) := by
  have hgive := give_response_of_waiting hp
  have hstep : s.step ctx (.deliver k (.response bytes))
      = (s.setPhase k (.waiting (.response x')), ⟨.waiting, (x.receive ctx bytes).trace⟩) := by
    rw [step_deliver (.response bytes) hk hl rfl, hgive]; rfl
  have hc : s.completion? ctx (.deliver k (.response bytes)) = none := by
    have hload : s.load? k = some (⟨n, .waiting (.response x)⟩, l) := load?_eq_some_iff.mpr ⟨hk, hl⟩
    simp [completion?, hload, Load.wait?, hgive]
  have hsteps : Step.staged k (([], bytes) :: stages)
      = .deliver k (.response bytes) :: Step.staged k stages := by
    rw [staged_cons, List.nil_append]
  have hdeliveries : s.deliveries ctx k (Step.staged k (([], bytes) :: stages))
      = ⟨.waiting, (x.receive ctx bytes).trace⟩
        :: (s.setPhase k (.waiting (.response x'))).deliveries ctx k (Step.staged k stages) := by
    rw [hsteps, deliveries_cons_deliver, hstep]
  refine ⟨?_, ?_, ?_⟩
  · have hlength : (([], bytes) :: stages : List (List Step × List UInt8)).length - 1
        = (stages.length - 1) + 1 := by
      have := List.length_pos_iff.mpr hne
      simp only [List.length_cons]
      omega
    rw [hdeliveries, List.map_cons, h.answers, hlength, List.replicate_succ, List.cons_append]
  · rw [hdeliveries, List.append_assoc, ← h.trace]; rfl
  · rw [hsteps, ← List.singleton_append]
    refine .of_append ?_ (staged_ne_nil hne) ?_
    · simp [Session.completions, hc]
    · rw [after_cons, after_nil, hstep]
      exact h.ends

/-- **A load given its responses in stages goes as the fetch that it waits in.** -/
theorem goesAs_of_receiveAll (hspares : ∀ stage ∈ stages, ∀ t ∈ stage.1, t.spares k)
    (hk : s.loads[k]? = some ⟨n, .waiting (.response x)⟩) (hl : s.loader? n = some l)
    (h : Stage.receiveAll ctx ⟨.waiting x, []⟩ (stages.map (·.2))
      = (⟨.finished result, trace⟩, [])) :
    GoesAs ctx s n k l stages result trace := by
  -- the loader may be replaced on the way, but by one of the same URL, and that is all that shows
  induction stages generalizing s x l trace with
  | nil => cases h
  | cons stage stages ih =>
    obtain ⟨gap, bytes⟩ := stage
    have hgap : ∀ t ∈ gap, t.spares k := hspares (gap, bytes) (by simp)
    have hmore : ∀ stage ∈ stages, ∀ t ∈ stage.1, t.spares k :=
      fun stage hstage => hspares stage (by simp [hstage])
    have hk' : (s.after ctx gap).loads[k]? = some ⟨n, .waiting (.response x)⟩ :=
      getElem?_after_of_spares hgap hk rfl
    obtain ⟨l', hl', hurl⟩ := exists_loader?_after ctx hl gap
    refine .of_gap hgap hk rfl (.congr hurl ?_)
    rw [List.map_cons, Stage.receiveAll_cons_of_waiting rfl, List.nil_append] at h
    cases hp : (x.receive ctx bytes).progress with
    | finished result' =>
      rw [hp, Stage.receiveAll_of_finished rfl, Prod.mk.injEq, Stage.mk.injEq] at h
      obtain ⟨⟨hresult, htrace⟩, hnil⟩ := h
      cases hresult
      cases htrace
      rw [List.map_eq_nil_iff.mp hnil]
      exact goesAs_of_finished hk' hl' hp
    | waiting x' =>
      -- what has been seen until now is split off, so that the rest starts from nothing
      rw [hp] at h
      obtain ⟨rest, hrest, htrace⟩ := Stage.exists_trace_of_waiting rfl h
      have hne : stages ≠ [] := by
        rintro rfl
        cases hrest
      rw [htrace]
      have hk'' : ((s.after ctx gap).setPhase k (.waiting (.response x'))).loads[k]?
          = some ⟨n, .waiting (.response x')⟩ := by
        rw [setPhase_getElem?, hk', Option.map_some, if_pos rfl]
      exact goesAs_of_waiting hk' hl' hp hne (ih hmore hk'' hl' hrest)

end goesAs

/-! ## A load that is begun -/

section fetch

variable {source : Source} {first : List (List UInt8)} {reply : Option Reply}
variable {stages : List (List Step × List UInt8)}

/-- **A load in place does what the fetch does.** -/
theorem step_loadInPlace_web (hl : s.held? n = some l) (ho : l.origin = .web source) :
    s.step ctx (.loadInPlace n ⟨reply, first⟩)
      = (s.setLoader n (l.accept (.ofResult (source.fetch ctx l.url first).result)),
        ⟨.done, l.traceOf (source.fetch ctx l.url first)⟩) := by
  simp only [step, withLoader, hl, Session.loadInPlace, Loader.loadInPlace_eq ho]

/-- What came of a load that is begun and then given its responses one at a time. -/
def reportsInStages (ctx : Context) (s : Session) (n : Nat) (supply : Loader.Supply)
    (stages : List (List Step × List UInt8)) : List Report :=
  (s.step ctx (.load n supply)).2
    :: (s.step ctx (.load n supply)).1.deliveries ctx s.loads.length
      (Step.staged s.loads.length stages)

/-- A load in stages that does what a fetch does: it answers in order, is seen as the fetch is, and
ends with its last response and the result of the fetch. -/
structure AgreesInStages (ctx : Context) (s : Session) (n : Nat) (l : Loader)
    (supply : Loader.Supply) (stages : List (List Step × List UInt8)) (f : Source.Fetched) :
    Prop where
  answers : (s.reportsInStages ctx n supply stages).map (·.answer)
    = Answer.inStages s.loads.length stages.length
  trace : Report.traceOf (s.reportsInStages ctx n supply stages) = l.traceOf f
  ends : EndsLoad ctx s n s.loads.length (.load n supply :: Step.staged s.loads.length stages)
    (.ofResult f.result)

/-- A load that has all its responses when it begins ends at once. -/
theorem agreesInStages_of_finished {result : Except FetchError String} (hl : s.held? n = some l)
    (ho : l.origin = .web source)
    (hp : ((source.start ctx l.url).receiveAll ctx first).1.progress = .finished result) :
    AgreesInStages ctx s n l ⟨reply, first⟩ [] (source.fetch ctx l.url first) := by
  have hstate : (l.launch ctx ⟨reply, first⟩).state = .inr (.ofResult result) := by
    rw [Loader.launch_state ho, hp]
    rfl
  have hresult := Source.fetch_result_of_finished hp
  have hreport : (s.step ctx (.load n ⟨reply, first⟩)).2
      = ⟨.load s.loads.length false, l.traceOf (source.fetch ctx l.url first)⟩ := by
    simp only [step, withLoader, hl, Session.load, hstate, Loader.launch_trace ho, Loader.traceOf,
      hresult]
    rfl
  have hc : s.completion? ctx (.load n ⟨reply, first⟩)
      = some ⟨n, some s.loads.length, .ofResult result⟩ := by
    simp [completion?, hl, hstate]
  refine ⟨?_, ?_, ?_⟩
  · rw [reportsInStages, hreport]
    rfl
  · rw [reportsInStages, hreport]
    exact List.append_nil _
  · rw [hresult]
    exact endsLoad_of_completion hc

/-- A load that waits when it has begun goes on as the fetch does. -/
theorem agreesInStages_of_waiting {x : Exchange} (hl : s.held? n = some l)
    (ho : l.origin = .web source)
    (hp : ((source.start ctx l.url).receiveAll ctx first).1.progress = .waiting x)
    (hspares : ∀ stage ∈ stages, ∀ t ∈ stage.1, t.spares s.loads.length)
    (hserved : ((source.start ctx l.url).receiveAll ctx first).1.IsServedBy ctx (stages.map (·.2))) :
    AgreesInStages ctx s n l ⟨reply, first⟩ stages
      (source.fetch ctx l.url (first ++ stages.map (·.2))) := by
  have hstate : (l.launch ctx ⟨reply, first⟩).state = .inl (.response x) := by
    rw [Loader.launch_state ho, hp]
    rfl
  have hstep : s.step ctx (.load n ⟨reply, first⟩)
      = (s.addLoad ⟨n, .waiting (.response x)⟩,
        ⟨.load s.loads.length true,
          l.opening ++ ((source.start ctx l.url).receiveAll ctx first).1.trace⟩) := by
    simp only [step, withLoader, hl, Session.load, hstate, Loader.launch_trace ho]
  have hc : s.completion? ctx (.load n ⟨reply, first⟩) = none := by
    simp [completion?, hl, hstate]
  have hne : stages ≠ [] := by
    intro h
    exact hserved.ne_nil hp (List.map_eq_nil_iff.mpr h)
  obtain ⟨result, trace, h⟩ := hserved
  obtain ⟨rest, hrest, htrace⟩ := Stage.exists_trace_of_waiting hp h
  have hgoes : GoesAs ctx (s.addLoad ⟨n, .waiting (.response x)⟩) n s.loads.length l stages result
      rest := by
    refine goesAs_of_receiveAll hspares ?_ ?_ hrest
    · rw [addLoad_loads, List.getElem?_concat_length]
    · rw [loader?_congr _ (addLoad_slots _ _)]
      exact loader?_of_held? hl
  rw [Source.fetch_append_of_waiting hp h]
  refine ⟨?_, ?_, ?_⟩
  · rw [reportsInStages, hstep, List.map_cons, hgoes.answers]
    obtain ⟨stage, more, rfl⟩ := List.exists_cons_of_ne_nil hne
    rfl
  · -- what is seen when the load begins, and then what is seen of the rest
    rw [reportsInStages, hstep, Loader.traceOf, htrace, ← List.append_assoc, List.append_assoc,
      ← hgoes.trace]
    rfl
  · rw [← List.singleton_append]
    refine .of_append ?_ (staged_ne_nil hne) ?_
    · simp [Session.completions, hc]
    · rw [after_cons, after_nil, hstep]
      exact hgoes.ends

/-- **A load in stages does what the fetch does**, wherever its responses are parted. -/
theorem agreesInStages (hl : s.held? n = some l) (ho : l.origin = .web source)
    (hspares : ∀ stage ∈ stages, ∀ t ∈ stage.1, t.spares s.loads.length)
    (hserved : (source.start ctx l.url).IsServedBy ctx (first ++ stages.map (·.2))) :
    AgreesInStages ctx s n l ⟨reply, first⟩ stages
      (source.fetch ctx l.url (first ++ stages.map (·.2))) := by
  have hleft := hserved.of_append
  cases hp : ((source.start ctx l.url).receiveAll ctx first).1.progress with
  | finished result =>
    obtain ⟨-, hmap⟩ := List.append_eq_nil_iff.mp (hleft.eq_nil hp)
    rw [List.map_eq_nil_iff.mp hmap, List.map_nil, List.append_nil]
    exact agreesInStages_of_finished hl ho hp
  | waiting x =>
    rw [Stage.receiveAll_snd_of_waiting _ _ hp, List.nil_append] at hleft
    exact agreesInStages_of_waiting hl ho hp hspares hleft

end fetch

/-! ## Staged, in place and alone -/

/--
**A web load goes as a fetch that has nothing to do with the session.**

Its source is as a step has made it, whatever has been done with it since. In place, a load does what
`Source.fetch` does with the same responses. If that takes all of them and asks for no other, a load
that has the `first` ones at hand and is given the rest one at a time (`stages`, each after steps that
spare the load) comes to the same, seen in the same way.
-/
theorem load_agrees_with_fetch (ctx : Context) (before : List Step) (n : Nat) (l : Loader)
    (source : Source) (hl : (empty.after ctx before).held? n = some l)
    (ho : l.origin = .web source) :
    -- the source
    (∃ making, Step.new l.url making ∈ before ∧ new.origin making = .ok (.web source)) ∧
    -- in place
    (∀ reply responses, (empty.after ctx before).step ctx (.loadInPlace n ⟨reply, responses⟩)
      = ((empty.after ctx before).setLoader n
          (l.accept (.ofResult (source.fetch ctx l.url responses).result)),
        ⟨.done, l.traceOf (source.fetch ctx l.url responses)⟩)) ∧
    -- in stages
    (∀ reply first stages,
      (∀ stage ∈ stages, ∀ t ∈ stage.1, t.spares (empty.after ctx before).loads.length) →
      (source.start ctx l.url).IsServedBy ctx (first ++ stages.map (·.2)) →
      AgreesInStages ctx (empty.after ctx before) n l ⟨reply, first⟩ stages
        (source.fetch ctx l.url (first ++ stages.map (·.2)))) := by
  refine ⟨?_, ?_, ?_⟩
  · obtain ⟨making, o, hnew, hmaking, heq⟩ := (accounted ctx before).made n l (loader?_of_held? hl)
    have horigin : l.origin = o := by
      rw [heq, Loader.acceptAll_origin]
      rfl
    exact ⟨making, hnew, by rw [hmaking, ← horigin, ho]⟩
  · intro reply responses
    exact step_loadInPlace_web hl ho
  · intro reply first stages hspares hserved
    exact agreesInStages hl ho hspares hserved

/-- Responses to a request that is redirected. -/
def moved : List UInt8 := Text.Utf8.encode "HTTP/1.1 302 Found\r\nLocation: /b\r\n\r\n".toList
def served : List UInt8 := Text.Utf8.encode "HTTP/1.1 200 OK\r\n\r\nhi".toList

/-- A web loader and another one. -/
def twoLoaders : List Step := [.new "http://h.test/a" .plain, .new "/b" .scripted]

/-- A load that is redirected after another one has ended, and served after its loader has been
dropped. -/
def redirected : List (List Step × List UInt8) :=
  [([.load 1 ⟨some (.text "other"), []⟩], moved), ([.dropLoader 0], served)]

/-- The load of `redirected` does what the fetch with the same responses does. -/
theorem load_agrees_redirected :
    (empty.after .plain twoLoaders).held? 0 = some ⟨"http://h.test/a", .web .absolute, "", 0⟩ ∧
      (Source.absolute.start .plain "http://h.test/a").IsServedBy .plain [moved, served] ∧
      AgreesInStages .plain (empty.after .plain twoLoaders) 0 ⟨"http://h.test/a", .web .absolute, "", 0⟩
        ⟨none, []⟩ redirected (Source.absolute.fetch .plain "http://h.test/a" [moved, served]) := by
  have hserved : (Source.absolute.start .plain "http://h.test/a").IsServedBy .plain [moved, served] := by
    decide +kernel
  have hspares : ∀ stage ∈ redirected, ∀ t ∈ stage.1,
      t.spares (empty.after .plain twoLoaders).loads.length := by
    simp [redirected, Step.spares]
  have h := load_agrees_with_fetch .plain twoLoaders 0 ⟨"http://h.test/a", .web .absolute, "", 0⟩
    .absolute rfl rfl
  exact ⟨rfl, hserved, h.2.2 none [] redirected hspares hserved⟩

end Session

end FragmentFeed
