import FragmentFeed.Proofs.Loader.Accept
import FragmentFeed.Proofs.Loader.Telling
import FragmentFeed.Proofs.Session.Outcome

/-!
# What answers do not tell

Whether a load has brought a text, which one, or why it has failed, is told by the content, the log and
the receivers. Nothing else tells: where replies differ in what they bring, all other steps are answered
the same. This is shown by leaving all of that out, of steps and of sessions (`withoutPayload`,
`outline`), and by seeing that steps go on the same.
-/

namespace FragmentFeed

/-- A reply without the text or the failure that it brings. -/
def Reply.withoutPayload : Reply → Reply
  | .panic message => .panic message
  | _ => .text ""

/-- What is given to a load, without the text or the failure in it. -/
def Delivery.withoutPayload : Delivery → Delivery
  | .reply r => .reply r.withoutPayload
  | .response bytes => .response bytes

/-- What is at hand for a load, without the text or the failure in it. -/
def Loader.Supply.withoutPayload (supply : Loader.Supply) : Loader.Supply :=
  { supply with reply := supply.reply.map .withoutPayload }

/-- A step without the text or the failure that a scripted source replies with. -/
def Step.withoutPayload : Step → Step
  | .load n supply => .load n supply.withoutPayload
  | .loadInPlace n supply => .loadInPlace n supply.withoutPayload
  | .deliver k d => .deliver k d.withoutPayload
  | t => t

/-- Whether a step reads from a receiver or asks whether there is something to read. -/
def Step.observes : Step → Bool
  | .borrow _ => true
  | .borrowAndUpdate _ => true
  | .hasChanged _ => true
  | .changed _ => true
  | _ => false

/-- What a step gives away apart from events and what receivers observe: its answer, the calls of
sources, and the requests. -/
def Step.disclosed (x : Step × Report) : Option Answer × List String × List Http.Request :=
  (if x.1.observes then none else some x.2.answer, x.2.trace.calls, x.2.trace.requests)

/-- A loader without its content. -/
def Loader.outline (l : Loader) : Loader := { l with content := "", version := 0 }

@[simp] theorem Loader.outline_url (l : Loader) : l.outline.url = l.url := rfl
@[simp] theorem Loader.outline_origin (l : Loader) : l.outline.origin = l.origin := rfl

/-- A receiver without what it has seen. -/
def Receiver.outline (r : Receiver) : Receiver := { r with seen := 0 }

namespace Session

variable {ctx : Context} {s s' : Session} {n k : Nat} {l : Loader}

/-- A session without contents. -/
def outline (s : Session) : Session where
  slots := s.slots.map fun slot => { slot with loader := slot.loader.outline }
  loads := s.loads
  receivers := s.receivers.map .outline

/-! ## Tables without contents -/

theorem held?_outline : s.outline.held? n = (s.held? n).map .outline := by
  unfold held? outline
  rw [List.getElem?_map]
  cases s.slots[n]? with
  | none => rfl
  | some slot => rcases slot with ⟨l, _ | _⟩ <;> rfl

theorem load?_outline : s.outline.load? k = (s.load? k).map fun x => (x.1, x.2.outline) := by
  unfold load? outline
  cases s.loads[k]? with
  | none => rfl
  | some load =>
    show ((s.slots.map _)[load.loader]?).map _ = (s.slots[load.loader]?.map _).map _
    rw [List.getElem?_map]
    cases s.slots[load.loader]? <;> rfl

theorem receiver?_outline :
    s.outline.receiver? n = (s.receiver? n).map fun x => (x.1.outline, x.2.outline) := by
  unfold receiver? outline
  rw [List.getElem?_map]
  cases s.receivers[n]? with
  | none => rfl
  | some r =>
    show (if r.live = true then ((s.slots.map _)[r.loader]?).map _ else none)
      = (if r.live = true then s.slots[r.loader]?.map _ else none).map _
    rw [List.getElem?_map]
    by_cases hlive : r.live = true
    · rw [if_pos hlive, if_pos hlive]
      cases s.slots[r.loader]? <;> rfl
    · rw [if_neg hlive, if_neg hlive]
      rfl

theorem outline_setLoader : (s.setLoader n l).outline = s.outline.setLoader n l.outline := by
  have hslots : (s.setLoader n l).outline.slots = (s.outline.setLoader n l.outline).slots := by
    refine List.ext_getElem? fun m => ?_
    simp only [outline, setLoader, List.getElem?_map, List.getElem?_modify]
    by_cases hm : n = m <;> cases s.slots[m]? <;> simp [hm]
  exact congrArg (fun slots => (⟨slots, s.loads, s.receivers.map .outline⟩ : Session)) hslots

theorem outline_release : (s.release n).outline = s.outline.release n := by
  have hslots : (s.release n).outline.slots = (s.outline.release n).slots := by
    refine List.ext_getElem? fun m => ?_
    simp only [outline, release, List.getElem?_map, List.getElem?_modify]
    by_cases hm : n = m <;> cases s.slots[m]? <;> simp [hm]
  exact congrArg (fun slots => (⟨slots, s.loads, s.receivers.map .outline⟩ : Session)) hslots

theorem outline_setPhase (p : Phase) : (s.setPhase k p).outline = s.outline.setPhase k p := rfl

theorem outline_addLoad (load : Load) : (s.addLoad load).outline = s.outline.addLoad load := rfl

theorem outline_addLoader : (s.addLoader l).outline = s.outline.addLoader l.outline := by
  simp [outline, addLoader]

theorem outline_addReceiver (r : Receiver) :
    (s.addReceiver r).outline = s.outline.addReceiver r.outline := by
  simp [outline, addReceiver]

theorem outline_setReceiver (r : Receiver) :
    (s.setReceiver n r).outline = s.outline.setReceiver n r.outline := by
  simp [outline, setReceiver, List.map_set]

theorem outline_outline : s.outline.outline = s.outline := by
  simp [outline, Loader.outline, Receiver.outline, Function.comp_def]

theorem length_slots_outline : s.outline.slots.length = s.slots.length := by
  simp [outline]

theorem length_receivers_outline : s.outline.receivers.length = s.receivers.length := by
  simp [outline]

/-! ## A step without what it brings -/

/-- A loader accepts a text, whatever it is, and is left alone by anything else; of this an outline shows
nothing. -/
theorem outline_accept (l : Loader) (r : Reply) : (l.accept r).outline = l.outline := by
  cases r <;> rfl

theorem ending_withoutPayload (r : Reply) : r.withoutPayload.ending = r.ending := by
  cases r <;> rfl

/-- Two steps that came to the same as far as anything can tell that does not observe: the one on an
outline, the other one on the session. -/
structure Alike (observes : Bool) (x x' : Session × Report) : Prop where
  session : x'.1.outline = x.1.outline
  answer : observes = false → x'.2.answer = x.2.answer
  calls : x'.2.trace.calls = x.2.trace.calls
  requests : x'.2.trace.requests = x.2.trace.requests

section alike

variable {observes : Bool}

/-- Both sessions are left as they are. -/
theorem Alike.rest (s : Session) (r : Report) : Alike observes (s, r) (s.outline, r) :=
  ⟨outline_outline, fun _ => rfl, rfl, rfl⟩

theorem alike_withLoader {act act' : Loader → Session × Report}
    (hact : ∀ l, Alike observes (act l) (act' l.outline)) :
    Alike observes (s.withLoader n act) (s.outline.withLoader n act') := by
  unfold withLoader
  rw [held?_outline]
  cases s.held? n with
  | none => exact .rest s _
  | some l => exact hact l

theorem alike_withLoad {act act' : Load → Loader → Session × Report}
    (hact : ∀ load l, s.loads[k]? = some load →
      Alike observes (act load l) (act' load l.outline)) :
    Alike observes (s.withLoad k act) (s.outline.withLoad k act') := by
  unfold withLoad
  rw [load?_outline]
  cases hk : s.load? k with
  | none => exact .rest s _
  | some x => exact hact x.1 x.2 (load?_eq_some_iff.mp hk).1

theorem alike_withReceiver {act act' : Receiver → Loader → Session × Report}
    (hact : ∀ r l, s.receivers[n]? = some r → Alike observes (act r l) (act' r.outline l.outline)) :
    Alike observes (s.withReceiver n act) (s.outline.withReceiver n act') := by
  unfold withReceiver
  rw [receiver?_outline]
  cases hr : s.receiver? n with
  | none => exact .rest s _
  | some x => exact hact x.1 x.2 (receiver?_eq_some_iff.mp hr).1

/-- How far a load comes is the same as far as anything can tell that does not observe: it waits for the
same, or has replies that end it in the same way. -/
def AlikeState (x x' : Loader.Wait ⊕ Reply) : Prop :=
  (∃ w, x = .inl w ∧ x' = .inl w) ∨ ∃ r r', x = .inr r ∧ x' = .inr r' ∧ r'.ending = r.ending

theorem alikeState_self (x : Loader.Wait ⊕ Reply) : AlikeState x x := by
  cases x with
  | inl w => exact .inl ⟨w, rfl, rfl⟩
  | inr r => exact .inr ⟨r, r, rfl, rfl, rfl⟩

theorem alikeState_launch (ctx : Context) (l : Loader) (supply : Loader.Supply) :
    AlikeState (l.launch ctx supply).state (l.outline.launch ctx supply.withoutPayload).state := by
  unfold Loader.launch
  rw [Loader.outline_origin, Loader.outline_url]
  cases l.origin with
  | web source => exact alikeState_self _
  | scripted =>
    obtain ⟨_ | r, responses⟩ := supply
    · exact .inl ⟨.reply, rfl, rfl⟩
    · exact .inr ⟨r, r.withoutPayload, rfl, rfl, ending_withoutPayload r⟩

theorem launch_outline_trace (ctx : Context) (l : Loader) (supply : Loader.Supply) :
    (l.outline.launch ctx supply.withoutPayload).trace = (l.launch ctx supply).trace := by
  unfold Loader.launch
  rw [Loader.outline_origin, Loader.outline_url]
  cases l.origin <;> rfl

theorem alikeState_give (ctx : Context) (w : Loader.Wait) (d : Delivery) :
    AlikeState (w.give ctx d).state (w.give ctx d.withoutPayload).state := by
  cases d with
  | response bytes => exact alikeState_self _
  | reply r =>
    cases w with
    | reply => exact .inr ⟨r, r.withoutPayload, rfl, rfl, ending_withoutPayload r⟩
    | response x => exact .inl ⟨.response x, rfl, rfl⟩

theorem give_withoutPayload_trace (ctx : Context) (w : Loader.Wait) (d : Delivery) :
    (w.give ctx d.withoutPayload).trace = (w.give ctx d).trace := by
  cases d <;> cases w <;> rfl

theorem alike_load (ctx : Context) (l : Loader) (supply : Loader.Supply) :
    Alike false (s.load ctx n l supply)
      (s.outline.load ctx n l.outline supply.withoutPayload) := by
  simp only [Session.load, launch_outline_trace]
  rcases alikeState_launch ctx l supply with ⟨w, hw, hw'⟩ | ⟨r, r', hr, hr', hend⟩
  · rw [hw, hw']
    refine ⟨?_, fun _ => rfl, rfl, rfl⟩
    rw [outline_addLoad, outline_addLoad, outline_outline]
  · rw [hr, hr']
    refine ⟨?_, fun _ => rfl, by simp, by simp⟩
    rw [outline_addLoad, outline_addLoad, outline_setLoader, outline_setLoader, outline_outline,
      outline_accept, outline_accept, hend]
    rfl

/-- A load in place leaves no more of an outline than was there. -/
theorem loadInPlace_outline (ctx : Context) (l : Loader) (supply : Loader.Supply) :
    (l.loadInPlace ctx supply).1.outline = l.outline ∧
      (l.loadInPlace ctx supply).2.calls = (l.launch ctx supply).trace.calls ∧
      (l.loadInPlace ctx supply).2.requests = (l.launch ctx supply).trace.requests := by
  simp only [Loader.loadInPlace]
  cases (l.launch ctx supply).reply? with
  | none => exact ⟨rfl, rfl, rfl⟩
  | some r => exact ⟨outline_accept l r, by simp, by simp⟩

theorem alike_loadInPlace (ctx : Context) (l : Loader) (supply : Loader.Supply) :
    Alike false (s.loadInPlace ctx n l supply)
      (s.outline.loadInPlace ctx n l.outline supply.withoutPayload) := by
  have htrace := launch_outline_trace ctx l supply
  obtain ⟨hloader, hcalls, hrequests⟩ := loadInPlace_outline ctx l supply
  obtain ⟨hloader', hcalls', hrequests'⟩ :=
    loadInPlace_outline ctx l.outline supply.withoutPayload
  refine ⟨?_, fun _ => rfl, ?_, ?_⟩
  · simp only [Session.loadInPlace]
    rw [outline_setLoader, outline_setLoader, outline_outline, hloader, hloader']
    rfl
  · simp only [Session.loadInPlace]
    rw [hcalls', hcalls, htrace]
  · simp only [Session.loadInPlace]
    rw [hrequests', hrequests, htrace]

theorem alike_finish (load : Load) (l : Loader) {r r' : Reply} (hend : r'.ending = r.ending)
    (trace : Trace) :
    Alike observes (s.finish k load l r trace) (s.outline.finish k load l.outline r' trace) := by
  refine ⟨?_, fun _ => rfl, by simp [finish], by simp [finish]⟩
  simp only [finish]
  rw [outline_setPhase, outline_setPhase, outline_setLoader, outline_setLoader, outline_outline,
    outline_accept, outline_accept, hend]
  rfl

theorem alike_setPhase (p : Phase) (r : Report) :
    Alike observes (s.setPhase k p, r) (s.outline.setPhase k p, r) := by
  refine ⟨?_, fun _ => rfl, rfl, rfl⟩
  rw [outline_setPhase, outline_setPhase, outline_outline]

theorem alike_deliver (ctx : Context) (d : Delivery) {load : Load} (l : Loader)
    (hk : s.loads[k]? = some load) :
    Alike observes (s.deliver ctx k load l d)
      (s.outline.deliver ctx k load l.outline d.withoutPayload) := by
  cases hp : load.phase with
  | finished o taken =>
    unfold deliver
    rw [hp]
    exact .rest s _
  | waiting w =>
    rw [deliver_eq hk hp, deliver_eq (s := s.outline) hk hp, give_withoutPayload_trace]
    rcases alikeState_give ctx w d with ⟨w', hw, hw'⟩ | ⟨r, r', hr, hr', hend⟩
    · rw [hw, hw']
      exact alike_setPhase _ _
    · rw [hr, hr']
      exact alike_finish load l hend _

theorem alike_abort (load : Load) : Alike observes (s.abort k load) (s.outline.abort k load) := by
  unfold abort
  cases load.phase with
  | waiting w => exact alike_setPhase _ _
  | finished o taken => exact .rest s _

theorem alike_handle (load : Load) : Alike observes (s.handle k load) (s.outline.handle k load) := by
  unfold handle
  cases load.phase with
  | waiting w => exact .rest s _
  | finished o taken =>
    cases taken with
    | false => exact alike_setPhase _ _
    | true => exact .rest s _

theorem alike_new (url : String) (making : Making) :
    Alike observes (s.new url making) (s.outline.new url making) := by
  unfold Session.new
  cases new.origin making with
  | error a => exact .rest s _
  | ok o =>
    refine ⟨?_, fun _ => ?_, rfl, rfl⟩
    · rw [outline_addLoader, outline_addLoader, outline_outline]
    · show Answer.loader s.outline.slots.length url = .loader s.slots.length url
      rw [length_slots_outline]

theorem alike_addReceiver {r r' : Receiver} (hr : r'.outline = r.outline) :
    Alike observes (s.addReceiver r, .only (.receiver s.receivers.length))
      (s.outline.addReceiver r', .only (.receiver s.outline.receivers.length)) := by
  refine ⟨?_, fun _ => ?_, rfl, rfl⟩
  · rw [outline_addReceiver, outline_addReceiver, outline_outline, hr]
  · rw [length_receivers_outline]

theorem alike_setReceiver {r r' : Receiver} (hr : r'.outline = r.outline) (a : Report) :
    Alike observes (s.setReceiver n r, a) (s.outline.setReceiver n r', a) := by
  refine ⟨?_, fun _ => rfl, rfl, rfl⟩
  rw [outline_setReceiver, outline_setReceiver, outline_outline, hr]

/-! ## Observations -/

/-- What a receiver sees does not show in an outline. -/
theorem outline_see {r : Receiver} (l : Loader) (hr : s.receivers[n]? = some r) :
    (s.see n r l).outline = s.outline := by
  obtain ⟨hn, rfl⟩ := List.getElem?_eq_some_iff.mp hr
  have hset : (s.receivers.map .outline).set n (s.receivers[n]).outline
      = s.receivers.map .outline := by
    rw [← List.map_set, List.set_getElem_self]
  show (s.setReceiver n _).outline = s.outline
  rw [outline_setReceiver]
  exact congrArg (fun receivers => { s.outline with receivers := receivers }) hset

/-- An observation changes no outline and asks nobody. -/
structure Looks (s : Session) (x : Session × Report) : Prop where
  session : x.1.outline = s.outline
  calls : x.2.trace.calls = []
  requests : x.2.trace.requests = []

theorem Looks.alike {x x' : Session × Report} (h : s.Looks x) (h' : s.outline.Looks x') :
    Alike true x x' :=
  ⟨by rw [h'.session, h.session, outline_outline], nofun, by rw [h'.calls, h.calls],
    by rw [h'.requests, h.requests]⟩

theorem looks_rest (s : Session) (a : Answer) : s.Looks (s, .only a) := ⟨rfl, rfl, rfl⟩

theorem looks_see {r : Receiver} (l : Loader) (hr : s.receivers[n]? = some r) (a : Answer) :
    s.Looks (s.see n r l, .only a) := ⟨outline_see l hr, rfl, rfl⟩

theorem looks_changed {r : Receiver} (l : Loader) (hr : s.receivers[n]? = some r) :
    s.Looks (s.changed n r l) := by
  unfold changed
  split
  · exact looks_see l hr _
  · split
    · exact looks_rest s _
    · exact looks_rest s _

theorem receivers_outline {r : Receiver} (hr : s.receivers[n]? = some r) :
    s.outline.receivers[n]? = some r.outline := by
  simp [outline, hr]

/-- **Without contents and without what it brings, a step comes to the same.** -/
theorem alike_step (ctx : Context) (s : Session) (t : Step) :
    Alike t.observes (s.step ctx t) (s.outline.step ctx t.withoutPayload) := by
  cases t with
  | new url making => exact alike_new url making
  | load n supply => exact alike_withLoader fun l => alike_load ctx l supply
  | loadInPlace n supply => exact alike_withLoader fun l => alike_loadInPlace ctx l supply
  | url n => exact alike_withLoader fun l => .rest s _
  | dropLoader n =>
    refine alike_withLoader fun l => ⟨?_, fun _ => rfl, rfl, rfl⟩
    rw [outline_release, outline_release, outline_outline]
  | subscribe n => exact alike_withLoader fun l => alike_addReceiver rfl
  | deliver k d => exact alike_withLoad fun load l hk => alike_deliver ctx d l hk
  | abort k => exact alike_withLoad fun load l _ => alike_abort load
  | handle k => exact alike_withLoad fun load l _ => alike_handle load
  | borrow n =>
    exact alike_withReceiver fun r l _ => (looks_rest s _).alike (looks_rest s.outline _)
  | borrowAndUpdate n =>
    exact alike_withReceiver fun r l hr =>
      (looks_see l hr _).alike (looks_see l.outline (receivers_outline hr) _)
  | hasChanged n =>
    exact alike_withReceiver fun r l _ => (looks_rest s _).alike (looks_rest s.outline _)
  | changed n =>
    exact alike_withReceiver fun r l hr =>
      (looks_changed l hr).alike (looks_changed l.outline (receivers_outline hr))
  | cloneReceiver n => exact alike_withReceiver fun r l _ => alike_addReceiver rfl
  | dropReceiver n =>
    refine alike_withReceiver fun r l _ => alike_setReceiver ?_ _
    rfl

end alike

/-! ## Runs -/

theorem observes_withoutPayload (t : Step) : t.withoutPayload.observes = t.observes := by
  cases t <;> rfl

theorem disclosed_eq {t t' : Step} {x x' : Session × Report} (ht : t'.observes = t.observes)
    (h : Alike t.observes x x') : Step.disclosed (t', x'.2) = Step.disclosed (t, x.2) := by
  simp only [Step.disclosed, h.calls, h.requests, ht]
  cases hobserves : t.observes with
  | true => rfl
  | false => rw [h.answer hobserves]

/-- A step discloses what its outline does. -/
theorem disclosed_step (ctx : Context) (s : Session) (t : Step) :
    Step.disclosed (t.withoutPayload, (s.outline.step ctx t.withoutPayload).2)
      = Step.disclosed (t, (s.step ctx t).2) :=
  disclosed_eq (observes_withoutPayload t) (alike_step ctx s t)

/-- **Runs that differ in what they bring only disclose the same.** -/
theorem disclosed_run (ctx : Context) {steps steps' : List Step} (hs : s'.outline = s.outline)
    (hsteps : steps'.map Step.withoutPayload = steps.map Step.withoutPayload) :
    (s'.transcript ctx steps').map Step.disclosed
        = (s.transcript ctx steps).map Step.disclosed ∧
      (s'.after ctx steps').outline = (s.after ctx steps).outline := by
  induction steps generalizing s s' steps' with
  | nil =>
    rw [List.map_nil, List.map_eq_nil_iff] at hsteps
    subst hsteps
    exact ⟨rfl, hs⟩
  | cons t steps ih =>
    obtain ⟨t', more', rfl, ht, hmore⟩ := List.map_eq_cons_iff.mp hsteps
    have hdisclosed : Step.disclosed (t', (s'.step ctx t').2) = Step.disclosed (t, (s.step ctx t).2) := by
      rw [← disclosed_step ctx s' t', ← disclosed_step ctx s t, hs, ht]
    have hnext : (s'.step ctx t').1.outline = (s.step ctx t).1.outline := by
      rw [← (alike_step ctx s' t').session, ← (alike_step ctx s t).session, hs, ht]
    obtain ⟨htranscript, hafter⟩ := ih hnext hmore
    rw [transcript_cons, transcript_cons, List.map_cons, List.map_cons, after_cons, after_cons,
      hdisclosed, htranscript]
    exact ⟨rfl, hafter⟩

/-! ## What a handle tells -/

/--
**A handle tells that a load has ended, once, and not whether it has succeeded.**

Its answers say first that there is no such load, as long as it has not been begun, then that it is
pending, then once how it has ended, and from then on that this has been said. The outcome is that of
what came first: that the source came back, with a text or a failure, that it broke down, or that the
load was stopped. So nothing changes in the answers of steps that do not observe contents, nor in what
the sources and the server are asked, when the replies of sources bring something else.
-/
theorem handle_tells_end_only (ctx : Context) :
    (∀ (steps : List Step) (k : Nat),
      let answers := empty.handleAnswers ctx k steps
      let ends := empty.endingsOf ctx k steps
      -- what it has answered
      (∃ absent pending, answers = unanswered absent pending ∨
        ∃ o taken, ends.head? = some o ∧
          answers = unanswered absent pending ++ .outcome o :: List.replicate taken .taken) ∧
      -- what it answers next
      ((empty.after ctx steps).step ctx (.handle k)).2.answer
        = if (empty.after ctx steps).loads.length ≤ k then .noLoad
          else .ofEndings ends answers) ∧
    (∀ steps steps' : List Step,
      steps'.map Step.withoutPayload = steps.map Step.withoutPayload →
      (empty.transcript ctx steps').map Step.disclosed
          = (empty.transcript ctx steps).map Step.disclosed ∧
        (empty.after ctx steps').loads = (empty.after ctx steps).loads) := by
  constructor
  · intro steps k answers ends
    have hstory : Story _ ends answers := story ctx steps k
    refine ⟨hstory.answers_eq, ?_⟩
    rw [(step_handle ctx k (loadsHaveLoaders ctx steps)).1, hstory.ofPhase_eq]
    by_cases hk : (empty.after ctx steps).loads.length ≤ k
    · rw [if_pos hk, if_pos (phase?_eq_none_iff.mpr hk)]
    · rw [if_neg hk, if_neg fun hphase => hk (phase?_eq_none_iff.mp hphase)]
  · intro steps steps' hsteps
    obtain ⟨htranscript, houtline⟩ := disclosed_run ctx (rfl : empty.outline = empty.outline) hsteps
    have hloads : (empty.after ctx steps').outline.loads = (empty.after ctx steps).outline.loads := by
      rw [houtline]
    exact ⟨htranscript, hloads⟩

/-- A run in which one load is stopped before it is given a reply, and another one has the reply at
once. -/
def stoppedFirst (r : Reply) : List Step :=
  [.new "/nav.html" .scripted, .handle 0, .load 0 ⟨none, []⟩, .load 0 ⟨some r, []⟩, .handle 0, .abort 0,
    .deliver 0 (.reply r), .handle 0, .handle 1]

/-- The handles in `stoppedFirst` answer the same whether the reply is a text or a failure. -/
theorem handle_stoppedFirst :
    (stoppedFirst (.failure .bodyRead)).map Step.withoutPayload
        = (stoppedFirst (.text "<nav/>")).map Step.withoutPayload ∧
      empty.endingsOf .plain 0 (stoppedFirst (.text "<nav/>")) = [.cancelled] ∧
      ((empty.after .plain (stoppedFirst (.text "<nav/>"))).step .plain (.handle 0)).2.answer = .taken ∧
      (empty.transcript .plain (stoppedFirst (.failure .bodyRead))).map Step.disclosed
        = (empty.transcript .plain (stoppedFirst (.text "<nav/>"))).map Step.disclosed := by
  obtain ⟨hone, hruns⟩ := handle_tells_end_only .plain
  have hsame : (stoppedFirst (.failure .bodyRead)).map Step.withoutPayload
      = (stoppedFirst (.text "<nav/>")).map Step.withoutPayload := rfl
  refine ⟨hsame, by decide, ?_, (hruns _ _ hsame).1⟩
  rw [(hone (stoppedFirst (.text "<nav/>")) 0).2]
  decide

end Session

end FragmentFeed
