import FragmentFeed.Proofs.Session.Chronicle
import FragmentFeed.Proofs.Session.Independence

/-!
# Accounts

What the log tells of the loads of a loader comes out even: each load that has been told of as begun has
brought a text, has failed, has been stopped, has broken down, or still waits. This is kept by every
step (`Transition.balanced`), whatever else the loader's loads and other loaders do; and each text that
is told of is published by the same step.
-/

namespace FragmentFeed

/-- How far a load with such a phase has come: a load that waits or was stopped had no reply, and one
that has ended had one. -/
def Phase.Follows (state : Loader.Wait ⊕ Reply) : Phase → Prop
  | .waiting w => state = .inl w
  | .finished .cancelled _ => ∃ w, state = .inl w
  | .finished (.ended ending) _ => ∃ r, state = .inr r ∧ ending = r.ending

namespace Session

open Log

variable {ctx : Context} {s s' : Session} {t : Step} {c : Option Completion} {report : Report}
variable {steps : List Step} {n k : Nat} {load : Load} {l : Loader}

/-! ## What is counted -/

/-- What a step tells of a loader. -/
def eventsAt (ctx : Context) (s : Session) (n : Nat) (t : Step) : List Event :=
  if s.subject? t = some n then (s.step ctx t).2.trace.events else []

/-- What has been told of a loader in a run. -/
def eventsFor (ctx : Context) (s : Session) (n : Nat) : List Step → List Event
  | [] => []
  | t :: more => s.eventsAt ctx n t ++ eventsFor ctx (s.step ctx t).1 n more

/-- The loader of which a step stops a load that waits. A load in place that no reply comes for is given
up, which is to stop it. -/
def stopped? (ctx : Context) (s : Session) : Step → Option Nat
  | .abort k => (s.load? k).bind fun x => if x.1.isWaiting then some x.1.loader else none
  | .loadInPlace n supply =>
    (s.held? n).bind fun l => if (l.launch ctx supply).reply?.isNone then some n else none
  | _ => none

/-- How many loads of a loader have been stopped in a run while they waited. -/
def stops (ctx : Context) (s : Session) (n : Nat) : List Step → Nat
  | [] => 0
  | t :: more => (if s.stopped? ctx t = some n then 1 else 0) + stops ctx (s.step ctx t).1 n more

/-- How many loads of a loader wait. -/
def waitingLoads (s : Session) (n : Nat) : Nat :=
  s.loads.countP fun load => load.loader = n && load.isWaiting

/-- How many loads of a loader have broken down in a run. -/
def panics (ctx : Context) (s : Session) (n : Nat) (steps : List Step) : Nat :=
  (Completion.repliesTo n (s.completions ctx steps)).countP Reply.isPanic

theorem eventsFor_append (first more : List Step) :
    s.eventsFor ctx n (first ++ more)
      = s.eventsFor ctx n first ++ (s.after ctx first).eventsFor ctx n more := by
  induction first generalizing s with
  | nil => rfl
  | cons t first ih =>
    rw [List.cons_append, eventsFor, ih, eventsFor, after_cons, List.append_assoc]

theorem stops_append (first more : List Step) :
    s.stops ctx n (first ++ more) = s.stops ctx n first + (s.after ctx first).stops ctx n more := by
  induction first generalizing s with
  | nil => simp [stops]
  | cons t first ih => rw [List.cons_append, stops, ih, stops, after_cons, Nat.add_assoc]

/-! ## How many loads wait -/

theorem countP_modify {α : Type} (p : α → Bool) (f : α → α) (xs : List α) (i : Nat) {a : α}
    (ha : xs[i]? = some a) :
    (xs.modify i f).countP p + (if p a then 1 else 0) = xs.countP p + if p (f a) then 1 else 0 := by
  induction xs generalizing i with
  | nil => cases ha
  | cons x xs ih =>
    cases i with
    | zero =>
      cases ha
      rw [List.modify_zero_cons, List.countP_cons, List.countP_cons]
      omega
    | succ i =>
      have h := ih i ha
      rw [List.modify_succ_cons, List.countP_cons, List.countP_cons]
      omega

theorem waitingLoads_addLoad :
    (s.addLoad load).waitingLoads n
      = s.waitingLoads n + if load.loader = n ∧ load.isWaiting = true then 1 else 0 := by
  rw [waitingLoads, addLoad_loads, List.countP_append, List.countP_singleton]
  simp only [Bool.and_eq_true, decide_eq_true_eq]
  rfl

/-- A load that goes on as it is, waiting or not, is counted as before. -/
theorem waitingLoads_setPhase {p : Phase} (hk : s.loads[k]? = some load)
    (hp : Load.isWaiting ⟨load.loader, p⟩ = load.isWaiting) :
    (s.setPhase k p).waitingLoads n = s.waitingLoads n := by
  have h := countP_modify (fun load : Load => load.loader = n && load.isWaiting)
    (fun load => { load with phase := p }) s.loads k hk
  rw [hp] at h
  exact Nat.add_right_cancel h

/-- A load that has waited and comes to its end is one less. -/
theorem waitingLoads_setPhase_finished {w : Loader.Wait} (o : Outcome) (taken : Bool)
    (hk : s.loads[k]? = some load) (hp : load.phase = .waiting w) :
    s.waitingLoads n
      = (s.setPhase k (.finished o taken)).waitingLoads n + if load.loader = n then 1 else 0 := by
  have h := countP_modify (fun load : Load => load.loader = n && load.isWaiting)
    (fun load => { load with phase := .finished o taken }) s.loads k hk
  have hwaiting : load.isWaiting = true := by rw [Load.isWaiting, hp]
  have hended : Load.isWaiting ⟨load.loader, .finished o taken⟩ = false := rfl
  rw [hwaiting, hended, Bool.and_true, Bool.and_false, if_neg Bool.false_ne_true, Nat.add_zero] at h
  simp only [decide_eq_true_eq] at h
  exact h.symm

/-! ## One step -/

/-- What a step adds to the accounts of a loader, going by what it tells of the loader, by what the
sources have come back with, by how many loads it stops, and by how many wait then. -/
structure Balances (events : List Event) (replies : List Reply) (stopped before after : Nat) : Prop
    where
  pending : events.countP Event.isPending + before = replies.length + stopped + after
  loaded : events.countP Event.isLoaded = (replies.filterMap Reply.text?).length
  failed : events.countP Event.isFailed = replies.countP Reply.isFailure

/-- Nothing is told and nothing happens. -/
theorem balances_rest (w : Nat) : Balances [] [] 0 w w := ⟨by simp, rfl, rfl⟩

/-- A load begins and waits. -/
theorem balances_begin (url : String) (w : Nat) : Balances [.pending url] [] 0 w (w + 1) :=
  ⟨by simp [Event.isPending]; omega, rfl, rfl⟩

/-- A load begins and is given up. -/
theorem balances_giveUp (url : String) (w : Nat) : Balances [.pending url] [] 1 w w :=
  ⟨by simp [Event.isPending], rfl, rfl⟩

section tale

variable {url : String} {own : List Event}

/-- What a source tells does not count. -/
theorem countP_tale_append (p : Event → Bool) (hown : own.countP p = 0) (r : Reply) :
    (own ++ l.eventsOf r).countP p = (l.eventsOf r).countP p := by
  rw [List.countP_append, hown, Nat.zero_add]

/-- A load that has waited comes to its end. -/
theorem balances_end (hown : IsSourceTale url own) (l : Loader) (r : Reply) (w : Nat) :
    Balances (own ++ l.eventsOf r) [r] 0 (w + 1) w := by
  obtain ⟨hpending, hloaded, hfailed⟩ := hown.countP_eq_zero
  obtain ⟨hpending', hloaded', hfailed'⟩ := l.countP_eventsOf r
  refine ⟨?_, ?_, ?_⟩
  · rw [countP_tale_append _ hpending, hpending', List.length_singleton]
    omega
  · rw [countP_tale_append _ hloaded, hloaded']
  · rw [countP_tale_append _ hfailed, hfailed']

/-- A load begins and comes to its end. -/
theorem balances_endAtOnce (hown : IsSourceTale url own) (l : Loader) (r : Reply) (w : Nat) :
    Balances (.pending l.url :: (own ++ l.eventsOf r)) [r] 0 w w := by
  obtain ⟨hpending, hloaded, hfailed⟩ := balances_end hown l r w
  refine ⟨?_, ?_, ?_⟩
  · rw [List.countP_cons_of_pos rfl]
    omega
  · rw [List.countP_cons_of_neg (by simp [Event.isLoaded]), hloaded]
  · rw [List.countP_cons_of_neg (by simp [Event.isFailed]), hfailed]

end tale

/-- For another loader than the one that it happens to, nothing happens. -/
theorem balances_if {m before after : Nat} {events : List Event} {replies : List Reply}
    (hat : m = n → Balances events replies 0 before after) (hother : m ≠ n → before = after) :
    Balances (if some m = some n then events else []) (if m = n then replies else []) 0 before
      after := by
  by_cases hm : m = n
  · rw [if_pos (congrArg some hm), if_pos hm]
    exact hat hm
  · rw [if_neg (mt Option.some.inj hm), if_neg hm, hother hm]
    exact balances_rest _

theorem repliesTo_singleton (m : Nat) (load : Option Nat) (r : Reply) :
    Completion.repliesTo n [⟨m, load, r⟩] = if m = n then [r] else [] := by
  by_cases hm : m = n
  · simp [Completion.repliesTo, hm]
  · simp [Completion.repliesTo, hm]

/-- A load that waits has told nothing yet but that it has begun. -/
def WaitsInSilence (ctx : Context) (s : Session) : Prop :=
  ∀ (k : Nat) (load : Load) (l : Loader) (w : Loader.Wait), s.load? k = some (load, l) →
    load.phase = .waiting w → ∃ trace, l.Asked ctx (.inl w) trace ∧ trace.events = []

theorem waitsInSilence (ctx : Context) (steps : List Step) :
    (empty.after ctx steps).WaitsInSilence ctx := by
  intro k load l w hk hp
  have hc := (chronicled ctx steps).begun k load l hk
  generalize empty.recordOf ctx k steps = record at hc
  rw [hp] at hc
  cases hc with
  | waiting hasked => exact ⟨_, hasked, hasked.tells.2.2 ⟨w, rfl⟩⟩

/-- What is told when such a load is given something is what its source tells. -/
theorem WaitsInSilence.give {w : Loader.Wait} (h : s.WaitsInSilence ctx)
    (hk : s.load? k = some (load, l)) (hp : load.phase = .waiting w) (d : Delivery) :
    IsSourceTale l.url (w.give ctx d).trace.events ∧
      ((∃ w', (w.give ctx d).state = .inl w') → (w.give ctx d).trace.events = []) := by
  obtain ⟨trace, hasked, hsilent⟩ := h k load l w hk hp
  have htells := (hasked.give d).tells
  rw [Trace.events_append, hsilent, List.nil_append] at htells
  exact htells.2

/-- **A step that stops no load keeps the accounts even.** -/
theorem Transition.balanced (h : Transition ctx s t c s' report) (hwaits : s.WaitsInSilence ctx)
    (hstop : s.stopped? ctx t = none) (n : Nat) :
    Balances (if s.subject? t = some n then report.trace.events else [])
      (Completion.repliesTo n c.toList) 0 (s.waitingLoads n) (s'.waitingLoads n) := by
  have hrest : ∀ {a : Answer} (m : Option Nat),
      Balances (if m = some n then (Report.only a).trace.events else []) [] 0
        (s.waitingLoads n) (s.waitingLoads n) := by
    intro a m
    have hnothing : (if m = some n then (Report.only a).trace.events else []) = [] := ite_self _
    rw [hnothing]
    exact balances_rest _
  cases h with
  | @begin m supply l w hl hw =>
    obtain ⟨trace, htrace, hasked⟩ := Loader.launch_asked ctx l supply
    rw [hw] at hasked
    have hsilent := hasked.tells.2.2 ⟨w, rfl⟩
    have hreplies : Completion.repliesTo n (none : Option Completion).toList
        = if m = n then [] else [] := (ite_self _).symm
    rw [hreplies, waitingLoads_addLoad]
    refine balances_if (fun hm => ?_) fun hm => ?_
    · rw [htrace, Trace.events_append, hsilent, if_pos ⟨hm, rfl⟩]
      exact balances_begin l.url _
    · rw [if_neg fun he => hm he.1]
      rfl
  | @endAtOnce m supply l r hl hr =>
    obtain ⟨trace, htrace, hasked⟩ := Loader.launch_asked ctx l supply
    have hended : ¬(m = n ∧ Load.isWaiting ⟨m, .finished (.ended r.ending) false⟩ = true) := by
      rintro ⟨-, he⟩
      cases he
    rw [Option.toList_some, repliesTo_singleton, waitingLoads_addLoad, if_neg hended]
    refine balances_if (fun hm => ?_) fun _ => rfl
    rw [htrace, Trace.events_append, Trace.events_append, Loader.events_closing, List.append_assoc]
    exact balances_endAtOnce hasked.tells.2.1 l r _
  | @endInPlace m supply l r hl hr =>
    obtain ⟨trace, htrace, hasked⟩ := Loader.launch_asked ctx l supply
    rw [Option.toList_some, repliesTo_singleton]
    refine balances_if (fun hm => ?_) fun _ => rfl
    rw [htrace, Trace.events_append, Trace.events_append, Loader.events_closing, List.append_assoc]
    exact balances_endAtOnce hasked.tells.2.1 l r _
  | unanswered hl hr =>
    rw [stopped?, hl, Option.bind_some, hr] at hstop
    cases hstop
  | @goOn k d load l w w' hk hp hw =>
    have hsilent := (hwaits.give hk hp d).2 ⟨w', hw⟩
    rw [waitingLoads_setPhase (load?_eq_some_iff.mp hk).1 (by rw [Load.isWaiting, Load.isWaiting, hp]),
      hsilent, ite_self]
    exact balances_rest _
  | @finish k d load l w r hk hp hr =>
    have hload := (load?_eq_some_iff.mp hk).1
    have hsubject : s.subject? (.deliver k d) = some load.loader := by
      rw [subject?, hload, Option.map_some]
    rw [hsubject, Option.toList_some, repliesTo_singleton,
      waitingLoads_setPhase_finished (.ended r.ending) false hload hp]
    refine balances_if (fun hm => ?_) fun hm => ?_
    · rw [if_pos hm, Trace.events_append, Loader.events_closing]
      exact balances_end (hwaits.give hk hp d).1 l r _
    · rw [if_neg hm]
      rfl
  | stop hk hp =>
    rw [stopped?, hk, Option.bind_some, if_pos (by rw [Load.isWaiting, hp])] at hstop
    cases hstop
  | @takeOutcome k load l o hk hp =>
    rw [waitingLoads_setPhase (load?_eq_some_iff.mp hk).1 (by rw [Load.isWaiting, Load.isWaiting, hp])]
    exact hrest _
  | _ => exact hrest _

theorem step_loadInPlace (hl : s.held? n = some l) (supply : Loader.Supply) :
    s.step ctx (.loadInPlace n supply) = s.loadInPlace ctx n l supply := by
  rw [step, withLoader, hl]

/-- A load that waits is stopped. -/
theorem balances_abort {w : Loader.Wait} (hk : s.load? k = some (load, l))
    (hp : load.phase = .waiting w) (n : Nat) :
    Balances (s.eventsAt ctx n (.abort k))
      (Completion.repliesTo n (s.completion? ctx (.abort k)).toList)
      (if load.loader = n then 1 else 0) (s.waitingLoads n)
      ((s.step ctx (.abort k)).1.waitingLoads n) := by
  have hstep : s.step ctx (.abort k) = (s.setPhase k (.finished .cancelled false), .only .done) := by
    rw [step, withLoad, hk]
    show s.abort k load = _
    rw [abort, hp]
  have hsilent : s.eventsAt ctx n (.abort k) = [] := by
    rw [eventsAt, hstep]
    exact ite_self _
  have hcount := waitingLoads_setPhase_finished (n := n) .cancelled false
    (load?_eq_some_iff.mp hk).1 hp
  rw [hsilent, hstep, hcount]
  exact ⟨by simp [Completion.repliesTo, completion?]; omega, rfl, rfl⟩

/-- A load in place that no reply comes for is given up. -/
theorem balances_unanswered {m : Nat} {supply : Loader.Supply} (hl : s.held? m = some l)
    (hnone : (l.launch ctx supply).reply? = none) (n : Nat) :
    Balances (s.eventsAt ctx n (.loadInPlace m supply))
      (Completion.repliesTo n (s.completion? ctx (.loadInPlace m supply)).toList)
      (if m = n then 1 else 0) (s.waitingLoads n)
      ((s.step ctx (.loadInPlace m supply)).1.waitingLoads n) := by
  obtain ⟨trace, htrace, hasked⟩ := Loader.launch_asked ctx l supply
  have hsilent : trace.events = [] := by
    refine hasked.tells.2.2 ?_
    cases hstate : (l.launch ctx supply).state with
    | inl w => exact ⟨w, rfl⟩
    | inr r => simp [Loader.Launch.reply?, hstate] at hnone
  have hstep : s.step ctx (.loadInPlace m supply)
      = (s, ⟨.done, (l.launch ctx supply).trace⟩) := by
    rw [step_loadInPlace hl]
    simp only [Session.loadInPlace, Loader.loadInPlace, hnone, setLoader_self hl]
  have hnothing : s.completion? ctx (.loadInPlace m supply) = none := by
    rw [completion?, hl, Option.bind_some, hnone, Option.map_none]
  have hsubject : s.subject? (.loadInPlace m supply) = some m := rfl
  rw [hnothing, hstep, eventsAt, hstep, htrace, Trace.events_append, hsilent, hsubject]
  by_cases hm : m = n
  · rw [if_pos (congrArg some hm), if_pos hm]
    exact balances_giveUp l.url _
  · rw [if_neg (mt Option.some.inj hm), if_neg hm]
    exact balances_rest _

/-- **So does a step that stops one.** -/
theorem balanced_of_stopped {m : Nat} (hstop : s.stopped? ctx t = some m) (n : Nat) :
    Balances (s.eventsAt ctx n t) (Completion.repliesTo n (s.completion? ctx t).toList)
      (if m = n then 1 else 0) (s.waitingLoads n) ((s.step ctx t).1.waitingLoads n) := by
  unfold stopped? at hstop
  split at hstop
  · next k =>
    obtain ⟨⟨load, l⟩, hk, hwaiting⟩ := Option.bind_eq_some_iff.mp hstop
    obtain ⟨h, hm⟩ := Option.ite_none_right_eq_some.mp hwaiting
    cases hm
    obtain ⟨w, hp⟩ := Load.isWaiting_iff.mp h
    exact balances_abort hk hp n
  · next m' supply =>
    obtain ⟨l, hl, hunanswered⟩ := Option.bind_eq_some_iff.mp hstop
    obtain ⟨h, hm⟩ := Option.ite_none_right_eq_some.mp hunanswered
    cases hm
    exact balances_unanswered hl (Option.isNone_iff_eq_none.mp h) n
  · cases hstop

theorem balanced_step (hwaits : s.WaitsInSilence ctx) (t : Step) (n : Nat) :
    Balances (s.eventsAt ctx n t) (Completion.repliesTo n (s.completion? ctx t).toList)
      (if s.stopped? ctx t = some n then 1 else 0) (s.waitingLoads n)
      ((s.step ctx t).1.waitingLoads n) := by
  cases hstop : s.stopped? ctx t with
  | none => exact (transition_step ctx s t).balanced hwaits hstop n
  | some m =>
    simp only [Option.some.injEq]
    exact balanced_of_stopped hstop n

/-! ## Runs -/

/-- The accounts of two runs, one after the other. -/
theorem Balances.append {events events' : List Event} {replies replies' : List Reply}
    {stopped stopped' before between after : Nat}
    (h : Balances events replies stopped before between)
    (h' : Balances events' replies' stopped' between after) :
    Balances (events ++ events') (replies ++ replies') (stopped + stopped') before after := by
  refine ⟨?_, ?_, ?_⟩
  · have hfirst := h.pending
    have hsecond := h'.pending
    rw [List.countP_append, List.length_append]
    omega
  · rw [List.countP_append, List.filterMap_append, List.length_append, h.loaded, h'.loaded]
  · rw [List.countP_append, List.countP_append, h.failed, h'.failed]

/-- **The accounts of a loader are even after every run.** -/
theorem balanced (ctx : Context) (steps : List Step) (n : Nat) :
    Balances (empty.eventsFor ctx n steps) (replies ctx steps n) (empty.stops ctx n steps) 0
      ((empty.after ctx steps).waitingLoads n) := by
  refine run_induction (P := fun steps s => Balances (empty.eventsFor ctx n steps)
    (replies ctx steps n) (empty.stops ctx n steps) 0 (s.waitingLoads n)) ?_ ?_ steps
  · exact balances_rest 0
  · intro steps t h
    rw [eventsFor_append, replies_snoc, stops_append]
    have hstep := balanced_step (waitsInSilence ctx steps) t n
    rw [eventsFor, eventsFor, List.append_nil, stops, stops]
    exact h.append hstep

/-! ## What is told of a load -/

/-- **What is told of a load** that has come so far and has such a reply, if any: that it begins, directly
after which its source is called, once, for the URL of the loader; what the source tells; and by the
reply how it has ended. -/
structure TellsOf (ctx : Context) (l : Loader) (state : Loader.Wait ⊕ Reply) (reply? : Option Reply)
    (record : Record) (own : Trace) : Prop where
  asked : l.Asked ctx state own
  tale : IsSourceTale l.url own.events
  silent : reply? = none → own.events = []
  replies : record.replies = reply?.toList
  ordered : record.trace
    = .event (.pending l.url) :: .call l.url :: (own ++ reply?.toList.flatMap l.closing)
  calls : record.trace.calls = [l.url]
  requests : record.trace.requests = own.requests
  lines : record.trace.events.map Event.line
    = Loader.firstLine l.url :: (own.events.map Event.line
      ++ reply?.toList.flatMap (Loader.lastLines l.url))

section tellsOf

variable {own : Trace} {w : Loader.Wait} {r : Reply} {state : Loader.Wait ⊕ Reply}

/-- A load without a reply tells that it has begun. -/
theorem tellsOf_begun (h : l.Asked ctx (.inl w) own) :
    TellsOf ctx l (.inl w) none ⟨[], l.opening ++ own⟩ own := by
  obtain ⟨hcalls, htale, hwaits⟩ := h.tells
  have hsilent := hwaits ⟨w, rfl⟩
  refine ⟨h, htale, fun _ => hsilent, rfl, ?_, ?_, rfl, ?_⟩
  · rw [Option.toList_none, List.flatMap_nil, List.append_nil]
    rfl
  · rw [Trace.calls_append, hcalls]
    rfl
  · rw [Trace.events_append, hsilent]
    rfl

/-- A load with a reply tells of the reply last. -/
theorem tellsOf_ended (h : l.Asked ctx state own) (r : Reply) :
    TellsOf ctx l state (some r) ⟨[r], l.opening ++ own ++ l.closing r⟩ own := by
  obtain ⟨hcalls, htale, -⟩ := h.tells
  refine ⟨h, htale, nofun, rfl, ?_, ?_, ?_, ?_⟩
  · rw [Option.toList_some, List.flatMap_singleton, List.append_assoc]
    rfl
  · rw [Trace.calls_append, Trace.calls_append, hcalls, Loader.calls_closing]
    rfl
  · rw [Trace.requests_append, Trace.requests_append, Loader.requests_closing, List.append_nil]
    rfl
  · rw [Trace.events_append, Trace.events_append, Loader.events_closing, List.map_append,
      List.map_append, Loader.map_line_eventsOf, Option.toList_some, List.flatMap_singleton,
      List.append_assoc]
    rfl

end tellsOf

/-- A chronicle, line by line. -/
theorem Chronicle.exists_tellsOf {p : Phase} {record : Record} (h : Chronicle ctx l p record) :
    ∃ state own, p.Follows state ∧ TellsOf ctx l state state.getRight? record own := by
  cases h with
  | @waiting w trace h => exact ⟨.inl w, trace, rfl, tellsOf_begun h⟩
  | @stopped w trace taken h => exact ⟨.inl w, trace, ⟨w, rfl⟩, tellsOf_begun h⟩
  | @ended r trace taken h => exact ⟨.inr r, trace, ⟨r, rfl, rfl⟩, tellsOf_ended h r⟩

/-- A load that runs in place is told of at once. -/
theorem exists_tellsOf_loadInPlace (ctx : Context) (hl : s.held? n = some l)
    (supply : Loader.Supply) :
    ∃ own, TellsOf ctx l (l.launch ctx supply).state (l.launch ctx supply).reply?
      ⟨(l.launch ctx supply).reply?.toList, (s.step ctx (.loadInPlace n supply)).2.trace⟩ own := by
  obtain ⟨trace, htrace, hasked⟩ := Loader.launch_asked ctx l supply
  rw [step_loadInPlace hl]
  simp only [Session.loadInPlace, Loader.loadInPlace]
  cases hreply : (l.launch ctx supply).reply? with
  | some r =>
    refine ⟨trace, ?_⟩
    simp only [htrace]
    exact tellsOf_ended hasked r
  | none =>
    refine ⟨trace, ?_⟩
    simp only [htrace]
    cases hstate : (l.launch ctx supply).state with
    | inl w =>
      rw [hstate] at hasked
      exact tellsOf_begun hasked
    | inr r => simp [Loader.Launch.reply?, hstate] at hreply

/-- **What a step tells last of a loader is what it tells of the replies that the loader accepts.** -/
theorem Transition.tells_last (h : Transition ctx s t c s' report) (hl : s.loader? n = some l) :
    ∃ before, (if s.subject? t = some n then report.trace.events else [])
      = before ++ (Completion.repliesTo n c.toList).flatMap l.eventsOf := by
  -- the step that ends a load of the loader `m`
  have hend : ∀ {m : Nat} {k : Option Nat} {r : Reply} {l' : Loader} {trace : Trace},
      s.loader? m = some l' →
      ∃ before, (if some m = some n then (trace ++ l'.closing r).events else [])
        = before ++ (Completion.repliesTo n [⟨m, k, r⟩]).flatMap l.eventsOf := by
    intro m k r l' trace hm
    rw [repliesTo_singleton]
    by_cases hmn : m = n
    · subst hmn
      rw [hl] at hm
      cases hm
      refine ⟨trace.events, ?_⟩
      rw [if_pos rfl, if_pos rfl, List.flatMap_singleton, Trace.events_append, Loader.events_closing]
    · refine ⟨[], ?_⟩
      rw [if_neg (mt Option.some.inj hmn), if_neg hmn]
      rfl
  cases h with
  | endAtOnce hl' hr => exact hend (loader?_of_held? hl')
  | endInPlace hl' hr => exact hend (loader?_of_held? hl')
  | @finish k d load l' w r hk hp hr =>
    have hsubject : s.subject? (.deliver k d) = some load.loader := by
      rw [subject?, (load?_eq_some_iff.mp hk).1, Option.map_some]
    rw [hsubject]
    exact hend (load?_eq_some_iff.mp hk).2
  | _ => exact ⟨_, (List.append_nil _).symm⟩

/--
**What is told of loads, and what comes of it.**

Of each load that has been begun it is told that it begins; directly after that the source is called,
once, for the URL of the loader; a text or a failure is told of after what the source tells, and nothing
more of a load that waits, has been stopped or has broken down. So it is with a load that runs in place. The loader
accepts a reply in the step that tells of it, and in no other. Hence the version of a loader is the
number of texts that have been told of, and of the loads of a loader that have been told of as begun
each has brought a text, has failed, has been stopped, has broken down, or waits.
-/
theorem loads_accounted (ctx : Context) (steps : List Step) :
    let s := empty.after ctx steps
    (∀ k load l, s.load? k = some (load, l) →
      ∃ state own, load.phase.Follows state ∧
        TellsOf ctx l state state.getRight? (empty.recordOf ctx k steps) own) ∧
    (∀ n l supply, s.held? n = some l →
      let launch := l.launch ctx supply
      let report := (s.step ctx (.loadInPlace n supply)).2
      ∃ own, TellsOf ctx l launch.state launch.reply?
        ⟨launch.reply?.toList, report.trace⟩ own) ∧
    (∀ n l t, s.loader? n = some l →
      let replies := Completion.repliesTo n (s.completion? ctx t).toList
      (s.step ctx t).1.loader? n = some (l.acceptAll replies) ∧
      ∃ before, s.eventsAt ctx n t = before ++ replies.flatMap l.eventsOf ∧
        before.countP Event.isLoaded = 0 ∧ before.countP Event.isFailed = 0) ∧
    (∀ n,
      let events := empty.eventsFor ctx n steps
      (∀ l, s.loader? n = some l → l.version = events.countP Event.isLoaded) ∧
      events.countP Event.isPending
        = events.countP Event.isLoaded + events.countP Event.isFailed + empty.stops ctx n steps
          + empty.panics ctx n steps + s.waitingLoads n) := by
  intro s
  refine ⟨?_, ?_, ?_, ?_⟩
  · intro k load l hk
    exact ((chronicled ctx steps).begun k load l hk).exists_tellsOf
  · intro n l supply hl
    exact exists_tellsOf_loadInPlace ctx hl supply
  · intro n l t hl replies
    have ht := transition_step ctx s t
    refine ⟨?_, ?_⟩
    · rw [ht.loader?_eq (lt_length_of_loader? hl), hl]
      rfl
    · obtain ⟨before, hbefore⟩ := ht.tells_last hl
      have htold : s.eventsAt ctx n t = before ++ replies.flatMap l.eventsOf := hbefore
      have hstep : Balances _ replies _ _ _ := balanced_step (waitsInSilence ctx steps) t n
      obtain ⟨hloaded, hfailed⟩ := l.countP_flatMap_eventsOf replies
      have hloaded' := hstep.loaded
      have hfailed' := hstep.failed
      rw [htold, List.countP_append, hloaded] at hloaded'
      rw [htold, List.countP_append, hfailed] at hfailed'
      exact ⟨before, htold, by omega, by omega⟩
  · intro n events
    have hbalanced : Balances events (replies ctx steps n) (empty.stops ctx n steps) 0
      (s.waitingLoads n) := balanced ctx steps n
    have hreplies := Reply.length_eq (replies ctx steps n)
    refine ⟨?_, ?_⟩
    · intro l hl
      rw [version_eq hl]
      exact hbalanced.loaded.symm
    · have hpending := hbalanced.pending
      have hloaded := hbalanced.loaded
      have hfailed := hbalanced.failed
      show _ = _ + _ + _ + (replies ctx steps n).countP Reply.isPanic + _
      omega

/-- A run in which a loader has a load for each way that one can go, while another loader has the same
URL and a fetch of a third one has been redirected. -/
def everyWay : List Step :=
  [.new "/b" .scripted, .new "/b" .scripted, .new "http://h.test/a" .plain, .load 2 ⟨none, [moved]⟩,
    .load 0 ⟨none, []⟩, .load 1 ⟨none, []⟩, .load 0 ⟨none, []⟩, .load 0 ⟨none, []⟩, .load 0 ⟨none, []⟩,
    .deliver 3 (.reply (.text "é")), .deliver 2 (.reply (.text "other")),
    .deliver 1 (.reply (.panic "broken")), .abort 4, .loadInPlace 0 ⟨some (.failure .bodyRead), []⟩]

/-- One load of `everyWay` has brought a text, one has failed, one has been stopped, one has broken down,
and one waits. -/
theorem accounts_everyWay :
    (empty.after .plain everyWay).load? 3
        = some (⟨0, .finished (.ended .returned) false⟩, ⟨"/b", .scripted, "é", 1⟩) ∧
      (∃ state own, TellsOf .plain ⟨"/b", .scripted, "é", 1⟩ state state.getRight?
        (empty.recordOf .plain 3 everyWay) own) ∧
      (empty.eventsFor .plain 0 everyWay).countP Event.isPending = 1 + 1 + 1 + 1 + 1 := by
  obtain ⟨hloads, -, -, haccounts⟩ := loads_accounted .plain everyWay
  have hload : (empty.after .plain everyWay).load? 3
      = some (⟨0, .finished (.ended .returned) false⟩, ⟨"/b", .scripted, "é", 1⟩) := by
    decide +kernel
  obtain ⟨state, own, -, htold⟩ := hloads 3 _ _ hload
  refine ⟨hload, ⟨state, own, htold⟩, ?_⟩
  have hloaded : (empty.eventsFor .plain 0 everyWay).countP Event.isLoaded = 1 := by decide +kernel
  have hfailed : (empty.eventsFor .plain 0 everyWay).countP Event.isFailed = 1 := by decide +kernel
  have hstops : empty.stops .plain 0 everyWay = 1 := by decide +kernel
  have hpanics : empty.panics .plain 0 everyWay = 1 := by decide +kernel
  have hwaiting : (empty.after .plain everyWay).waitingLoads 0 = 1 := by decide +kernel
  rw [(haccounts 0).2, hloaded, hfailed, hstops, hpanics, hwaiting]

end Session

end FragmentFeed
