import FragmentFeed.Proofs.Loader.Telling
import FragmentFeed.Proofs.Session.Outcome
import FragmentFeed.Proofs.Session.Staging

/-!
# Chronicles

What has come of a load is spread over the reports of the step that began it and of the steps that gave
it something. Put together (`recordOf`) they tell its chronicle: it began, its source was asked once for
the URL of the loader and did its work, and if the source came back the load had the last word. A load
that waits or has been stopped has told no more than its beginning.
-/

namespace FragmentFeed

/-- Whether a step belongs to a load: it has begun it or given it something. -/
def Step.belongsTo (k : Nat) (x : Step × Report) : Bool :=
  match x.1, x.2.answer with
  | .load _ _, .load k' _ => k' = k
  | .deliver k' _, _ => k' = k
  | _, _ => false

theorem Step.belongsTo_load {k k' n : Nat} {supply : Loader.Supply} {waits : Bool} {trace : Trace} :
    Step.belongsTo k (.load n supply, ⟨.load k' waits, trace⟩) = decide (k' = k) := rfl

theorem Step.belongsTo_loadInPlace {k n : Nat} {supply : Loader.Supply} {report : Report} :
    Step.belongsTo k (.loadInPlace n supply, report) = false := rfl

theorem Step.belongsTo_deliver {k k' : Nat} {d : Delivery} {report : Report} :
    Step.belongsTo k (.deliver k' d, report) = decide (k' = k) := rfl

/-- What has come of a load. -/
structure Record where
  /-- What its source has come back with. -/
  replies : List Reply
  /-- What has been seen of it. -/
  trace : Trace

namespace Record

/-- Nothing has come of it. -/
def empty : Record := ⟨[], []⟩

/-- What has come of a load, and what has come of it since. -/
def append (a b : Record) : Record := ⟨a.replies ++ b.replies, a.trace ++ b.trace⟩

instance : Append Record := ⟨append⟩

theorem append_def (a b : Record) : a ++ b = ⟨a.replies ++ b.replies, a.trace ++ b.trace⟩ := rfl

@[simp] theorem append_empty (a : Record) : a ++ empty = a := by
  rw [append_def]
  simp [empty]

@[simp] theorem empty_append (a : Record) : empty ++ a = a := rfl

/-- What a step adds, going by the load that it brings to its end and by its report. -/
def addition (k : Nat) (t : Step) (c : Option Completion) (report : Report) : Record where
  replies := (c.toList.filter (·.load = some k)).map (·.reply)
  trace := if Step.belongsTo k (t, report) then report.trace else []

section addition

variable {k : Nat} {t : Step} {c : Option Completion} {report : Report}

/-- A step that does not belong to a load and does not end it adds nothing. -/
theorem addition_of_not (hc : c.bind Completion.load ≠ some k)
    (ht : Step.belongsTo k (t, report) = false) : addition k t c report = empty := by
  unfold addition
  rw [ht]
  cases c with
  | none => rfl
  | some e =>
    have he : e.load ≠ some k := hc
    simp [he, empty]

/-- A step that comes to nothing but an answer adds nothing. -/
theorem addition_only (a : Answer) : addition k t none (.only a) = empty := by
  unfold addition
  cases Step.belongsTo k (t, .only a) <;> rfl

/-- A step that gives something to a load adds what is reported of it, and what ends it. -/
theorem addition_deliver (d : Delivery) :
    addition k (.deliver k d) c report
      = ⟨(c.toList.filter (·.load = some k)).map (·.reply), report.trace⟩ := by
  unfold addition
  rw [Step.belongsTo_deliver, if_pos (decide_eq_true rfl)]

/-- So does the step that begins it. -/
theorem addition_load (n : Nat) (supply : Loader.Supply) (waits : Bool) (trace : Trace) :
    addition k (.load n supply) c ⟨.load k waits, trace⟩
      = ⟨(c.toList.filter (·.load = some k)).map (·.reply), trace⟩ := by
  unfold addition
  rw [Step.belongsTo_load, if_pos (decide_eq_true rfl)]

end addition

end Record

namespace Session

variable {ctx : Context} {s s' : Session} {t : Step} {c : Option Completion} {report : Report}
variable {steps : List Step} {n k : Nat} {load : Load} {l l' : Loader} {record : Record}

/-- What has come of a load in a run. -/
def recordOf (ctx : Context) (s : Session) (k : Nat) : List Step → Record
  | [] => .empty
  | t :: more => .addition k t (s.completion? ctx t) (s.step ctx t).2
      ++ recordOf ctx (s.step ctx t).1 k more

theorem recordOf_append (first more : List Step) :
    s.recordOf ctx k (first ++ more)
      = s.recordOf ctx k first ++ (s.after ctx first).recordOf ctx k more := by
  induction first generalizing s with
  | nil => rfl
  | cons t first ih =>
    rw [List.cons_append, recordOf, ih, recordOf, after_cons]
    simp only [Record.append_def, List.append_assoc]

/-! ## What can have come of a load -/

/-- **The chronicle of a load**, by its phase: what it can have come to, and what is recorded of it
then. -/
inductive Chronicle (ctx : Context) (l : Loader) : Phase → Record → Prop
  | waiting {w : Loader.Wait} {trace : Trace} (h : l.Asked ctx (.inl w) trace) :
    Chronicle ctx l (.waiting w) ⟨[], l.opening ++ trace⟩
  | stopped {w : Loader.Wait} {trace : Trace} (taken : Bool) (h : l.Asked ctx (.inl w) trace) :
    Chronicle ctx l (.finished .cancelled taken) ⟨[], l.opening ++ trace⟩
  | ended {r : Reply} {trace : Trace} (taken : Bool) (h : l.Asked ctx (.inr r) trace) :
    Chronicle ctx l (.finished (.ended r.ending) taken)
      ⟨[r], l.opening ++ trace ++ l.closing r⟩

theorem Chronicle.congr {p : Phase} (hurl : l'.url = l.url) (horigin : l'.origin = l.origin)
    (h : Chronicle ctx l p record) : Chronicle ctx l' p record := by
  have hopening : l'.opening = l.opening := by rw [Loader.opening, Loader.opening, hurl]
  cases h with
  | waiting h =>
    rw [← hopening]
    exact .waiting (h.congr hurl horigin)
  | stopped taken h =>
    rw [← hopening]
    exact .stopped taken (h.congr hurl horigin)
  | ended taken h =>
    rw [← hopening, ← Loader.closing_congr hurl]
    exact .ended taken (h.congr hurl horigin)

/-! ## One step -/

/-- A loader keeps its URL and its origin. -/
theorem Transition.exists_loader? (h : Transition ctx s t c s' report) (hl : s.loader? n = some l) :
    ∃ l', s'.loader? n = some l' ∧ l'.url = l.url ∧ l'.origin = l.origin := by
  rw [h.loader?_eq (lt_length_of_loader? hl), hl]
  exact ⟨_, rfl, Loader.acceptAll_url _ _, Loader.acceptAll_origin _ _⟩

section chronicle

variable {p : Phase} {w w' : Loader.Wait} {d : Delivery} {r : Reply} {o : Outcome} {m : Nat}

/-- A step that does not belong to a load and does not end it leaves its chronicle as it is. -/
theorem Chronicle.keep (h : Chronicle ctx l p record) (hc : c.bind Completion.load ≠ some k)
    (ht : Step.belongsTo k (t, report) = false) :
    Chronicle ctx l p (record ++ .addition k t c report) := by
  rw [Record.addition_of_not hc ht, Record.append_empty]
  exact h

/-- So does a step that comes to nothing but an answer. -/
theorem Chronicle.only (h : Chronicle ctx l p record) (t : Step) (a : Answer) :
    Chronicle ctx l p (record ++ .addition k t none (.only a)) := by
  rw [Record.addition_only, Record.append_empty]
  exact h

/-- A load is given something and waits for more. -/
theorem Chronicle.goOn (h : Chronicle ctx l (.waiting w) record)
    (hw : (w.give ctx d).state = .inl w') :
    Chronicle ctx l (.waiting w')
      (record ++ .addition k (.deliver k d) none ⟨.waiting, (w.give ctx d).trace⟩) := by
  cases h with
  | waiting hasked =>
    have hasked' := hasked.give d
    rw [hw] at hasked'
    rw [Record.addition_deliver, Record.append_def, List.append_assoc]
    exact .waiting hasked'

/-- A load is given something, and its source comes back. -/
theorem Chronicle.finish (h : Chronicle ctx l (.waiting w) record)
    (hr : (w.give ctx d).state = .inr r) (m : Nat) :
    Chronicle ctx l (.finished (.ended r.ending) false)
      (record ++ .addition k (.deliver k d) (some ⟨m, some k, r⟩)
        ⟨.finished, (w.give ctx d).trace ++ l.closing r⟩) := by
  cases h with
  | waiting hasked =>
    have hasked' := hasked.give d
    rw [hr] at hasked'
    have hended := Chronicle.ended false hasked'
    rw [Record.addition_deliver, Record.append_def]
    simpa using hended

/-- A load that waits is stopped. -/
theorem Chronicle.stop (h : Chronicle ctx l (.waiting w) record) :
    Chronicle ctx l (.finished .cancelled false) record := by
  cases h with
  | waiting hasked => exact .stopped false hasked

/-- An outcome is taken. -/
theorem Chronicle.takeOutcome (h : Chronicle ctx l (.finished o false) record) :
    Chronicle ctx l (.finished o true) record := by
  cases h with
  | stopped taken hasked => exact .stopped true hasked
  | ended taken hasked => exact .ended true hasked

/-- The chronicle of a load when a phase is set: its own one, or that of another load. -/
theorem chronicle_setPhase {load' : Load} (hk : s.load? k = some (load, l))
    (hm : s.load? m = some (load', l'))
    (hself : m = k → load' = load → l' = l → Chronicle ctx l p record)
    (hother : m ≠ k → Chronicle ctx l load.phase record) :
    ∃ load₁, (s.setPhase m p).loads[k]? = some load₁ ∧ load₁.loader = load.loader ∧
      Chronicle ctx l load₁.phase record := by
  rw [setPhase_getElem?, (load?_eq_some_iff.mp hk).1, Option.map_some]
  by_cases hmk : m = k
  · rw [if_pos hmk.symm]
    rw [hmk, hk] at hm
    cases hm
    exact ⟨_, rfl, rfl, hself hmk rfl rfl⟩
  · rw [if_neg (Ne.symm hmk)]
    exact ⟨_, rfl, rfl, hother hmk⟩

end chronicle

/-- **The chronicle of a load that has been begun goes on with each step.** -/
theorem Transition.chronicle (h : Transition ctx s t c s' report) (hk : s.load? k = some (load, l))
    (hc : Chronicle ctx l load.phase record) :
    ∃ load', s'.loads[k]? = some load' ∧ load'.loader = load.loader ∧
      Chronicle ctx l load'.phase (record ++ .addition k t c report) := by
  have hload := (load?_eq_some_iff.mp hk).1
  have hlt : k < s.loads.length := (List.getElem?_eq_some_iff.mp hload).1
  have hnone : (none : Option Completion).bind Completion.load ≠ some k := (Option.some_ne_none k).symm
  -- a load that is begun is another one
  have hnew : s.loads.length ≠ k := Nat.ne_of_gt hlt
  have hadd : ∀ load₁ : Load, (s.addLoad load₁).loads[k]? = some load := by
    intro load₁
    rw [addLoad_loads, List.getElem?_append_left hlt]
    exact hload
  cases h with
  | begin hl' hw =>
    refine ⟨load, hadd _, rfl, hc.keep hnone ?_⟩
    rw [Step.belongsTo_load, decide_eq_false hnew]
  | endAtOnce hl' hr =>
    refine ⟨load, hadd _, rfl, hc.keep (fun he => hnew (Option.some.inj he)) ?_⟩
    rw [Step.belongsTo_load, decide_eq_false hnew]
  | endInPlace hl' hr =>
    exact ⟨load, hload, rfl, hc.keep (Option.some_ne_none k).symm Step.belongsTo_loadInPlace⟩
  | unanswered hl' hr => exact ⟨load, hload, rfl, hc.keep hnone Step.belongsTo_loadInPlace⟩
  | goOn hk' hp hw =>
    refine chronicle_setPhase hk hk' ?_ fun hm => hc.keep hnone ?_
    · rintro rfl rfl rfl
      rw [hp] at hc
      exact hc.goOn hw
    · rw [Step.belongsTo_deliver, decide_eq_false hm]
  | finish hk' hp hr =>
    -- that a loader has accepted the reply does not show in the loads
    refine chronicle_setPhase (s := s) hk hk' ?_ fun hm => hc.keep (fun he => hm (Option.some.inj he)) ?_
    · rintro rfl rfl rfl
      rw [hp] at hc
      exact hc.finish hr _
    · rw [Step.belongsTo_deliver, decide_eq_false hm]
  | stop hk' hp =>
    refine chronicle_setPhase hk hk' ?_ fun _ => hc.only _ _
    rintro rfl rfl rfl
    rw [hp] at hc
    exact hc.stop.only _ _
  | takeOutcome hk' hp =>
    refine chronicle_setPhase hk hk' ?_ fun _ => hc.only _ _
    rintro rfl rfl rfl
    rw [hp] at hc
    exact hc.takeOutcome.only _ _
  | _ => exact ⟨load, hload, rfl, hc.only _ _⟩

@[simp] theorem setPhase_loads_length (s : Session) (n : Nat) (p : Phase) :
    (s.setPhase n p).loads.length = s.loads.length := by
  simp [setPhase]

theorem Transition.loads_length_le (h : Transition ctx s t c s' report) :
    s.loads.length ≤ s'.loads.length := by
  cases h <;> simp [see]

section begin

variable {supply : Loader.Supply} {w : Loader.Wait} {r : Reply}

/-- A load is begun and waits. -/
theorem chronicle_begin (hl : s.held? n = some l) (hw : (l.launch ctx supply).state = .inl w) :
    ∃ load l', (s.addLoad ⟨n, .waiting w⟩).load? s.loads.length = some (load, l') ∧
      Chronicle ctx l' load.phase (.addition s.loads.length (.load n supply) none
        ⟨.load s.loads.length true, (l.launch ctx supply).trace⟩) := by
  obtain ⟨trace, htrace, hasked⟩ := Loader.launch_asked ctx l supply
  rw [hw] at hasked
  refine ⟨⟨n, .waiting w⟩, l, load?_eq_some_iff.mpr ⟨?_, loader?_of_held? hl⟩, ?_⟩
  · rw [addLoad_loads, List.getElem?_concat_length]
  · rw [Record.addition_load, htrace]
    exact .waiting hasked

/-- A load is begun and comes to its end. -/
theorem chronicle_endAtOnce (hl : s.held? n = some l) (hr : (l.launch ctx supply).state = .inr r) :
    ∃ load l', ((s.setLoader n (l.accept r)).addLoad
        ⟨n, .finished (.ended r.ending) false⟩).load? s.loads.length = some (load, l') ∧
      Chronicle ctx l' load.phase (.addition s.loads.length (.load n supply)
        (some ⟨n, some s.loads.length, r⟩)
        ⟨.load s.loads.length false, (l.launch ctx supply).trace ++ l.closing r⟩) := by
  obtain ⟨trace, htrace, hasked⟩ := Loader.launch_asked ctx l supply
  rw [hr] at hasked
  have haccept : (s.setLoader n (l.accept r)).loader? n = some (l.accept r) := by
    rw [loader?_setLoader, loader?_of_held? hl, Option.map_some, if_pos rfl]
  have hreplies : ((some (⟨n, some s.loads.length, r⟩ : Completion)).toList.filter
      (·.load = some s.loads.length)).map (·.reply) = [r] := by simp
  refine ⟨⟨n, .finished (.ended r.ending) false⟩, l.accept r,
    load?_eq_some_iff.mpr ⟨?_, haccept⟩, ?_⟩
  · rw [addLoad_loads, setLoader_loads, List.getElem?_concat_length]
  · rw [Record.addition_load, htrace, hreplies]
    exact (Chronicle.ended false hasked).congr (Loader.accept_url l r) (Loader.accept_origin l r)

end begin

/-- The chronicle of a load begins with the step that begins the load, and not before. -/
theorem Transition.chronicle_of_absent (h : Transition ctx s t c s' report)
    (hk : s.loads.length ≤ k) :
    (s'.loads.length ≤ k ∧ Record.addition k t c report = .empty) ∨
      ∃ load l, s'.load? k = some (load, l) ∧
        Chronicle ctx l load.phase (.addition k t c report) := by
  have hnone : (none : Option Completion).bind Completion.load ≠ some k := (Option.some_ne_none k).symm
  have hne : ∀ {n : Nat} {load : Load} {l : Loader}, s.load? n = some (load, l) → n ≠ k := by
    rintro n load l hn rfl
    have hload := (load?_eq_some_iff.mp hn).1
    rw [List.getElem?_eq_none hk] at hload
    cases hload
  cases h with
  | begin hl hw =>
    by_cases hlast : s.loads.length = k
    · subst hlast
      exact .inr (chronicle_begin hl hw)
    · refine .inl ⟨?_, Record.addition_of_not hnone ?_⟩
      · simp
        omega
      · rw [Step.belongsTo_load, decide_eq_false hlast]
  | endAtOnce hl hr =>
    by_cases hlast : s.loads.length = k
    · subst hlast
      exact .inr (chronicle_endAtOnce hl hr)
    · refine .inl ⟨?_, Record.addition_of_not (fun he => hlast (Option.some.inj he)) ?_⟩
      · simp
        omega
      · rw [Step.belongsTo_load, decide_eq_false hlast]
  | endInPlace hl hr =>
    exact .inl ⟨hk, Record.addition_of_not (Option.some_ne_none k).symm Step.belongsTo_loadInPlace⟩
  | unanswered hl hr =>
    exact .inl ⟨hk, Record.addition_of_not hnone Step.belongsTo_loadInPlace⟩
  | goOn hk' hp hw =>
    refine .inl ⟨by simpa using hk, Record.addition_of_not hnone ?_⟩
    rw [Step.belongsTo_deliver, decide_eq_false (hne hk')]
  | finish hk' hp hr =>
    refine .inl ⟨by simpa using hk, Record.addition_of_not (fun he => hne hk' (Option.some.inj he)) ?_⟩
    rw [Step.belongsTo_deliver, decide_eq_false (hne hk')]
  | stop hk' hp => exact .inl ⟨by simpa using hk, Record.addition_only _⟩
  | takeOutcome hk' hp => exact .inl ⟨by simpa using hk, Record.addition_only _⟩
  | _ => exact .inl ⟨hk, Record.addition_only _⟩

/-! ## Runs -/

/-- Each load has its chronicle, and one that has not been begun has none. -/
structure Chronicled (ctx : Context) (steps : List Step) (s : Session) : Prop where
  begun : ∀ k load l, s.load? k = some (load, l) →
    Chronicle ctx l load.phase (empty.recordOf ctx k steps)
  absent : ∀ k, s.loads.length ≤ k → empty.recordOf ctx k steps = .empty

theorem Chronicled.step (h : Chronicled ctx steps (empty.after ctx steps)) (t : Step) :
    Chronicled ctx (steps ++ [t]) ((empty.after ctx steps).step ctx t).1 := by
  have ht := transition_step ctx (empty.after ctx steps) t
  have hrecord : ∀ k, empty.recordOf ctx k (steps ++ [t]) = empty.recordOf ctx k steps
      ++ .addition k t ((empty.after ctx steps).completion? ctx t)
        ((empty.after ctx steps).step ctx t).2 := by
    intro k
    rw [recordOf_append, recordOf, recordOf, Record.append_empty]
  refine ⟨?_, ?_⟩
  · intro k load' l' hk'
    rw [hrecord]
    rcases Nat.lt_or_ge k (empty.after ctx steps).loads.length with hlt | hge
    · -- a load that was there before, with a loader that has been kept
      obtain ⟨l, hk⟩ := (loadsHaveLoaders ctx steps).exists_load? (List.getElem?_eq_getElem hlt)
      obtain ⟨load₁, hload₁, hloader, hc⟩ := ht.chronicle hk (h.begun k _ l hk)
      obtain ⟨l₁, hl₁, hurl, horigin⟩ := ht.exists_loader? (load?_eq_some_iff.mp hk).2
      rw [load?_eq_some_iff.mpr ⟨hload₁, hloader ▸ hl₁⟩] at hk'
      cases hk'
      exact hc.congr hurl horigin
    · rcases ht.chronicle_of_absent hge with ⟨hlength, -⟩ | ⟨load₁, l₁, hk₁, hc⟩
      · have hnone := List.getElem?_eq_none hlength
        rw [(load?_eq_some_iff.mp hk').1] at hnone
        cases hnone
      · rw [hk₁] at hk'
        cases hk'
        rw [h.absent k hge]
        exact hc
  · intro k hk
    rw [hrecord]
    rcases ht.chronicle_of_absent (Nat.le_trans ht.loads_length_le hk) with ⟨-, hnothing⟩ | ⟨load₁, l₁, hk₁, -⟩
    · rw [h.absent k (Nat.le_trans ht.loads_length_le hk), hnothing]
      rfl
    · have hnone := List.getElem?_eq_none hk
      rw [(load?_eq_some_iff.mp hk₁).1] at hnone
      cases hnone

theorem chronicled (ctx : Context) (steps : List Step) :
    Chronicled ctx steps (empty.after ctx steps) := by
  refine run_induction (P := Chronicled ctx) ⟨?_, ?_⟩ ?_ steps
  · intro k load l hk
    simp [load?, empty] at hk
  · intro k _
    rfl
  · intro steps t h
    exact h.step t

end Session

end FragmentFeed
