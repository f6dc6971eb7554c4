import FragmentFeed.Proofs.Session.Run
import FragmentFeed.Proofs.Session.Tables

/-!
# What a step can do

`Session.step` finds what its numbers refer to, and then does one of few things to the tables.
`Transition` has one constructor for each of them, with all that is known then, and
`transition_step` says that there are no others. Whatever is kept by steps is shown from here by cases;
`step` itself is not opened again.
-/

namespace FragmentFeed

/-- Whether a step with such an answer has changed nothing, as its answer shows. Stopping a load, and
giving it something, can be in vain and are answered as if they were not: they are not among these. -/
def Step.rests : Step → Answer → Prop
  | .new _ _, .loader _ _ => False
  | .load _ _, .load _ _ => False
  | .dropLoader _, .done => False
  | .subscribe _, .receiver _ => False
  | .deliver _ _, .finished => False
  | .abort _, .done => False
  | .borrowAndUpdate _, .text _ => False
  | .changed _, .ready => False
  | .cloneReceiver _, .receiver _ => False
  | _, _ => True

namespace Session

variable {ctx : Context} {s s' : Session} {t : Step} {c : Option Completion} {report : Report}

/--
What a step can do: the load that it brings to its end, the session after it, and the report.

The names of the constructors tell what happens to a loader, a load or a receiver.
-/
inductive Transition (ctx : Context) (s : Session) :
    Step → Option Completion → Session → Report → Prop
  | rest {t : Step} {a : Answer} (h : t.rests a) : Transition ctx s t none s (.only a)
  | new {url : String} {making : Making} {o : Origin} (ho : new.origin making = .ok o) :
    Transition ctx s (.new url making) none (s.addLoader (.new url o))
      (.only (.loader s.slots.length url))
  | release {n : Nat} {l : Loader} (hl : s.held? n = some l) :
    Transition ctx s (.dropLoader n) none (s.release n) (.only .done)
  | begin {n : Nat} {supply : Loader.Supply} {l : Loader} {w : Loader.Wait}
    (hl : s.held? n = some l) (hw : (l.launch ctx supply).state = .inl w) :
    Transition ctx s (.load n supply) none (s.addLoad ⟨n, .waiting w⟩)
      ⟨.load s.loads.length true, (l.launch ctx supply).trace⟩
  | endAtOnce {n : Nat} {supply : Loader.Supply} {l : Loader} {r : Reply}
    (hl : s.held? n = some l) (hr : (l.launch ctx supply).state = .inr r) :
    Transition ctx s (.load n supply) (some ⟨n, some s.loads.length, r⟩)
      ((s.setLoader n (l.accept r)).addLoad ⟨n, .finished (.ended r.ending) false⟩)
      ⟨.load s.loads.length false, (l.launch ctx supply).trace ++ l.closing r⟩
  | endInPlace {n : Nat} {supply : Loader.Supply} {l : Loader} {r : Reply}
    (hl : s.held? n = some l) (hr : (l.launch ctx supply).reply? = some r) :
    Transition ctx s (.loadInPlace n supply) (some ⟨n, none, r⟩) (s.setLoader n (l.accept r))
      ⟨.done, (l.launch ctx supply).trace ++ l.closing r⟩
  | unanswered {n : Nat} {supply : Loader.Supply} {l : Loader}
    (hl : s.held? n = some l) (hr : (l.launch ctx supply).reply? = none) :
    Transition ctx s (.loadInPlace n supply) none s
      ⟨.done, (l.launch ctx supply).trace⟩
  | goOn {n : Nat} {d : Delivery} {k : Load} {l : Loader} {w w' : Loader.Wait}
    (hk : s.load? n = some (k, l)) (hp : k.phase = .waiting w) (hw : (w.give ctx d).state = .inl w') :
    Transition ctx s (.deliver n d) none (s.setPhase n (.waiting w'))
      ⟨.waiting, (w.give ctx d).trace⟩
  | finish {n : Nat} {d : Delivery} {k : Load} {l : Loader} {w : Loader.Wait} {r : Reply}
    (hk : s.load? n = some (k, l)) (hp : k.phase = .waiting w) (hr : (w.give ctx d).state = .inr r) :
    Transition ctx s (.deliver n d) (some ⟨k.loader, some n, r⟩)
      ((s.setLoader k.loader (l.accept r)).setPhase n (.finished (.ended r.ending) false))
      ⟨.finished, (w.give ctx d).trace ++ l.closing r⟩
  | stop {n : Nat} {k : Load} {l : Loader} {w : Loader.Wait}
    (hk : s.load? n = some (k, l)) (hp : k.phase = .waiting w) :
    Transition ctx s (.abort n) none (s.setPhase n (.finished .cancelled false)) (.only .done)
  | stopInVain {n : Nat} {k : Load} {l : Loader} {o : Outcome} {taken : Bool}
    (hk : s.load? n = some (k, l)) (hp : k.phase = .finished o taken) :
    Transition ctx s (.abort n) none s (.only .done)
  | takeOutcome {n : Nat} {k : Load} {l : Loader} {o : Outcome}
    (hk : s.load? n = some (k, l)) (hp : k.phase = .finished o false) :
    Transition ctx s (.handle n) none (s.setPhase n (.finished o true)) (.only (.outcome o))
  | subscribe {n : Nat} {l : Loader} (hl : s.held? n = some l) :
    Transition ctx s (.subscribe n) none (s.addReceiver ⟨n, l.version, true⟩)
      (.only (.receiver s.receivers.length))
  | borrowAndUpdate {n : Nat} {r : Receiver} {l : Loader} (hr : s.receiver? n = some (r, l)) :
    Transition ctx s (.borrowAndUpdate n) none (s.see n r l) (.only (.text l.content))
  | changed {n : Nat} {r : Receiver} {l : Loader} (hr : s.receiver? n = some (r, l))
    (hseen : r.seen ≠ l.version) :
    Transition ctx s (.changed n) none (s.see n r l) (.only .ready)
  | clone {n : Nat} {r : Receiver} {l : Loader} (hr : s.receiver? n = some (r, l)) :
    Transition ctx s (.cloneReceiver n) none (s.addReceiver r)
      (.only (.receiver s.receivers.length))
  | dropReceiver {n : Nat} {r : Receiver} {l : Loader} (hr : s.receiver? n = some (r, l)) :
    Transition ctx s (.dropReceiver n) none (s.setReceiver n { r with live := false })
      (.only .done)

/-! ## There is nothing else -/

theorem transition_new (url : String) (making : Making) :
    Transition ctx s (.new url making) none (s.new url making).1 (s.new url making).2 := by
  unfold Session.new
  cases ho : new.origin making with
  | ok o => exact .new ho
  | error a =>
    refine .rest ?_
    unfold new.origin at ho
    split at ho
    · cases ho
    · cases ho
    · split at ho
      · cases ho; trivial
      · split at ho
        · cases ho; trivial
        · cases ho

theorem transition_load {n : Nat} {l : Loader} (hl : s.held? n = some l) (supply : Loader.Supply) :
    Transition ctx s (.load n supply) (s.completion? ctx (.load n supply))
      (s.load ctx n l supply).1 (s.load ctx n l supply).2 := by
  simp only [completion?, hl, Option.bind_some, Session.load]
  cases hs : (l.launch ctx supply).state with
  | inl w => exact .begin hl hs
  | inr r => exact .endAtOnce hl hs

theorem transition_loadInPlace {n : Nat} {l : Loader} (hl : s.held? n = some l)
    (supply : Loader.Supply) :
    Transition ctx s (.loadInPlace n supply) (s.completion? ctx (.loadInPlace n supply))
      (s.loadInPlace ctx n l supply).1 (s.loadInPlace ctx n l supply).2 := by
  simp only [completion?, hl, Option.bind_some, Session.loadInPlace, Loader.loadInPlace]
  cases hr : (l.launch ctx supply).reply? with
  | none => rw [setLoader_self hl]; exact .unanswered hl hr
  | some r => exact .endInPlace hl hr

/-- What is given to a waiting load brings it on as far as `give` says. -/
theorem deliver_eq {n : Nat} {d : Delivery} {k : Load} {l : Loader} {w : Loader.Wait}
    (hk : s.loads[n]? = some k) (hp : k.phase = .waiting w) :
    s.deliver ctx n k l d =
      match (w.give ctx d).state with
      | .inl w' => (s.setPhase n (.waiting w'), ⟨.waiting, (w.give ctx d).trace⟩)
      | .inr r => s.finish n k l r (w.give ctx d).trace := by
  have hself : s.setPhase n (.waiting w) = s := by rw [← hp]; exact setPhase_self hk
  unfold deliver
  rw [hp]
  cases w with
  | reply =>
    cases d with
    | reply r => rfl
    | response bytes => simp only [Loader.Wait.give, hself]; rfl
  | response x =>
    cases d with
    | reply r => simp only [Loader.Wait.give, hself]; rfl
    | response bytes =>
      simp only [Loader.Wait.give, Loader.ofProgress]
      cases (x.receive ctx bytes).progress <;> rfl

theorem transition_deliver {n : Nat} {k : Load} {l : Loader} (hk : s.load? n = some (k, l))
    (d : Delivery) :
    Transition ctx s (.deliver n d) (s.completion? ctx (.deliver n d))
      (s.deliver ctx n k l d).1 (s.deliver ctx n k l d).2 := by
  simp only [completion?, hk, Option.bind_some, Load.wait?]
  cases hp : k.phase with
  | finished o taken => unfold deliver; rw [hp]; exact .rest trivial
  | waiting w =>
    rw [deliver_eq (load?_eq_some_iff.mp hk).1 hp, Option.bind_some]
    cases hw : (w.give ctx d).state with
    | inl w' => exact .goOn hk hp hw
    | inr r => exact .finish hk hp hw

theorem transition_abort {n : Nat} {k : Load} {l : Loader} (hk : s.load? n = some (k, l)) :
    Transition ctx s (.abort n) none (s.abort n k).1 (s.abort n k).2 := by
  unfold abort
  cases hp : k.phase with
  | waiting w => exact .stop hk hp
  | finished o taken => exact .stopInVain hk hp

theorem transition_handle {n : Nat} {k : Load} {l : Loader} (hk : s.load? n = some (k, l)) :
    Transition ctx s (.handle n) none (s.handle n k).1 (s.handle n k).2 := by
  unfold handle
  cases hp : k.phase with
  | waiting w => exact .rest trivial
  | finished o taken =>
    cases taken with
    | false => exact .takeOutcome hk hp
    | true => exact .rest trivial

theorem transition_changed {n : Nat} {r : Receiver} {l : Loader} (hr : s.receiver? n = some (r, l)) :
    Transition ctx s (.changed n) none (s.changed n r l).1 (s.changed n r l).2 := by
  unfold Session.changed
  by_cases hseen : r.seen ≠ l.version
  · rw [if_pos hseen]; exact .changed hr hseen
  · rw [if_neg hseen]
    split
    · exact .rest trivial
    · exact .rest trivial

/-- **Each step does one of the things that `Transition` lists.** -/
theorem transition_step (ctx : Context) (s : Session) (t : Step) :
    Transition ctx s t (s.completion? ctx t) (s.step ctx t).1 (s.step ctx t).2 := by
  cases t with
  | new url making => exact transition_new url making
  | load n supply =>
    rw [step, withLoader]
    cases hl : s.held? n with
    | none => simp only [completion?, hl]; exact .rest trivial
    | some l => exact transition_load hl supply
  | loadInPlace n supply =>
    rw [step, withLoader]
    cases hl : s.held? n with
    | none => simp only [completion?, hl]; exact .rest trivial
    | some l => exact transition_loadInPlace hl supply
  | url n =>
    rw [step, withLoader]
    cases s.held? n with
    | none => exact .rest trivial
    | some l => exact .rest trivial
  | dropLoader n =>
    rw [step, withLoader]
    cases hl : s.held? n with
    | none => exact .rest trivial
    | some l => exact .release hl
  | subscribe n =>
    rw [step, withLoader]
    cases hl : s.held? n with
    | none => exact .rest trivial
    | some l => exact .subscribe hl
  | deliver n d =>
    rw [step, withLoad]
    cases hk : s.load? n with
    | none => simp only [completion?, hk]; exact .rest trivial
    | some k => exact transition_deliver hk d
  | abort n =>
    rw [step, withLoad]
    cases hk : s.load? n with
    | none => exact .rest trivial
    | some k => exact transition_abort hk
  | handle n =>
    rw [step, withLoad]
    cases hk : s.load? n with
    | none => exact .rest trivial
    | some k => exact transition_handle hk
  | borrow n =>
    rw [step, withReceiver]
    cases s.receiver? n with
    | none => exact .rest trivial
    | some r => exact .rest trivial
  | borrowAndUpdate n =>
    rw [step, withReceiver]
    cases hr : s.receiver? n with
    | none => exact .rest trivial
    | some r => exact .borrowAndUpdate hr
  | hasChanged n =>
    rw [step, withReceiver]
    cases s.receiver? n with
    | none => exact .rest trivial
    | some r => exact .rest trivial
  | changed n =>
    rw [step, withReceiver]
    cases hr : s.receiver? n with
    | none => exact .rest trivial
    | some r => exact transition_changed hr
  | cloneReceiver n =>
    rw [step, withReceiver]
    cases hr : s.receiver? n with
    | none => exact .rest trivial
    | some r => exact .clone hr
  | dropReceiver n =>
    rw [step, withReceiver]
    cases hr : s.receiver? n with
    | none => exact .rest trivial
    | some r => exact .dropReceiver hr

end Session

end FragmentFeed
