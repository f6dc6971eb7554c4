import FragmentFeed.Proofs.Session.Lifetime
import FragmentFeed.Proofs.Session.Staging

/-!
# Independence

A loader, its loads and its receivers are a part of the session by themselves (`SameAt`). A step that
creates nothing goes by the part of one loader alone and leaves the others as they are, so steps that
concern different loaders can change places, and a run does for each loader what the steps that
concern it do.
-/

namespace FragmentFeed

/-- Whether a step leaves the numbers of loaders, loads and receivers as they are. -/
def Step.createsNothing : Step → Bool
  | .new _ _ => false
  | .load _ _ => false
  | .subscribe _ => false
  | .cloneReceiver _ => false
  | _ => true

namespace Session

variable {ctx : Context} {s s' : Session} {t a b : Step} {c : Option Completion} {report : Report}
variable {n m k : Nat} {l : Loader}

/-- The loader that a step concerns: the one that it names, or else the one of the load or the receiver
that it names. -/
def subject? (s : Session) : Step → Option Nat
  | .new _ _ => none
  | .load n _ => some n
  | .loadInPlace n _ => some n
  | .url n => some n
  | .dropLoader n => some n
  | .subscribe n => some n
  | .deliver k _ => s.loads[k]?.map (·.loader)
  | .abort k => s.loads[k]?.map (·.loader)
  | .handle k => s.loads[k]?.map (·.loader)
  | .borrow i => s.receivers[i]?.map (·.loader)
  | .borrowAndUpdate i => s.receivers[i]?.map (·.loader)
  | .hasChanged i => s.receivers[i]?.map (·.loader)
  | .changed i => s.receivers[i]?.map (·.loader)
  | .cloneReceiver i => s.receivers[i]?.map (·.loader)
  | .dropReceiver i => s.receivers[i]?.map (·.loader)

/-- Whether a step concerns a loader. -/
def concerns (s : Session) (n : Nat) (t : Step) : Bool := s.subject? t = some n

theorem concerns_iff : s.concerns n t = true ↔ s.subject? t = some n := by
  simp [concerns]

/-! ## The part of a loader -/

/-- Two sessions are the same as far as one loader goes: the loader itself, its loads and its
receivers, under their numbers. -/
structure SameAt (n : Nat) (s s' : Session) : Prop where
  slot : s'.slots[n]? = s.slots[n]?
  load : ∀ (k : Nat) (load : Load), load.loader = n →
    (s'.loads[k]? = some load ↔ s.loads[k]? = some load)
  receiver : ∀ (i : Nat) (r : Receiver), r.loader = n →
    (s'.receivers[i]? = some r ↔ s.receivers[i]? = some r)

namespace SameAt

theorem refl (n : Nat) (s : Session) : SameAt n s s :=
  ⟨rfl, fun _ _ _ => Iff.rfl, fun _ _ _ => Iff.rfl⟩

theorem symm (h : SameAt n s s') : SameAt n s' s :=
  ⟨h.slot.symm, fun k load hn => (h.load k load hn).symm, fun i r hn => (h.receiver i r hn).symm⟩

theorem trans {s'' : Session} (h : SameAt n s s') (h' : SameAt n s' s'') : SameAt n s s'' :=
  ⟨h'.slot.trans h.slot, fun k load hn => (h'.load k load hn).trans (h.load k load hn),
    fun i r hn => (h'.receiver i r hn).trans (h.receiver i r hn)⟩

/-- Sessions that are the same for every loader are the same. -/
theorem eq_of_forall (h : ∀ n, SameAt n s s') : s' = s := by
  obtain ⟨slots, loads, receivers⟩ := s
  obtain ⟨slots', loads', receivers'⟩ := s'
  have hslots : slots' = slots := List.ext_getElem? fun n => (h n).slot
  have hloads : loads' = loads := by
    refine List.ext_getElem? fun k => Option.ext fun load => ?_
    exact (h load.loader).load k load rfl
  have hreceivers : receivers' = receivers := by
    refine List.ext_getElem? fun i => Option.ext fun r => ?_
    exact (h r.loader).receiver i r rfl
  rw [hslots, hloads, hreceivers]

/-! ### What is looked up -/

theorem held?_eq (h : SameAt n s s') : s'.held? n = s.held? n := by
  unfold held?
  rw [h.slot]

theorem loader?_eq (h : SameAt n s s') : s'.loader? n = s.loader? n := by
  unfold loader?
  rw [h.slot]

theorem isHeld_eq (h : SameAt n s s') : s'.isHeld n = s.isHeld n := by
  unfold isHeld
  rw [h.held?_eq]

theorem load?_eq (h : SameAt n s s') (hk : s.loads[k]?.map (·.loader) = some n) :
    s'.load? k = s.load? k := by
  obtain ⟨load, hload, rfl⟩ := Option.map_eq_some_iff.mp hk
  have hload' := (h.load k load rfl).mpr hload
  unfold load?
  rw [hload, hload']
  show s'.slots[load.loader]?.map _ = _
  rw [h.slot]

theorem receiver?_eq (h : SameAt n s s') {i : Nat} (hi : s.receivers[i]?.map (·.loader) = some n) :
    s'.receiver? i = s.receiver? i := by
  obtain ⟨r, hr, rfl⟩ := Option.map_eq_some_iff.mp hi
  have hr' := (h.receiver i r rfl).mpr hr
  unfold receiver?
  rw [hr, hr']
  show (if r.live = true then s'.slots[r.loader]?.map _ else none) = _
  rw [h.slot]

theorem isClosed_eq (h : SameAt n s s') : s'.isClosed n = s.isClosed n := by
  have hwaits : ∀ k, s'.WaitsFor k n ↔ s.WaitsFor k n := by
    intro k
    constructor
    · rintro ⟨load, hload, hn, hw⟩
      exact ⟨load, (h.load k load hn).mp hload, hn, hw⟩
    · rintro ⟨load, hload, hn, hw⟩
      exact ⟨load, (h.load k load hn).mpr hload, hn, hw⟩
  have hholds : ∀ ref : Reference, ref.loader = n → (s'.Holds ref ↔ s.Holds ref) := by
    rintro ⟨m, _ | k⟩ rfl
    · show s'.isHeld m = true ↔ s.isHeld m = true
      rw [h.isHeld_eq]
    · exact hwaits k
  rw [Bool.eq_iff_iff, isClosed_iff, isClosed_iff]
  constructor
  · intro hfree ref href hn
    exact hfree ref ((hholds ref hn).mpr href) hn
  · intro hfree ref href hn
    exact hfree ref ((hholds ref hn).mp href) hn

/-! ### What is put in place in both -/

theorem setLoader (h : SameAt n s s') : SameAt n (s.setLoader m l) (s'.setLoader m l) := by
  refine ⟨?_, h.load, h.receiver⟩
  simp only [Session.setLoader, List.getElem?_modify, h.slot]

theorem release (h : SameAt n s s') : SameAt n (s.release m) (s'.release m) := by
  refine ⟨?_, h.load, h.receiver⟩
  simp only [Session.release, List.getElem?_modify, h.slot]

theorem setPhase (h : SameAt n s s') {p : Phase} : SameAt n (s.setPhase k p) (s'.setPhase k p) := by
  refine ⟨h.slot, ?_, h.receiver⟩
  intro i load hn
  -- a load keeps its loader, so the loads of this one are put into the phase in both
  rw [setPhase_getElem?, setPhase_getElem?, Option.map_eq_some_iff, Option.map_eq_some_iff]
  constructor
  · rintro ⟨old, hold, heq⟩
    have hloader : old.loader = n := by rw [← hn, ← heq]; split <;> rfl
    exact ⟨old, (h.load i old hloader).mp hold, heq⟩
  · rintro ⟨old, hold, heq⟩
    have hloader : old.loader = n := by rw [← hn, ← heq]; split <;> rfl
    exact ⟨old, (h.load i old hloader).mpr hold, heq⟩

theorem setReceiver (h : SameAt n s s') {i : Nat} {r₀ r : Receiver}
    (hi : s.receivers[i]? = some r₀) (hr₀ : r₀.loader = n) :
    SameAt n (s.setReceiver i r) (s'.setReceiver i r) := by
  have hi' := (h.receiver i r₀ hr₀).mpr hi
  refine ⟨h.slot, h.load, ?_⟩
  intro j r' hn
  rw [setReceiver_receivers, setReceiver_receivers]
  by_cases hj : i = j
  · subst hj
    rw [List.getElem?_set_self (List.getElem?_eq_some_iff.mp hi).1,
      List.getElem?_set_self (List.getElem?_eq_some_iff.mp hi').1]
  · rw [List.getElem?_set_ne hj, List.getElem?_set_ne hj]
    exact h.receiver j r' hn

end SameAt

/-! ## A step leaves the other loaders as they are -/

theorem sameAt_setLoader (hm : m ≠ n) : SameAt n s (s.setLoader m l) := by
  refine ⟨?_, fun _ _ _ => Iff.rfl, fun _ _ _ => Iff.rfl⟩
  rw [setLoader, List.getElem?_modify]
  simp [hm]

theorem sameAt_release (hm : m ≠ n) : SameAt n s (s.release m) := by
  refine ⟨?_, fun _ _ _ => Iff.rfl, fun _ _ _ => Iff.rfl⟩
  rw [release, List.getElem?_modify]
  simp [hm]

theorem sameAt_setPhase {load : Load} {p : Phase} (hk : s.loads[k]? = some load)
    (hn : load.loader ≠ n) : SameAt n s (s.setPhase k p) := by
  refine ⟨rfl, ?_, fun _ _ _ => Iff.rfl⟩
  intro i other hother
  rw [setPhase_getElem?]
  by_cases hi : i = k
  · subst hi
    rw [hk]
    simp only [Option.map_some, if_pos, Option.some.injEq]
    constructor
    · rintro rfl; exact absurd hother hn
    · rintro rfl; exact absurd hother hn
  · simp [hi]

theorem sameAt_setReceiver {i : Nat} {r₀ r : Receiver} (hi : s.receivers[i]? = some r₀)
    (hr : r.loader = r₀.loader) (hn : r₀.loader ≠ n) : SameAt n s (s.setReceiver i r) := by
  refine ⟨rfl, fun _ _ _ => Iff.rfl, ?_⟩
  intro j other hother
  rw [setReceiver_receivers]
  by_cases hj : i = j
  · subst hj
    rw [List.getElem?_set_self (List.getElem?_eq_some_iff.mp hi).1, hi]
    simp only [Option.some.injEq]
    constructor
    · rintro rfl; exact absurd (hr.symm.trans hother) hn
    · rintro rfl; exact absurd hother hn
  · rw [List.getElem?_set_ne hj]

theorem loader_ne_of_load? {load : Load} (hk : s.load? k = some (load, l))
    (hn : s.loads[k]?.map (·.loader) ≠ some n) : load.loader ≠ n := by
  rw [(load?_eq_some_iff.mp hk).1, Option.map_some] at hn
  exact fun hloader => hn (congrArg some hloader)

theorem loader_ne_of_receiver? {i : Nat} {r : Receiver} (hi : s.receiver? i = some (r, l))
    (hn : s.receivers[i]?.map (·.loader) ≠ some n) : r.loader ≠ n := by
  rw [(receiver?_eq_some_iff.mp hi).1, Option.map_some] at hn
  exact fun hloader => hn (congrArg some hloader)

/-- **A step leaves the loaders that it does not concern as they are.** -/
theorem Transition.sameAt (h : Transition ctx s t c s' report) (ht : t.createsNothing = true)
    (hn : s.subject? t ≠ some n) : SameAt n s s' := by
  cases h with
  | new ho => cases ht
  | begin hl hw => cases ht
  | endAtOnce hl hr => cases ht
  | subscribe hl => cases ht
  | clone hr => cases ht
  | release hl => exact sameAt_release fun hm => hn (congrArg some hm)
  | endInPlace hl hr => exact sameAt_setLoader fun hm => hn (congrArg some hm)
  | goOn hk hp hw =>
    exact sameAt_setPhase (load?_eq_some_iff.mp hk).1 (loader_ne_of_load? hk hn)
  | finish hk hp hr =>
    have hk' := (load?_eq_some_iff.mp hk).1
    have hloader := loader_ne_of_load? hk hn
    exact (sameAt_setLoader hloader).trans (sameAt_setPhase (by exact hk') hloader)
  | stop hk hp => exact sameAt_setPhase (load?_eq_some_iff.mp hk).1 (loader_ne_of_load? hk hn)
  | takeOutcome hk hp =>
    exact sameAt_setPhase (load?_eq_some_iff.mp hk).1 (loader_ne_of_load? hk hn)
  | borrowAndUpdate hr =>
    exact sameAt_setReceiver (receiver?_eq_some_iff.mp hr).1 rfl (loader_ne_of_receiver? hr hn)
  | changed hr hseen =>
    exact sameAt_setReceiver (receiver?_eq_some_iff.mp hr).1 rfl (loader_ne_of_receiver? hr hn)
  | dropReceiver hr =>
    exact sameAt_setReceiver (receiver?_eq_some_iff.mp hr).1 rfl (loader_ne_of_receiver? hr hn)
  | _ => exact SameAt.refl n s

/-! ## What a step concerns does not depend on the others -/

theorem setPhase_map_loader (s : Session) (k : Nat) (p : Phase) (i : Nat) :
    (s.setPhase k p).loads[i]?.map (·.loader) = s.loads[i]?.map (·.loader) := by
  rw [setPhase_getElem?, Option.map_map]
  congr 1
  funext load
  show (if i = k then { load with phase := p } else load).loader = load.loader
  split <;> rfl

theorem setReceiver_map_loader {i : Nat} {r₀ r : Receiver} (hi : s.receivers[i]? = some r₀)
    (hr : r.loader = r₀.loader) (j : Nat) :
    (s.setReceiver i r).receivers[j]?.map (·.loader) = s.receivers[j]?.map (·.loader) := by
  rw [setReceiver_receivers]
  by_cases hj : i = j
  · subst hj
    rw [List.getElem?_set_self (List.getElem?_eq_some_iff.mp hi).1, hi, Option.map_some,
      Option.map_some, hr]
  · rw [List.getElem?_set_ne hj]

/-- A load stays with its loader. -/
theorem Transition.loads_map_loader (h : Transition ctx s t c s' report)
    (ht : t.createsNothing = true) (k : Nat) :
    s'.loads[k]?.map (·.loader) = s.loads[k]?.map (·.loader) := by
  cases h with
  | begin hl hw => cases ht
  | endAtOnce hl hr => cases ht
  | goOn hk hp hw => exact setPhase_map_loader s _ _ k
  | finish hk hp hr => exact setPhase_map_loader _ _ _ k
  | stop hk hp => exact setPhase_map_loader s _ _ k
  | takeOutcome hk hp => exact setPhase_map_loader s _ _ k
  | _ => rfl

/-- A receiver stays with its loader. -/
theorem Transition.receivers_map_loader (h : Transition ctx s t c s' report)
    (ht : t.createsNothing = true) (i : Nat) :
    s'.receivers[i]?.map (·.loader) = s.receivers[i]?.map (·.loader) := by
  cases h with
  | subscribe hl => cases ht
  | clone hr => cases ht
  | borrowAndUpdate hr => exact setReceiver_map_loader (receiver?_eq_some_iff.mp hr).1 (by rfl) i
  | changed hr hseen => exact setReceiver_map_loader (receiver?_eq_some_iff.mp hr).1 (by rfl) i
  | dropReceiver hr => exact setReceiver_map_loader (receiver?_eq_some_iff.mp hr).1 (by rfl) i
  | _ => rfl

theorem subject?_step (ctx : Context) (s : Session) (ht : t.createsNothing = true) (u : Step) :
    (s.step ctx t).1.subject? u = s.subject? u := by
  have h := transition_step ctx s t
  cases u <;> simp only [subject?, h.loads_map_loader ht, h.receivers_map_loader ht]

/-- A step that concerns nothing that is there says so, wherever it is taken. -/
theorem report_eq_of_subject?_eq_none (ht : t.createsNothing = true) (h : s.subject? t = none)
    (h' : s'.subject? t = none) : (s'.step ctx t).2 = (s.step ctx t).2 := by
  have hload : ∀ (s₀ : Session) (k : Nat), s₀.loads[k]?.map (·.loader) = none → s₀.load? k = none := by
    intro s₀ k hk
    rw [load?, Option.map_eq_none_iff.mp hk]
  have hreceiver : ∀ (s₀ : Session) (i : Nat), s₀.receivers[i]?.map (·.loader) = none →
      s₀.receiver? i = none := by
    intro s₀ i hi
    rw [receiver?, Option.map_eq_none_iff.mp hi]
  cases t with
  | new url making => cases ht
  | load n supply => cases h
  | loadInPlace n supply => cases h
  | url n => cases h
  | dropLoader n => cases h
  | subscribe n => cases h
  | cloneReceiver i => cases ht
  | deliver k d => rw [step, step, withLoad, withLoad, hload s k h, hload s' k h']
  | abort k => rw [step, step, withLoad, withLoad, hload s k h, hload s' k h']
  | handle k => rw [step, step, withLoad, withLoad, hload s k h, hload s' k h']
  | borrow i =>
    rw [step, step, withReceiver, withReceiver, hreceiver s i h, hreceiver s' i h']
  | borrowAndUpdate i =>
    rw [step, step, withReceiver, withReceiver, hreceiver s i h, hreceiver s' i h']
  | hasChanged i =>
    rw [step, step, withReceiver, withReceiver, hreceiver s i h, hreceiver s' i h']
  | changed i =>
    rw [step, step, withReceiver, withReceiver, hreceiver s i h, hreceiver s' i h']
  | dropReceiver i =>
    rw [step, step, withReceiver, withReceiver, hreceiver s i h, hreceiver s' i h']

/-! ## What a step does goes by the part that it concerns -/

/-- Two steps that came to the same, and left a loader the same. -/
def GoAlike (n : Nat) (x x' : Session × Report) : Prop := x'.2 = x.2 ∧ SameAt n x.1 x'.1

section goAlike

variable (h : SameAt n s s')
include h

theorem goAlike_rest (r : Report) : GoAlike n (s, r) (s', r) := ⟨rfl, h⟩

theorem goAlike_withLoader {act act' : Loader → Session × Report}
    (hact : ∀ l, GoAlike n (act l) (act' l)) :
    GoAlike n (s.withLoader n act) (s'.withLoader n act') := by
  unfold withLoader
  rw [h.held?_eq]
  cases s.held? n with
  | none => exact goAlike_rest h _
  | some l => exact hact l

theorem goAlike_withLoad {act act' : Load → Loader → Session × Report}
    (hk : s.loads[k]?.map (·.loader) = some n)
    (hact : ∀ load l, load.loader = n → GoAlike n (act load l) (act' load l)) :
    GoAlike n (s.withLoad k act) (s'.withLoad k act') := by
  unfold withLoad
  rw [h.load?_eq hk]
  cases hload : s.load? k with
  | none => exact goAlike_rest h _
  | some x =>
    rw [(load?_eq_some_iff.mp hload).1] at hk
    exact hact x.1 x.2 (Option.some.inj hk)

theorem goAlike_withReceiver {i : Nat} {act act' : Receiver → Loader → Session × Report}
    (hi : s.receivers[i]?.map (·.loader) = some n)
    (hact : ∀ r l, s.receivers[i]? = some r → r.loader = n → GoAlike n (act r l) (act' r l)) :
    GoAlike n (s.withReceiver i act) (s'.withReceiver i act') := by
  unfold withReceiver
  rw [h.receiver?_eq hi]
  cases hr : s.receiver? i with
  | none => exact goAlike_rest h _
  | some x =>
    have hx := (receiver?_eq_some_iff.mp hr).1
    rw [hx] at hi
    exact hact x.1 x.2 hx (Option.some.inj hi)

theorem goAlike_finish (load : Load) (l : Loader) (r : Reply) (trace : Trace) :
    GoAlike n (s.finish k load l r trace) (s'.finish k load l r trace) :=
  ⟨rfl, h.setLoader.setPhase⟩

theorem goAlike_deliver (load : Load) (l : Loader) (d : Delivery) :
    GoAlike n (s.deliver ctx k load l d) (s'.deliver ctx k load l d) := by
  unfold deliver
  split
  · exact goAlike_rest h _
  · exact goAlike_finish h load l _ _
  · dsimp only
    split
    · exact ⟨rfl, h.setPhase⟩
    · exact goAlike_finish h load l _ _
  · exact goAlike_rest h _

theorem goAlike_abort (load : Load) : GoAlike n (s.abort k load) (s'.abort k load) := by
  unfold abort
  split
  · exact ⟨rfl, h.setPhase⟩
  · exact goAlike_rest h _

theorem goAlike_handle (load : Load) : GoAlike n (s.handle k load) (s'.handle k load) := by
  unfold handle
  split
  · exact goAlike_rest h _
  · exact ⟨rfl, h.setPhase⟩
  · exact goAlike_rest h _

section receiver

variable {i : Nat} {r : Receiver} (hi : s.receivers[i]? = some r) (hr : r.loader = n)
include hr

theorem hasChanged_eq (l : Loader) : s'.hasChanged r l = s.hasChanged r l := by
  unfold hasChanged
  rw [hr, h.isClosed_eq]

include hi

theorem goAlike_changed (l : Loader) : GoAlike n (s.changed i r l) (s'.changed i r l) := by
  unfold changed
  rw [hr, h.isClosed_eq]
  split
  · exact ⟨rfl, h.setReceiver hi hr⟩
  · split
    · exact goAlike_rest h _
    · exact goAlike_rest h _

end receiver

/-- **What a step does for the loader that it concerns does not depend on the others.** -/
theorem goAlike_step (ctx : Context) (ht : t.createsNothing = true) (hn : s.subject? t = some n) :
    GoAlike n (s.step ctx t) (s'.step ctx t) := by
  cases t with
  | new url making => cases ht
  | load m supply => cases ht
  | subscribe m => cases ht
  | cloneReceiver i => cases ht
  | loadInPlace m supply =>
    cases hn
    exact goAlike_withLoader h fun l => ⟨rfl, h.setLoader⟩
  | url m =>
    cases hn
    exact goAlike_withLoader h fun l => goAlike_rest h _
  | dropLoader m =>
    cases hn
    exact goAlike_withLoader h fun l => ⟨rfl, h.release⟩
  | deliver k d => exact goAlike_withLoad h hn fun load l _ => goAlike_deliver h load l d
  | abort k => exact goAlike_withLoad h hn fun load l _ => goAlike_abort h load
  | handle k => exact goAlike_withLoad h hn fun load l _ => goAlike_handle h load
  | borrow i => exact goAlike_withReceiver h hn fun r l _ _ => goAlike_rest h _
  | borrowAndUpdate i =>
    exact goAlike_withReceiver h hn fun r l hi hr => ⟨rfl, h.setReceiver hi hr⟩
  | hasChanged i =>
    refine goAlike_withReceiver h hn fun r l hi hr => ?_
    rw [hasChanged_eq h hr]
    exact goAlike_rest h _
  | changed i => exact goAlike_withReceiver h hn fun r l hi hr => goAlike_changed h hi hr l
  | dropReceiver i =>
    exact goAlike_withReceiver h hn fun r l hi hr => ⟨rfl, h.setReceiver hi hr⟩

end goAlike

/-! ## Steps that concern different loaders -/

/-- A step that does not concern a loader leaves it as it is. -/
theorem sameAt_step (ctx : Context) (ht : t.createsNothing = true) (hn : s.subject? t ≠ some n) :
    SameAt n s (s.step ctx t).1 :=
  (transition_step ctx s t).sameAt ht hn

/-- A step comes to the same after one that concerns another loader. -/
theorem report_step_step (ha : a.createsNothing = true) (hb : b.createsNothing = true)
    (hne : ∀ n, s.subject? b = some n → s.subject? a ≠ some n) :
    ((s.step ctx a).1.step ctx b).2 = (s.step ctx b).2 := by
  cases hn : s.subject? b with
  | none =>
    exact report_eq_of_subject?_eq_none hb hn ((subject?_step ctx s ha b).trans hn)
  | some n => exact (goAlike_step (sameAt_step ctx ha (hne n hn)) ctx hb hn).1

/-- **Steps that concern different loaders can change places.** -/
theorem step_step_comm (ha : a.createsNothing = true) (hb : b.createsNothing = true)
    (hne : ∀ n, s.subject? a = some n → s.subject? b ≠ some n) :
    ((s.step ctx a).1.step ctx b).1 = ((s.step ctx b).1.step ctx a).1 := by
  refine SameAt.eq_of_forall fun n => ?_
  have hsa := subject?_step ctx s ha
  have hsb := subject?_step ctx s hb
  by_cases han : s.subject? a = some n
  · -- `b` leaves the loader alone, before `a` and after it
    have hbn := hne n han
    have h₁ : SameAt n (s.step ctx b).1 s := (sameAt_step ctx hb hbn).symm
    have h₂ := (goAlike_step h₁ ctx ha (by rw [hsb]; exact han)).2
    exact h₂.trans (sameAt_step ctx hb (by rw [hsa]; exact hbn))
  · have h₁ : SameAt n s (s.step ctx a).1 := sameAt_step ctx ha han
    by_cases hbn : s.subject? b = some n
    · have h₂ := (goAlike_step h₁ ctx hb hbn).2
      exact (sameAt_step ctx ha (by rw [hsb]; exact han)).symm.trans h₂
    · have h₂ := sameAt_step ctx hb (s := s) hbn
      have h₃ := sameAt_step ctx hb (s := (s.step ctx a).1) (by rw [hsa]; exact hbn)
      have h₄ := sameAt_step ctx ha (s := (s.step ctx b).1) (by rw [hsb]; exact han)
      exact (h₂.trans h₄).symm.trans (h₁.trans h₃)

/-! ## Runs -/

/-- **A run does for a loader what the steps that concern it do**, with the same reports. -/
theorem sameAt_after (ctx : Context) {steps : List Step}
    (hsteps : ∀ t ∈ steps, t.createsNothing = true)
    (h : SameAt n s s') (hsubject : ∀ t, s'.subject? t = s.subject? t) :
    SameAt n (s.after ctx steps) (s'.after ctx (steps.filter (s.concerns n))) ∧
      (s.transcript ctx steps).filter (fun x => s.concerns n x.1)
        = s'.transcript ctx (steps.filter (s.concerns n)) := by
  induction steps generalizing s s' with
  | nil => exact ⟨h, rfl⟩
  | cons t steps ih =>
    have ht := hsteps t (by simp)
    have hmore : ∀ t ∈ steps, t.createsNothing = true := fun t' ht' => hsteps t' (by simp [ht'])
    have hstep := subject?_step ctx s ht
    -- whom a step concerns is the same all along
    have hconcerns : (s.step ctx t).1.concerns n = s.concerns n := by
      funext u
      rw [concerns, concerns, hstep]
    by_cases hn : s.concerns n t = true
    · obtain ⟨hreport, hnext⟩ := goAlike_step h ctx ht (concerns_iff.mp hn)
      have hsubject' : ∀ u, (s'.step ctx t).1.subject? u = (s.step ctx t).1.subject? u := by
        intro u
        rw [subject?_step ctx s' ht, hstep, hsubject]
      obtain ⟨hafter, htranscript⟩ := ih hmore hnext hsubject'
      rw [hconcerns] at hafter htranscript
      rw [List.filter_cons_of_pos hn, after_cons, after_cons, transcript_cons, transcript_cons,
        List.filter_cons_of_pos (p := fun x : Step × Report => s.concerns n x.1) hn, hreport,
        htranscript]
      exact ⟨hafter, rfl⟩
    · have hnext : SameAt n (s.step ctx t).1 s' :=
        (sameAt_step ctx ht fun hs => hn (concerns_iff.mpr hs)).symm.trans h
      have hsubject' : ∀ u, s'.subject? u = (s.step ctx t).1.subject? u := by
        intro u
        rw [hstep, hsubject]
      obtain ⟨hafter, htranscript⟩ := ih hmore hnext hsubject'
      rw [hconcerns] at hafter htranscript
      rw [List.filter_cons_of_neg hn, after_cons, transcript_cons,
        List.filter_cons_of_neg (p := fun x : Step × Report => s.concerns n x.1) hn]
      exact ⟨hafter, htranscript⟩

/--
**Loaders are independent.**

Two steps that create nothing and concern different loaders come to the same in either order, each
with the same report (answer, events, calls of the source and requests), and lead to the same session.
So do two runs of such steps that have the same steps in the same order for each loader: how these are
interleaved does not show, neither in the session nor in what came of the steps that concern a loader.
-/
theorem loaders_independent (ctx : Context) (s : Session) :
    (∀ a b, a.createsNothing = true → b.createsNothing = true →
      (∀ n, s.subject? a = some n → s.subject? b ≠ some n) →
      ((s.step ctx a).1.step ctx b).2 = (s.step ctx b).2 ∧
      ((s.step ctx b).1.step ctx a).2 = (s.step ctx a).2 ∧
      ((s.step ctx a).1.step ctx b).1 = ((s.step ctx b).1.step ctx a).1) ∧
    (∀ steps steps', (∀ t ∈ steps, t.createsNothing = true) →
      (∀ t ∈ steps', t.createsNothing = true) →
      (∀ n, steps.filter (s.concerns n) = steps'.filter (s.concerns n)) →
      s.after ctx steps = s.after ctx steps' ∧
      ∀ n, (s.transcript ctx steps).filter (fun x => s.concerns n x.1)
        = (s.transcript ctx steps').filter (fun x => s.concerns n x.1)) := by
  constructor
  · intro a b ha hb hne
    have hne' : ∀ n, s.subject? b = some n → s.subject? a ≠ some n :=
      fun n hbn han => hne n han hbn
    exact ⟨report_step_step ha hb hne', report_step_step hb ha hne, step_step_comm ha hb hne⟩
  · intro steps steps' hsteps hsteps' hfilter
    have h := fun n => sameAt_after ctx hsteps (SameAt.refl n s) fun _ => rfl
    have h' := fun n => sameAt_after ctx hsteps' (SameAt.refl n s) fun _ => rfl
    constructor
    · refine SameAt.eq_of_forall fun n => (h' n).1.trans ?_
      rw [← hfilter n]
      exact (h n).1.symm
    · intro n
      rw [(h n).2, (h' n).2, hfilter n]

/-- A session in which a load of a web loader and one of another loader are in flight. -/
def bothInFlight : Session :=
  empty.after .plain (twoLoaders ++ [.load 0 ⟨none, []⟩, .load 1 ⟨none, []⟩])

/-- A redirect for the one, and a text for the other. -/
def redirectFirst : List Step := [.deliver 0 (.response moved), .deliver 1 (.reply (.text "b"))]

/-- In `bothInFlight` the redirect and the text can come in either order. -/
theorem independent_bothInFlight :
    bothInFlight.subject? (.deliver 0 (.response moved)) = some 0 ∧
      bothInFlight.subject? (.deliver 1 (.reply (.text "b"))) = some 1 ∧
      ((bothInFlight.step .plain (.deliver 0 (.response moved))).1.step .plain
          (.deliver 1 (.reply (.text "b")))).2.answer = .finished ∧
      bothInFlight.after .plain redirectFirst = bothInFlight.after .plain redirectFirst.reverse := by
  have hfirst : bothInFlight.subject? (.deliver 0 (.response moved)) = some 0 := by
    decide +kernel
  have hsecond : bothInFlight.subject? (.deliver 1 (.reply (.text "b"))) = some 1 := by
    decide +kernel
  obtain ⟨hpair, hruns⟩ := loaders_independent .plain bothInFlight
  have hfilter : ∀ n, redirectFirst.filter (bothInFlight.concerns n)
      = redirectFirst.reverse.filter (bothInFlight.concerns n) := by
    intro n
    by_cases h0 : n = 0
    · subst h0
      simp [redirectFirst, List.filter, concerns, hfirst, hsecond]
    · have hn : ¬ 0 = n := fun h => h0 h.symm
      simp [redirectFirst, List.filter, concerns, hfirst, hsecond, hn]
  refine ⟨hfirst, hsecond, ?_, (hruns _ _ (by decide) (by decide) hfilter).1⟩
  rw [(hpair _ _ rfl rfl (by rw [hfirst, hsecond]; simp)).1]
  decide +kernel

end Session

end FragmentFeed
