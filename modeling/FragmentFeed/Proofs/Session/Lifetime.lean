import FragmentFeed.Proofs.Session.Notification

/-!
# Lifetime

A loader is kept alive by the program, until it lets go of it, and by each load of it that waits. Who
keeps which loader can be told from the steps and their answers alone (`references`). A receiver finds
its loader gone exactly if nobody keeps it any more, and from then on nothing changes for it.
-/

namespace FragmentFeed

/-- Who can keep a loader alive. -/
inductive Holder where
  | program
  | load (number : Nat)
  deriving DecidableEq, Repr

/-- That somebody keeps a loader alive. -/
structure Reference where
  loader : Nat
  holder : Holder
  deriving DecidableEq, Repr

namespace Reference

/-- The references after one more step. The program gets one when it makes a loader and gives it up when
it drops it; a load has one while it waits, which is until it ends or is stopped. -/
def note (refs : List Reference) (x : Step × Report) : List Reference :=
  match x.1, x.2.answer with
  | .new _ _, .loader n _ => refs ++ [⟨n, .program⟩]
  | .dropLoader n, .done => refs.filter (· ≠ ⟨n, .program⟩)
  | .load n _, .load k true => refs ++ [⟨n, .load k⟩]
  | .deliver k _, .finished => refs.filter (·.holder ≠ .load k)
  | .abort k, .done => refs.filter (·.holder ≠ .load k)
  | _, _ => refs

theorem note_of_rests {refs : List Reference} {t : Step} {a : Answer} (h : t.rests a) :
    note refs (t, .only a) = refs := by
  unfold note
  cases t <;> cases a <;> first | rfl | exact h.elim

variable {refs : List Reference} {ref : Reference} {n k : Nat}

theorem mem_note_dropLoader :
    ref ∈ note refs (.dropLoader n, .only .done) ↔ ref ∈ refs ∧ ref ≠ ⟨n, .program⟩ := by
  simp [note, Report.only]

theorem mem_note_abort :
    ref ∈ note refs (.abort k, .only .done) ↔ ref ∈ refs ∧ ref.holder ≠ .load k := by
  simp [note, Report.only]

theorem mem_note_finished {d : Delivery} {trace : Trace} :
    ref ∈ note refs (.deliver k d, ⟨.finished, trace⟩)
      ↔ ref ∈ refs ∧ ref.holder ≠ .load k := by
  simp [note]

end Reference

namespace Session

variable {ctx : Context} {s s' : Session} {t : Step} {c : Option Completion} {report : Report}
variable {steps more : List Step} {n m k : Nat} {r : Receiver} {l : Loader} {ref : Reference}

/-- The references after some steps from the start. -/
def references (ctx : Context) (steps : List Step) : List Reference :=
  (empty.transcript ctx steps).foldl Reference.note []

theorem references_snoc (steps : List Step) (t : Step) :
    references ctx (steps ++ [t])
      = Reference.note (references ctx steps) (t, ((empty.after ctx steps).step ctx t).2) := by
  simp [references, transcript_append]

/-! ## Who keeps a loader -/

/-- Whether a load is one of a loader and waits. -/
def WaitsFor (s : Session) (k n : Nat) : Prop :=
  ∃ load, s.loads[k]? = some load ∧ load.loader = n ∧ load.isWaiting = true

/-- Whether a reference is borne out by the tables of the session. -/
def Holds (s : Session) (ref : Reference) : Prop :=
  match ref.holder with
  | .program => s.isHeld ref.loader = true
  | .load k => s.WaitsFor k ref.loader

theorem holds_congr (hslots : s'.slots = s.slots) (hloads : s'.loads = s.loads) :
    s'.Holds ref ↔ s.Holds ref := by
  unfold Holds WaitsFor
  rw [hloads, isHeld_congr _ hslots]

theorem holds_addLoader :
    (s.addLoader l).Holds ref ↔ s.Holds ref ∨ ref = ⟨s.slots.length, .program⟩ := by
  obtain ⟨m, holder⟩ := ref
  cases holder with
  | program => simp [Holds, isHeld_addLoader]
  | load k => simp [Holds, WaitsFor]

theorem holds_release : (s.release n).Holds ref ↔ s.Holds ref ∧ ref ≠ ⟨n, .program⟩ := by
  obtain ⟨m, holder⟩ := ref
  cases holder with
  | program => simp [Holds]
  | load k => simp [Holds, WaitsFor]

theorem holds_setLoader : (s.setLoader n l).Holds ref ↔ s.Holds ref := by
  unfold Holds WaitsFor
  rw [isHeld_setLoader, setLoader_loads]

/-- A load that is added has a reference if it waits. -/
theorem holds_addLoad {load : Load} :
    (s.addLoad load).Holds ref
      ↔ s.Holds ref ∨ load.isWaiting = true ∧ ref = ⟨load.loader, .load s.loads.length⟩ := by
  obtain ⟨m, holder⟩ := ref
  cases holder with
  | program => simp [Holds, isHeld_congr m (addLoad_slots s load)]
  | load k =>
    simp only [Holds, WaitsFor, addLoad_loads, Reference.mk.injEq, Holder.load.injEq]
    rcases Nat.lt_trichotomy k s.loads.length with h | h | h
    · simp [List.getElem?_append_left h, Nat.ne_of_lt h]
    · have hnone : s.loads[s.loads.length]? = none := List.getElem?_eq_none (Nat.le_refl _)
      simp only [h, hnone, List.getElem?_concat_length, Option.some.injEq, reduceCtorEq, false_and,
        exists_false, false_or]
      constructor
      · rintro ⟨_, rfl, rfl, hw⟩; exact ⟨hw, rfl, trivial⟩
      · rintro ⟨hw, rfl, -⟩; exact ⟨load, rfl, rfl, hw⟩
    · have hnone : (s.loads ++ [load])[k]? = none := List.getElem?_eq_none (by simp; omega)
      simp [hnone, Nat.ne_of_gt h, Nat.le_of_lt h]

theorem holds_load {load : Load} (hk : s.loads[k]? = some load) (href : ref.holder = .load k) :
    s.Holds ref ↔ load.loader = ref.loader ∧ load.isWaiting = true := by
  simp [Holds, href, WaitsFor, hk]

theorem holds_setPhase_of_ne {p : Phase} (href : ref.holder ≠ .load k) :
    (s.setPhase k p).Holds ref ↔ s.Holds ref := by
  obtain ⟨m, holder⟩ := ref
  cases holder with
  | program => simp [Holds, isHeld_congr m (setPhase_slots s k p)]
  | load i =>
    have hi : i ≠ k := fun hi => href (by rw [hi])
    simp [Holds, WaitsFor, setPhase_getElem?, hi]

/-- A load that goes on waiting has the reference that it had. -/
theorem holds_setPhase_waiting {load : Load} {w w' : Loader.Wait} (hk : s.loads[k]? = some load)
    (hw : load.phase = .waiting w) : (s.setPhase k (.waiting w')).Holds ref ↔ s.Holds ref := by
  by_cases href : ref.holder = .load k
  · have hk' : (s.setPhase k (.waiting w')).loads[k]? = some ⟨load.loader, .waiting w'⟩ := by
      simp [setPhase_getElem?, hk]
    rw [holds_load hk' href, holds_load hk href]
    simp [Load.isWaiting, hw]
  · exact holds_setPhase_of_ne href

/-- A load that has ended has none. -/
theorem not_holds_of_finished {load : Load} {o : Outcome} {taken : Bool}
    (hk : s.loads[k]? = some load) (hf : load.phase = .finished o taken) (href : s.Holds ref) :
    ref.holder ≠ .load k := by
  intro h
  rw [holds_load hk h] at href
  simp [Load.isWaiting, hf] at href

theorem holds_setPhase_finished {load : Load} {o : Outcome} {taken : Bool}
    (hk : s.loads[k]? = some load) :
    (s.setPhase k (.finished o taken)).Holds ref ↔ s.Holds ref ∧ ref.holder ≠ .load k := by
  by_cases href : ref.holder = .load k
  · have hk' : (s.setPhase k (.finished o taken)).loads[k]?
        = some ⟨load.loader, .finished o taken⟩ := by
      simp [setPhase_getElem?, hk]
    simp only [href, ne_eq, not_true_eq_false, and_false, iff_false]
    exact fun h => not_holds_of_finished hk' rfl h href
  · simp [holds_setPhase_of_ne href, href]

/-- **A load that waits has a reference, and the program has one as long as it has not let go.** -/
theorem Transition.mem_note_iff (h : Transition ctx s t c s' report) {refs : List Reference}
    (hrefs : ∀ ref, ref ∈ refs ↔ s.Holds ref) (ref : Reference) :
    ref ∈ Reference.note refs (t, report) ↔ s'.Holds ref := by
  cases h with
  | rest hr => rw [Reference.note_of_rests hr]; exact hrefs ref
  | new ho =>
    show ref ∈ refs ++ [⟨_, .program⟩] ↔ _
    rw [holds_addLoader, List.mem_append, List.mem_singleton, hrefs]
  | release hl => rw [Reference.mem_note_dropLoader, holds_release, hrefs]
  | begin hl hw =>
    show ref ∈ refs ++ [⟨_, .load _⟩] ↔ _
    rw [holds_addLoad, List.mem_append, List.mem_singleton, hrefs]
    simp [Load.isWaiting]
  | endAtOnce hl hr =>
    show ref ∈ refs ↔ _
    rw [holds_addLoad, holds_setLoader, hrefs]
    simp [Load.isWaiting]
  | endInPlace hl hr =>
    show ref ∈ refs ↔ _
    rw [holds_setLoader, hrefs]
  | goOn hk hp hw =>
    show ref ∈ refs ↔ _
    rw [holds_setPhase_waiting (load?_eq_some_iff.mp hk).1 hp, hrefs]
  | finish hk hp hr =>
    have hk' := (load?_eq_some_iff.mp hk).1
    rw [Reference.mem_note_finished, holds_setPhase_finished (by exact hk'), holds_setLoader, hrefs]
  | stop hk hp =>
    rw [Reference.mem_note_abort, holds_setPhase_finished (load?_eq_some_iff.mp hk).1, hrefs]
  | stopInVain hk hp =>
    rw [Reference.mem_note_abort, hrefs]
    exact and_iff_left_of_imp (not_holds_of_finished (load?_eq_some_iff.mp hk).1 hp)
  | takeOutcome hk hp =>
    have hk' := (load?_eq_some_iff.mp hk).1
    show ref ∈ refs ↔ _
    rw [holds_setPhase_finished hk', hrefs]
    exact (and_iff_left_of_imp (not_holds_of_finished hk' hp)).symm
  | _ => exact (hrefs ref).trans (holds_congr rfl rfl).symm

/-- **The references are those of the program and of the loads that wait.** -/
theorem mem_references_iff (ctx : Context) (steps : List Step) :
    ∀ ref, ref ∈ references ctx steps ↔ (empty.after ctx steps).Holds ref := by
  refine run_induction
    (P := fun steps s => ∀ ref, ref ∈ references ctx steps ↔ s.Holds ref) ?_ ?_ steps
  · rintro ⟨m, _ | k⟩
    · simp [references, Holds, isHeld_eq, empty]
    · simp [references, Holds, WaitsFor, empty]
  · intro steps t h
    rw [references_snoc]
    exact (transition_step ctx _ t).mem_note_iff h

/-! ## A loader that is gone -/

/-- **A loader is gone if and only if nobody keeps it.** -/
theorem isClosed_iff : s.isClosed n = true ↔ ∀ ref, s.Holds ref → ref.loader ≠ n := by
  have hheld : (s.held? n).isNone = true ↔ ¬ s.isHeld n = true := by
    rw [isHeld]; cases s.held? n <;> simp
  unfold isClosed
  simp only [Bool.and_eq_true, hheld, Bool.not_eq_true', List.any_eq_false, decide_eq_true_eq,
    Bool.and_eq_true, not_and]
  constructor
  · rintro ⟨hfree, hloads⟩ ⟨m, _ | k⟩ href rfl
    · exact hfree href
    · obtain ⟨load, hk, hn, hw⟩ := href
      exact hloads load (List.mem_of_getElem? hk) hn hw
  · intro h
    refine ⟨fun hheld => h ⟨n, .program⟩ hheld rfl, fun load hload hn hw => ?_⟩
    obtain ⟨k, hk⟩ := List.mem_iff_getElem?.mp hload
    exact h ⟨n, .load k⟩ ⟨load, hk, hn, hw⟩ rfl

theorem not_isClosed_of_held? (hl : s.held? n = some l) : ¬ s.isClosed n = true :=
  fun h => isClosed_iff.mp h ⟨n, .program⟩ (isHeld_of_held? hl) rfl

theorem not_isClosed_of_waiting {load : Load} {w : Loader.Wait} (hk : s.loads[k]? = some load)
    (hw : load.phase = .waiting w) : ¬ s.isClosed load.loader = true :=
  fun h => isClosed_iff.mp h ⟨load.loader, .load k⟩
    ⟨load, hk, rfl, Load.isWaiting_iff.mpr ⟨w, hw⟩⟩ rfl

/-- A load that ends is one of a loader that is not gone. -/
theorem Transition.not_isClosed {e : Completion} (h : Transition ctx s t (some e) s' report) :
    ¬ s.isClosed e.loader = true := by
  cases h with
  | endAtOnce hl hr => exact not_isClosed_of_held? hl
  | endInPlace hl hr => exact not_isClosed_of_held? hl
  | finish hk hp hr => exact not_isClosed_of_waiting (load?_eq_some_iff.mp hk).1 hp

/-- Nobody gets hold of a loader that is gone. -/
theorem Transition.isClosed (h : Transition ctx s t c s' report) (hn : n < s.slots.length)
    (hgone : s.isClosed n = true) : s'.isClosed n = true := by
  have hfree := isClosed_iff.mp hgone
  refine isClosed_iff.mpr fun ref href => ?_
  cases h with
  | new ho =>
    rcases holds_addLoader.mp href with href | rfl
    · exact hfree ref href
    · exact Nat.ne_of_gt hn
  | release hl => exact hfree ref (holds_release.mp href).1
  | begin hl hw =>
    rcases holds_addLoad.mp href with href | ⟨-, rfl⟩
    · exact hfree ref href
    · rintro rfl; exact not_isClosed_of_held? hl hgone
  | endAtOnce hl hr =>
    rcases holds_addLoad.mp href with href | ⟨hw, -⟩
    · exact hfree ref (holds_setLoader.mp href)
    · cases hw
  | endInPlace hl hr => exact hfree ref (holds_setLoader.mp href)
  | goOn hk hp hw => exact hfree ref ((holds_setPhase_waiting (load?_eq_some_iff.mp hk).1 hp).mp href)
  | finish hk hp hr =>
    have hk' := (load?_eq_some_iff.mp hk).1
    exact hfree ref (holds_setLoader.mp ((holds_setPhase_finished (by exact hk')).mp href).1)
  | stop hk hp => exact hfree ref ((holds_setPhase_finished (load?_eq_some_iff.mp hk).1).mp href).1
  | takeOutcome hk hp =>
    exact hfree ref ((holds_setPhase_finished (load?_eq_some_iff.mp hk).1).mp href).1
  | _ => exact hfree ref ((holds_congr rfl rfl).mp href)

/-- **A loader that is gone stays gone, as it is.** -/
theorem after_of_isClosed (ctx : Context) (hl : s.loader? n = some l) (hgone : s.isClosed n = true)
    (more : List Step) :
    (s.after ctx more).loader? n = some l ∧ (s.after ctx more).isClosed n = true := by
  induction more generalizing s with
  | nil => exact ⟨hl, hgone⟩
  | cons t more ih =>
    have ht := transition_step ctx s t
    have hn := lt_length_of_loader? hl
    -- who ends a load of it would have a reference to it
    have hreplies : Completion.repliesTo n (s.completion? ctx t).toList = [] := by
      cases hc : s.completion? ctx t with
      | none => rfl
      | some e =>
        rw [hc] at ht
        have hne : e.loader ≠ n := by rintro rfl; exact ht.not_isClosed hgone
        simp [Completion.repliesTo, hne]
    rw [after_cons]
    refine ih ?_ (ht.isClosed hn hgone)
    rw [ht.loader?_eq hn, hl, hreplies]
    rfl

/-! ## Receivers of a loader that is gone -/

/-- Where a receiver is replaced, another one stays, and this one is as it is put there. -/
theorem getElem?_setReceiver {r₀ r₁ : Receiver} (hm : s.receivers[m]? = some r₀)
    (hr : s.receivers[n]? = some r) :
    (s.setReceiver m r₁).receivers[n]? = some r ∨
      r = r₀ ∧ (s.setReceiver m r₁).receivers[n]? = some r₁ := by
  rw [setReceiver_receivers]
  by_cases hmn : m = n
  · subst hmn
    rw [hr] at hm
    exact .inr ⟨Option.some.inj hm, List.getElem?_set_self (List.getElem?_eq_some_iff.mp hr).1⟩
  · exact .inl (by rw [List.getElem?_set_ne hmn]; exact hr)

/-- A receiver stays with its loader. What it has seen is what it had seen before, or all there is. -/
theorem Transition.exists_receiver (h : Transition ctx s t c s' report)
    (hr : s.receivers[n]? = some r) :
    ∃ r', s'.receivers[n]? = some r' ∧ r'.loader = r.loader ∧
      (r'.seen = r.seen ∨ ∃ l, s.loader? r.loader = some l ∧ r'.seen = l.version) := by
  have hlt : n < s.receivers.length := (List.getElem?_eq_some_iff.mp hr).1
  cases h with
  | subscribe hl =>
    rw [addReceiver_receivers, List.getElem?_append_left hlt]
    exact ⟨r, hr, rfl, .inl rfl⟩
  | clone hr' =>
    rw [addReceiver_receivers, List.getElem?_append_left hlt]
    exact ⟨r, hr, rfl, .inl rfl⟩
  | borrowAndUpdate hr' =>
    obtain ⟨hm, -, hl⟩ := receiver?_eq_some_iff.mp hr'
    obtain h | ⟨rfl, h⟩ := getElem?_setReceiver hm hr
    · exact ⟨r, h, rfl, .inl rfl⟩
    · exact ⟨_, h, rfl, .inr ⟨_, hl, rfl⟩⟩
  | changed hr' hseen =>
    obtain ⟨hm, -, hl⟩ := receiver?_eq_some_iff.mp hr'
    obtain h | ⟨rfl, h⟩ := getElem?_setReceiver hm hr
    · exact ⟨r, h, rfl, .inl rfl⟩
    · exact ⟨_, h, rfl, .inr ⟨_, hl, rfl⟩⟩
  | dropReceiver hr' =>
    obtain h | ⟨rfl, h⟩ := getElem?_setReceiver (receiver?_eq_some_iff.mp hr').1 hr
    · exact ⟨r, h, rfl, .inl rfl⟩
    · exact ⟨_, h, rfl, .inl rfl⟩
  | _ => exact ⟨r, hr, rfl, .inl rfl⟩

/-- A receiver that has seen all of a loader that is gone will not see anything else. -/
theorem exists_receiver_after (ctx : Context) (hr : s.receivers[n]? = some r) (hl : s.loader? r.loader = some l)
    (hgone : s.isClosed r.loader = true) (hseen : r.seen = l.version) (more : List Step) :
    ∃ r', (s.after ctx more).receivers[n]? = some r' ∧ r'.loader = r.loader ∧
      r'.seen = l.version := by
  induction more generalizing s r with
  | nil => exact ⟨r, hr, rfl, hseen⟩
  | cons t more ih =>
    have ht := transition_step ctx s t
    obtain ⟨r', hr', hloader, hseen'⟩ := ht.exists_receiver hr
    obtain ⟨hl', hgone'⟩ := after_of_isClosed ctx hl hgone [t]
    rw [after_cons, after_nil, ← hloader] at hl' hgone'
    -- seen before or seen just now, it is the version that the loader keeps
    have hversion : r'.seen = l.version := by
      rcases hseen' with h | ⟨l₀, hl₀, h⟩
      · rw [h, hseen]
      · rw [hl] at hl₀; cases hl₀; exact h
    rw [after_cons, ← hloader]
    exact ih hr' hl' hgone' hversion

/-- What a waiting load brings reaches a receiver at once, whether or not the program still refers to
the loader. -/
theorem receiver?_deliver {load : Load} {w : Loader.Wait} {d : Delivery} {text : String}
    (hr : s.receiver? n = some (r, l)) (hk : s.loads[k]? = some load)
    (hloader : load.loader = r.loader) (hw : load.phase = .waiting w)
    (hd : (w.give ctx d).state = .inr (.text text)) :
    (s.step ctx (.deliver k d)).1.receiver? n
      = some (r, { l with content := text, version := l.version + 1 }) := by
  obtain ⟨hrn, hlive, hl⟩ := receiver?_eq_some_iff.mp hr
  rw [step_deliver d hk (by rw [hloader]; exact hl) hw, hd]
  refine receiver?_eq_some_iff.mpr ⟨hrn, hlive, ?_⟩
  show (s.setLoader load.loader (l.accept (.text text))).loader? r.loader = _
  rw [loader?_setLoader, hl, hloader, Option.map_some, if_pos rfl]
  rfl

/-- What a receiver of a loader that is gone is told and reads, now and for ever after. -/
theorem answers_after_of_isClosed {r' : Receiver} {l' : Loader} (hl : s.loader? m = some l)
    (hgone : s.isClosed m = true) (hr' : (s.after ctx more).receiver? n = some (r', l'))
    (hloader : r'.loader = m) :
    ((s.after ctx more).step ctx (.hasChanged n)).2.answer = .closed ∧
      ((s.after ctx more).step ctx (.borrow n)).2.answer = .text l.content := by
  obtain ⟨hl', hclosed⟩ := after_of_isClosed ctx hl hgone more
  have hll : l' = l := by
    have h := (receiver?_eq_some_iff.mp hr').2.2
    rw [hloader, hl'] at h
    exact (Option.some.inj h).symm
  rw [step_hasChanged hr', step_borrow hr', hasChanged, hloader, if_pos hclosed, hll]
  exact ⟨rfl, rfl⟩

/-- Once a receiver of a loader that is gone has asked for a change, it is told that the loader is
gone. -/
theorem answer_changed_after_changed {r' : Receiver} {l' : Loader}
    (hr : s.receiver? n = some (r, l)) (hgone : s.isClosed r.loader = true)
    (hr' : (s.after ctx (.changed n :: more)).receiver? n = some (r', l')) :
    ((s.after ctx (.changed n :: more)).step ctx (.changed n)).2.answer = .closed := by
  obtain ⟨hl₁, hclosed₁⟩ := after_of_isClosed ctx (receiver?_eq_some_iff.mp hr).2.2 hgone [.changed n]
  rw [after_cons, after_nil] at hl₁ hclosed₁
  rw [after_cons] at hr' ⊢
  obtain ⟨hl₂, hclosed₂⟩ := after_of_isClosed ctx hl₁ hclosed₁ more
  obtain ⟨hrn', -, hl'⟩ := receiver?_eq_some_iff.mp hr'
  obtain ⟨r'', hrn'', hloader, hseen⟩ := exists_receiver_after ctx
    (receiver?_eq_some_iff.mp (receiver?_changed hr)).1 hl₁ hclosed₁ rfl more
  have hrr : r' = r'' := by rw [hrn''] at hrn'; exact (Option.some.inj hrn').symm
  have hll : l' = l := by
    rw [hrr, hloader, hl₂] at hl'
    exact (Option.some.inj hl').symm
  rw [answer_changed hr', hll, hrr, if_neg (by rw [hseen]; simp), hloader, if_pos hclosed₂]

/-- The references that the program and the loads in flight have to a loader. -/
def referencesTo (ctx : Context) (steps : List Step) (n : Nat) : List Reference :=
  (references ctx steps).filter (·.loader = n)

theorem isClosed_iff_referencesTo :
    (empty.after ctx steps).isClosed n = true ↔ referencesTo ctx steps n = [] := by
  rw [isClosed_iff, referencesTo, List.filter_eq_nil_iff]
  simp [mem_references_iff]

/--
**Loads in flight keep a loader alive, and the last update reaches its receivers.**

A loader is gone when nobody has a reference to it, and those who have one are the program, unless it
has dropped the loader, and each load of it that waits. `has_changed` tells first that the loader is
gone, `changed` tells first what has not been seen. Until the loader is gone each load that succeeds
publishes, dropped or not; afterwards nothing that is done changes what the receivers are told and
read, and `changed` is answered by what was unseen at most once.
-/
theorem closed_iff_referencesTo_eq_nil (ctx : Context) (steps : List Step) (n : Nat) (r : Receiver)
    (l : Loader) (hr : (empty.after ctx steps).receiver? n = some (r, l)) :
    let s := empty.after ctx steps
    let last := (empty.texts ctx steps r.loader).getLastD ""
    let gone := referencesTo ctx steps r.loader = []
    -- who has a reference
    (∀ m, ⟨m, .program⟩ ∈ references ctx steps ↔ s.held? m ≠ none) ∧
    (∀ m k, ⟨m, .load k⟩ ∈ references ctx steps ↔
      ∃ load, s.loads[k]? = some load ∧ load.loader = m ∧ load.isWaiting = true) ∧
    -- what a receiver is told and what it reads
    (∃ p, (marks ctx steps).ofReceivers[n]? = some p ∧
      let unseen := textsSince ctx steps p r.loader ≠ []
      (s.step ctx (.hasChanged n)).2.answer = (if gone then .closed else .flag unseen) ∧
      (s.step ctx (.changed n)).2.answer
        = if unseen then .ready else if gone then .closed else .pending) ∧
    (s.step ctx (.borrow n)).2.answer = .text last ∧
    -- a load in flight that succeeds
    (∀ k load w d text, s.loads[k]? = some load → load.loader = r.loader →
      load.phase = .waiting w → (w.give ctx d).state = .inr (.text text) →
      ((s.step ctx (.deliver k d)).1.step ctx (.borrow n)).2.answer = .text text ∧
      ((s.step ctx (.deliver k d)).1.step ctx (.changed n)).2.answer = .ready) ∧
    -- for ever after
    (gone → ∀ more n' r' l', (s.after ctx more).receiver? n' = some (r', l') →
      r'.loader = r.loader →
      ((s.after ctx more).step ctx (.hasChanged n')).2.answer = .closed ∧
      ((s.after ctx more).step ctx (.borrow n')).2.answer = .text last) ∧
    (gone → ∀ more r' l', (s.after ctx (.changed n :: more)).receiver? n = some (r', l') →
      ((s.after ctx (.changed n :: more)).step ctx (.changed n)).2.answer = .closed) := by
  intro s last gone
  obtain ⟨hrn, hlive, hl⟩ := receiver?_eq_some_iff.mp hr
  have hlast : l.content = last := content_eq hl
  have hgone : gone ↔ s.isClosed r.loader = true := isClosed_iff_referencesTo.symm
  refine ⟨?_, ?_, ?_, ?_, ?_, ?_, ?_⟩
  · intro m
    rw [mem_references_iff]
    simp [Holds, isHeld, Option.isSome_iff_ne_none, s]
  · intro m k
    exact mem_references_iff ctx steps ⟨m, .load k⟩
  · obtain ⟨p, hp, hunseen⟩ := exists_mark_unseen_iff hr
    refine ⟨p, hp, ?_, ?_⟩
    · rw [step_hasChanged hr, hasChanged]
      simp only [Report.only, hunseen, hgone]
      rfl
    · rw [answer_changed hr]
      simp only [hunseen, hgone]
      rfl
  · rw [step_borrow hr, hlast]
    rfl
  · intro k load w d text hk hloader hw hd
    have hr' := receiver?_deliver hr hk hloader hw hd
    obtain ⟨p, -, hversion⟩ := exists_mark_version_eq hr
    refine ⟨by rw [step_borrow hr']; rfl, ?_⟩
    rw [answer_changed hr', if_pos (by simp only; omega)]
  · intro hg more n' r' l' hr' hloader
    rw [← hlast]
    exact answers_after_of_isClosed hl (hgone.mp hg) hr' hloader
  · intro hg more r' l' hr'
    exact answer_changed_after_changed hr (hgone.mp hg) hr'

/-- A run in which a loader is dropped while two loads of it are in flight; then one is stopped and the
other one succeeds. -/
def droppedInFlight : List Step :=
  [.new "/nav.html" .scripted, .subscribe 0, .load 0 ⟨none, []⟩, .load 0 ⟨none, []⟩, .dropLoader 0,
    .abort 0, .deliver 1 (.reply (.text "<nav/>"))]

/-- In the end of `droppedInFlight` the loader is gone, and its receiver is still to be told of the
last text. -/
theorem closed_droppedInFlight :
    (empty.after .plain droppedInFlight).receiver? 0
        = some (⟨0, 0, true⟩, ⟨"/nav.html", .scripted, "<nav/>", 1⟩) ∧
      ((empty.after .plain droppedInFlight).step .plain (.hasChanged 0)).2.answer = .closed ∧
      ((empty.after .plain droppedInFlight).step .plain (.changed 0)).2.answer = .ready := by
  have hr : (empty.after .plain droppedInFlight).receiver? 0
      = some (⟨0, 0, true⟩, ⟨"/nav.html", .scripted, "<nav/>", 1⟩) := by decide
  obtain ⟨-, -, ⟨p, hp, hhas, hchanged⟩, -⟩ :=
    closed_iff_referencesTo_eq_nil .plain droppedInFlight 0 _ _ hr
  have hmark : p = 2 := by
    rw [show (marks .plain droppedInFlight).ofReceivers[0]? = some 2 by decide] at hp
    exact (Option.some.inj hp).symm
  subst hmark
  exact ⟨hr, by rw [hhas]; decide, by rw [hchanged]; decide⟩

end Session

end FragmentFeed
