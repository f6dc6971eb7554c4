import FragmentFeed.Proofs.Session.Content

/-!
# Notifications

A receiver has something unseen exactly if its loader has brought a text since the receiver last saw
all there was. When that was, its mark, can be told from the steps and their answers alone; the
version that a receiver keeps counts the texts up to its mark (`Marked`), and the version of a loader
counts all of them.
-/

namespace FragmentFeed

/-- The marks of the receivers, and how many steps have been taken. The mark of a receiver is how many
steps had been taken when it last saw all there was. -/
structure Marks where
  time : Nat
  ofReceivers : List Nat
  deriving DecidableEq, Repr

/-- Whether a step leaves a receiver to itself: the receiver is not dropped and does not see anything
by it. To borrow and to ask for a change is not to see. -/
def Step.sparesReceiver (n : Nat) : Step → Prop
  | .borrowAndUpdate m => m ≠ n
  | .changed m => m ≠ n
  | .dropReceiver m => m ≠ n
  | _ => True

namespace Marks

/-- No steps and no receivers. -/
def start : Marks := ⟨0, []⟩

/-- The marks after one more step. A receiver sees all there is when it is made by subscription, when
it borrows and updates, and when it is told of a change; a copy has the mark of what it is copied
from. -/
def note (m : Marks) (x : Step × Report) : Marks where
  time := m.time + 1
  ofReceivers :=
    match x.1, x.2.answer with
    | .subscribe _, .receiver _ => m.ofReceivers ++ [m.time + 1]
    | .cloneReceiver n, .receiver _ => m.ofReceivers ++ (m.ofReceivers[n]?).toList
    | .borrowAndUpdate n, .text _ => m.ofReceivers.set n (m.time + 1)
    | .changed n, .ready => m.ofReceivers.set n (m.time + 1)
    | _, _ => m.ofReceivers

/-- A step that has changed nothing moves no mark. -/
theorem note_of_rests {m : Marks} {t : Step} {a : Answer} (h : t.rests a) :
    (m.note (t, .only a)).ofReceivers = m.ofReceivers := by
  unfold note
  cases t <;> cases a <;> first | rfl | exact h.elim

end Marks

namespace Session

variable {ctx : Context} {s s' : Session} {t : Step} {c : Option Completion} {report : Report}
variable {steps : List Step} {n m : Nat} {r : Receiver} {l : Loader}

/-- The marks after some steps from the start. -/
def marks (ctx : Context) (steps : List Step) : Marks :=
  (empty.transcript ctx steps).foldl .note .start

theorem marks_snoc (steps : List Step) (t : Step) :
    marks ctx (steps ++ [t])
      = (marks ctx steps).note (t, ((empty.after ctx steps).step ctx t).2) := by
  simp [marks, transcript_append]

theorem marks_time (steps : List Step) : (marks ctx steps).time = steps.length := by
  induction steps using List.reverseRecOn with
  | nil => rfl
  | append_singleton steps t ih => rw [marks_snoc, List.length_append, ← ih]; rfl

/-- The texts that a loader has brought since the first `p` steps of a run. -/
def textsSince (ctx : Context) (steps : List Step) (p : Nat) (n : Nat) : List String :=
  (empty.after ctx (steps.take p)).texts ctx (steps.drop p) n

theorem texts_eq_append_textsSince (steps : List Step) (p : Nat) :
    empty.texts ctx steps n
      = empty.texts ctx (steps.take p) n ++ textsSince ctx steps p n := by
  rw [textsSince, ← texts_append, List.take_append_drop]

/-! ## The version that a receiver keeps -/

/-- A receiver keeps the version that its loader had at a mark. -/
def KeepsVersionAt (ctx : Context) (steps : List Step) (r : Receiver) (p : Nat) : Prop :=
  p ≤ steps.length ∧ r.seen = (empty.texts ctx (steps.take p) r.loader).length

theorem KeepsVersionAt.snoc {p : Nat} (h : KeepsVersionAt ctx steps r p) (t : Step) :
    KeepsVersionAt ctx (steps ++ [t]) r p := by
  obtain ⟨hp, hseen⟩ := h
  refine ⟨by simp; omega, ?_⟩
  rw [hseen, List.take_append_of_le_length hp]

/-- A receiver that sees all there is gets the step as its mark. -/
theorem keepsVersionAt_now (hl : (empty.after ctx steps).loader? r.loader = some l)
    (ht : (empty.after ctx steps).completion? ctx t = none) (hr : r.seen = l.version) :
    KeepsVersionAt ctx (steps ++ [t]) r ((marks ctx steps).time + 1) := by
  have hall : (marks ctx steps).time + 1 = (steps ++ [t]).length := by rw [marks_time]; simp
  refine ⟨Nat.le_of_eq hall, ?_⟩
  rw [hr, version_eq hl, hall, List.take_length, texts_append, texts_eq_nil (by simp [ht]),
    List.append_nil]

/-- **The marks fit the receivers.** Each receiver has a mark, and keeps the version that its loader had
then. -/
structure Marked (ctx : Context) (steps : List Step) (ms : List Nat) (rs : List Receiver) : Prop where
  length : ms.length = rs.length
  keeps : ∀ (i : Nat) (r : Receiver) (p : Nat), rs[i]? = some r → ms[i]? = some p →
    KeepsVersionAt ctx steps r p

section marked

variable {ms : List Nat} {rs : List Receiver} {p : Nat}

theorem Marked.snoc (h : Marked ctx steps ms rs) (t : Step) : Marked ctx (steps ++ [t]) ms rs :=
  ⟨h.length, fun i r p hr hp => (h.keeps i r p hr hp).snoc t⟩

theorem Marked.append (h : Marked ctx steps ms rs) (hk : KeepsVersionAt ctx steps r p) :
    Marked ctx steps (ms ++ [p]) (rs ++ [r]) := by
  refine ⟨by simp [h.length], ?_⟩
  intro i r' p' hr' hp'
  rcases Nat.lt_or_ge i rs.length with hi | hi
  · rw [List.getElem?_append_left hi] at hr'
    rw [List.getElem?_append_left (by rw [h.length]; exact hi)] at hp'
    exact h.keeps i r' p' hr' hp'
  · rw [List.getElem?_append_right hi, List.getElem?_singleton] at hr'
    rw [List.getElem?_append_right (by rw [h.length]; exact hi), List.getElem?_singleton] at hp'
    split at hr'
    · rw [h.length] at hp'
      rw [if_pos ‹_›] at hp'
      cases hr'
      cases hp'
      exact hk
    · cases hr'

theorem Marked.set (h : Marked ctx steps ms rs) (hk : KeepsVersionAt ctx steps r p) :
    Marked ctx steps (ms.set n p) (rs.set n r) := by
  refine ⟨by simp [h.length], ?_⟩
  intro i r' p' hr' hp'
  by_cases hi : n = i
  · rw [List.getElem?_set, if_pos hi] at hr' hp'
    split at hr'
    · rw [h.length, if_pos ‹_›] at hp'
      cases hr'
      cases hp'
      exact hk
    · cases hr'
  · rw [List.getElem?_set_ne hi] at hr' hp'
    exact h.keeps i r' p' hr' hp'

theorem Marked.exists_mark (h : Marked ctx steps ms rs) (hr : rs[n]? = some r) :
    ∃ p, ms[n]? = some p ∧ KeepsVersionAt ctx steps r p := by
  have hn : n < ms.length := by rw [h.length]; exact (List.getElem?_eq_some_iff.mp hr).1
  exact ⟨ms[n], List.getElem?_eq_getElem hn, h.keeps n r _ hr (List.getElem?_eq_getElem hn)⟩

end marked

theorem Transition.marked (ht : Transition ctx (empty.after ctx steps) t c s' report)
    (hc : (empty.after ctx steps).completion? ctx t = c)
    (h : Marked ctx steps (marks ctx steps).ofReceivers (empty.after ctx steps).receivers) :
    Marked ctx (steps ++ [t]) ((marks ctx steps).note (t, report)).ofReceivers s'.receivers := by
  have hkeep := h.snoc t
  cases ht with
  | rest hr => rw [Marks.note_of_rests hr]; exact hkeep
  | subscribe hl => exact hkeep.append (keepsVersionAt_now (loader?_of_held? hl) hc rfl)
  | borrowAndUpdate hr => exact hkeep.set (keepsVersionAt_now (receiver?_eq_some_iff.mp hr).2.2 hc rfl)
  | changed hr hseen => exact hkeep.set (keepsVersionAt_now (receiver?_eq_some_iff.mp hr).2.2 hc rfl)
  | @clone m r l hr =>
    obtain ⟨p, hp, hk⟩ := hkeep.exists_mark (receiver?_eq_some_iff.mp hr).1
    have hcopy := hkeep.append hk
    rw [show [p] = ((marks ctx steps).ofReceivers[m]?).toList by rw [hp]; rfl] at hcopy
    exact hcopy
  | @dropReceiver m r l hr =>
    -- the mark stays, which is to put it in its own place
    obtain ⟨p, hp, hk⟩ := hkeep.exists_mark (receiver?_eq_some_iff.mp hr).1
    have hdead : KeepsVersionAt ctx _ { r with live := false } p := hk
    have hset := hkeep.set (n := m) hdead
    obtain ⟨hm, rfl⟩ := List.getElem?_eq_some_iff.mp hp
    rw [List.set_getElem_self] at hset
    exact hset
  | _ => exact hkeep

theorem marked (ctx : Context) (steps : List Step) :
    Marked ctx steps (marks ctx steps).ofReceivers (empty.after ctx steps).receivers := by
  refine run_induction
    (P := fun steps s => Marked ctx steps (marks ctx steps).ofReceivers s.receivers) ?_ ?_ steps
  · refine ⟨rfl, ?_⟩
    intro i r p hr
    simp [empty] at hr
  · intro steps t h
    rw [marks_snoc]
    exact (transition_step ctx _ t).marked rfl h

/-- **What a receiver has not seen is what was brought since its mark.** -/
theorem exists_mark_version_eq (hr : (empty.after ctx steps).receiver? n = some (r, l)) :
    ∃ p, (marks ctx steps).ofReceivers[n]? = some p ∧
      l.version = r.seen + (textsSince ctx steps p r.loader).length := by
  obtain ⟨hrn, -, hl⟩ := receiver?_eq_some_iff.mp hr
  obtain ⟨p, hp, -, hseen⟩ := (marked ctx steps).exists_mark hrn
  refine ⟨p, hp, ?_⟩
  rw [hseen, version_eq hl, texts_eq_append_textsSince steps p, List.length_append]

theorem exists_mark_unseen_iff (hr : (empty.after ctx steps).receiver? n = some (r, l)) :
    ∃ p, (marks ctx steps).ofReceivers[n]? = some p ∧
      (r.seen ≠ l.version ↔ textsSince ctx steps p r.loader ≠ []) := by
  obtain ⟨p, hp, hversion⟩ := exists_mark_version_eq hr
  refine ⟨p, hp, ?_⟩
  rw [hversion, ← List.length_pos_iff]
  omega

/-! ## What the steps of a receiver answer -/

section answers

variable (hr : s.receiver? n = some (r, l))
include hr

theorem step_hasChanged : s.step ctx (.hasChanged n) = (s, .only (s.hasChanged r l)) := by
  rw [step, withReceiver, hr]

theorem step_changed : s.step ctx (.changed n) = s.changed n r l := by
  rw [step, withReceiver, hr]

theorem answer_changed :
    (s.step ctx (.changed n)).2.answer
      = if r.seen ≠ l.version then .ready
        else if s.isClosed r.loader then .closed else .pending := by
  rw [step_changed hr, Session.changed]
  split
  · rfl
  · split <;> rfl

theorem step_borrow : s.step ctx (.borrow n) = (s, .only (.text l.content)) := by
  rw [step, withReceiver, hr]

theorem step_borrowAndUpdate :
    s.step ctx (.borrowAndUpdate n) = (s.see n r l, .only (.text l.content)) := by
  rw [step, withReceiver, hr]

/-- A receiver that has seen all there is follows its loader as before. -/
theorem receiver?_see : (s.see n r l).receiver? n = some ({ r with seen := l.version }, l) := by
  obtain ⟨hrn, hlive, hl⟩ := receiver?_eq_some_iff.mp hr
  refine receiver?_eq_some_iff.mpr ⟨?_, hlive, hl⟩
  rw [see, setReceiver_receivers, List.getElem?_set_self (List.getElem?_eq_some_iff.mp hrn).1]

/-- After `changed` a receiver has seen all there is, whatever the answer was. -/
theorem receiver?_changed :
    (s.step ctx (.changed n)).1.receiver? n = some ({ r with seen := l.version }, l) := by
  rw [step_changed hr, changed]
  split
  · exact receiver?_see hr
  · next hseen =>
    have hsame : ({ r with seen := l.version } : Receiver) = r := by
      rw [← not_ne_iff.mp hseen]
    rw [hsame]
    split <;> exact hr

theorem isClosed_step_changed : (s.step ctx (.changed n)).1.isClosed m = s.isClosed m := by
  rw [step_changed hr, changed]
  split
  · rfl
  · split <;> rfl

/-- Once a receiver has been told of a change there is nothing more to tell. -/
theorem answer_changed_twice :
    ((s.step ctx (.changed n)).1.step ctx (.changed n)).2.answer
      = if s.isClosed r.loader then .closed else .pending := by
  rw [answer_changed (receiver?_changed hr), isClosed_step_changed hr, if_neg]
  exact not_not_intro rfl

end answers

/-! ## Steps that concern others -/

theorem Transition.receivers_getElem?_of_spares (h : Transition ctx s t c s' report)
    (ht : t.sparesReceiver n) (hr : s.receivers[n]? = some r) : s'.receivers[n]? = some r := by
  have hlt : n < s.receivers.length := (List.getElem?_eq_some_iff.mp hr).1
  cases h with
  | subscribe hl => rw [addReceiver_receivers, List.getElem?_append_left hlt]; exact hr
  | clone hr' => rw [addReceiver_receivers, List.getElem?_append_left hlt]; exact hr
  | borrowAndUpdate hr' => rw [see, setReceiver_receivers, List.getElem?_set_ne ht]; exact hr
  | changed hr' hseen => rw [see, setReceiver_receivers, List.getElem?_set_ne ht]; exact hr
  | dropReceiver hr' => rw [setReceiver_receivers, List.getElem?_set_ne ht]; exact hr
  | _ => exact hr

/-- A step that spares a receiver, and at which its loader brings nothing, leaves to the receiver
what it has not seen. -/
theorem receiver?_step_of_spares (hr : (empty.after ctx steps).receiver? n = some (r, l))
    (ht : t.sparesReceiver n) (hquiet : (empty.after ctx steps).texts ctx [t] r.loader = []) :
    ∃ l', (empty.after ctx (steps ++ [t])).receiver? n = some (r, l') ∧ l'.version = l.version := by
  obtain ⟨hrn, hlive, hl⟩ := receiver?_eq_some_iff.mp hr
  have hstep := transition_step ctx (empty.after ctx steps) t
  obtain ⟨l', hl'⟩ : ∃ l', (empty.after ctx (steps ++ [t])).loader? r.loader = some l' := by
    rw [after_append, after_cons, after_nil, hstep.loader?_eq (lt_length_of_loader? hl), hl]
    exact ⟨_, rfl⟩
  refine ⟨l', receiver?_eq_some_iff.mpr ⟨?_, hlive, hl'⟩, ?_⟩
  · rw [after_append]
    exact hstep.receivers_getElem?_of_spares ht hrn
  · rw [version_eq hl', version_eq hl, texts_append, hquiet, List.append_nil]

/-! ## No notification is lost and none is made up -/

/--
**A receiver is notified exactly of what it has not seen.**

While the loader is alive, a receiver reports a change if and only if a load of the loader has
succeeded since the receiver's mark; the text need not be another one. However many there were, it is
told once. Steps that spare the receiver and bring nothing from the loader do not change this, and what
it reads is always what was brought last.
-/
theorem notified_iff_text_since_mark (ctx : Context) (steps : List Step) (n : Nat) (r : Receiver)
    (l : Loader) (hr : (empty.after ctx steps).receiver? n = some (r, l))
    (halive : (empty.after ctx steps).isClosed r.loader = false) :
    let s := empty.after ctx steps
    -- what it is told, now and when it asks again
    (∃ p, (marks ctx steps).ofReceivers[n]? = some p ∧
      (s.step ctx (.hasChanged n)).2.answer
        = .flag (textsSince ctx steps p r.loader ≠ []) ∧
      (s.step ctx (.changed n)).2.answer
        = if textsSince ctx steps p r.loader ≠ [] then .ready else .pending) ∧
    ((s.step ctx (.changed n)).1.step ctx (.changed n)).2.answer = .pending ∧
    -- what others do
    (∀ t, t.sparesReceiver n → s.texts ctx [t] r.loader = [] →
      (s.step ctx t).1.isClosed r.loader = false →
      ((s.step ctx t).1.step ctx (.hasChanged n)).2.answer = (s.step ctx (.hasChanged n)).2.answer ∧
      ((s.step ctx t).1.step ctx (.changed n)).2.answer = (s.step ctx (.changed n)).2.answer) ∧
    -- what it reads
    (s.step ctx (.borrow n)).2.answer
      = .text ((empty.texts ctx steps r.loader).getLastD "") ∧
    (s.step ctx (.borrowAndUpdate n)).2.answer
      = .text ((empty.texts ctx steps r.loader).getLastD "") := by
  intro s
  have hcontent : l.content = (empty.texts ctx steps r.loader).getLastD "" :=
    content_eq (receiver?_eq_some_iff.mp hr).2.2
  refine ⟨?_, ?_, ?_, ?_, ?_⟩
  · obtain ⟨p, hp, hiff⟩ := exists_mark_unseen_iff hr
    refine ⟨p, hp, ?_, ?_⟩
    · rw [step_hasChanged hr, hasChanged, halive]
      simp [Report.only, hiff]
    · rw [answer_changed hr, halive]
      simp [hiff]
  · rw [answer_changed_twice hr, halive]
    rfl
  · intro t ht hquiet halive'
    obtain ⟨l', hr', hversion⟩ := receiver?_step_of_spares hr ht hquiet
    rw [after_append, after_cons, after_nil] at hr'
    constructor
    · rw [step_hasChanged hr', step_hasChanged hr, hasChanged, hasChanged, halive, halive', hversion]
    · rw [answer_changed hr', answer_changed hr, halive, halive', hversion]
  · rw [step_borrow hr, hcontent]
    rfl
  · rw [step_borrowAndUpdate hr, hcontent]
    rfl

/-- A run in which a copy is made of a receiver that has not seen the last text, which is the same as
the one before. -/
def copyOfStale : List Step :=
  [.new "/footer.html" .scripted, .subscribe 0, .loadInPlace 0 ⟨some (.text "<footer/>"), []⟩,
    .borrowAndUpdate 0, .loadInPlace 0 ⟨some (.text "<footer/>"), []⟩, .cloneReceiver 0, .changed 0]

/-- In `copyOfStale` the copy is still to be told of the last text. -/
theorem notified_copyOfStale :
    (empty.after .plain copyOfStale).receiver? 1
        = some (⟨0, 1, true⟩, ⟨"/footer.html", .scripted, "<footer/>", 2⟩) ∧
      (empty.after .plain copyOfStale).isClosed 0 = false ∧
      ((empty.after .plain copyOfStale).step .plain (.changed 1)).2.answer = .ready := by
  have hr : (empty.after .plain copyOfStale).receiver? 1
      = some (⟨0, 1, true⟩, ⟨"/footer.html", .scripted, "<footer/>", 2⟩) := by decide
  have halive : (empty.after .plain copyOfStale).isClosed 0 = false := by decide
  obtain ⟨⟨p, hp, -, hchanged⟩, -⟩ := notified_iff_text_since_mark .plain copyOfStale 1 _ _ hr halive
  have hmark : p = 4 := by
    rw [show (marks .plain copyOfStale).ofReceivers[1]? = some 4 by decide] at hp
    exact (Option.some.inj hp).symm
  subst hmark
  exact ⟨hr, halive, by rw [hchanged]; decide⟩

end Session

end FragmentFeed
