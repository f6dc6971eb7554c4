import FragmentFeed.Proofs.Loader.Accept
import FragmentFeed.Proofs.Session.Waiting

/-!
# Content

A loader is what the replies of its loads have made of it, in the order in which the loads have come
to their end (`Transition.loader?_eq`, `Accounted`). So its content is the last text that a load of it has
brought, whenever that load was begun.
-/

namespace FragmentFeed.Session

variable {ctx : Context} {s s' : Session} {t : Step} {c : Option Completion} {report : Report}
variable {n : Nat} {l : Loader}

/-! ## One step -/

/-- A load that ends is one of a loader that there is. -/
theorem Transition.loader_lt {e : Completion} (h : Transition ctx s t (some e) s' report) :
    e.loader < s.slots.length := by
  cases h with
  | endAtOnce hl hr => exact lt_length_of_loader? (loader?_of_held? hl)
  | endInPlace hl hr => exact lt_length_of_loader? (loader?_of_held? hl)
  | finish hk hp hr => exact lt_length_of_loader? (load?_eq_some_iff.mp hk).2

/-- A loader that accepts a reply where the reply is for it. -/
theorem loader?_setLoader_accept {m : Nat} {load : Option Nat} {r : Reply}
    (hl : s.loader? m = some l) :
    (s.setLoader m (l.accept r)).loader? n
      = (s.loader? n).map fun l' => l'.acceptAll (Completion.repliesTo n [⟨m, load, r⟩]) := by
  rw [loader?_setLoader]
  by_cases hm : n = m
  · subst hm; simp [hl, Completion.repliesTo]
  · simp [hm, Ne.symm hm, Completion.repliesTo]

/-- **A step leads a loader from reply to reply.** It accepts the reply of the load that ends, if that
is a load of it, and is left alone otherwise. -/
theorem Transition.loader?_eq (h : Transition ctx s t c s' report) (hn : n < s.slots.length) :
    s'.loader? n
      = (s.loader? n).map fun l => l.acceptAll (Completion.repliesTo n c.toList) := by
  have hnil : s.loader? n = (s.loader? n).map fun l => l.acceptAll (Completion.repliesTo n []) := by
    simp [Completion.repliesTo]
  cases h with
  | new ho => rw [loader?_addLoader, if_neg (Nat.ne_of_lt hn)]; exact hnil
  | release hl => rw [loader?_release]; exact hnil
  | endAtOnce hl hr =>
    exact loader?_setLoader_accept (loader?_of_held? hl)
  | endInPlace hl hr => exact loader?_setLoader_accept (loader?_of_held? hl)
  | finish hk hp hr => exact loader?_setLoader_accept (load?_eq_some_iff.mp hk).2
  | _ => exact hnil

/-- A loader that was not there has been made by the step, and is as new. -/
theorem Transition.exists_new (h : Transition ctx s t c s' report) (hn : s.slots.length ≤ n)
    (hl : s'.loader? n = some l) :
    ∃ making o, t = .new l.url making ∧ new.origin making = .ok o ∧ l = Loader.new l.url o := by
  have hlt : n < s'.slots.length := lt_length_of_loader? hl
  cases h with
  | new ho =>
    rw [addLoader_slots_length] at hlt
    rw [loader?_addLoader, if_pos (by omega)] at hl
    cases hl
    exact ⟨_, _, rfl, ho, rfl⟩
  | _ => exact absurd hlt (by simpa [see] using hn)

/-! ## A run -/

/-- A loader keeps its URL. -/
theorem exists_loader?_after (ctx : Context) (hl : s.loader? n = some l) (steps : List Step) :
    ∃ l', (s.after ctx steps).loader? n = some l' ∧ l'.url = l.url := by
  induction steps generalizing s l with
  | nil => exact ⟨l, hl, rfl⟩
  | cons t steps ih =>
    have hstep := (transition_step ctx s t).loader?_eq (lt_length_of_loader? hl)
    rw [hl, Option.map_some] at hstep
    obtain ⟨l', hl', hurl⟩ := ih hstep
    exact ⟨l', by rw [after_cons]; exact hl', by rw [hurl, Loader.acceptAll_url]⟩

/-- What the sources have come back with for a loader, after some steps from the start. -/
def replies (ctx : Context) (steps : List Step) (n : Nat) : List Reply :=
  Completion.repliesTo n (empty.completions ctx steps)

theorem replies_snoc (steps : List Step) (t : Step) :
    replies ctx (steps ++ [t]) n = replies ctx steps n
      ++ Completion.repliesTo n ((empty.after ctx steps).completion? ctx t).toList := by
  simp [replies, Completion.repliesTo, completions_append, completions]

/-- **Every loader is accounted for by the run.** It is one that a step has made, with the replies of
its loads. No load of a loader has ended that has not been made. -/
structure Accounted (ctx : Context) (steps : List Step) (s : Session) : Prop where
  made : ∀ n l, s.loader? n = some l → ∃ making o, Step.new l.url making ∈ steps ∧
    new.origin making = .ok o ∧ l = (Loader.new l.url o).acceptAll (replies ctx steps n)
  early : ∀ c ∈ empty.completions ctx steps, c.loader < s.slots.length

theorem Accounted.replies_eq_nil {steps : List Step} (h : Accounted ctx steps s)
    (hn : s.slots.length ≤ n) : replies ctx steps n = [] := by
  have hnone : (empty.completions ctx steps).filter (·.loader = n) = [] := by
    refine List.filter_eq_nil_iff.mpr fun c hc => ?_
    have := h.early c hc
    simp; omega
  rw [replies, Completion.repliesTo, hnone, List.map_nil]

theorem Accounted.step {steps : List Step} (h : Accounted ctx steps (empty.after ctx steps))
    (t : Step) :
    Accounted ctx (steps ++ [t]) ((empty.after ctx steps).step ctx t).1 := by
  have ht := transition_step ctx (empty.after ctx steps) t
  refine ⟨?_, ?_⟩
  · intro n l' hl'
    -- a loader that was there has its replies extended, a new one has none
    by_cases hn : n < (empty.after ctx steps).slots.length
    · rw [ht.loader?_eq hn, Option.map_eq_some_iff] at hl'
      obtain ⟨l, hl, rfl⟩ := hl'
      obtain ⟨making, o, hnew, ho, heq⟩ := h.made n l hl
      refine ⟨making, o, ?_, ho, ?_⟩
      · rw [Loader.acceptAll_url]; exact List.mem_append_left _ hnew
      · rw [Loader.acceptAll_url, replies_snoc, Loader.acceptAll_append, ← heq]
    · have hn' := Nat.le_of_not_lt hn
      obtain ⟨making, o, rfl, ho, heq⟩ := ht.exists_new hn' hl'
      refine ⟨making, o, by simp, ho, ?_⟩
      rw [replies_snoc, h.replies_eq_nil hn']
      exact heq
  · intro e he
    rw [completions_append, List.mem_append] at he
    rcases he with he | he
    · exact Nat.lt_of_lt_of_le (h.early e he) ht.slots_length_le
    · simp only [completions, List.append_nil, Option.mem_toList] at he
      rw [he] at ht
      exact Nat.lt_of_lt_of_le ht.loader_lt ht.slots_length_le

theorem accounted (ctx : Context) (steps : List Step) :
    Accounted ctx steps (empty.after ctx steps) := by
  refine run_induction (P := Accounted ctx) ⟨?_, ?_⟩ ?_ steps
  · intro n l hl
    simp [loader?, empty] at hl
  · intro c hc
    simp [completions] at hc
  · intro steps t h
    exact h.step t

/-- The version of a loader is the number of texts that its loads have brought. -/
theorem version_eq {steps : List Step} (hl : (empty.after ctx steps).loader? n = some l) :
    l.version = (empty.texts ctx steps n).length := by
  obtain ⟨making, o, -, -, heq⟩ := (accounted ctx steps).made n l hl
  rw [heq, Loader.acceptAll_version]
  simp [Loader.new, texts, replies]

/-- The content of a loader is the last text that a load of it has brought, and empty if none has. -/
theorem content_eq {steps : List Step} (hl : (empty.after ctx steps).loader? n = some l) :
    l.content = (empty.texts ctx steps n).getLastD "" := by
  obtain ⟨making, o, -, -, heq⟩ := (accounted ctx steps).made n l hl
  rw [heq, Loader.acceptAll_content]
  rfl

/-! ## The last completion wins -/

/-- A run in which the load that was begun first is answered last. -/
def overtaking : List Step :=
  [.new "/feed.html" .scripted, .load 0 ⟨none, []⟩, .load 0 ⟨none, []⟩,
    .deliver 1 (.reply (.text "second")), .deliver 0 (.reply (.text "first"))]

/--
**The content is the text of the load that came to its end last.**

It is the last text of the run, and empty as long as there is none, whether or not the program still
refers to the loader. So a step at which no load of the loader succeeds leaves it as it is, whatever
else the step does; and a load that waits, however many loads have been begun and answered since
(`more`), still overwrites it when it succeeds.
-/
theorem content_eq_last_text (ctx : Context) (steps : List Step) (n : Nat) (l : Loader)
    (hl : (empty.after ctx steps).loader? n = some l) :
    l.content = (empty.texts ctx steps n).getLastD "" ∧
    (∀ t l', (empty.after ctx (steps ++ [t])).loader? n = some l' →
      (∀ e, (empty.after ctx steps).completion? ctx t = some e → e.loader = n →
        e.reply.text? = none) →
      l'.content = l.content) ∧
    (∀ k load w more d text l', (empty.after ctx steps).loads[k]? = some load → load.loader = n →
      load.phase = .waiting w → (∀ t ∈ more, t.spares k) →
      (w.give ctx d).state = .inr (.text text) →
      (empty.after ctx (steps ++ more ++ [.deliver k d])).loader? n = some l' →
      l'.content = text) := by
  refine ⟨content_eq hl, ?_, ?_⟩
  · intro t l' hl' hquiet
    rw [content_eq hl', content_eq hl, texts_append, texts_eq_nil hquiet, List.append_nil]
  · intro k load w more d text l' hk hn hw hmore hd hl'
    have hk' : (empty.after ctx (steps ++ more)).loads[k]? = some load := by
      rw [after_append]; exact getElem?_after_of_spares hmore hk hw
    have hlt : load.loader < (empty.after ctx (steps ++ more)).slots.length := by
      rw [after_append, hn]
      exact Nat.lt_of_lt_of_le (lt_length_of_loader? hl) (slots_length_le_after more)
    have htext : (empty.after ctx (steps ++ more)).texts ctx [.deliver k d] n = [text] := by
      simp [texts, completions, completion?_deliver hk' hlt hw hd, Completion.repliesTo, hn,
        Reply.text?]
    rw [content_eq hl', texts_append, htext, List.getLastD_concat]

/-- The content in `overtaking` is the text of the load that was begun first. -/
theorem content_overtaking :
    (empty.after .plain overtaking).loader? 0 = some ⟨"/feed.html", .scripted, "first", 2⟩ ∧
      "first" = (empty.texts .plain overtaking 0).getLastD "" :=
  ⟨rfl, (content_eq_last_text .plain overtaking 0 ⟨"/feed.html", .scripted, "first", 2⟩ rfl).1⟩

end FragmentFeed.Session
