import Mathlib.Data.List.Induction
import FragmentFeed.Session.Step

/-!
# Runs

A run is a list of steps. Here is what can be said of one without a look into the tables of the
session: where it leads, what each step answered, and which loads came to their end, in the order in
which they did.

* `after`: the session that a run leads to
* `transcript`: the steps with their reports
* `completions`: the loads that end on the way, other than by being stopped
* `texts`: the texts that the loads of a loader bring, one after the other

All of them go along with the concatenation of runs, so that a fact about every run can be shown by
adding a step at the end (`run_induction`).
-/

namespace FragmentFeed

/-- The text that a reply brings. -/
def Reply.text? : Reply → Option String
  | .text content => some content
  | _ => none

/-- What a load waits for. -/
def Load.wait? (k : Load) : Option Loader.Wait :=
  match k.phase with
  | .waiting w => some w
  | .finished _ _ => none

/-- How far a load comes that waits and is given something. What it does not wait for is lost. -/
def Loader.Wait.give (ctx : Context) : Wait → Delivery → Launch
  | .reply, .reply r => ⟨.inr r, []⟩
  | .response x, .response bytes =>
    ⟨ofProgress (x.receive ctx bytes).progress, (x.receive ctx bytes).trace⟩
  | w, _ => ⟨.inl w, []⟩

/-- A load that has come to its end other than by being stopped. -/
structure Completion where
  loader : Nat
  /-- The number of the load. One that runs in place has none. -/
  load : Option Nat
  /-- What the source came back with. -/
  reply : Reply
  deriving DecidableEq, Repr

/-- What the sources came back with for one loader. -/
def Completion.repliesTo (n : Nat) (cs : List Completion) : List Reply :=
  (cs.filter (·.loader = n)).map (·.reply)

/-- The loader after some replies. -/
def Loader.acceptAll (l : Loader) (rs : List Reply) : Loader := rs.foldl accept l

namespace Session

/-- The load that a step brings to its end. -/
def completion? (ctx : Context) (s : Session) : Step → Option Completion
  | .load n supply =>
    (s.held? n).bind fun l =>
      (l.launch ctx supply).state.getRight?.map fun r => ⟨n, some s.loads.length, r⟩
  | .loadInPlace n supply =>
    (s.held? n).bind fun l => (l.launch ctx supply).reply?.map fun r => ⟨n, none, r⟩
  | .deliver n d =>
    (s.load? n).bind fun k =>
      k.1.wait?.bind fun w => (w.give ctx d).state.getRight?.map fun r => ⟨k.1.loader, some n, r⟩
  | _ => none

/-! ## What is known of a run -/

/-- The session that a run leads to. -/
def after (ctx : Context) (s : Session) (steps : List Step) : Session :=
  ((s.run ctx steps).map (·.1)).getLastD s

/-- The steps of a run with what came of them. -/
def transcript (ctx : Context) (s : Session) (steps : List Step) : List (Step × Report) :=
  steps.zip ((s.run ctx steps).map (·.2))

/-- The loads that come to their end in a run, in this order. -/
def completions (ctx : Context) (s : Session) : List Step → List Completion
  | [] => []
  | t :: more => (s.completion? ctx t).toList ++ completions ctx (s.step ctx t).1 more

/-- The texts that the loads of a loader bring in a run, in the order in which they end. -/
def texts (ctx : Context) (s : Session) (steps : List Step) (n : Nat) : List String :=
  (Completion.repliesTo n (s.completions ctx steps)).filterMap Reply.text?

/-! ## Concatenation -/

variable {ctx : Context} {s : Session} {t : Step} {more steps : List Step}

@[simp] theorem after_nil : s.after ctx [] = s := rfl

@[simp] theorem after_cons : s.after ctx (t :: more) = (s.step ctx t).1.after ctx more := by
  simp only [after, run, List.map_cons, List.getLastD_cons]

theorem after_append (first : List Step) :
    s.after ctx (first ++ more) = (s.after ctx first).after ctx more := by
  induction first generalizing s with
  | nil => rfl
  | cons t first ih => rw [List.cons_append, after_cons, ih, after_cons]

@[simp] theorem transcript_nil : s.transcript ctx [] = [] := rfl

@[simp] theorem transcript_cons :
    s.transcript ctx (t :: more) = (t, (s.step ctx t).2) :: (s.step ctx t).1.transcript ctx more :=
  rfl

theorem transcript_append (first : List Step) :
    s.transcript ctx (first ++ more)
      = s.transcript ctx first ++ (s.after ctx first).transcript ctx more := by
  induction first generalizing s with
  | nil => rfl
  | cons t first ih => rw [List.cons_append, transcript_cons, ih, transcript_cons, after_cons]; rfl

theorem completions_append (first : List Step) :
    s.completions ctx (first ++ more)
      = s.completions ctx first ++ (s.after ctx first).completions ctx more := by
  induction first generalizing s with
  | nil => rfl
  | cons t first ih =>
    rw [List.cons_append, completions, ih, completions, after_cons, List.append_assoc]

theorem texts_append (first : List Step) (n : Nat) :
    s.texts ctx (first ++ more) n
      = s.texts ctx first n ++ (s.after ctx first).texts ctx more n := by
  simp only [texts, Completion.repliesTo, completions_append, List.filter_append, List.map_append,
    List.filterMap_append]

/-- A step at which no load of the loader succeeds brings no text. -/
theorem texts_eq_nil {n : Nat}
    (h : ∀ e, s.completion? ctx t = some e → e.loader = n → e.reply.text? = none) :
    s.texts ctx [t] n = [] := by
  cases hc : s.completion? ctx t with
  | none => simp [texts, completions, hc, Completion.repliesTo]
  | some e =>
    by_cases hn : e.loader = n
    · simp [texts, completions, hc, Completion.repliesTo, hn, h e hc hn]
    · simp [texts, completions, hc, Completion.repliesTo, hn]

/--
What holds of nothing and is kept by every step holds of every run.

The session before the step is the one that the run has led to, so the step may refer to what the run
has brought about.
-/
theorem run_induction {P : List Step → Session → Prop} (nil : P [] s)
    (step : ∀ steps t, P steps (s.after ctx steps) →
      P (steps ++ [t]) ((s.after ctx steps).step ctx t).1) :
    ∀ steps, P steps (s.after ctx steps) := by
  intro steps
  induction steps using List.reverseRecOn with
  | nil => exact nil
  | append_singleton steps t ih =>
    rw [after_append]
    exact step steps t ih

end Session

end FragmentFeed
