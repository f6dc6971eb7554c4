import FragmentFeed.Proofs.Fetch.Course
import FragmentFeed.Proofs.Session.Run

/-!
# What the log tells of a load

A load that begins is told of first, and only then is the source called. A source tells of the status of
the final response at most, and of nothing as long as it waits; it calls no other source. The load itself
has the last word, by the reply that it ends with.
-/

namespace FragmentFeed

open Log

/-- How an event stands in the log: its level, its target and its wording. -/
abbrev Line := Level × String × String

/-- The line of an event. -/
def Log.Event.line (e : Event) : Line := (e.level, e.target, e.message)

/-! ## What a source tells -/

/-- What a source can tell of a fetch of a URL: nothing, or the status of the final response. -/
def IsSourceTale (url : String) (events : List Event) : Prop :=
  events = [] ∨ ∃ status, events = [.fetched status url]

/-- A fetch of a URL has told nothing as long as it waits, and what a source can tell when it has come
to its end; and it has not called a source. -/
def Stage.Tells (url : String) (st : Stage) : Prop :=
  st.trace.calls = [] ∧
    match st.progress with
    | .waiting x => x.given = url ∧ st.trace.events = []
    | .finished _ => IsSourceTale url st.trace.events

namespace Stage

variable {ctx : Context} {url : String} {st : Stage} {x : Exchange}

theorem tells_fail (url : String) (e : FetchError) : (fail e).Tells url := ⟨rfl, .inl rfl⟩

theorem Tells.of_waiting (h : st.Tells url) (hp : st.progress = .waiting x) :
    x.given = url ∧ st.trace.events = [] := by
  rw [Tells, hp] at h
  exact h.2

theorem Tells.isSourceTale (h : st.Tells url) : IsSourceTale url st.trace.events := by
  rw [Tells] at h
  obtain ⟨-, h⟩ := h
  split at h
  · exact .inl h.2
  · exact h

theorem tells_send (h : x.given = url) : (x.send ctx).Tells url := by
  by_cases hreaches : ctx.reaches x.request.url = true
  · rw [Exchange.send_of_reaches hreaches]
    exact ⟨rfl, h, rfl⟩
  · rw [Exchange.send_of_not_reaches hreaches]
    exact tells_fail url _

theorem tells_receive (ctx : Context) (bytes : List UInt8) (h : x.given = url) :
    (x.receive ctx bytes).Tells url := by
  cases hr : Http.Response.parse? bytes with
  | none =>
    rw [Exchange.receive_of_malformed hr]
    exact tells_fail url _
  | some r =>
    cases hnext : Exchange.redirect? x.request.url r with
    | none =>
      rw [Exchange.receive_of_final hr hnext, ← h]
      exact ⟨rfl, .inr ⟨r.status, rfl⟩⟩
    | some next =>
      rw [Exchange.receive_of_redirect hr hnext]
      rcases Exchange.follow_cases ctx x next with ⟨hlimit, hreaches⟩ | ⟨cause, hstop⟩
      · rw [Exchange.follow_of_reaches hlimit hreaches]
        exact ⟨rfl, h, rfl⟩
      · rw [hstop]
        exact tells_fail url _

/-- **To go on with responses is to tell nothing more than a source can.** -/
theorem Tells.receiveAll (ctx : Context) (h : st.Tells url) (rs : List (List UInt8)) :
    (st.receiveAll ctx rs).1.Tells url := by
  induction rs generalizing st with
  | nil => exact h
  | cons bytes rs ih =>
    cases hp : st.progress with
    | finished result =>
      rw [receiveAll_of_finished hp]
      exact h
    | waiting x =>
      obtain ⟨hgiven, hnothing⟩ := h.of_waiting hp
      rw [receiveAll_cons_of_waiting hp]
      refine ih ?_
      -- nothing has been told before, so what is told of the response is all
      have htold := tells_receive ctx bytes hgiven
      rw [Tells] at htold ⊢
      rw [Trace.calls_append, Trace.events_append, hnothing, h.1, List.nil_append, List.nil_append]
      exact htold

theorem tells_start (ctx : Context) (source : Source) (url : String) :
    (source.start ctx url).Tells url := by
  unfold Source.start
  split
  · exact tells_fail url _
  · dsimp only
    split
    · exact tells_send rfl
    · exact tells_fail url _

end Stage

namespace Loader

variable {ctx : Context} {l : Loader} {supply : Supply} {w : Wait} {trace : Trace}

/-! ## Its beginning and its end -/

@[simp] theorem events_opening (l : Loader) : l.opening.events = [.pending l.url] := rfl

@[simp] theorem calls_opening (l : Loader) : l.opening.calls = [l.url] := rfl

@[simp] theorem requests_opening (l : Loader) : l.opening.requests = [] := rfl

@[simp] theorem events_closing (l : Loader) (r : Reply) : (l.closing r).events = l.eventsOf r :=
  Trace.events_map_event _

@[simp] theorem calls_closing (l : Loader) (r : Reply) : (l.closing r).calls = [] :=
  Trace.calls_map_event _

@[simp] theorem requests_closing (l : Loader) (r : Reply) : (l.closing r).requests = [] :=
  Trace.requests_map_event _

/-! ## What a load tells as it goes -/

/-- How far a load has come, with what has been seen of it behind its beginning, after its source has
been called once, for the URL of the loader. A scripted source is not seen to do anything; what is seen
of a web source is what is seen of the fetch, with the responses that there were. -/
def Asked (ctx : Context) (l : Loader) (state : Wait ⊕ Reply) (trace : Trace) : Prop :=
  match l.origin with
  | .scripted => trace = [] ∧ (state = .inl .reply ∨ ∃ r, state = .inr r)
  | .web source => ∃ responses,
    state = ofProgress ((source.start ctx l.url).receiveAll ctx responses).1.progress ∧
      trace = ((source.start ctx l.url).receiveAll ctx responses).1.trace

/-- Only the URL and the origin of the loader play a part. -/
theorem Asked.congr {l' : Loader} {state : Wait ⊕ Reply} (hurl : l'.url = l.url)
    (horigin : l'.origin = l.origin) (h : l.Asked ctx state trace) : l'.Asked ctx state trace := by
  unfold Asked at h ⊢
  rw [horigin, hurl]
  exact h

/-- **A load that begins is told of before anything else, and directly after that its source is called.** -/
theorem launch_asked (ctx : Context) (l : Loader) (supply : Supply) :
    ∃ trace, (l.launch ctx supply).trace = l.opening ++ trace ∧
      l.Asked ctx (l.launch ctx supply).state trace := by
  unfold launch Asked
  cases ho : l.origin with
  | scripted =>
    refine ⟨[], (List.append_nil _).symm, rfl, ?_⟩
    cases supply.reply with
    | none => exact .inl rfl
    | some r => exact .inr ⟨r, rfl⟩
  | web source => exact ⟨_, rfl, supply.responses, rfl, rfl⟩

/-- What is given to a load that waits is given to what its source is doing, which is not asked
again. -/
theorem Asked.give (h : l.Asked ctx (.inl w) trace) (d : Delivery) :
    l.Asked ctx (w.give ctx d).state (trace ++ (w.give ctx d).trace) := by
  unfold Asked at h ⊢
  cases ho : l.origin with
  | scripted =>
    rw [ho] at h
    obtain ⟨rfl, hw | ⟨r, hr⟩⟩ := h
    · cases hw
      cases d with
      | reply r => exact ⟨rfl, .inr ⟨r, rfl⟩⟩
      | response bytes => exact ⟨rfl, .inl rfl⟩
    · cases hr
  | web source =>
    rw [ho] at h
    obtain ⟨responses, hstate, htrace⟩ := h
    cases hp : ((source.start ctx l.url).receiveAll ctx responses).1.progress with
    | finished result => rw [hp] at hstate; cases hstate
    | waiting x =>
      rw [hp] at hstate
      cases hstate
      cases d with
      | reply r =>
        refine ⟨responses, by rw [hp]; rfl, ?_⟩
        rw [htrace]
        exact List.append_nil _
      | response bytes =>
        -- one more response for the fetch
        refine ⟨responses ++ [bytes], ?_⟩
        rw [Stage.receiveAll_append, Stage.receiveAll_snd_of_waiting _ _ hp, List.nil_append,
          Stage.receiveAll_cons_of_waiting hp, Stage.receiveAll_nil, htrace]
        exact ⟨rfl, rfl⟩

/-- A load that waits has told nothing since it began, and one that has ended what a source can tell at
most. Its source has not been called again. -/
theorem Asked.tells {state : Wait ⊕ Reply} (h : l.Asked ctx state trace) :
    trace.calls = [] ∧ IsSourceTale l.url trace.events ∧ ((∃ w, state = .inl w) → trace.events = []) := by
  unfold Asked at h
  split at h
  · rw [h.1]
    exact ⟨rfl, .inl rfl, fun _ => rfl⟩
  · next source _ =>
    obtain ⟨responses, rfl, rfl⟩ := h
    have htells := (Stage.tells_start ctx source l.url).receiveAll ctx responses
    refine ⟨htells.1, htells.isSourceTale, ?_⟩
    rintro ⟨w, hw⟩
    cases hp : ((source.start ctx l.url).receiveAll ctx responses).1.progress with
    | finished result => rw [hp] at hw; cases hw
    | waiting x => exact (htells.of_waiting hp).2

/-- What is told in the end, by the reply that a load of a URL ends with. -/
def lastLines (url : String) : Reply → List Line
  | .text content =>
    [(.debug, "fragment_loader::loader::fragment",
      "fragment loaded url=" ++ url ++ " bytes=" ++ toString content.utf8ByteSize)]
  | .failure error =>
    [(.error, "fragment_loader", "Error loading fragment " ++ url ++ ": " ++ error.message)]
  | .panic _ => []

/-- What is told in the beginning. -/
def firstLine (url : String) : Line :=
  (.debug, "fragment_loader::loader::fragment", "fragment pending url=" ++ url)

theorem map_line_eventsOf (l : Loader) (r : Reply) :
    (l.eventsOf r).map Event.line = lastLines l.url r := by
  cases r <;> rfl

end Loader

/-! ## Counting what is told -/

namespace Log.Event

/-- Whether an event tells that a load begins. -/
def isPending : Event → Bool
  | .pending _ => true
  | _ => false

/-- Whether an event tells that a load has brought a text. -/
def isLoaded : Event → Bool
  | .loaded _ _ => true
  | _ => false

/-- Whether an event tells that a load has failed. -/
def isFailed : Event → Bool
  | .failed _ _ => true
  | _ => false

end Log.Event

/-- Whether a reply is a failure. -/
def Reply.isFailure : Reply → Bool
  | .failure _ => true
  | _ => false

/-- Whether a source has broken down. -/
def Reply.isPanic : Reply → Bool
  | .panic _ => true
  | _ => false

/-- A source has brought a text, failed, or broken down. -/
theorem Reply.length_eq (rs : List Reply) :
    rs.length = (rs.filterMap Reply.text?).length + rs.countP Reply.isFailure
      + rs.countP Reply.isPanic := by
  induction rs with
  | nil => rfl
  | cons r rs ih =>
    rw [List.length_cons, ih, List.filterMap_cons, List.countP_cons, List.countP_cons]
    cases r <;> simp [Reply.text?, Reply.isFailure, Reply.isPanic] <;> omega

section counts

variable {url : String} {own : List Event}

theorem IsSourceTale.countP_eq_zero (h : IsSourceTale url own) :
    own.countP Event.isPending = 0 ∧ own.countP Event.isLoaded = 0 ∧
      own.countP Event.isFailed = 0 := by
  rcases h with rfl | ⟨status, rfl⟩ <;> exact ⟨rfl, rfl, rfl⟩

theorem Loader.countP_eventsOf (l : Loader) (r : Reply) :
    (l.eventsOf r).countP Event.isPending = 0 ∧
      (l.eventsOf r).countP Event.isLoaded = ([r].filterMap Reply.text?).length ∧
      (l.eventsOf r).countP Event.isFailed = [r].countP Reply.isFailure := by
  cases r <;> exact ⟨rfl, rfl, rfl⟩

/-- What is told of some replies tells of their texts and their failures. -/
theorem Loader.countP_flatMap_eventsOf (l : Loader) (rs : List Reply) :
    (rs.flatMap l.eventsOf).countP Event.isLoaded = (rs.filterMap Reply.text?).length ∧
      (rs.flatMap l.eventsOf).countP Event.isFailed = rs.countP Reply.isFailure := by
  induction rs with
  | nil => exact ⟨rfl, rfl⟩
  | cons r rs ih =>
    obtain ⟨-, hloaded, hfailed⟩ := l.countP_eventsOf r
    rw [List.flatMap_cons, List.countP_append, List.countP_append, hloaded, hfailed, ih.1, ih.2,
      ← List.length_append, ← List.filterMap_append, ← List.countP_append, List.singleton_append]
    exact ⟨rfl, rfl⟩

end counts

end FragmentFeed
