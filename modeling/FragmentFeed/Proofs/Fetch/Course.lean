import FragmentFeed.Proofs.Fetch.Stages

/-!
# The course of a fetch

What a fetch does with the responses at hand, said once as a relation with a rule for each way in which
it can go on. `Exchange.Course` is about a request that waits, `Source.Course` about a whole fetch; that
`Source.fetch` takes such a course is `Source.course_fetch`. What every fetch has in common is shown by
induction on its course.
-/

namespace FragmentFeed

open Http Text

namespace Exchange

variable {ctx : Context} {x y : Exchange} {next : Url} {bytes : List UInt8} {rs : List (List UInt8)}

/-- The exchange that begins when a URL was given and resolved. -/
def first (given : String) (u : Url) : Exchange :=
  { given := given, origin := (Request.first u).url, request := Request.first u, redirects := 0 }

/-- The exchange that a redirect leads to. -/
def onward (x : Exchange) (next : Url) : Exchange :=
  { x with request := x.request.redirected next, redirects := x.redirects + 1 }

@[simp] theorem onward_given : (x.onward next).given = x.given := rfl
@[simp] theorem onward_request : (x.onward next).request = x.request.redirected next := rfl
@[simp] theorem onward_redirects : (x.onward next).redirects = x.redirects + 1 := rfl

/-- Whether a request can be made for the scheme of a URL, and comes to a server. -/
def Reaches (ctx : Context) (u : Url) : Prop := ctx.reaches u = true ∧ isWebScheme u.scheme = true

theorem send_of_reaches (h : ctx.reaches x.request.url = true) :
    x.send ctx = ⟨.waiting x, [.request x.request]⟩ := if_pos h

theorem send_of_not_reaches (h : ¬ ctx.reaches x.request.url = true) :
    x.send ctx = .fail (.transport (.unanswered x.origin)) := if_neg h

/-! ## Redirects -/

theorem follow_of_limit (h : redirectLimit ≤ x.redirects) :
    x.follow ctx next = .fail (.transport (.redirectLimit x.request.url.withoutUserInfo)) := by
  unfold follow
  rw [if_pos h]

theorem follow_of_reaches (hlimit : x.redirects < redirectLimit) (h : Reaches ctx next) :
    x.follow ctx next = ⟨.waiting (x.onward next), [.request (x.request.redirected next)]⟩ := by
  unfold follow
  rw [if_neg (Nat.not_le.mpr hlimit), if_neg (by simp [h.2])]
  exact send_of_reaches (x := x.onward next) h.1

/-- A redirect is either followed or the end of the fetch. -/
theorem follow_cases (ctx : Context) (x : Exchange) (next : Url) :
    (x.redirects < redirectLimit ∧ Reaches ctx next) ∨
      ∃ cause, x.follow ctx next = .fail (.transport cause) := by
  by_cases hlimit : redirectLimit ≤ x.redirects
  · exact Or.inr ⟨_, follow_of_limit hlimit⟩
  · by_cases hreaches : Reaches ctx next
    · exact Or.inl ⟨Nat.not_le.mp hlimit, hreaches⟩
    · refine Or.inr ?_
      unfold follow
      rw [if_neg hlimit]
      by_cases hweb : isWebScheme next.scheme = true
      · rw [if_neg (by simp [hweb])]
        exact ⟨_, send_of_not_reaches (x := x.onward next) fun h => hreaches ⟨h, hweb⟩⟩
      · rw [if_pos (by simp [hweb])]
        exact ⟨_, rfl⟩

/-! ## Responses -/

theorem receive_of_malformed (h : Response.parse? bytes = none) :
    x.receive ctx bytes = .fail (.transport (.unanswered x.origin)) := by
  simp only [receive, h]

section response

variable {r : Response}

theorem receive_of_final (hr : Response.parse? bytes = some r)
    (h : redirect? x.request.url r = none) :
    x.receive ctx bytes = ⟨.finished (resultOf ctx r), [.event (.fetched r.status x.given)]⟩ := by
  simp only [receive, hr, h]

theorem receive_of_redirect (hr : Response.parse? bytes = some r)
    (h : redirect? x.request.url r = some next) : x.receive ctx bytes = x.follow ctx next := by
  simp only [receive, hr, h]

end response

/-- How a request that waits goes on with some responses: what it comes to, with what is seen from there
on, and the responses that it leaves. -/
inductive Course (ctx : Context) :
    Exchange → List (List UInt8) → Source.Fetched → List (List UInt8) → Prop
  /-- No response is left, and the connection is closed. -/
  | unserved (x : Exchange) :
    Course ctx x [] ⟨.error (.transport (.unanswered x.origin)), []⟩ []
  /-- What comes is no response. -/
  | malformed {x : Exchange} {bytes : List UInt8} {rs : List (List UInt8)}
    (h : Response.parse? bytes = none) :
    Course ctx x (bytes :: rs) ⟨.error (.transport (.unanswered x.origin)), []⟩ rs
  /-- A final response comes. -/
  | final {x : Exchange} {bytes : List UInt8} {rs : List (List UInt8)} {r : Response}
    (hr : Response.parse? bytes = some r) (h : redirect? x.request.url r = none) :
    Course ctx x (bytes :: rs) ⟨resultOf ctx r, [.event (.fetched r.status x.given)]⟩ rs
  /-- A redirect comes that cannot be followed. -/
  | stopped {x : Exchange} {bytes : List UInt8} {rs : List (List UInt8)} {r : Response} {next : Url}
    {cause : TransportError} (hr : Response.parse? bytes = some r)
    (h : redirect? x.request.url r = some next)
    (hstop : x.follow ctx next = .fail (.transport cause)) :
    Course ctx x (bytes :: rs) ⟨.error (.transport cause), []⟩ rs
  /-- A redirect is followed. -/
  | moved {x : Exchange} {bytes : List UInt8} {rs left : List (List UInt8)} {r : Response}
    {next : Url} {f : Source.Fetched} (hr : Response.parse? bytes = some r)
    (h : redirect? x.request.url r = some next) (hlimit : x.redirects < redirectLimit)
    (hreaches : Reaches ctx next) (hcourse : Course ctx (x.onward next) rs f left) :
    Course ctx x (bytes :: rs) ⟨f.result, .request (x.request.redirected next) :: f.trace⟩ left

/-! ## The relation and the function -/

/-- What a request that waits comes to with some responses. -/
def fetched (ctx : Context) (x : Exchange) (responses : List (List UInt8)) : Source.Fetched :=
  let stage := (Stage.receiveAll ctx ⟨.waiting x, []⟩ responses).1
  ⟨stage.close, stage.trace⟩

/-- The responses that it leaves. -/
def unread (ctx : Context) (x : Exchange) (responses : List (List UInt8)) : List (List UInt8) :=
  (Stage.receiveAll ctx ⟨.waiting x, []⟩ responses).2

theorem fetched_of_fail {e : FetchError} (h : x.receive ctx bytes = .fail e)
    (rs : List (List UInt8)) :
    x.fetched ctx (bytes :: rs) = ⟨.error e, []⟩ ∧ x.unread ctx (bytes :: rs) = rs := by
  unfold fetched unread
  rw [Stage.receiveAll_cons_of_waiting rfl, h, Stage.receiveAll_of_finished rfl]
  exact ⟨rfl, rfl⟩

theorem fetched_of_final {r : Response} (hr : Response.parse? bytes = some r)
    (h : redirect? x.request.url r = none) (rs : List (List UInt8)) :
    x.fetched ctx (bytes :: rs) = ⟨resultOf ctx r, [.event (.fetched r.status x.given)]⟩ ∧
      x.unread ctx (bytes :: rs) = rs := by
  unfold fetched unread
  rw [Stage.receiveAll_cons_of_waiting rfl, receive_of_final hr h, Stage.receiveAll_of_finished rfl]
  exact ⟨rfl, rfl⟩

theorem fetched_of_moved {r : Response} (hr : Response.parse? bytes = some r)
    (h : redirect? x.request.url r = some next) (hlimit : x.redirects < redirectLimit)
    (hreaches : Reaches ctx next) (rs : List (List UInt8)) :
    x.fetched ctx (bytes :: rs)
        = ⟨((x.onward next).fetched ctx rs).result,
          .request (x.request.redirected next) :: ((x.onward next).fetched ctx rs).trace⟩ ∧
      x.unread ctx (bytes :: rs) = (x.onward next).unread ctx rs := by
  -- what is seen of the request is split off, so that the rest starts from nothing
  have hsplit := Stage.receiveAll_trace_append ctx [.request (x.request.redirected next)]
    ⟨.waiting (x.onward next), []⟩ rs
  rw [List.append_nil] at hsplit
  unfold fetched unread
  rw [Stage.receiveAll_cons_of_waiting rfl, receive_of_redirect hr h,
    follow_of_reaches hlimit hreaches, List.nil_append, hsplit]
  exact ⟨rfl, rfl⟩

/-- A request that waits takes such a course. -/
theorem course_fetched (ctx : Context) (x : Exchange) (rs : List (List UInt8)) :
    Course ctx x rs (x.fetched ctx rs) (x.unread ctx rs) := by
  induction rs generalizing x with
  | nil => exact .unserved x
  | cons bytes rs ih =>
    cases hr : Response.parse? bytes with
    | none =>
      obtain ⟨hfetched, hunread⟩ := fetched_of_fail (receive_of_malformed hr) rs
      rw [hfetched, hunread]
      exact .malformed hr
    | some r =>
      cases h : redirect? x.request.url r with
      | none =>
        obtain ⟨hfetched, hunread⟩ := fetched_of_final hr h rs
        rw [hfetched, hunread]
        exact .final hr h
      | some next =>
        rcases follow_cases ctx x next with ⟨hlimit, hreaches⟩ | ⟨cause, hstop⟩
        · obtain ⟨hfetched, hunread⟩ := fetched_of_moved hr h hlimit hreaches rs
          rw [hfetched, hunread]
          exact .moved hr h hlimit hreaches (ih (x.onward next))
        · obtain ⟨hfetched, hunread⟩ :=
            fetched_of_fail ((receive_of_redirect hr h).trans hstop) rs
          rw [hfetched, hunread]
          exact .stopped hr h hstop

/-- It can take no other course. -/
theorem Course.eq_fetched {f : Source.Fetched} {left : List (List UInt8)}
    (h : Course ctx x rs f left) : x.fetched ctx rs = f ∧ x.unread ctx rs = left := by
  induction h with
  | unserved x => exact ⟨rfl, rfl⟩
  | malformed h => exact fetched_of_fail (receive_of_malformed h) _
  | final hr h => exact fetched_of_final hr h _
  | stopped hr h hstop => exact fetched_of_fail ((receive_of_redirect hr h).trans hstop) _
  | moved hr h hlimit hreaches hcourse ih =>
    obtain ⟨hfetched, hunread⟩ := fetched_of_moved hr h hlimit hreaches _
    rw [hfetched, hunread, ih.1, ih.2]
    exact ⟨rfl, rfl⟩

/-! ## What courses have in common -/

namespace Course

variable {f : Source.Fetched} {left : List (List UInt8)}

/-- A course ends without a response, which is not told of, or with a final one, which is, and which is
the last one taken. -/
theorem outcome (h : Course ctx x rs f left) :
    (∃ cause, f.result = .error (.transport cause) ∧ f.trace.events = []) ∨
      ∃ earlier bytes r, rs = earlier ++ bytes :: left ∧ Response.parse? bytes = some r ∧
        f.result = resultOf ctx r ∧ f.trace.events = [.fetched r.status x.given] := by
  induction h with
  | unserved x => exact Or.inl ⟨_, rfl, rfl⟩
  | malformed h => exact Or.inl ⟨_, rfl, rfl⟩
  | final hr h => exact Or.inr ⟨[], _, _, rfl, hr, rfl, rfl⟩
  | stopped hr h hstop => exact Or.inl ⟨_, rfl, rfl⟩
  | @moved x bytes rs r next f left hr h hlimit hreaches hcourse ih =>
    rcases ih with hcause | ⟨earlier, last, r', hrs, hlast, hresult, hevents⟩
    · exact Or.inl hcause
    · refine Or.inr ⟨bytes :: earlier, last, r', ?_, hlast, hresult, hevents⟩
      rw [hrs, List.cons_append]

/-- No more redirects are followed than may be. -/
theorem requests_length_le (h : Course ctx x rs f left) (hx : x.redirects ≤ redirectLimit) :
    x.redirects + f.trace.requests.length ≤ redirectLimit := by
  induction h with
  | unserved x => exact hx
  | malformed h => exact hx
  | final hr h => exact hx
  | stopped hr h hstop => exact hx
  | moved hr h hlimit hreaches hcourse ih =>
    have hmore := ih hlimit
    simp only [onward_redirects, Trace.requests_cons_request, List.length_cons] at hmore ⊢
    omega

end Course

end Exchange

/-! ## Whole fetches -/

namespace Source

variable {ctx : Context} {s : Source} {url : String} {u : Url} {e : FetchError}
variable {responses : List (List UInt8)}

/-- The responses that a fetch leaves. -/
def unread (ctx : Context) (s : Source) (url : String) (responses : List (List UInt8)) :
    List (List UInt8) :=
  ((s.start ctx url).receiveAll ctx responses).2

/-- How a fetch goes with some responses. -/
inductive Course (ctx : Context) (s : Source) (url : String) (responses : List (List UInt8)) :
    Fetched → List (List UInt8) → Prop
  /-- The text is no URL. -/
  | unresolved {e : FetchError} (he : s.resolve url = .error e) :
    Course ctx s url responses ⟨.error e, []⟩ responses
  /-- The request does not come to the server. -/
  | unsent {u : Url} {cause : TransportError} (hu : s.resolve url = .ok u) :
    Course ctx s url responses ⟨.error (.transport cause), []⟩ responses
  /-- The request is sent. -/
  | sent {u : Url} {f : Fetched} {left : List (List UInt8)} (hu : s.resolve url = .ok u)
    (hcourse : (Exchange.first url u).Course ctx responses f left) :
    Course ctx s url responses ⟨f.result, .request (Request.first u) :: f.trace⟩ left

theorem start_of_error (he : s.resolve url = .error e) : s.start ctx url = .fail e := by
  simp only [start, he]

theorem start_of_ok (hu : s.resolve url = .ok u) :
    s.start ctx url
      = if isRequestable (Request.first u).url then (Exchange.first url u).send ctx
        else .fail (.transport (.unbuildable (Request.first u).url)) := by
  simp only [start, hu]
  rfl

theorem start_of_reaches (hu : s.resolve url = .ok u) (huri : isUri (Request.first u).url = true)
    (hreaches : Exchange.Reaches ctx (Request.first u).url) :
    s.start ctx url = ⟨.waiting (Exchange.first url u), [.request (Request.first u)]⟩ := by
  have hrequestable : isRequestable (Request.first u).url = true := by
    rw [isRequestable, hreaches.2, huri]
    rfl
  rw [start_of_ok hu, if_pos hrequestable]
  exact Exchange.send_of_reaches hreaches.1

/-- A request that does not come to the server ends the fetch. -/
theorem start_of_not_sent (hu : s.resolve url = .ok u)
    (h : ¬ (isUri (Request.first u).url = true ∧ Exchange.Reaches ctx (Request.first u).url)) :
    ∃ cause, s.start ctx url = .fail (.transport cause) := by
  rw [start_of_ok hu]
  by_cases hrequestable : isRequestable (Request.first u).url = true
  · obtain ⟨hweb, huri⟩ := Bool.and_eq_true_iff.mp hrequestable
    have hreaches : ¬ ctx.reaches (Request.first u).url = true := fun hreaches =>
      h ⟨huri, hreaches, hweb⟩
    rw [if_pos hrequestable]
    exact ⟨_, Exchange.send_of_not_reaches (x := Exchange.first url u) hreaches⟩
  · rw [if_neg hrequestable]
    exact ⟨_, rfl⟩

theorem fetch_of_start_fail (h : s.start ctx url = .fail e) :
    s.fetch ctx url responses = ⟨.error e, []⟩ := by
  rw [fetch, h, Stage.receiveAll_of_finished rfl]
  rfl

theorem unread_of_start_fail (h : s.start ctx url = .fail e) :
    s.unread ctx url responses = responses := by
  rw [unread, h, Stage.receiveAll_of_finished rfl]

/-- A fetch whose request is sent goes as the exchange that begins with it. -/
theorem fetch_of_start (hstart : s.start ctx url
      = ⟨.waiting (Exchange.first url u), [.request (Request.first u)]⟩)
    (responses : List (List UInt8)) :
    s.fetch ctx url responses
        = ⟨((Exchange.first url u).fetched ctx responses).result,
          .request (Request.first u) :: ((Exchange.first url u).fetched ctx responses).trace⟩ ∧
      s.unread ctx url responses = (Exchange.first url u).unread ctx responses := by
  have hsplit := Stage.receiveAll_trace_append ctx [.request (Request.first u)]
    ⟨.waiting (Exchange.first url u), []⟩ responses
  rw [List.append_nil] at hsplit
  unfold fetch unread
  rw [hstart, hsplit]
  exact ⟨rfl, rfl⟩

/-- **Every fetch takes such a course.** -/
theorem course_fetch (ctx : Context) (s : Source) (url : String) (responses : List (List UInt8)) :
    s.Course ctx url responses (s.fetch ctx url responses) (s.unread ctx url responses) := by
  cases hu : s.resolve url with
  | error e =>
    have hstart : s.start ctx url = .fail e := start_of_error hu
    rw [fetch_of_start_fail hstart, unread_of_start_fail hstart]
    exact .unresolved hu
  | ok u =>
    by_cases hsent : isUri (Request.first u).url = true ∧ Exchange.Reaches ctx (Request.first u).url
    · obtain ⟨hfetch, hunread⟩ := fetch_of_start (start_of_reaches hu hsent.1 hsent.2) responses
      rw [hfetch, hunread]
      exact .sent hu (Exchange.course_fetched ctx (Exchange.first url u) responses)
    · obtain ⟨cause, hstart⟩ := start_of_not_sent hu hsent
      rw [fetch_of_start_fail hstart, unread_of_start_fail hstart]
      exact .unsent hu

end Source

end FragmentFeed
