import FragmentFeed.Proofs.Fetch.Credentials
import FragmentFeed.Proofs.Fetch.Redirects
import FragmentFeed.Proofs.Http.Visible

/-!
# Nothing is injected into a request

Neither the URL of a fragment nor a location that a server sends can put more into a request than its target
(`nothing_injected`). All requests of a fetch are for URLs in the form that reading gives them: the first one
because the URL was read so, and each other one because its location was joined to such a URL.
-/

namespace FragmentFeed

open Http Text

/-- Whether a proxy carries all requests, which are those of `http`. -/
structure Context.IsPlainProxy (ctx : Context) : Prop where
  proxied : ctx.proxied = true
  http : ∀ u : Url, ctx.reaches u = true → u.scheme = "http".toList

namespace Exchange

variable {ctx : Context} {x : Exchange} {rs left : List (List UInt8)} {f : Source.Fetched} {u next : Url}
variable {bytes : List UInt8} {r : Response}

/-- What a response redirects to is where its location leads. -/
theorem exists_location?_of_redirect? (hr : Response.parse? bytes = some r) (h : redirect? u r = some next) :
    isUri next = true ∧ ∃ location, location? bytes = some location ∧ Url.parse (some u) location = .ok next := by
  unfold redirect? at h
  split at h
  · rename_i hstatus
    obtain ⟨value, hvalue, h⟩ := Option.bind_eq_some_iff.mp h
    obtain ⟨location, hlocation, h⟩ := Option.bind_eq_some_iff.mp h
    obtain ⟨v, hv, h⟩ := Option.bind_eq_some_iff.mp h
    split at h
    · rename_i huri
      cases h
      refine ⟨huri, location, ?_, ?_⟩
      · unfold location?
        rw [hr]
        show (if _ then _ else _) = _
        rw [if_pos hstatus, hvalue]
        exact hlocation
      · cases hparse : Url.parse (some u) location with
        | error e =>
          rw [hparse] at hv
          cases hv
        | ok v' =>
          rw [hparse] at hv
          cases hv
          rfl
    · cases h
  · cases h

/-- From a URL that is asked for a redirect leads to one that is, if a request for it reaches a server. -/
theorem isAskedFor_of_redirect? (hctx : ctx.IsPlainProxy) (hu : IsAskedFor u) (hr : Response.parse? bytes = some r)
    (h : redirect? u r = some next) (hreaches : Reaches ctx next) : IsAskedFor next := by
  have hhttp : next.scheme = "http".toList := hctx.http next hreaches.1
  obtain ⟨huri, location, -, hparse⟩ := exists_location?_of_redirect? hr h
  have hbase : ∀ b, some u = some b → b.kind = .special → b.IsCanonical := by
    rintro b ⟨⟩ -
    exact hu.canonical
  have hkind : next.kind = .special := by
    rw [Url.kind, hhttp]
    decide
  exact ⟨Url.parse_yields_isCanonical hbase _ _ hparse hkind, huri, hhttp⟩

namespace Course

/-- What one request is, all behind it are. -/
theorem isSent (hctx : ctx.IsPlainProxy) (h : Course ctx x rs f left) (hx : x.request.IsSent) :
    ∀ q ∈ f.trace.requests, q.IsSent := by
  induction h with
  | unserved x => exact List.forall_mem_nil _
  | malformed h => exact List.forall_mem_nil _
  | final hr h => exact List.forall_mem_nil _
  | stopped hr h hstop => exact List.forall_mem_nil _
  | moved hr h hlimit hreaches hcourse ih =>
    have hsent := hx.redirected (isAskedFor_of_redirect? hctx hx.url hr h hreaches)
    exact List.forall_mem_cons.mpr ⟨hsent, ih hsent⟩

/-- Each request but the first is for where the location leads that the one before it was answered with. -/
theorem exists_location? (h : Course ctx x rs f left) {i : Nat} {q' : Request}
    (hq : f.trace.requests[i]? = some q') :
    ∃ q bytes location, (x.request :: f.trace.requests)[i]? = some q ∧ rs[i]? = some bytes ∧
      location? bytes = some location ∧ Url.parse (some q.url) location = .ok q'.url := by
  induction h generalizing i with
  | unserved x => cases hq
  | malformed h => cases hq
  | final hr h => cases hq
  | stopped hr h hstop => cases hq
  | @moved x bytes rs left r next f hr h hlimit hreaches hcourse ih =>
    cases i with
    | zero =>
      cases hq
      obtain ⟨-, location, hlocation, hparse⟩ := exists_location?_of_redirect? hr h
      exact ⟨x.request, bytes, location, rfl, rfl, hlocation, hparse⟩
    | succ i => exact ih hq

end Course

end Exchange

/-! ## Whole fetches -/

namespace Source

variable {ctx : Context} {s : Source} {url : String} {responses : List (List UInt8)} {q : Request} {u : Url}

/-- The first request is for a URL that is asked for, if it reaches the server. -/
theorem isAskedFor_first (hctx : ctx.IsPlainProxy)
    (hs : s = absolute ∨ ∃ base, ofBase base = .ok s) (hu : s.resolve url = .ok u)
    (huri : isUri (Request.first u).url = true) (hreaches : Exchange.Reaches ctx (Request.first u).url) :
    IsAskedFor (Request.first u).url := by
  have hhttp : (Request.first u).url.scheme = "http".toList := hctx.http _ hreaches.1
  refine ⟨?_, huri, hhttp⟩
  have hcanonical (hscheme : u.scheme = "http".toList) : u.IsCanonical := by
    refine isCanonical_of_resolve hs hu ?_
    rw [Url.kind, hscheme]
    decide
  rcases Request.first_cases u with ⟨c, -, hfirst⟩ | ⟨-, hfirst⟩
  · rw [hfirst] at hhttp ⊢
    exact (hcanonical hhttp).withoutUserInfo
  · rw [hfirst] at hhttp ⊢
    exact hcanonical hhttp

/-- A fetch sends nothing, or else it sends a first request and goes as the exchange that begins with it. -/
theorem requests_eq_nil_or_sent (hctx : ctx.IsPlainProxy) (hs : s = absolute ∨ ∃ base, ofBase base = .ok s)
    (url : String) (responses : List (List UInt8)) :
    s.requests ctx url responses = [] ∨ ∃ u f left, s.resolve url = .ok u ∧ IsAskedFor (Request.first u).url ∧
      (Exchange.first url u).Course ctx responses f left ∧
      s.requests ctx url responses = Request.first u :: f.trace.requests := by
  unfold requests
  cases hu : s.resolve url with
  | error e =>
    rw [fetch_of_start_fail (start_of_error hu)]
    exact Or.inl rfl
  | ok u =>
    by_cases hsent : isUri (Request.first u).url = true ∧ Exchange.Reaches ctx (Request.first u).url
    · obtain ⟨hfetch, -⟩ := fetch_of_start (start_of_reaches hu hsent.1 hsent.2) responses
      rw [hfetch]
      exact Or.inr ⟨u, _, _, rfl, isAskedFor_first hctx hs hu hsent.1 hsent.2,
        Exchange.course_fetched ctx _ responses, rfl⟩
    · obtain ⟨cause, hstart⟩ := start_of_not_sent hu hsent
      rw [fetch_of_start_fail hstart]
      exact Or.inl rfl

theorem isSent_of_mem (hctx : ctx.IsPlainProxy) (hs : s = absolute ∨ ∃ base, ofBase base = .ok s)
    (h : q ∈ s.requests ctx url responses) : q.IsSent := by
  rcases requests_eq_nil_or_sent hctx hs url responses with hnil | ⟨u, f, left, -, hurl, hcourse, hrequests⟩
  · rw [hnil] at h
    cases h
  · rw [hrequests] at h
    have hfirst : (Request.first u).IsSent := .first hurl
    rcases List.mem_cons.mp h with rfl | h
    · exact hfirst
    · exact hcourse.isSent hctx hfirst q h

/--
**Nothing but a target can be put into a request.**

Whatever the base, the text of the URL and the responses are, the first line of each request has one target,
of visible characters, and no header has a control character in it. A URL or a location that leads to no such
target has no request sent for it.
-/
theorem nothing_injected (hctx : ctx.IsPlainProxy) (hs : s = absolute ∨ ∃ base, ofBase base = .ok s)
    (url : String) (responses : List (List UInt8)) :
    (∀ q ∈ s.requests ctx url responses,
      (∃ target, q.line ctx.proxied = "GET ".toList ++ target ++ " HTTP/1.1".toList ∧ IsTarget target) ∧
        ∀ header ∈ q.headers, IsPrinted header.2) ∧
    -- the URL leads to no target
    ((∀ u, s.resolve url = .ok u → ¬ IsTarget (targetText ctx.proxied (Request.first u).url)) →
      s.requests ctx url responses = []) ∧
    -- the location that a request is answered with leads to none
    ∀ i q bytes, (s.requests ctx url responses)[i]? = some q → responses[i]? = some bytes →
      (∀ location next, location? bytes = some location → Url.parse (some q.url) location = .ok next →
        ¬ IsTarget (targetText ctx.proxied next)) →
      (s.requests ctx url responses).length = i + 1 := by
  rw [hctx.proxied]
  refine ⟨fun q hq => ?_, fun hurl => ?_, fun i q bytes hq hbytes hlocation => ?_⟩
  · have hsent := isSent_of_mem hctx hs hq
    exact ⟨⟨targetText true q.url, rfl, hsent.url.isTarget⟩, hsent.isPrinted⟩
  · rcases requests_eq_nil_or_sent hctx hs url responses with hnil | ⟨u, f, left, hu, hasked, -, -⟩
    · exact hnil
    · exact absurd hasked.isTarget (hurl u hu)
  · have hlt : i < (s.requests ctx url responses).length := (List.getElem?_eq_some_iff.mp hq).1
    refine Nat.le_antisymm (Nat.not_lt.mp fun hmore => ?_) hlt
    -- were there another request, the location would have led to its target
    rcases requests_eq_nil_or_sent hctx hs url responses with hnil | ⟨u, f, left, -, -, hcourse, hrequests⟩
    · rw [hnil] at hlt
      cases hlt
    · rw [hrequests] at hq hmore
      have hmore' : i < f.trace.requests.length := Nat.lt_of_succ_lt_succ hmore
      have hnext : f.trace.requests[i]? = some f.trace.requests[i] := List.getElem?_eq_getElem hmore'
      obtain ⟨q', bytes', location, hq', hbytes', hlocation', hparse⟩ := hcourse.exists_location? hnext
      cases hq.symm.trans hq'
      cases hbytes.symm.trans hbytes'
      have hmem : f.trace.requests[i] ∈ s.requests ctx url responses := by
        rw [hrequests]
        exact List.mem_cons_of_mem _ (List.getElem_mem hmore')
      exact hlocation location _ hlocation' hparse (isSent_of_mem hctx hs hmem).url.isTarget

/-- The URL `http://b.test/d/a%20bX:%20%C3%A9`, with the fragment `z`. -/
def spaced : Url :=
  { directory with
    path := .segments ["d".toList, "a%20bX:%20%C3%A9".toList]
    fragment := some "z".toList }

/-- A response that leads to no server. -/
def movedToMail : List UInt8 := Utf8.encode "HTTP/1.1 302 F\r\nLocation: mailto:x\r\n\r\n".toList

/-- A text with a line end, a blank and more, and a location that no request can be made for. -/
theorem nothing_injected_lineEnd :
    Context.plain.IsPlainProxy ∧ ofBase "http://b.test/d/e" = .ok ⟨some directory⟩ ∧
      (requests .plain ⟨some directory⟩ "a b\r\nX: é#z" [movedToMail, missing]).map (Request.line true)
        = ["GET http://b.test/d/a%20bX:%20%C3%A9 HTTP/1.1".toList] ∧
      IsTarget "http://b.test/d/a%20bX:%20%C3%A9".toList ∧
      (requests .plain ⟨some directory⟩ "a b\r\nX: é#z" [movedToMail, missing]).length = 1 := by
  have hctx : Context.plain.IsPlainProxy := ⟨rfl, fun _ hu => of_decide_eq_true hu⟩
  have hs : ofBase "http://b.test/d/e" = .ok ⟨some directory⟩ := ofBase_of_parse (by decide +kernel)
  have hrequests : requests .plain ⟨some directory⟩ "a b\r\nX: é#z" [movedToMail, missing]
      = [⟨spaced, none, none⟩] := by decide +kernel
  have hmail : location? movedToMail = some "mailto:x".toList := by decide +kernel
  have hparse : (Url.parse (some spaced) "mailto:x".toList).toOption.all
      fun u => !decide (IsTarget (targetText Context.plain.proxied u)) := by decide +kernel
  obtain ⟨hall, -, hlast⟩ :=
    nothing_injected hctx (Or.inr ⟨_, hs⟩) "a b\r\nX: é#z" [movedToMail, missing]
  obtain ⟨⟨target, hline, htarget⟩, -⟩ := hall ⟨spaced, none, none⟩
    (by rw [hrequests]; exact List.mem_singleton_self _)
  refine ⟨hctx, hs, ?_, ?_, hlast 0 ⟨spaced, none, none⟩ movedToMail (by rw [hrequests]; rfl) rfl ?_⟩
  · rw [hrequests]
    decide +kernel
  · have htext : "GET ".toList ++ "http://b.test/d/a%20bX:%20%C3%A9".toList ++ " HTTP/1.1".toList
        = "GET ".toList ++ target ++ " HTTP/1.1".toList := Eq.trans (by decide +kernel) hline
    rwa [List.append_cancel_left (List.append_cancel_right htext)]
  · intro location next hlocation hnext
    cases hmail.symm.trans hlocation
    rw [hnext] at hparse
    simpa [Except.toOption] using hparse

end Source

end FragmentFeed
