import Mathlib.Data.List.Basic
import FragmentFeed.Proofs.Fetch.Course

/-!
# What a fetch comes to

The stages of a fetch are passed in order, and its result tells which of them it did not pass: the URL,
the request, the status of the final response, the body of that response. The log tells of a final
response and of nothing else, so that the kind of the result can be read off the log and the other way
round (`result_classified`).
-/

namespace FragmentFeed

open Http Text

/-- Whether a status is within 200 and 299. -/
theorem Exchange.isSuccess_iff {status : Nat} :
    Exchange.isSuccess status = true ↔ 200 ≤ status ∧ status ≤ 299 := by
  simp [Exchange.isSuccess]
  omega

/-- A status of success leaves it to the body. -/
theorem Exchange.resultOf_of_success {ctx : Context} {r : Response} (h : 200 ≤ r.status ∧ r.status ≤ 299) :
    (∃ text, resultOf ctx r = .ok text) ∨ resultOf ctx r = .error .bodyRead := by
  unfold resultOf
  rw [if_pos (isSuccess_iff.mpr h)]
  cases r.body? with
  | none => exact Or.inr rfl
  | some body => exact Or.inl ⟨_, rfl⟩

/-- Any other status is the error, whatever the body is. -/
theorem Exchange.resultOf_of_failure {ctx : Context} {r : Response} (h : ¬ (200 ≤ r.status ∧ r.status ≤ 299)) :
    resultOf ctx r = .error (.httpStatus r.status) :=
  if_neg fun hs => h (isSuccess_iff.mp hs)

namespace Source

/-! ## Results that tell of a final response -/

namespace Fetched

variable {ctx : Context} {f : Fetched} {url : String} {r : Response}

/-- Whether a result tells that a final response has come. -/
def IsAnswered (f : Fetched) : Prop :=
  (∃ text, f.result = .ok text) ∨ (∃ status, f.result = .error (.httpStatus status)) ∨
    f.result = .error .bodyRead

/-- What a fetch comes to that has a final response: it is logged once, and its status decides what kind
of result there is. -/
structure EndsWith (f : Fetched) (url : String) (r : Response) : Prop where
  events : f.trace.events = [.fetched r.status url]
  of_success : 200 ≤ r.status ∧ r.status ≤ 299 →
    (∃ text, f.result = .ok text) ∨ f.result = .error .bodyRead
  of_failure : ¬ (200 ≤ r.status ∧ r.status ≤ 299) → f.result = .error (.httpStatus r.status)

theorem endsWith_of_resultOf (hresult : f.result = Exchange.resultOf ctx r)
    (hevents : f.trace.events = [.fetched r.status url]) : f.EndsWith url r where
  events := hevents
  of_success hs := by
    rw [hresult]
    exact Exchange.resultOf_of_success hs
  of_failure hs := by rw [hresult, Exchange.resultOf_of_failure hs]

namespace EndsWith

theorem isAnswered (h : f.EndsWith url r) : f.IsAnswered := by
  by_cases hs : 200 ≤ r.status ∧ r.status ≤ 299
  · rcases h.of_success hs with hresult | hresult
    · exact Or.inl hresult
    · exact Or.inr (Or.inr hresult)
  · exact Or.inr (Or.inl ⟨r.status, h.of_failure hs⟩)

/-- An error that carries a status carries that of the response, which is not one of success. -/
theorem of_httpStatus {status : Nat} (h : f.EndsWith url r)
    (hresult : f.result = .error (.httpStatus status)) :
    ¬ (200 ≤ status ∧ status ≤ 299) ∧ f.trace.events = [.fetched status url] := by
  by_cases hs : 200 ≤ r.status ∧ r.status ≤ 299
  · rcases h.of_success hs with ⟨text, hok⟩ | hbody
    · rw [hok] at hresult
      cases hresult
    · rw [hbody] at hresult
      cases hresult
  · have hfailure := h.of_failure hs
    rw [hresult] at hfailure
    cases hfailure
    exact ⟨hs, h.events⟩

/-- The body is looked at only if the status is one of success. -/
theorem of_bodyRead (h : f.EndsWith url r) (hresult : f.result = .error .bodyRead) :
    ∃ status, 200 ≤ status ∧ status ≤ 299 ∧ f.trace.events = [.fetched status url] := by
  by_cases hs : 200 ≤ r.status ∧ r.status ≤ 299
  · exact ⟨r.status, hs.1, hs.2, h.events⟩
  · have hfailure := h.of_failure hs
    rw [hresult] at hfailure
    cases hfailure

end EndsWith

end Fetched

/-! ## Every fetch -/

variable {ctx : Context} {s : Source} {url : String} {e : FetchError}
variable {responses : List (List UInt8)}

/-- What is wrong with a URL is told with the text that was given. -/
theorem exists_reason_of_resolve_error (he : s.resolve url = .error e) :
    ∃ reason, e = .invalidUrl url reason := by
  unfold resolve at he
  split at he
  · cases he
  · split at he
    · cases he
      exact ⟨_, rfl⟩
    · split at he
      · cases he
      · cases he
        exact ⟨_, rfl⟩
  · cases he
    exact ⟨_, rfl⟩

/-- A fetch does not get past its URL, or not to a final response, or it comes to one, which is the last
one that it takes. -/
theorem Course.outcome {f : Fetched} {left : List (List UInt8)}
    (h : s.Course ctx url responses f left) :
    (∃ reason, s.resolve url = .error (.invalidUrl url reason) ∧
        f = ⟨.error (.invalidUrl url reason), []⟩ ∧ left = responses) ∨
      (∃ u cause, s.resolve url = .ok u ∧ f.result = .error (.transport cause) ∧
        f.trace.events = []) ∨
      ∃ u earlier bytes r, s.resolve url = .ok u ∧ responses = earlier ++ bytes :: left ∧
        Response.parse? bytes = some r ∧ f.result = Exchange.resultOf ctx r ∧
        f.trace.events = [.fetched r.status url] := by
  cases h with
  | unresolved he =>
    obtain ⟨reason, rfl⟩ := exists_reason_of_resolve_error he
    exact Or.inl ⟨reason, he, rfl, rfl⟩
  | unsent hu => exact Or.inr (Or.inl ⟨_, _, hu, rfl, rfl⟩)
  | sent hu hcourse =>
    rcases hcourse.outcome with ⟨cause, hresult, hevents⟩ | ⟨earlier, bytes, r, hrs, hr, hresult, hevents⟩
    · exact Or.inr (Or.inl ⟨_, cause, hu, hresult, hevents⟩)
    · exact Or.inr (Or.inr ⟨_, earlier, bytes, r, hu, hrs, hr, hresult, hevents⟩)

/--
**The result of a fetch tells how far it came, and so does the log.**

A text that is no URL is the end before anything is done. Without a final response nothing is logged.
A final response is logged once, with its status and the text given. That status alone decides whether it
is the error, and the body counts only where it is not.
-/
theorem result_classified (ctx : Context) (s : Source) (url : String)
    (responses : List (List UInt8)) :
    -- the text is no URL
    (∀ e, s.resolve url = .error e →
      (∃ reason, e = .invalidUrl url reason) ∧ s.fetch ctx url responses = ⟨.error e, []⟩ ∧
        s.unread ctx url responses = responses) ∧
    (∀ given reason, (s.fetch ctx url responses).result = .error (.invalidUrl given reason) →
      s.resolve url = .error (.invalidUrl given reason)) ∧
    -- there is no final response
    (∀ cause, (s.fetch ctx url responses).result = .error (.transport cause) →
      (s.fetch ctx url responses).trace.events = []) ∧
    -- there is one, the last response taken
    ((s.fetch ctx url responses).IsAnswered →
      ∃ earlier bytes r, responses = earlier ++ bytes :: s.unread ctx url responses ∧
        Response.parse? bytes = some r ∧ (s.fetch ctx url responses).EndsWith url r) ∧
    -- so that the result and the log go together
    ((s.fetch ctx url responses).IsAnswered ↔ (s.fetch ctx url responses).trace.events ≠ []) ∧
    (∀ status, (s.fetch ctx url responses).result = .error (.httpStatus status) →
      ¬ (200 ≤ status ∧ status ≤ 299) ∧
        (s.fetch ctx url responses).trace.events = [.fetched status url]) ∧
    ((s.fetch ctx url responses).result = .error .bodyRead →
      ∃ status, 200 ≤ status ∧ status ≤ 299 ∧
        (s.fetch ctx url responses).trace.events = [.fetched status url]) := by
  have houtcome := (course_fetch ctx s url responses).outcome
  generalize s.fetch ctx url responses = f at houtcome ⊢
  rcases houtcome with ⟨reason, he, rfl, hleft⟩ | ⟨u, cause, hu, hresult, hevents⟩
    | ⟨u, earlier, bytes, r, hu, hresponses, hr, hresult, hevents⟩
  · simp [he, hleft, Fetched.IsAnswered, Trace.events]
  · simp [hu, hresult, hevents, Fetched.IsAnswered]
  · have hend : f.EndsWith url r := Fetched.endsWith_of_resultOf hresult hevents
    have hanswered : f.IsAnswered := hend.isAnswered
    refine ⟨?_, ?_, ?_, fun _ => ⟨earlier, bytes, r, hresponses, hr, hend⟩, ?_,
      fun status hresult => hend.of_httpStatus hresult, fun hresult => hend.of_bodyRead hresult⟩
    · intro e he
      rw [hu] at he
      cases he
    · intro given reason hresult
      simp [Fetched.IsAnswered, hresult] at hanswered
    · intro cause hresult
      simp [Fetched.IsAnswered, hresult] at hanswered
    · exact ⟨fun _ => by simp [hend.events], fun _ => hanswered⟩

/-- A response whose status is no success, and whose body breaks off. -/
def cutShort : List UInt8 := Utf8.encode "HTTP/1.1 404 N\r\nContent-Length: 9\r\n\r\nshort".toList

/-- The status comes before the body, and before both the URL: without one the response is not even taken. -/
theorem result_classified_cutShort :
    (absolute.fetch .plain "http://h.test/a" [cutShort]).result = .error (.httpStatus 404) ∧
      (absolute.fetch .plain "http://h.test/a" [cutShort]).trace.events = [.fetched 404 "http://h.test/a"] ∧
      (absolute.fetch .plain "/a" [cutShort]).trace = [] ∧
      absolute.unread .plain "/a" [cutShort] = [cutShort] := by
  have hresult : (absolute.fetch .plain "http://h.test/a" [cutShort]).result = .error (.httpStatus 404) := by
    decide +kernel
  have hunresolved : absolute.resolve "/a" = .error (.invalidUrl "/a" "relative URL without a base") := by
    decide +kernel
  obtain ⟨-, -, -, -, -, hstatus, -⟩ := result_classified .plain absolute "http://h.test/a" [cutShort]
  obtain ⟨-, hfetch, hunread⟩ := (result_classified .plain absolute "/a" [cutShort]).1 _ hunresolved
  exact ⟨hresult, (hstatus 404 hresult).2, by rw [hfetch], hunread⟩

end Source

end FragmentFeed
