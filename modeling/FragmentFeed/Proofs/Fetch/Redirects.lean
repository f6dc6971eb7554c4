import FragmentFeed.Proofs.Fetch.Outcome
import FragmentFeed.Proofs.Fetch.Resolution
import FragmentFeed.Proofs.Http.Request
import FragmentFeed.Proofs.Http.Target

/-!
# Chains of redirects

A fetch follows redirects from URL to URL, ten of them at most, and comes to what the last URL gives
(`fetch_redirected`). User name and password of the URL that was resolved take no part in this: they have
gone out of the URL before the first request.
-/

namespace FragmentFeed

open Http Text

/-- Where locations lead from a URL, each being joined to the URL at hand. -/
def Url.joinAll (u : Url) (locations : List (List Char)) : Option Url :=
  locations.foldlM (fun v location => (Url.parse (some v) location).toOption) u

/-- The first location of a response to be read, if it is a redirect. -/
def Http.location? (bytes : List UInt8) : Option (List Char) := do
  let r ← Response.parse? bytes
  if [301, 302, 303, 307, 308].contains r.status then
    (valuesOf "location" r.headers).head?.bind Utf8.decode?
  else none

/-- Whether all servers of `http` are reached. -/
def Context.ReachesHttp (ctx : Context) : Prop := ∀ u : Url, u.scheme = "http".toList → ctx.reaches u = true

/-- Whether an `http` request can be made for a URL. -/
def Url.IsHttp (u : Url) : Prop := u.scheme = "http".toList ∧ isUri u = true

/-- Whether locations lead from such a URL through such URLs only. -/
def Url.IsHttpAlong (u : Url) (locations : List (List Char)) : Prop :=
  ∀ i ≤ locations.length, ∃ v, u.joinAll (locations.take i) = some v ∧ v.IsHttp

namespace Url

variable {u v w : Url} {location : List Char} {locations more : List (List Char)}

theorem joinAll_cons (u : Url) (location : List Char) (locations : List (List Char)) :
    u.joinAll (location :: locations)
      = ((parse (some u) location).toOption).bind (·.joinAll locations) := rfl

theorem joinAll_cons_of_ok (h : parse (some u) location = .ok v) :
    u.joinAll (location :: locations) = v.joinAll locations := by
  rw [joinAll_cons, h]
  rfl

theorem exists_of_joinAll_cons (h : u.joinAll (location :: locations) = some w) :
    ∃ v, parse (some u) location = .ok v ∧ v.joinAll locations = some w := by
  rw [joinAll_cons] at h
  obtain ⟨v, hv, hw⟩ := Option.bind_eq_some_iff.mp h
  cases hparse : parse (some u) location with
  | error e =>
    rw [hparse] at hv
    cases hv
  | ok v' =>
    rw [hparse] at hv
    cases hv
    exact ⟨v, rfl, hw⟩

/-! ## Ways through `http` URLs -/

theorem isHttpAlong_nil (hu : u.IsHttp) : u.IsHttpAlong [] := by
  intro i hi
  cases Nat.le_zero.mp hi
  exact ⟨u, rfl, hu⟩

theorem isHttpAlong_cons (hu : u.IsHttp) (hv : parse (some u) location = .ok v)
    (h : v.IsHttpAlong locations) : u.IsHttpAlong (location :: locations) := by
  intro i hi
  cases i with
  | zero => exact ⟨u, rfl, hu⟩
  | succ i =>
    rw [List.take_succ_cons, joinAll_cons_of_ok hv]
    exact h i (Nat.le_of_succ_le_succ hi)

theorem IsHttpAlong.isHttp (h : u.IsHttpAlong locations) : u.IsHttp := by
  obtain ⟨v, hv, hhttp⟩ := h 0 (Nat.zero_le _)
  cases hv
  exact hhttp

/-- The next URL on the way. -/
theorem IsHttpAlong.of_cons (h : u.IsHttpAlong (location :: locations)) :
    ∃ v, parse (some u) location = .ok v ∧ v.IsHttpAlong locations := by
  obtain ⟨w, hw, -⟩ := h 1 (Nat.succ_le_succ (Nat.zero_le _))
  obtain ⟨v, hv, -⟩ := exists_of_joinAll_cons hw
  refine ⟨v, hv, fun i hi => ?_⟩
  have hnext := h (i + 1) (Nat.succ_le_succ hi)
  rw [List.take_succ_cons, joinAll_cons_of_ok hv] at hnext
  exact hnext

/-- A way can be gone in two parts. -/
theorem IsHttpAlong.of_append_left (h : u.IsHttpAlong (locations ++ more)) :
    u.IsHttpAlong locations := by
  intro i hi
  have hpart := h i (by rw [List.length_append]; omega)
  rw [List.take_append_of_le_length hi] at hpart
  exact hpart

theorem IsHttpAlong.of_append_right (h : u.IsHttpAlong (locations ++ more))
    (hv : u.joinAll locations = some v) : v.IsHttpAlong more := by
  induction locations generalizing u with
  | nil =>
    cases hv
    exact h
  | cons location locations ih =>
    obtain ⟨u', hu', hrest⟩ := h.of_cons
    rw [joinAll_cons_of_ok hu'] at hv
    exact ih hrest hv

/-! ## User information on the way -/

/-- Whether a URL is another one, or the same but without user information. -/
def IsOrLacksUserInfo (w v : Url) : Prop := w = v ∨ w = v.withoutUserInfo

theorem exists_parse_of_lacks (hw : IsOrLacksUserInfo w v) (h : parse (some v) location = .ok u) :
    ∃ u', parse (some w) location = .ok u' ∧ IsOrLacksUserInfo u' u := by
  rcases hw with rfl | rfl
  · exact ⟨u, h, Or.inl rfl⟩
  · rcases parse_withoutUserInfo v location with hsame | hlacks
    · exact ⟨u, hsame.trans h, Or.inl rfl⟩
    · rw [h] at hlacks
      exact ⟨u.withoutUserInfo, hlacks, Or.inr rfl⟩

/-- Locations lead to the same URLs without the user information of the first. -/
theorem exists_joinAll_of_lacks (hw : IsOrLacksUserInfo w v) (h : v.joinAll locations = some u) :
    ∃ u', w.joinAll locations = some u' ∧ IsOrLacksUserInfo u' u := by
  induction locations generalizing v w with
  | nil =>
    cases h
    exact ⟨w, rfl, hw⟩
  | cons location locations ih =>
    obtain ⟨v', hv', hu⟩ := exists_of_joinAll_cons h
    obtain ⟨w', hw', hlacks⟩ := exists_parse_of_lacks hw hv'
    rw [joinAll_cons_of_ok hw']
    exact ih hlacks hu

theorem hasPlainUserInfo_of_joinAll (hu : u.HasPlainUserInfo) (h : u.joinAll locations = some v) :
    v.HasPlainUserInfo := by
  induction locations generalizing u with
  | nil =>
    cases h
    exact hu
  | cons location locations ih =>
    obtain ⟨u', hu', hv⟩ := exists_of_joinAll_cons h
    have hbase : ∀ b, some u = some b → b.HasPlainUserInfo := by
      rintro b ⟨⟩
      exact hu
    exact ih (parse_yields hbase location u' hu') hv

theorem IsHttp.of_lacks (hv : v.IsHttp) (hplain : v.HasPlainUserInfo)
    (hw : IsOrLacksUserInfo w v) : w.IsHttp := by
  rcases hw with rfl | rfl
  · exact hv
  · exact ⟨hv.1, isUri_withoutUserInfo hplain hv.2⟩

/-- Without the user information of the first URL the way is as good. -/
theorem IsHttpAlong.of_lacks (h : v.IsHttpAlong locations) (hplain : v.HasPlainUserInfo)
    (hw : IsOrLacksUserInfo w v) : w.IsHttpAlong locations := by
  intro i hi
  obtain ⟨v', hv', hhttp⟩ := h i hi
  obtain ⟨w', hw', hlacks⟩ := exists_joinAll_of_lacks hw hv'
  exact ⟨w', hw', hhttp.of_lacks (hasPlainUserInfo_of_joinAll hplain hv') hlacks⟩

end Url

/-! ## Following -/

namespace Exchange

variable {ctx : Context} {x y : Exchange} {bytes : List UInt8} {redirects : List (List UInt8)} {r : Response}
variable {location : List Char} {locations : List (List Char)} {passed : List Request}

theorem exists_of_location? (h : location? bytes = some location) :
    ∃ r, Response.parse? bytes = some r ∧ ∀ u v, Url.parse (some u) location = .ok v →
      isUri v = true → redirect? u r = some v := by
  unfold location? at h
  obtain ⟨r, hr, hlocation⟩ := Option.bind_eq_some_iff.mp h
  refine ⟨r, hr, fun u v hv huri => ?_⟩
  split at hlocation
  · rename_i hstatus
    obtain ⟨value, hvalue, hdecode⟩ := Option.bind_eq_some_iff.mp hlocation
    unfold redirect?
    rw [if_pos hstatus, hvalue]
    simp [hdecode, hv, huri, Except.toOption]
  · cases hlocation

theorem reaches_of_isHttp {u : Url} (hctx : ctx.ReachesHttp) (hu : u.IsHttp) : Reaches ctx u := by
  refine ⟨hctx u hu.1, ?_⟩
  rw [isWebScheme, hu.1]
  rfl

/-- Any other status is no redirect. -/
theorem redirect?_of_status (u : Url) (h : r.status ∉ [301, 302, 303, 307, 308]) :
    redirect? u r = none := by
  unfold redirect?
  rw [if_neg (by simpa using h)]

/-- Whether locations lead from a request to another one, with the requests sent meanwhile. -/
structure LeadsTo (x : Exchange) (locations : List (List Char)) (passed : List Request)
    (y : Exchange) : Prop where
  given : y.given = x.given
  redirects : y.redirects = x.redirects + locations.length
  length : passed.length = locations.length
  url : x.request.url.joinAll locations = some y.request.url
  passes : ∀ i ≤ locations.length, ∃ q, (x.request :: passed)[i]? = some q ∧
    x.request.url.joinAll (locations.take i) = some q.url

theorem LeadsTo.refl (x : Exchange) : x.LeadsTo [] [] x where
  given := rfl
  redirects := rfl
  length := rfl
  url := rfl
  passes i hi := by
    cases Nat.le_zero.mp hi
    exact ⟨x.request, rfl, rfl⟩

theorem LeadsTo.cons {next : Url} (hnext : Url.parse (some x.request.url) location = .ok next)
    (h : (x.onward next).LeadsTo locations passed y) :
    x.LeadsTo (location :: locations) (x.request.redirected next :: passed) y where
  given := h.given
  redirects := by
    rw [h.redirects, onward_redirects, List.length_cons]
    omega
  length := congrArg (· + 1) h.length
  url := (Url.joinAll_cons_of_ok hnext).trans h.url
  passes i hi := by
    cases i with
    | zero => exact ⟨x.request, rfl, rfl⟩
    | succ i =>
      obtain ⟨q, hq, hurl⟩ := h.passes i (Nat.le_of_succ_le_succ hi)
      refine ⟨q, hq, ?_⟩
      rw [List.take_succ_cons, Url.joinAll_cons_of_ok hnext]
      exact hurl

/-- Redirects are followed one after the other, as long as they may be. -/
theorem fetched_of_redirects (hctx : ctx.ReachesHttp) (hlocations : redirects.map location? = locations.map some)
    (hpath : x.request.url.IsHttpAlong locations)
    (hlimit : x.redirects + locations.length ≤ redirectLimit) (rest : List (List UInt8)) :
    ∃ passed y, x.LeadsTo locations passed y ∧
      x.fetched ctx (redirects ++ rest)
        = ⟨(y.fetched ctx rest).result,
          passed.map .request ++ (y.fetched ctx rest).trace⟩ ∧
      x.unread ctx (redirects ++ rest) = y.unread ctx rest := by
  induction redirects generalizing x locations with
  | nil =>
    cases locations with
    | nil => exact ⟨[], x, .refl x, rfl, rfl⟩
    | cons location locations => cases hlocations
  | cons bytes redirects ih =>
    cases locations with
    | nil => cases hlocations
    | cons location locations =>
      rw [List.map_cons, List.map_cons, List.cons.injEq] at hlocations
      rw [List.length_cons] at hlimit
      obtain ⟨next, hnext, hrest⟩ := hpath.of_cons
      have hhttp : next.IsHttp := hrest.isHttp
      obtain ⟨r, hr, hredirect⟩ := exists_of_location? hlocations.1
      obtain ⟨hfetched, hunread⟩ := fetched_of_moved hr (hredirect _ _ hnext hhttp.2)
        (by omega) (reaches_of_isHttp hctx hhttp) (redirects ++ rest)
      have honward : (x.onward next).redirects + locations.length ≤ redirectLimit := by
        rw [onward_redirects]
        omega
      obtain ⟨passed, y, hleads, hy, hleft⟩ := ih hlocations.2 hrest honward
      refine ⟨x.request.redirected next :: passed, y, hleads.cons hnext, ?_, ?_⟩
      · rw [List.cons_append, hfetched, hy]
        rfl
      · rw [List.cons_append, hunread, hleft]

/-- One redirect too many is not followed. -/
theorem fetched_of_limit (hlocation : location? bytes = some location)
    (hpath : x.request.url.IsHttpAlong (location :: locations)) (hlimit : redirectLimit ≤ x.redirects)
    (rest : List (List UInt8)) :
    x.fetched ctx (bytes :: rest)
        = ⟨.error (.transport (.redirectLimit x.request.url.withoutUserInfo)), []⟩ ∧
      x.unread ctx (bytes :: rest) = rest := by
  obtain ⟨next, hnext, hrest⟩ := hpath.of_cons
  obtain ⟨r, hr, hredirect⟩ := exists_of_location? hlocation
  have hreceive : x.receive ctx bytes
      = .fail (.transport (.redirectLimit x.request.url.withoutUserInfo)) :=
    (receive_of_redirect hr (hredirect _ _ hnext hrest.isHttp.2)).trans (follow_of_limit hlimit)
  exact fetched_of_fail hreceive rest

end Exchange

/-! ## Whole fetches -/

namespace Source

variable {ctx : Context} {s : Source} {url : String} {u : Url} {bytes : List UInt8} {r : Response}
variable {redirects : List (List UInt8)} {locations : List (List Char)}

theorem hasPlainUserInfo_of_resolve (hs : s = absolute ∨ ∃ base, ofBase base = .ok s)
    (hu : s.resolve url = .ok u) : u.HasPlainUserInfo := by
  have hnone : ∀ b : Url, none = some b → b.HasPlainUserInfo := fun _ h => nomatch h
  obtain ⟨base, hbase, hparse⟩ := exists_parse_of_resolve hs hu
  refine Url.parse_yields (fun b hb => ?_) _ _ hparse
  obtain ⟨text, hread⟩ := hbase b hb
  exact Url.parse_yields hnone _ _ hread

/-- The first request is for the URL itself, or has its user information in the header. -/
theorem first_url_isOrLacks (u : Url) : (Request.first u).url.IsOrLacksUserInfo u := by
  rcases Request.first_cases u with ⟨c, -, hfirst⟩ | ⟨-, hfirst⟩
  · rw [hfirst]
    exact Or.inr rfl
  · rw [hfirst]
    exact Or.inl rfl

theorem result_of_isAnswered (hr : Response.parse? bytes = some r)
    (h : (s.fetch ctx url [bytes]).IsAnswered) :
    (s.fetch ctx url [bytes]).result = Exchange.resultOf ctx r := by
  have houtcome := (course_fetch ctx s url [bytes]).outcome
  generalize s.fetch ctx url [bytes] = f, s.unread ctx url [bytes] = left at h houtcome ⊢
  rcases houtcome with ⟨reason, -, rfl, -⟩
    | ⟨u, cause, -, hresult, -⟩ | ⟨u, earlier, last, r', -, hresponses, hr', hresult, -⟩
  · simp [Fetched.IsAnswered] at h
  · simp [hresult, Fetched.IsAnswered] at h
  · cases earlier with
    | nil =>
      cases hresponses
      cases hr.symm.trans hr'
      exact hresult
    | cons first earlier => simp at hresponses

theorem requests_length_le (ctx : Context) (s : Source) (url : String)
    (responses : List (List UInt8)) :
    (s.fetch ctx url responses).trace.requests.length ≤ Exchange.redirectLimit + 1 := by
  have hcourse := course_fetch ctx s url responses
  generalize s.fetch ctx url responses = f, s.unread ctx url responses = left at hcourse ⊢
  cases hcourse with
  | unresolved he => exact Nat.zero_le _
  | unsent hu => exact Nat.zero_le _
  | sent hu hcourse =>
    have hmore := hcourse.requests_length_le (Nat.zero_le _)
    exact Nat.succ_le_succ ((Nat.le_add_left _ _).trans hmore)

/-- A fetch goes as far as the redirects lead. -/
theorem fetch_of_redirects (hctx : ctx.ReachesHttp) (hu : s.resolve url = .ok u)
    (hlocations : redirects.map location? = locations.map some)
    (hpath : (Request.first u).url.IsHttpAlong locations)
    (hlimit : locations.length ≤ Exchange.redirectLimit) (rest : List (List UInt8)) :
    ∃ passed y, (Exchange.first url u).LeadsTo locations passed y ∧
      s.fetch ctx url (redirects ++ rest)
        = ⟨(y.fetched ctx rest).result,
          .request (Request.first u) :: (passed.map .request ++ (y.fetched ctx rest).trace)⟩ ∧
      s.unread ctx url (redirects ++ rest) = y.unread ctx rest := by
  have hfirst : (Request.first u).url.IsHttp := hpath.isHttp
  obtain ⟨hfetch, hunread⟩ :=
    fetch_of_start (start_of_reaches hu hfirst.2 (Exchange.reaches_of_isHttp hctx hfirst)) (redirects ++ rest)
  have hlimit' : (Exchange.first url u).redirects + locations.length ≤ Exchange.redirectLimit :=
    (Nat.zero_add _).trans_le hlimit
  obtain ⟨passed, y, hleads, hy, hleft⟩ :=
    Exchange.fetched_of_redirects (x := Exchange.first url u) hctx hlocations hpath hlimit' rest
  refine ⟨passed, y, hleads, ?_, hunread.trans hleft⟩
  rw [hfetch, hy]

/-- A fetch goes no further than it may. -/
theorem fetch_of_limit {location : List Char} {further : List (List Char)} (hctx : ctx.ReachesHttp)
    (hu : s.resolve url = .ok u) (hlocations : redirects.map location? = locations.map some)
    (hlocation : location? bytes = some location)
    (hpath : (Request.first u).url.IsHttpAlong (locations ++ location :: further))
    (hlimit : locations.length = Exchange.redirectLimit) (rest : List (List UInt8)) :
    (∃ v, (s.fetch ctx url (redirects ++ bytes :: rest)).result
        = .error (.transport (.redirectLimit v))) ∧
      (s.fetch ctx url (redirects ++ bytes :: rest)).trace.requests.length
        = Exchange.redirectLimit + 1 ∧
      (s.fetch ctx url (redirects ++ bytes :: rest)).trace.events = [] ∧
      s.unread ctx url (redirects ++ bytes :: rest) = rest := by
  obtain ⟨passed, y, hleads, hfetch, hunread⟩ :=
    fetch_of_redirects hctx hu hlocations hpath.of_append_left hlimit.le (bytes :: rest)
  have hy : Exchange.redirectLimit ≤ y.redirects := by
    rw [hleads.redirects, hlimit]
    exact Nat.le_add_left _ _
  obtain ⟨hstop, hleft⟩ :=
    Exchange.fetched_of_limit hlocation (hpath.of_append_right hleads.url) hy rest
  rw [hstop] at hfetch
  rw [hfetch]
  refine ⟨⟨_, rfl⟩, ?_, ?_, hunread.trans hleft⟩
  · rw [List.append_nil, Trace.requests_cons_request, Trace.requests_map_request, List.length_cons,
      hleads.length, hlimit]
  · rw [List.append_nil, Trace.events_cons_request, Trace.events_map_request]

/-- Whether the requests of a fetch are those for a URL and for where locations lead from it, one after
the other. User information of the URL counts for the first request only, and not in its URL. -/
def Fetched.AsksAlong (f : Fetched) (u : Url) (locations : List (List Char)) : Prop :=
  f.trace.requests.length = locations.length + 1 ∧
    ∀ i ≤ locations.length, ∃ q v, f.trace.requests[i]? = some q ∧
      u.joinAll (locations.take i) = some v ∧ q.url.IsOrLacksUserInfo v ∧
      (Request.first u).url.joinAll (locations.take i) = some q.url

theorem asksAlong_of_leadsTo {y : Exchange} {passed : List Request} {f : Fetched}
    (hpath : u.IsHttpAlong locations)
    (hleads : (Exchange.first url u).LeadsTo locations passed y)
    (hrequests : f.trace.requests = Request.first u :: passed) : f.AsksAlong u locations := by
  refine ⟨?_, fun i hi => ?_⟩
  · rw [hrequests, List.length_cons, hleads.length]
  · obtain ⟨q, hq, hurl⟩ := hleads.passes i hi
    obtain ⟨v, hv, -⟩ := hpath i hi
    obtain ⟨w, hw, hlacks⟩ := Url.exists_joinAll_of_lacks (first_url_isOrLacks u) hv
    have hsame : w = q.url := Option.some.inj (hw.symm.trans hurl)
    rw [hsame] at hlacks
    rw [hrequests]
    exact ⟨q, v, hq, hv, hlacks, hurl⟩

/--
**A fetch follows ten redirects and comes to what the last URL gives.**

What it comes to is what the final response makes of it, as if the last URL had been asked for at once.
The eleventh redirect is the end, whatever comes behind it; so no fetch sends more than eleven requests.
-/
theorem fetch_redirected (hctx : ctx.ReachesHttp) (hs : s = absolute ∨ ∃ base, ofBase base = .ok s)
    (hu : s.resolve url = .ok u) (hlocations : redirects.map location? = locations.map some)
    (hpath : u.IsHttpAlong locations) :
    (redirects.length ≤ 10 → ∀ bytes more r, Response.parse? bytes = some r →
      r.status ∉ [301, 302, 303, 307, 308] →
      (s.fetch ctx url (redirects ++ bytes :: more)).AsksAlong u locations ∧
      s.unread ctx url (redirects ++ bytes :: more) = more ∧
      (s.fetch ctx url (redirects ++ bytes :: more)).result = Exchange.resultOf ctx r ∧
      (s.fetch ctx url (redirects ++ bytes :: more)).trace.events = [.fetched r.status url] ∧
      ∀ (direct : Source) (last : Url), u.joinAll locations = some last →
        (direct.fetch ctx (String.ofList last.toText) [bytes]).IsAnswered →
        (s.fetch ctx url (redirects ++ bytes :: more)).result
          = (direct.fetch ctx (String.ofList last.toText) [bytes]).result) ∧
    (11 ≤ redirects.length → ∀ more,
      (∃ v, (s.fetch ctx url (redirects ++ more)).result = .error (.transport (.redirectLimit v))) ∧
      (s.fetch ctx url (redirects ++ more)).trace.requests.length = 11 ∧
      (s.fetch ctx url (redirects ++ more)).trace.events = [] ∧
      s.unread ctx url (redirects ++ more) = (redirects ++ more).drop 11) ∧
    ∀ (ctx' : Context) (s' : Source) (url' : String) (responses : List (List UInt8)),
      (s'.fetch ctx' url' responses).trace.requests.length ≤ 11 := by
  have hlength : redirects.length = locations.length := by
    have hmap := congrArg List.length hlocations
    rwa [List.length_map, List.length_map] at hmap
  have hfirst : (Request.first u).url.IsHttpAlong locations :=
    hpath.of_lacks (hasPlainUserInfo_of_resolve hs hu) (first_url_isOrLacks u)
  refine ⟨fun hfew bytes more r hr hstatus => ?_, fun hmany more => ?_, requests_length_le⟩
  · obtain ⟨passed, y, hleads, hfetch, hunread⟩ :=
      fetch_of_redirects hctx hu hlocations hfirst (hlength ▸ hfew) (bytes :: more)
    have hstay : Exchange.redirect? y.request.url r = none := Exchange.redirect?_of_status _ hstatus
    obtain ⟨hfinal, hleft⟩ : y.fetched ctx (bytes :: more) = _ ∧ y.unread ctx (bytes :: more) = more :=
      Exchange.fetched_of_final hr hstay more
    have hended : s.fetch ctx url (redirects ++ bytes :: more)
        = ⟨Exchange.resultOf ctx r,
          .request (Request.first u) :: (passed.map .request ++ [.event (.fetched r.status url)])⟩ := by
      rw [hfetch, hfinal, hleads.given]
      rfl
    have hresult : (s.fetch ctx url (redirects ++ bytes :: more)).result = Exchange.resultOf ctx r := by
      rw [hended]
    refine ⟨asksAlong_of_leadsTo hpath hleads ?_, hunread.trans hleft, hresult, ?_, ?_⟩
    · rw [hended, Trace.requests_cons_request, Trace.requests_append, Trace.requests_map_request]
      exact congrArg (_ :: ·) (List.append_nil passed)
    · rw [hended, Trace.events_cons_request, Trace.events_append, Trace.events_map_request]
      rfl
    intro direct last _ hanswered
    exact hresult.trans (result_of_isAnswered hr hanswered).symm
  · -- the first ten are followed, and the eleventh is the end
    obtain ⟨eleventh, after, hdrop⟩ := List.exists_cons_of_length_pos
      (by rw [List.length_drop]; omega : 0 < (redirects.drop 10).length)
    obtain ⟨location, further, hdrop'⟩ := List.exists_cons_of_length_pos
      (by rw [List.length_drop]; omega : 0 < (locations.drop 10).length)
    have hten : (redirects.take 10).map location? = (locations.take 10).map some := by
      rw [List.map_take, List.map_take, hlocations]
    have hrest : (redirects.drop 10).map location? = (locations.drop 10).map some := by
      rw [List.map_drop, List.map_drop, hlocations]
    rw [hdrop, hdrop', List.map_cons, List.map_cons, List.cons.injEq] at hrest
    have hsplit : redirects ++ more = redirects.take 10 ++ eleventh :: (after ++ more) := by
      rw [← List.cons_append, ← hdrop, ← List.append_assoc, List.take_append_drop]
    rw [← List.take_append_drop 10 locations, hdrop'] at hfirst
    obtain ⟨hresult, hrequests, hevents, hleft⟩ := fetch_of_limit hctx hu hten hrest.1 hfirst
      (by rw [List.length_take, ← hlength, Nat.min_eq_left (by omega)]; rfl) (after ++ more)
    rw [hsplit]
    refine ⟨hresult, hrequests, hevents, hleft.trans ?_⟩
    have heleven : (redirects.take 10 ++ [eleventh]).length = 11 := by
      rw [List.length_append, List.length_take, Nat.min_eq_left (by omega), List.length_singleton]
    rw [List.append_cons, ← heleven, List.drop_left]

/-- The URLs `http://u@h.test/a` and `http://u@h.test/b`. -/
def asked : Url :=
  { scheme := "http".toList
    authority := some
      { username := "u".toList, password := none, host := some (.domain "h.test".toList), port := none }
    path := .segments ["a".toList]
    query := none
    fragment := none }
def beside : Url := { asked with path := .segments ["b".toList] }

/-- A response that leads from the one to the other, and a final one. -/
def movedBeside : List UInt8 := Utf8.encode "HTTP/1.1 307 T\r\nLocation: b\r\n\r\n".toList
def missing : List UInt8 := Utf8.encode "HTTP/1.1 404 N\r\n\r\n".toList

/-- One redirect, with a user name that is gone before it. -/
theorem fetch_redirected_once :
    Context.plain.ReachesHttp ∧ resolve .absolute "http://u@h.test/a" = .ok asked ∧
      [movedBeside].map location? = ["b".toList].map some ∧ asked.IsHttpAlong ["b".toList] ∧
      (fetch .plain .absolute "http://u@h.test/a" [movedBeside, missing]).AsksAlong asked ["b".toList] ∧
      (fetch .plain .absolute "http://u@h.test/a" [movedBeside, missing]).result
        = (fetch .plain .absolute "http://u@h.test/b" [missing]).result := by
  have hparse : Url.parse none "http://u@h.test/a".toList = .ok asked := by decide +kernel
  have hresolve : resolve .absolute "http://u@h.test/a" = .ok asked := by
    unfold resolve
    rw [hparse]
  have hctx : Context.plain.ReachesHttp := fun _ hu => decide_eq_true hu
  have hlocations : [movedBeside].map location? = ["b".toList].map some := by decide +kernel
  have hjoin : Url.parse (some asked) "b".toList = .ok beside := by decide +kernel
  have hpath : asked.IsHttpAlong ["b".toList] :=
    Url.isHttpAlong_cons ⟨rfl, by decide +kernel⟩ hjoin (Url.isHttpAlong_nil ⟨rfl, by decide +kernel⟩)
  have hmissing : Response.parse? missing = some ⟨404, [], .untilClose, []⟩ := by decide +kernel
  obtain ⟨hasks, -, -, -, hdirect⟩ := (fetch_redirected hctx (.inl rfl) hresolve hlocations hpath).1
    (by decide) missing [] ⟨404, [], .untilClose, []⟩ hmissing (by decide)
  have htext : String.ofList beside.toText = "http://u@h.test/b" := by decide +kernel
  have hresult : (fetch .plain .absolute "http://u@h.test/b" [missing]).result
      = .error (.httpStatus 404) := by decide +kernel
  have hsame := hdirect .absolute beside (Url.joinAll_cons_of_ok hjoin)
  rw [htext, List.singleton_append] at hsame
  rw [List.singleton_append] at hasks
  exact ⟨hctx, hresolve, hlocations, hpath, hasks, hsame (.inr (.inl ⟨404, hresult⟩))⟩

end Source

end FragmentFeed
