import FragmentFeed.Proofs.Http.Request
import FragmentFeed.Proofs.Http.Target
import FragmentFeed.Proofs.Text.Base64
import FragmentFeed.Proofs.Url.Canonical

/-!
# The characters of a request

A request for a URL that can be written as a request URI is made of visible characters of ASCII, apart from
the blanks that are put there: the authority because it is looked through before (`isWord_of_isAuthority`),
path and query because they are encoded (`isWord_toText`), and credentials because Base64 has no others
(`Base64.isVisible_of_mem_encode`).
-/

namespace FragmentFeed

open Text

namespace Http

variable {c : Char} {cs ds : List Char} {u : Url} {a : Authority}

/-- Whether a text is made of visible characters other than `#`. -/
def IsWord (cs : List Char) : Prop := ∀ c ∈ cs, IsVisible c ∧ c ≠ '#'

instance (cs : List Char) : Decidable (IsWord cs) := List.decidableBAll _ cs

theorem isWord_nil : IsWord [] := List.forall_mem_nil _

theorem isWord_cons : IsWord (c :: cs) ↔ (IsVisible c ∧ c ≠ '#') ∧ IsWord cs := List.forall_mem_cons

theorem isWord_append : IsWord (cs ++ ds) ↔ IsWord cs ∧ IsWord ds := List.forall_mem_append

/-! ## Authorities -/

theorem isVisible_of_isAuthorityChar (h : isAuthorityChar c = true) : IsVisible c ∧ c ≠ '#' := by
  rcases Bool.or_eq_true_iff.mp h with halnum | hmark
  · rw [isAlphanum_iff, isAlpha_iff] at halnum
    refine ⟨⟨by omega, by omega⟩, ?_⟩
    rintro rfl
    simp at halnum
  · have hall : IsWord ['!', '$', '&', '\'', '(', ')', '*', '+', ',', '-', '.', ':', ';', '=', '@', '[', ']', '_',
        '~'] := by decide
    exact hall c (List.contains_iff_mem.mp hmark)

/-- Whatever an authority passes over is visible. -/
theorem isWord_of_authorityFrom {s : Seen} (h : authorityFrom s cs = true) : IsWord cs := by
  induction cs generalizing s with
  | nil => exact isWord_nil
  | cons c rest ih =>
    rw [authorityFrom] at h
    split at h
    · rename_i hcolon
      exact isWord_cons.mpr ⟨by subst hcolon; decide, ih h⟩
    · split at h
      · rename_i hopen
        exact isWord_cons.mpr ⟨by subst hopen; decide, ih (Bool.and_eq_true_iff.mp h).2⟩
      · split at h
        · rename_i hclose
          exact isWord_cons.mpr ⟨by subst hclose; decide, ih (Bool.and_eq_true_iff.mp h).2⟩
        · split at h
          · rename_i hat
            exact isWord_cons.mpr ⟨by subst hat; decide, ih h⟩
          · split at h
            · rename_i hpercent
              exact isWord_cons.mpr ⟨by subst hpercent; decide, ih h⟩
            · obtain ⟨hc, hrest⟩ := Bool.and_eq_true_iff.mp h
              exact isWord_cons.mpr ⟨isVisible_of_isAuthorityChar hc, ih hrest⟩

theorem isWord_of_isAuthority (h : isAuthority cs = true) : IsWord cs :=
  isWord_of_authorityFrom (Bool.and_eq_true_iff.mp h).2

theorem isWord_authority (ha : u.authority = some a) (huri : isUri u = true) :
    IsWord (a.hostText ++ a.portText) ∧ IsWord a.toText := by
  have hword : IsWord a.toText := by
    unfold isUri at huri
    rw [ha] at huri
    exact isWord_of_isAuthority (Bool.and_eq_true_iff.mp huri).2
  refine ⟨?_, hword⟩
  rw [Authority.toText, List.append_assoc] at hword
  exact (isWord_append.mp hword).2

/-! ## Whole URLs -/

/-- **A URL without a fragment is one word**, if its authority is. -/
theorem isWord_toText (hu : u.IsCanonical) (ha : u.authority = some a) (hword : IsWord a.toText)
    (hfragment : u.fragment = none) : IsWord u.toText := by
  have hfragmentText : u.fragmentText = [] := by
    unfold Url.fragmentText
    rw [hfragment]
  rw [Url.toText_of_some ha, hfragmentText, List.append_nil, List.append_assoc, List.append_assoc]
  have hmarks : IsWord [':', '/', '/'] := by decide
  have hrest := isWord_append.mpr ⟨hu.path.isVisible, Url.isVisible_queryText hu.query⟩
  exact isWord_append.mpr
    ⟨Url.isVisible_scheme hu.special, isWord_append.mpr ⟨isWord_append.mpr ⟨hmarks, hword⟩, hrest⟩⟩

/-! ## Requests -/

/-- Whether a text can be the target of a request to a proxy, which carries those of `http`. -/
structure IsTarget (target : List Char) : Prop where
  http : "http://".toList <+: target
  word : IsWord target

instance (target : List Char) : Decidable (IsTarget target) :=
  decidable_of_iff ("http://".toList <+: target ∧ IsWord target)
    ⟨fun h => ⟨h.1, h.2⟩, fun h => ⟨h.http, h.word⟩⟩

/-- Whether a URL is one that a request of `http` is made for. -/
structure IsAskedFor (u : Url) : Prop where
  canonical : u.IsCanonical
  uri : isUri u = true
  http : u.scheme = "http".toList

namespace IsAskedFor

theorem isTarget (h : IsAskedFor u) : IsTarget (targetText true u) := by
  obtain ⟨a, ha, -⟩ := h.canonical.authority
  have hword := (isWord_authority ha h.uri).2
  rw [targetText, if_pos ⟨rfl, h.http⟩]
  refine ⟨?_, isWord_toText h.canonical.withoutFragment ha hword rfl⟩
  rw [Url.toText_of_some (u := u.withoutFragment) ha]
  show "http://".toList <+: u.scheme ++ _ ++ _ ++ _ ++ _
  rw [h.http]
  exact ⟨_, by simp only [List.append_assoc, List.cons_append]; rfl⟩

theorem isWord_hostText (h : IsAskedFor u) : IsWord (hostText u) := by
  obtain ⟨a, ha, -⟩ := h.canonical.authority
  unfold hostText
  rw [ha]
  exact (isWord_authority ha h.uri).1

theorem isWord_refererOf (h : IsAskedFor u) : IsWord (Request.refererOf u) := by
  obtain ⟨a, ha, -⟩ := h.canonical.authority
  refine isWord_toText (a := { a with username := [], password := none })
    h.canonical.withoutUserInfo.withoutFragment ?_ (isWord_authority ha h.uri).1 rfl
  show u.authority.map _ = _
  rw [ha]
  rfl

end IsAskedFor

/-- Whether a text is made of visible characters and blanks, so that there are no controls in it. -/
def IsPrinted (cs : List Char) : Prop := ∀ c ∈ cs, 0x20 ≤ c.toNat ∧ c.toNat ≤ 0x7E

instance (cs : List Char) : Decidable (IsPrinted cs) := List.decidableBAll _ cs

theorem isPrinted_of_isVisible (h : ∀ c ∈ cs, IsVisible c) : IsPrinted cs :=
  fun c hc => ⟨Nat.le_of_succ_le (h c hc).1, (h c hc).2⟩

theorem IsWord.isPrinted (h : IsWord cs) : IsPrinted cs := isPrinted_of_isVisible fun c hc => (h c hc).1

/-- Whether a request is one that is sent: for such a URL, and with credentials and a referer, if any, that come
from URLs. -/
structure Request.IsSent (q : Request) : Prop where
  url : IsAskedFor q.url
  authorization : ∀ value, q.authorization = some value → ∃ c : Credentials, value = c.headerValue
  referer : ∀ value, q.referer = some value → ∃ u, IsAskedFor u ∧ value = refererOf u

namespace Request

variable {q : Request} {name : String} {header : String × List Char}

theorem isPrinted_headerValue (credentials : Credentials) : IsPrinted credentials.headerValue := by
  have hname : IsPrinted "Basic ".toList := by decide
  exact List.forall_mem_append.mpr ⟨hname, isPrinted_of_isVisible Base64.isVisible_of_mem_encode⟩

theorem eq_of_mem_optionalHeader {value : Option (List Char)} (h : header ∈ optionalHeader name value) :
    value = some header.2 := by
  cases value with
  | none => cases h
  | some v =>
    obtain rfl := List.mem_singleton.mp h
    rfl

namespace IsSent

/-- **There is no control character in the headers of a request that is sent.** -/
theorem isPrinted (h : q.IsSent) : ∀ header ∈ q.headers, IsPrinted header.2 := by
  intro header hmem
  rw [headers, List.cons_append] at hmem
  rcases List.mem_cons.mp hmem with rfl | hmem
  · show IsPrinted "*/*".toList
    decide
  · rcases List.mem_append.mp hmem with hmem | hmem
    · obtain ⟨credentials, hvalue⟩ := h.authorization _ (eq_of_mem_optionalHeader hmem)
      rw [hvalue]
      exact isPrinted_headerValue credentials
    · rcases List.mem_cons.mp hmem with rfl | hmem
      · exact h.url.isWord_hostText.isPrinted
      · obtain ⟨u, hu, hvalue⟩ := h.referer _ (eq_of_mem_optionalHeader hmem)
        rw [hvalue]
        exact hu.isWord_refererOf.isPrinted

theorem first (hurl : IsAskedFor (Request.first u).url) : (Request.first u).IsSent := by
  refine ⟨hurl, fun value hvalue => ?_, fun value hvalue => ?_⟩
  · rcases first_cases u with ⟨c, -, hfirst⟩ | ⟨-, hfirst⟩
    · rw [hfirst] at hvalue
      exact ⟨c, (Option.some.inj hvalue).symm⟩
    · rw [hfirst] at hvalue
      cases hvalue
  · rw [first_referer] at hvalue
    cases hvalue

theorem redirected (h : q.IsSent) {next : Url} (hnext : IsAskedFor next) : (q.redirected next).IsSent := by
  refine ⟨hnext, fun value hvalue => ?_, ?_⟩
  · rw [Request.redirected] at hvalue
    dsimp only at hvalue
    split at hvalue
    · exact h.authorization value hvalue
    · cases hvalue
  · rintro value ⟨⟩
    exact ⟨q.url, h.url, rfl⟩

end IsSent

end Request

end Http

end FragmentFeed
