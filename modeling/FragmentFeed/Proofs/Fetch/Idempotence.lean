import FragmentFeed.Proofs.Fetch.WithinBase
import FragmentFeed.Proofs.Url.RoundTrip

/-!
# Resolving what has been resolved

The text of a resolved URL needs no base and resolves to that URL again, whatever the source
(`resolve_idempotent`): it is in the form that reading gives a URL, and in that form it is read as it is written.
-/

namespace FragmentFeed.Source

open Text

variable {s : Source} {url : String} {u : Url}

/--
**To resolve is idempotent, and what comes of it needs no base.**

Given is a URL that a text has been resolved to by some source. Its scheme is `http` or `https`, and its host is
an address or a name without a label that begins with `xn--`. Then every source resolves the text of that URL to
the same URL, with all its parts, whatever base it has itself.
-/
theorem resolve_idempotent (hs : s = absolute ∨ ∃ base, ofBase base = .ok s) (hu : s.resolve url = .ok u)
    (hscheme : u.scheme = "http".toList ∨ u.scheme = "https".toList)
    (hhost : ∀ name, u.host = some (.domain name) → ∀ label ∈ pieces (· = '.') name, ¬ "xn--".toList <+: label)
    (s' : Source) : s'.resolve (String.ofList u.toText) = .ok u := by
  have hkind : u.kind = .special := by
    rcases hscheme with h | h
    · rw [Url.kind, h]
      decide
    · rw [Url.kind, h]
      decide
  have hcanonical : u.IsCanonical := isCanonical_of_resolve hs hu hkind
  obtain ⟨a, ha, hauthority⟩ := hcanonical.authority
  obtain ⟨host, text, hsome, hparse⟩ := hauthority.host
  have hback : host.IsReadBack := by
    refine Host.isReadBack_of_parse hparse ?_
    rintro name rfl label hlabel
    have hname : u.host = some (.domain name) := by rw [Url.host, ha, Option.bind_some, hsome]
    exact Bool.eq_false_iff.mpr fun hmark => hhost name hname label hlabel (List.isPrefixOf_iff_prefix.mp hmark)
  have hread : Url.parse none (String.ofList u.toText).toList = .ok u := by
    rw [String.toList_ofList]
    exact Url.parse_toText hcanonical ha ⟨host, hsome, hback⟩
  have hrelative : Url.parse none (String.ofList u.toText).toList ≠ .error .relativeWithoutBase := by
    rw [hread]
    intro herror
    cases herror
  rw [resolve_of_ne_relative s' hrelative, Url.read_of_ok hread]

/-- The URL `http://u:p@b.test:81/%C3%A9%20x/?a%27#b%3E`, with a path, a query and a fragment that are encoded. -/
def encoded : Url :=
  { guarded with
    path := .segments ["%C3%A9%20x".toList, []]
    query := some "a%27".toList
    fragment := some "b%3E".toList }

/-- A text full of what is encoded or walked, resolved again elsewhere. -/
theorem resolve_idempotent_encoded :
    ofBase "http://u:p@b.test:81/d/e" = .ok ⟨some guarded⟩ ∧
      resolve ⟨some guarded⟩ "../é x/./?a'#b>" = .ok encoded ∧
      resolve ⟨some directory⟩ "http://u:p@b.test:81/%C3%A9%20x/?a%27#b%3E" = .ok encoded := by
  have hs : ofBase "http://u:p@b.test:81/d/e" = .ok ⟨some guarded⟩ := ofBase_of_parse (by decide +kernel)
  have hu : resolve ⟨some guarded⟩ "../é x/./?a'#b>" = .ok encoded := by decide +kernel
  have htext : String.ofList encoded.toText = "http://u:p@b.test:81/%C3%A9%20x/?a%27#b%3E" := by decide +kernel
  refine ⟨hs, hu, ?_⟩
  rw [← htext]
  refine resolve_idempotent (Or.inr ⟨_, hs⟩) hu (Or.inl rfl) ?_ _
  rintro name ⟨⟩
  decide

end FragmentFeed.Source
