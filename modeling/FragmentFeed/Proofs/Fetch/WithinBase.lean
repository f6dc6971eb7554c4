import FragmentFeed.Proofs.Fetch.Resolution
import FragmentFeed.Proofs.Url.Rooted

/-!
# Staying within the base

A relative text that does not begin with two slashes cannot lead out of its base: not to another scheme,
user, host or port, and not above the root (`resolve_within_base`).
-/

namespace FragmentFeed.Source

open Text Url

/-- What counts of a text begins with two slashes only if all that stands behind its leading blanks does. -/
theorem not_slashes_clean {text : List Char}
    (h : ∀ c d rest, stripped text = c :: d :: rest → isSlash c = false ∨ isSlash d = false) :
    ∀ c d rest, clean text = c :: d :: rest → isSlash c = false ∨ isSlash d = false := by
  intro c d rest hclean
  obtain ⟨tail, htail, -⟩ := stripped_eq_clean_append text
  refine h c d (rest ++ tail) ?_
  rw [htail, hclean]
  rfl

/-- **A relative text stays within its base.** A base of `http` or `https` is given, and a text without a
scheme that does not begin, behind leading blanks and without tabs and line ends, with two slashes of either
kind. Then it resolves to a URL that has the scheme and the authority of the base, with user name, password,
host and port, and a path that begins with a slash. None of its segments stands for one dot or two, be the
dots written as they are or percent-encoded. -/
theorem resolve_within_base {base url : String} {b : Url} (hs : ofBase base = .ok ⟨some b⟩)
    (hscheme : b.scheme = "http".toList ∨ b.scheme = "https".toList)
    (hrelative : Url.parse none url.toList = .error .relativeWithoutBase)
    (hslashes : ∀ c d rest, stripped url.toList = c :: d :: rest → isSlash c = false ∨ isSlash d = false) :
    ∃ u, resolve ⟨some b⟩ url = .ok u ∧ u.scheme = b.scheme ∧ u.authority = b.authority ∧
      u.path.toText.head? = some '/' ∧
      ∀ segment ∈ pieces (· = '/') u.path.toText,
        Percent.decode segment ≠ Utf8.encode ['.'] ∧ Percent.decode segment ≠ Utf8.encode ['.', '.'] := by
  have hkind : b.kind = .special := by
    rcases hscheme with h | h
    · rw [kind, h]
      decide
    · rw [kind, h]
      decide
  obtain ⟨b', hb, hsource⟩ := eq_of_ofBase hs
  obtain rfl : b = b' := by
    cases hsource
    rfl
  have hsplit := (parse_eq_relativeWithoutBase_iff.mp hrelative).1
  obtain ⟨u, hu, huscheme, huauthority, hrooted⟩ :=
    parseReference_of_rooted hkind (rooted_of_parse hb hkind) (not_slashes_clean hslashes)
  have hread : parse (some b) url.toList = .ok u := by
    rw [parse]
    simp only [hsplit]
    exact hu
  refine ⟨u, ?_, huscheme, huauthority, hrooted.toText⟩
  rw [resolve_of_relative b hrelative, read_of_ok hread]

/-- A base with a user, a password and a port. -/
def guarded : Url :=
  { scheme := "http".toList
    authority := some
      { username := "u".toList, password := some "p".toList, host := some (.domain "b.test".toList), port := some 81 }
    path := .segments ["d".toList, "e".toList]
    query := none
    fragment := none }

/-- Dots, plain and encoded, more of them than there are segments, and slashes of both kinds. -/
theorem resolve_within_base_dots :
    ofBase "http://u:p@b.test:81/d/e" = .ok ⟨some guarded⟩ ∧
      Url.parse none " \\\t%2E.\\..//é/.%2e/x".toList = .error .relativeWithoutBase ∧
      ∃ u, resolve ⟨some guarded⟩ " \\\t%2E.\\..//é/.%2e/x" = .ok u ∧
        u.scheme = "http".toList ∧ u.authority = guarded.authority ∧ u.path.toText.head? = some '/' := by
  have hs : ofBase "http://u:p@b.test:81/d/e" = .ok ⟨some guarded⟩ :=
    ofBase_of_parse (by decide +kernel)
  have hrelative : Url.parse none " \\\t%2E.\\..//é/.%2e/x".toList = .error .relativeWithoutBase := by
    decide +kernel
  have hstripped : stripped " \\\t%2E.\\..//é/.%2e/x".toList = "\\%2E.\\..//é/.%2e/x".toList := by
    decide +kernel
  obtain ⟨u, hu, hscheme, hauthority, hhead, -⟩ := resolve_within_base hs (Or.inl rfl) hrelative (by
    intro c d rest h
    rw [hstripped] at h
    exact Or.inr (by rw [show d = '%' from (List.cons.inj (List.cons.inj h).2).1.symm]; rfl))
  exact ⟨hs, hrelative, u, hu, hscheme, hauthority, hhead⟩

end FragmentFeed.Source
