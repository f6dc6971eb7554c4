import FragmentFeed.Proofs.Text.Pieces
import FragmentFeed.Url.Parser

/-!
# Schemes and the base

A text with a scheme of its own is read without a look at the base (`parse_eq_parse_none`), unless it
repeats the special scheme of the base and fewer than two slashes follow (`RepeatsScheme`).
-/

namespace FragmentFeed.Url

open Text

/-! ## Cleaning -/

/-- A text without the controls and spaces in front and the tabs and line ends inside. -/
def stripped (text : List Char) : List Char := (text.dropWhile isBlank).filter (!isLineSpace ·)

/-- What stands at the end of a text and does not count is blank. -/
theorem stripped_eq_clean_append (text : List Char) :
    ∃ tail, stripped text = clean text ++ tail ∧ ∀ c ∈ tail, isBlank c = true := by
  obtain ⟨tail, htext, htail⟩ := dropWhile_eq_trim_append isBlank text
  refine ⟨tail.filter (!isLineSpace ·), ?_, fun c hc => htail c (List.mem_filter.mp hc).1⟩
  rw [stripped, htext, List.filter_append]
  rfl

theorem not_isSlash_of_isBlank {c : Char} (h : isBlank c = true) : isSlash c = false := by
  have hslash : isBlank '/' = false := by decide
  have hbackslash : isBlank '\\' = false := by decide
  refine Bool.eq_false_iff.mpr fun hc => ?_
  rcases Bool.or_eq_true_iff.mp hc with hc | hc
  · rw [of_decide_eq_true hc, hslash] at h
    cases h
  · rw [of_decide_eq_true hc, hbackslash] at h
    cases h

/-- Blanks at the end are no slashes. -/
theorem takeWhile_isSlash_append {rest tail : List Char} (h : ∀ c ∈ tail, isBlank c = true) :
    (rest ++ tail).takeWhile isSlash = rest.takeWhile isSlash := by
  induction rest with
  | nil =>
    cases tail with
    | nil => rfl
    | cons c tail =>
      have hc : isSlash c = false := not_isSlash_of_isBlank (h c (by simp))
      simp [hc]
  | cons c rest ih => simp only [List.cons_append, List.takeWhile_cons, ih]

/-! ## The scheme of a text -/

theorem splitScheme_append {name rest : List Char} (hname : ∀ c ∈ name, isSchemeChar c = true)
    (hhead : name.head?.any Char.isAlpha = true) :
    splitScheme (name ++ ':' :: rest) = some (name.map Char.toLower, rest) := by
  have hcolon : isSchemeChar ':' = false := by decide
  have hdrop : (name ++ ':' :: rest).dropWhile isSchemeChar = ':' :: rest := by
    rw [List.dropWhile_append_of_pos hname, List.dropWhile_cons_of_neg (by simp [hcolon])]
  have htake : (name ++ ':' :: rest).takeWhile isSchemeChar = name := by
    rw [List.takeWhile_append_of_pos hname, List.takeWhile_cons_of_neg (by simp [hcolon]),
      List.append_nil]
  have hhead' : (name ++ ':' :: rest).head?.any Char.isAlpha = true := by
    cases name with
    | nil => simp at hhead
    | cons c name => exact hhead
  unfold splitScheme
  simp only [hdrop, htake, hhead', if_true]

theorem exists_of_splitScheme {input scheme rest : List Char}
    (h : splitScheme input = some (scheme, rest)) :
    ∃ name, input = name ++ ':' :: rest ∧ name.map Char.toLower = scheme := by
  have hinput := List.takeWhile_append_dropWhile (p := isSchemeChar) (l := input)
  unfold splitScheme at h
  split at h
  · rename_i rest' hdrop
    split at h
    · cases h
      refine ⟨input.takeWhile isSchemeChar, ?_, rfl⟩
      rw [← hdrop, hinput]
    · cases h
  · cases h

/-- Whatever has a letter for its lower case is one. -/
theorem isAlpha_of_toLower {c : Char} (h : c.toLower.isAlpha = true) : c.isAlpha = true := by
  unfold Char.toLower at h
  split at h
  · rename_i hupper
    have hletter : c.isUpper = true := decide_eq_true hupper
    show (c.isUpper || c.isLower) = true
    rw [hletter, Bool.true_or]
  · exact h

/-- The special schemes are words. -/
theorem isAlpha_of_isSpecial {scheme : List Char} (h : (SchemeKind.of scheme).isSpecial = true) :
    scheme ≠ [] ∧ ∀ c ∈ scheme, c.isAlpha = true := by
  have hword : scheme.isEmpty = false ∧ scheme.all Char.isAlpha = true := by
    unfold SchemeKind.of at h
    split at h
    · rename_i hfile
      rw [hfile]
      decide
    · split at h
      · rename_i hspecial
        rcases hspecial with rfl | rfl | rfl | rfl | rfl <;> decide
      · simp [SchemeKind.isSpecial] at h
  exact ⟨List.isEmpty_eq_false_iff.mp hword.1, List.all_eq_true.mp hword.2⟩

/-- A special scheme is found in whichever case it is written. -/
theorem splitScheme_of_isSpecial {name rest scheme : List Char}
    (hscheme : (SchemeKind.of scheme).isSpecial = true) (hname : name.map Char.toLower = scheme) :
    splitScheme (name ++ ':' :: rest) = some (scheme, rest) := by
  obtain ⟨hne, halpha⟩ := isAlpha_of_isSpecial hscheme
  have hletters : ∀ c ∈ name, c.isAlpha = true := by
    intro c hc
    have hlower : c.toLower ∈ scheme := by
      rw [← hname]
      exact List.mem_map_of_mem hc
    exact isAlpha_of_toLower (halpha _ hlower)
  have hchars : ∀ c ∈ name, isSchemeChar c = true := by
    intro c hc
    simp [isSchemeChar, Char.isAlphanum, hletters c hc]
  have hhead : name.head?.any Char.isAlpha = true := by
    cases name with
    | nil => exact absurd hname.symm hne
    | cons c name => exact hletters c (by simp)
  rw [splitScheme_append hchars hhead, hname]

/-! ## Texts that repeat the scheme of the base -/

/-- Whether a text repeats the special scheme of a base, with fewer than two slashes behind it. -/
def RepeatsScheme (b : Url) (text : List Char) : Prop :=
  b.kind.isSpecial = true ∧
    ∃ name rest, stripped text = name ++ ':' :: rest ∧ name.map Char.toLower = b.scheme ∧
      (rest.takeWhile isSlash).length < 2

/-- What the parser makes of such a text. -/
theorem repeatsScheme_iff {b : Url} {text : List Char} :
    RepeatsScheme b text ↔ b.kind.isSpecial = true ∧
      ∃ rest, splitScheme (clean text) = some (b.scheme, rest) ∧
        (rest.takeWhile isSlash).length < 2 := by
  obtain ⟨tail, htail, hblank⟩ := stripped_eq_clean_append text
  unfold RepeatsScheme
  rw [htail]
  refine and_congr_right fun hkind => ⟨?_, ?_⟩
  · rintro ⟨name, rest, heq, hname, hslashes⟩
    -- the colon is not blank, so it stands in what counts
    rcases List.append_eq_append_iff.mp heq with ⟨more, rfl, hmore⟩ | ⟨more, hclean, hmore⟩
    · have hcolon : isBlank ':' = true := hblank ':' (by rw [hmore]; simp)
      exact absurd hcolon (by decide)
    · cases more with
      | nil =>
        have hcolon : isBlank ':' = true := hblank ':' (by rw [← List.nil_append tail, ← hmore]; simp)
        exact absurd hcolon (by decide)
      | cons c more =>
        rw [List.cons_append] at hmore
        obtain ⟨rfl, rfl⟩ := List.cons_eq_cons.mp hmore
        rw [takeWhile_isSlash_append hblank] at hslashes
        exact ⟨more, by rw [hclean]; exact splitScheme_of_isSpecial hkind hname, hslashes⟩
  · rintro ⟨rest, hsplit, hslashes⟩
    obtain ⟨name, hclean, hname⟩ := exists_of_splitScheme hsplit
    refine ⟨name, rest ++ tail, ?_, hname, ?_⟩
    · rw [hclean, List.append_assoc, List.cons_append]
    · rw [takeWhile_isSlash_append hblank]
      exact hslashes

/-! ## Absolute texts -/

/-- A base that has another scheme does not count. -/
theorem filter_scheme_eq_none {b : Url} {scheme : List Char} (h : b.scheme ≠ scheme) :
    (some b).filter (·.scheme = scheme) = none := by
  simp [h]

/-- What is counted as two slashes or more begins with two. -/
theorem exists_slashes {input : List Char} (h : 2 ≤ (input.takeWhile isSlash).length) :
    ∃ c d rest, input = c :: d :: rest ∧ isSlash c = true ∧ isSlash d = true := by
  match input, h with
  | [], h => simp at h
  | [c], h =>
    have hle : ([c].takeWhile isSlash).length ≤ 1 := (List.takeWhile_prefix isSlash).length_le
    omega
  | c :: d :: rest, h =>
    by_cases hc : isSlash c = true
    · by_cases hd : isSlash d = true
      · exact ⟨c, d, rest, rfl, hc, hd⟩
      · simp [hc, hd] at h
    · simp [hc] at h

/-- Behind two slashes a `file` URL has no use for a base. -/
theorem parseFile_of_slashes {base : Option Url} {input : List Char}
    (h : 2 ≤ (input.takeWhile isSlash).length) : parseFile base input = parseFile none input := by
  obtain ⟨c, d, rest, rfl, hc, hd⟩ := exists_slashes h
  simp only [parseFile, hc, hd, if_true]

theorem parseScheme_eq_parseScheme_none {b : Url} {scheme rest : List Char}
    (h : b.scheme = scheme → b.kind.isSpecial = true → 2 ≤ (rest.takeWhile isSlash).length) :
    parseScheme (some b) scheme rest = parseScheme none scheme rest := by
  by_cases hscheme : b.scheme = scheme
  · subst hscheme
    have hfilter : (some b).filter (fun v => decide (v.scheme = b.scheme)) = some b := by simp
    unfold parseScheme
    rw [hfilter]
    cases hkind : SchemeKind.of b.scheme with
    | file => exact parseFile_of_slashes (h rfl (by simp [kind, hkind, SchemeKind.isSpecial]))
    | special =>
      have hslashes := h rfl (by simp [kind, hkind, SchemeKind.isSpecial])
      exact if_neg (Nat.not_lt.mpr hslashes)
    | other => rfl
  · unfold parseScheme
    rw [filter_scheme_eq_none hscheme]
    rfl

/-- **A text with a scheme is read without a look at the base**, unless it repeats that of the base. -/
theorem parse_eq_parse_none {b : Url} {text scheme rest : List Char}
    (hsplit : splitScheme (clean text) = some (scheme, rest)) (h : ¬ RepeatsScheme b text) :
    parse (some b) text = parse none text := by
  unfold parse
  simp only [hsplit]
  refine parseScheme_eq_parseScheme_none fun hscheme hkind => ?_
  subst hscheme
  rw [repeatsScheme_iff] at h
  refine Nat.not_lt.mp fun hslashes => h ⟨hkind, rest, hsplit, hslashes⟩

end FragmentFeed.Url
