import FragmentFeed.Fetch.Source
import FragmentFeed.Proofs.Url.Canonical
import FragmentFeed.Proofs.Url.Relative
import FragmentFeed.Proofs.Url.Scheme

/-!
# Resolving against the base

To resolve a text is to read it as a reference into the base, although it is read without the base first
(`resolve_eq_read`). The two part ways only where a text repeats the special scheme of the base without
two slashes behind it: as a reference it would be relative, and resolved it is absolute.
-/

namespace FragmentFeed

namespace Url

/-- Reads a text as a URL, in a base or without one. What is wrong with it is told with the text. -/
def read (base : Option Url) (url : String) : Except FetchError Url :=
  (parse base url.toList).mapError fun e => .invalidUrl url e.message

variable {base : Option Url} {url : String} {u : Url} {e : ParseError}

theorem read_of_ok (h : parse base url.toList = .ok u) : read base url = .ok u := by
  rw [read, h]
  rfl

theorem read_of_error (h : parse base url.toList = .error e) :
    read base url = .error (.invalidUrl url e.message) := by
  rw [read, h]
  rfl

end Url

namespace Source

variable {base url : String} {s : Source} {b : Url}

theorem eq_of_ofBase (h : ofBase base = .ok s) :
    ∃ b, Url.parse none base.toList = .ok b ∧ s = ⟨some b⟩ := by
  unfold ofBase at h
  split at h
  · rename_i b hb
    cases h
    exact ⟨b, hb, rfl⟩
  · cases h

theorem ofBase_of_parse (h : Url.parse none base.toList = .ok b) : ofBase base = .ok ⟨some b⟩ := by
  unfold ofBase
  rw [h]

/-- What is resolved is read without a base, or in the base, which was read without one. -/
theorem exists_parse_of_resolve {url : String} {u : Url} (hs : s = absolute ∨ ∃ base, ofBase base = .ok s)
    (hu : s.resolve url = .ok u) :
    ∃ base, (∀ b, base = some b → ∃ text, Url.parse none text = .ok b) ∧ Url.parse base url.toList = .ok u := by
  unfold resolve at hu
  split at hu
  · rename_i v hv
    cases hu
    exact ⟨none, nofun, hv⟩
  · split at hu
    · cases hu
    · rename_i b hb
      split at hu
      · rename_i v hv
        cases hu
        refine ⟨some b, ?_, hv⟩
        rintro b' ⟨⟩
        rcases hs with rfl | ⟨base, hbase⟩
        · cases hb
        · obtain ⟨b', hb', rfl⟩ := eq_of_ofBase hbase
          cases hb
          exact ⟨base.toList, hb'⟩
      · cases hu
  · cases hu

/-- What is resolved to a special scheme is in its form. -/
theorem isCanonical_of_resolve {url : String} {u : Url} (hs : s = absolute ∨ ∃ base, ofBase base = .ok s)
    (hu : s.resolve url = .ok u) (hkind : u.kind = .special) : u.IsCanonical := by
  have hnone : ∀ b : Url, none = some b → b.kind = .special → b.IsCanonical := fun _ h => nomatch h
  obtain ⟨base, hbase, hparse⟩ := exists_parse_of_resolve hs hu
  refine Url.parse_yields_isCanonical (fun b hb hspecial => ?_) _ _ hparse hkind
  obtain ⟨text, hread⟩ := hbase b hb
  exact Url.parse_yields_isCanonical hnone _ _ hread hspecial

/-- What is not relative is read without the base. -/
theorem resolve_of_ne_relative (s : Source)
    (h : Url.parse none url.toList ≠ .error .relativeWithoutBase) :
    s.resolve url = Url.read none url := by
  unfold resolve
  split
  · rename_i u hu
    exact (Url.read_of_ok hu).symm
  · rename_i he
    exact absurd he h
  · rename_i e he
    exact (Url.read_of_error he).symm

/-- What is relative is read in the base. -/
theorem resolve_of_relative (b : Url)
    (h : Url.parse none url.toList = .error .relativeWithoutBase) :
    resolve ⟨some b⟩ url = Url.read (some b) url := by
  unfold resolve
  rw [h]
  dsimp only
  split
  · rename_i u hu
    exact (Url.read_of_ok hu).symm
  · rename_i e he
    exact (Url.read_of_error he).symm

/-- To resolve is to read in the base, as long as the scheme of the base is not repeated. -/
theorem resolve_eq_read_of_not_repeats (h : ¬ b.RepeatsScheme url.toList) :
    resolve ⟨some b⟩ url = Url.read (some b) url := by
  by_cases hrel : Url.parse none url.toList = .error .relativeWithoutBase
  · exact resolve_of_relative b hrel
  · rw [resolve_of_ne_relative _ hrel]
    cases hsplit : Url.splitScheme (Url.clean url.toList) with
    | none => exact absurd (Url.parse_of_splitScheme_eq_none hsplit) hrel
    | some p => rw [Url.read, Url.read, Url.parse_eq_parse_none hsplit h]

/-- A text that repeats the scheme of the base is read without it. -/
theorem resolve_of_repeats (s : Source) (h : b.RepeatsScheme url.toList) :
    s.resolve url = Url.read none url := by
  obtain ⟨-, rest, hsplit, -⟩ := Url.repeatsScheme_iff.mp h
  refine resolve_of_ne_relative s fun hrel => ?_
  have hnone := (Url.parse_eq_relativeWithoutBase_iff.mp hrel).1
  rw [hsplit] at hnone
  cases hnone

/--
**To resolve a text against a base is to join it to the base**, but for one kind of text.

That is a text that repeats the special scheme of the base and goes on with fewer than two slashes: it is
read as if there were no base. And so is every text that can be read without one, or fails to for any
other reason than being relative.
-/
theorem resolve_eq_read (hs : ofBase base = .ok s) (hb : Url.parse none base.toList = .ok b)
    (url : String) :
    (¬ b.RepeatsScheme url.toList → s.resolve url = Url.read (some b) url) ∧
    (b.RepeatsScheme url.toList → s.resolve url = Url.read none url) ∧
    (Url.parse none url.toList ≠ .error .relativeWithoutBase →
      ∀ s' : Source, s'.resolve url = s.resolve url) := by
  obtain ⟨b', hb', rfl⟩ := eq_of_ofBase hs
  cases hb.symm.trans hb'
  refine ⟨resolve_eq_read_of_not_repeats, fun h => resolve_of_repeats _ h, fun h s' => ?_⟩
  rw [resolve_of_ne_relative s' h, resolve_of_ne_relative _ h]

/-- The URL `http://b.test/d/e`. -/
def directory : Url :=
  { scheme := "http".toList
    authority := some
      { username := [], password := none, host := some (.domain "b.test".toList), port := none }
    path := .segments ["d".toList, "e".toList]
    query := none
    fragment := none }

/-- The scheme of the base in other letters, behind a blank and cut by a line end, and one slash. -/
theorem resolve_eq_read_repeated :
    ofBase "http://b.test/d/e" = .ok ⟨some directory⟩ ∧
      Url.parse none "http://b.test/d/e".toList = .ok directory ∧
      directory.RepeatsScheme " hT\nTp:/x".toList ∧
      resolve ⟨some directory⟩ " hT\nTp:/x" = Url.read none " hT\nTp:/x" := by
  have hb : Url.parse none "http://b.test/d/e".toList = .ok directory := by decide +kernel
  have hs : ofBase "http://b.test/d/e" = .ok ⟨some directory⟩ := ofBase_of_parse hb
  have hrepeats : directory.RepeatsScheme " hT\nTp:/x".toList :=
    ⟨by decide, "hTTp".toList, "/x".toList, by decide, by decide, by decide⟩
  exact ⟨hs, hb, hrepeats, (resolve_eq_read hs hb " hT\nTp:/x").2.1 hrepeats⟩

end Source

end FragmentFeed
