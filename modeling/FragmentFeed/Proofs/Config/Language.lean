import FragmentFeed.Proofs.Config.Reading

/-!
# The language of configurations

A text spells a configuration if it is a document, and is refused otherwise. Which configuration it
spells depends on what it says of the fields only.
-/

namespace FragmentFeed.Config

open Json

variable {raw : String} {c : Config} {e : Fault}

theorem ofText_of_read_error (h : read raw.toList = .error e) :
    ofText raw = .error (.malformed e.cause (.find raw.toList e.behind)) := by
  rw [ofText, h]

/-- The place that a fault is told with does not matter to what is accepted. -/
theorem ofText_eq_ok_iff : ofText raw = .ok c ↔ Document raw.toList c := by
  rw [← read_eq_ok_iff, ofText]
  cases read raw.toList with
  | error e => constructor <;> intro h <;> cases h
  | ok c' => constructor <;> intro h <;> cases h <;> rfl

/-- A text has one reading at most. -/
theorem Document.eq {w : List Char} {c' : Config} (h : Document w c) (h' : Document w c') : c' = c := by
  have hread := read_eq_ok_iff.mpr h'
  rw [read_eq_ok_iff.mpr h] at hread
  cases hread
  rfl

/--
**A configuration is read from the documents, and from nothing else.**

A document is a JSON text: an object that says something of each field once at most, with any other
members of any depth, or a list of at most two texts. What it says is the configuration. All else is
refused as a configuration that cannot be parsed, an object that tells a field twice and a list that is
too long among it. The blanks of a document, the way its strings are escaped, the order of its members
and those that are not known do not matter; and every configuration has a document.
-/
theorem ofText_reads_documents :
    (∀ (raw : String) (c : Config), ofText raw = .ok c ↔ Document raw.toList c) ∧
    (∀ (w : List Char) (c : Config), Document w c → IsJson w) ∧
    (∀ raw : String, (∀ c, ¬Document raw.toList c) →
      ∃ cause place, ofText raw = .error (.malformed cause place) ∧
        (ConfigError.malformed cause place).message = "parse loader config") ∧
    (∀ (raw : String) (ms : List (Option Entry)), IsObject raw.toList ms →
      ¬((entries ms).map Prod.fst).Nodup →
      ∃ f place, ofText raw = .error (.malformed (.duplicateField (Field.key f)) place)) ∧
    (∀ (raw : String) (ts : List (Option String)), IsList raw.toList ts → 2 < ts.length →
      ∃ place, ofText raw = .error (.malformed .trailingCharacters place)) ∧
    (∀ (raw raw' : String) (ms ms' : List (Option Entry)), IsObject raw.toList ms →
      IsObject raw'.toList ms' → ((entries ms).map Prod.fst).Nodup → (entries ms).Perm (entries ms') →
      ofText raw' = ofText raw) ∧
    (∀ c : Config, ∃ raw, ofText raw = .ok c) := by
  refine ⟨fun raw c => ofText_eq_ok_iff, fun w c h => h.isJson, ?_, ?_, ?_, ?_, ?_⟩
  · intro raw hnone
    cases hread : read raw.toList with
    | ok c => exact absurd (read_eq_ok_iff.mp hread) (hnone c)
    | error e => exact ⟨_, _, ofText_of_read_error hread, rfl⟩
  · intro raw ms hobject hnot
    obtain ⟨f, tail, hread⟩ := read_of_not_nodup hobject hnot
    refine ⟨f, .find raw.toList (duplicate f tail).behind, ?_⟩
    rw [ofText_of_read_error hread, duplicate_cause]
  · intro raw ts hlist hlength
    obtain ⟨tail, hread⟩ := read_of_length hlist hlength
    exact ⟨_, ofText_of_read_error hread⟩
  · intro raw raw' ms ms' hobject hobject' honce hperm
    have honce' := (hperm.map Prod.fst).nodup_iff.mp honce
    have hfirst := ofText_eq_ok_iff.mpr (.object hobject honce)
    have hsecond := ofText_eq_ok_iff.mpr (.object hobject' honce')
    rw [hfirst, hsecond, ofEntries_perm hperm honce]
  · intro c
    obtain ⟨w, hw⟩ := exists_document c
    refine ⟨String.ofList w, ofText_eq_ok_iff.mpr ?_⟩
    rw [String.toList_ofList]
    exact hw

/-- A document with a member that is not known, blanks, and escapes in the key and in the text that it
tells. -/
def escapedText : List Char :=
  "\x7b\"a\":[1e5, \x7b\x7d],\"base\\u005furl\" : \"\\ud83d\\ude00\\n\"\x7d ".toList

/-- Its members, and what they say. -/
theorem isObject_escapedText : IsObject escapedText [none, some (.baseUrl, some "😀\n")] := by
  have hblank : IsBlanks [' '] := by
    intro c hc
    rw [List.mem_singleton.mp hc]
    exact List.mem_cons_self
  have hnumber : Derives .value ['1', 'e', '5'] := by
    refine .number (.inl ⟨['1'], [], ['e', '5'], rfl, ⟨⟨nofun, by simp⟩, nofun⟩, .inl rfl, ?_⟩)
    exact .inr ⟨'e', [], ['5'], rfl, .inl rfl, .inl rfl, nofun, by simp⟩
  have hlist : Derives .value ('[' :: ("1e5, \x7b\x7d".toList ++ [']'])) :=
    .bracket (b := .list) (.more (.element isBlanks_nil hnumber isBlanks_nil)
      (.one (.element hblank (.nothing .object isBlanks_nil) isBlanks_nil)))
  have hunknown : Says ['a'] ('[' :: ("1e5, \x7b\x7d".toList ++ [']'])) none := by
    refine .unknown (Spells.nil.of_plain (p := ['a']) (by simp [IsPlain])) ?_ hlist
    intro f hname
    simp [Names] at hname
  have hkey : Spells "base\\u005furl".toList "base_url".toList := by
    have hescape : Denotes ['u', '0', '0', '5', 'f'] '_' :=
      .unit ⟨0, '0', 0, '0', 5, '5', 15, 'f', rfl, rfl, .inl rfl, .inl rfl, .inl rfl, .inl rfl⟩
    have hrest := Spells.nil.of_plain (p := ['u', 'r', 'l']) (by simp [IsPlain])
    exact (Spells.escape hescape hrest).of_plain (p := ['b', 'a', 's', 'e']) (by simp [IsPlain])
  have hvalue : Spells "\\ud83d\\ude00\\n".toList "😀\n".toList := by
    have hhigh : IsUnit 0xD83D ['d', '8', '3', 'd'] :=
      ⟨13, 'd', 8, '8', 3, '3', 13, 'd', rfl, rfl, .inl rfl, .inl rfl, .inl rfl, .inl rfl⟩
    have hlow : IsUnit 0xDE00 ['d', 'e', '0', '0'] :=
      ⟨13, 'd', 14, 'e', 0, '0', 0, '0', rfl, rfl, .inl rfl, .inl rfl, .inl rfl, .inl rfl⟩
    have hpair := Denotes.pair (c := '😀') hhigh hlow (by decide) (by decide) rfl
    have hletter : Denotes ['n'] '\n' := .letter (by decide)
    exact .escape hpair (.escape hletter .nil)
  have hfirst := Member.mk isBlanks_nil isBlanks_nil isBlanks_nil isBlanks_nil hunknown
  have hsecond :=
    Member.mk isBlanks_nil hblank hblank isBlanks_nil (.known hkey List.mem_cons_self (.string hvalue))
  have hmembers := Separated.more hfirst (.one hsecond)
  exact ⟨[], _, [' '], rfl, isBlanks_nil, .items hmembers, hblank⟩

/-- The text that it tells is a character outside the basic plane and the end of a line. -/
theorem ofText_escapedText :
    Document escapedText ⟨some "😀\n", none⟩ ∧
      ofText (String.ofList escapedText) = .ok ⟨some "😀\n", none⟩ := by
  have hdocument : Document escapedText ⟨some "😀\n", none⟩ :=
    .object isObject_escapedText (by decide)
  refine ⟨hdocument, (ofText_reads_documents.1 _ _).mpr ?_⟩
  rw [String.toList_ofList]
  exact hdocument

end FragmentFeed.Config
