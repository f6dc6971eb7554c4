import FragmentFeed.Proofs.Text.Percent
import FragmentFeed.Proofs.Url.Shape

/-!
# User information

User name and password of a base do not count for what a text spells in it: without them the text spells
the same URL, or the same but for them (`parse_withoutUserInfo`). And there are no brackets in them, as
these are encoded wherever an authority is read (`parse_yields`).
-/

namespace FragmentFeed.Url

open Text

variable (u b : Url)

/-! ## Paths, queries and fragments -/

@[simp] theorem withoutUserInfo_scheme : u.withoutUserInfo.scheme = u.scheme := rfl
@[simp] theorem withoutUserInfo_path : u.withoutUserInfo.path = u.path := rfl
@[simp] theorem withoutUserInfo_pathSegments : u.withoutUserInfo.pathSegments = u.pathSegments := rfl

@[simp] theorem withoutUserInfo_host : u.withoutUserInfo.host = u.host := by
  unfold host withoutUserInfo
  cases u.authority with
  | none => rfl
  | some a => rfl

theorem withTail_withoutUserInfo (rest : List Char) :
    u.withoutUserInfo.withTail rest = (u.withTail rest).withoutUserInfo := by
  unfold withTail
  split <;> rfl

theorem withWalk_withoutUserInfo (path : List (List Char)) (input : List Char) :
    u.withoutUserInfo.withWalk path input = (u.withWalk path input).withoutUserInfo := by
  let v : Url :=
    { u with path := .segments (Segments.resolve u.kind path (input.takeWhile (!endsPath ·))) }
  exact withTail_withoutUserInfo v (input.dropWhile (!endsPath ·))

/-! ## The written form -/

theorem toText_of_some {u : Url} {a : Authority} (ha : u.authority = some a) :
    u.toText = u.scheme ++ ':' :: ('/' :: '/' :: a.toText)
      ++ u.path.toText ++ u.queryText ++ u.fragmentText := by
  unfold toText authorityText
  rw [ha]

theorem toText_withoutUserInfo_of_some {u : Url} {a : Authority} (ha : u.authority = some a) :
    u.withoutUserInfo.toText = u.scheme ++ ':' :: ('/' :: '/' :: (a.hostText ++ a.portText))
      ++ u.path.toText ++ u.queryText ++ u.fragmentText := by
  unfold toText authorityText withoutUserInfo
  rw [ha]
  rfl

/-! ## References -/

/-- Whether a reading comes to the same as another one, or to the same but for the user information. -/
def AgreesButUserInfo (r' r : Except ParseError Url) : Prop :=
  r' = r ∨ r' = r.map withoutUserInfo

theorem fileInDirectory_withoutUserInfo (input : List Char) :
    fileInDirectory b.withoutUserInfo input = (fileInDirectory b input).withoutUserInfo := by
  unfold fileInDirectory
  simp only [withoutUserInfo_pathSegments, withTail_withoutUserInfo, withWalk_withoutUserInfo]
  split
  · rfl
  · split
    · rfl
    · split
      · rfl
      · split
        · split
          · rfl
          · split <;> rfl
        · split <;> rfl
        · rfl

theorem parseFile_withoutUserInfo (input : List Char) :
    AgreesButUserInfo (parseFile (some b.withoutUserInfo) input) (parseFile (some b) input) := by
  have hroot (rest : List Char) :
      fileFromRoot (some b.withoutUserInfo) rest = fileFromRoot (some b) rest := by
    simp only [fileFromRoot, withoutUserInfo_pathSegments, withoutUserInfo_host]
  unfold parseFile
  simp only [hroot, withTail_withoutUserInfo, fileInDirectory_withoutUserInfo]
  split
  · split
    · exact Or.inl rfl
    · split
      · exact Or.inr rfl
      · split
        · exact Or.inr rfl
        · split
          · exact Or.inl rfl
          · exact Or.inr rfl
  · exact Or.inr rfl

theorem parseRelative_withoutUserInfo (input : List Char) :
    AgreesButUserInfo (parseRelative b.withoutUserInfo input) (parseRelative b input) := by
  unfold parseRelative
  simp only [withoutUserInfo_scheme, withoutUserInfo_pathSegments, withTail_withoutUserInfo,
    withWalk_withoutUserInfo]
  split
  · exact Or.inr rfl
  · split
    · exact Or.inr rfl
    · split
      · exact Or.inr rfl
      · split
        · split
          · split
            · exact Or.inl rfl
            · exact Or.inr rfl
          · exact Or.inr rfl
        · exact Or.inr rfl

theorem parseScheme_withoutUserInfo (scheme input : List Char) :
    AgreesButUserInfo (parseScheme (some b.withoutUserInfo) scheme input)
      (parseScheme (some b) scheme input) := by
  by_cases hscheme : b.scheme = scheme
  · subst hscheme
    have hfilter (v : Url) (hv : v.scheme = b.scheme) :
        (some v).filter (fun v => decide (v.scheme = b.scheme)) = some v := by simp [hv]
    unfold parseScheme
    rw [hfilter b rfl, hfilter b.withoutUserInfo rfl]
    split
    · exact parseFile_withoutUserInfo b input
    · dsimp only
      split
      · exact parseRelative_withoutUserInfo b input
      · exact Or.inl rfl
    · exact Or.inl rfl
  · have hfilter (v : Url) (hv : v.scheme = b.scheme) :
        (some v).filter (fun v => decide (v.scheme = scheme)) = none := by simp [hv, hscheme]
    refine Or.inl ?_
    unfold parseScheme
    rw [hfilter b rfl, hfilter b.withoutUserInfo rfl]

theorem parseReference_withoutUserInfo (input : List Char) :
    AgreesButUserInfo (parseReference (some b.withoutUserInfo) input)
      (parseReference (some b) input) := by
  unfold parseReference
  simp only [withoutUserInfo_path]
  split
  · exact Or.inr rfl
  · exact Or.inl rfl
  · have hkind : b.withoutUserInfo.kind = b.kind := rfl
    by_cases hfile : b.kind = .file
    · rw [if_pos hfile, if_pos (hkind.trans hfile)]
      exact parseFile_withoutUserInfo b _
    · rw [if_neg hfile, if_neg fun h => hfile (hkind.symm.trans h)]
      exact parseRelative_withoutUserInfo b _

/-- **User name and password of a base do not count for what a text spells in it.** -/
theorem parse_withoutUserInfo (text : List Char) :
    AgreesButUserInfo (parse (some b.withoutUserInfo) text) (parse (some b) text) := by
  unfold parse
  dsimp only
  split
  · exact parseScheme_withoutUserInfo b _ _
  · exact parseReference_withoutUserInfo b _

/-! ## What user information is made of -/

/-- Brackets are encoded in user information, where they would be taken for those of an address. -/
theorem not_bracket_of_mem_encode {cs : List Char} {c : Char}
    (h : c ∈ Percent.encode Percent.userInfoSet cs) : c ≠ '[' ∧ c ≠ ']' := by
  have hdigit : ∀ d ∈ List.range 16, Digit.upper d ≠ '[' ∧ Digit.upper d ≠ ']' := by decide
  rcases Percent.mem_encode h with ⟨-, hset⟩ | rfl | ⟨d, hd, rfl⟩
  · refine ⟨?_, ?_⟩ <;> rintro rfl <;> exact absurd hset (by decide)
  · decide
  · exact hdigit d hd

/-- Whether an authority has no brackets in its user information. -/
def PlainUserInfo (a : Authority) : Prop := ∀ c ∈ a.userInfo, c ≠ '[' ∧ c ≠ ']'

theorem mem_userInfo {a : Authority} {c : Char} (h : c ∈ a.userInfo) :
    c ∈ a.username ∨ (∃ p, a.password = some p ∧ c ∈ p) ∨ c = ':' ∨ c = '@' := by
  unfold Authority.userInfo at h
  cases hp : a.password with
  | none =>
    rw [hp] at h
    dsimp only at h
    split at h
    · cases h
    · rcases List.mem_append.mp h with hc | hc
      · exact Or.inl hc
      · exact Or.inr (Or.inr (Or.inr (List.mem_singleton.mp hc)))
  | some p =>
    rw [hp] at h
    simp only [List.mem_append, List.mem_cons, List.not_mem_nil, or_false] at h
    rcases h with (hc | hc | hc) | hc
    · exact Or.inl hc
    · exact Or.inr (Or.inr (Or.inl hc))
    · exact Or.inr (Or.inl ⟨p, rfl, hc⟩)
    · exact Or.inr (Or.inr (Or.inr hc))

theorem plainUserInfo_of_readUserInfo {a : Authority} {text : List Char}
    (h : readUserInfo text = (a.username, a.password)) : PlainUserInfo a := by
  intro c hc
  have husername : a.username = Percent.encode Percent.userInfoSet (text.takeWhile (· != ':')) := by
    unfold readUserInfo at h
    split at h <;> exact (congrArg Prod.fst h).symm
  have hpassword (p : List Char) (hp : a.password = some p) :
      ∃ cs, p = Percent.encode Percent.userInfoSet cs := by
    unfold readUserInfo at h
    split at h
    · rename_i d e rest hdrop
      have hsome : some (Percent.encode Percent.userInfoSet (e :: rest)) = a.password :=
        congrArg Prod.snd h
      rw [hp] at hsome
      exact ⟨_, (Option.some.inj hsome).symm⟩
    · have hnone : none = a.password := congrArg Prod.snd h
      rw [hp] at hnone
      cases hnone
  rcases mem_userInfo hc with hc | ⟨p, hp, hc⟩ | rfl | rfl
  · rw [husername] at hc
    exact not_bracket_of_mem_encode hc
  · obtain ⟨cs, rfl⟩ := hpassword p hp
    exact not_bracket_of_mem_encode hc
  · decide
  · decide

/-! ## Where an authority comes from -/

/-- Whether everything that a reading can bring has a property. -/
def Yields {α : Type} (r : Except ParseError α) (P : α → Prop) : Prop := ∀ a, r = .ok a → P a

namespace Yields

variable {α β : Type} {r : Except ParseError α} {f : α → Except ParseError β}
variable {P : β → Prop} {Q : α → Prop}

theorem ok {b : β} (h : P b) : Yields (.ok b) P := by
  intro b' hb
  cases hb
  exact h

theorem error {e : ParseError} : Yields (.error e) P := nofun

theorem bind (hr : Yields r Q) (hf : ∀ a, Q a → Yields (f a) P) : Yields (r >>= f) P := by
  cases r with
  | error e => exact error
  | ok a => exact hf a (hr a rfl)

/-- What is read first may be anything. -/
theorem bind_any (hf : ∀ a, Yields (f a) P) : Yields (r >>= f) P :=
  bind (Q := fun _ => True) (fun _ _ => trivial) fun a _ => hf a

end Yields

theorem readAuthority_yields (scheme input : List Char) :
    Yields (readAuthority scheme input) fun p => PlainUserInfo p.1 := by
  have hend (c : Prop) [Decidable c] (p : Authority × List Char) (text : List Char)
      (hp : readUserInfo text = (p.1.username, p.1.password)) :
      Yields (if c then .error .emptyHost else .ok p) fun p => PlainUserInfo p.1 := by
    split
    · exact .error
    · exact .ok (plainUserInfo_of_readUserInfo hp)
  unfold readAuthority
  dsimp only
  refine .bind_any fun host => ?_
  split
  · exact .error
  · split
    · exact .bind_any fun _ => hend _ _ _ rfl
    · exact hend _ _ _ rfl

/-- Whether a URL has no brackets in its user information. -/
def HasPlainUserInfo (u : Url) : Prop := ∀ a, u.authority = some a → PlainUserInfo a

theorem hasPlainUserInfo_congr {u v : Url} (h : v.authority = u.authority)
    (hu : u.HasPlainUserInfo) : v.HasPlainUserInfo := by
  intro a ha
  exact hu a (h.symm.trans ha)

theorem hasPlainUserInfo_fileUrl (host : Option Host) : (fileUrl host).HasPlainUserInfo := by
  intro a ha
  cases ha
  intro c hc
  cases hc

theorem afterSlashes_yields (scheme input : List Char) :
    Yields (afterSlashes scheme input) HasPlainUserInfo := by
  unfold afterSlashes
  dsimp only
  split
  · exact .error
  · refine .bind (readAuthority_yields scheme input) fun p hp => .ok ?_
    refine hasPlainUserInfo_congr (withPathStart_authority _ _) fun a ha => ?_
    cases ha
    exact hp

theorem fileAfterSlashes_yields (input : List Char) :
    Yields (fileAfterSlashes input) HasPlainUserInfo := by
  have hwalk (host : Option Host) (path : List (List Char)) (input : List Char) :
      ((fileUrl host).withWalk path input).HasPlainUserInfo :=
    hasPlainUserInfo_congr (withWalk_authority _ _ _) (hasPlainUserInfo_fileUrl host)
  unfold fileAfterSlashes
  dsimp only
  split
  · exact .ok (hwalk _ _ _)
  · refine .bind_any fun host => ?_
    split
    · exact .ok (hwalk _ _ _)
    · exact .ok (hwalk _ _ _)

theorem Shape.yields {base : Option Url} {r : Except ParseError Url} (h : Shape base r)
    (hbase : ∀ b, base = some b → b.HasPlainUserInfo) : Yields r HasPlainUserInfo := by
  cases h with
  | verbatim => exact .error
  | slashes scheme input => exact afterSlashes_yields scheme input
  | fileSlashes input => exact fileAfterSlashes_yields input
  | file host path input =>
    exact .ok (hasPlainUserInfo_congr (withWalk_authority _ _ _) (hasPlainUserInfo_fileUrl host))
  | inBase hb hscheme hauthority => exact .ok (hasPlainUserInfo_congr hauthority (hbase _ hb))
  | bare hnone =>
    refine .ok fun a ha => ?_
    rw [hnone] at ha
    cases ha

/-- **User information has no brackets**, if that of the base has none. -/
theorem parse_yields {base : Option Url} (hbase : ∀ b, base = some b → b.HasPlainUserInfo)
    (text : List Char) : Yields (parse base text) HasPlainUserInfo := by
  by_cases h : splitScheme (clean text) = none ∧ base = none
  · obtain ⟨hsplit, rfl⟩ := h
    rw [parse_of_splitScheme_eq_none hsplit]
    exact .error
  · exact (shape_parse (Classical.not_and_iff_not_or_not.mp h)).yields hbase

end FragmentFeed.Url
