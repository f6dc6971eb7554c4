import FragmentFeed.Url.Parser

/-!
# What a text can be read as

What comes of reading a text is of one of a few shapes (`shape_parse`): it goes on with an authority of
its own, it is a `file` URL, it has scheme and authority of the base, or it has no authority at all.
-/

namespace FragmentFeed.Url

open Text

variable (u : Url)

/-! ## Paths, queries and fragments -/

@[simp] theorem withTail_scheme (rest : List Char) : (u.withTail rest).scheme = u.scheme := by
  unfold withTail
  split <;> rfl

@[simp] theorem withTail_authority (rest : List Char) :
    (u.withTail rest).authority = u.authority := by
  unfold withTail
  split <;> rfl

@[simp] theorem withWalk_scheme (path : List (List Char)) (input : List Char) :
    (u.withWalk path input).scheme = u.scheme := by
  unfold withWalk
  rw [withTail_scheme]

@[simp] theorem withWalk_authority (path : List (List Char)) (input : List Char) :
    (u.withWalk path input).authority = u.authority := by
  unfold withWalk
  rw [withTail_authority]

@[simp] theorem withPathStart_authority (input : List Char) :
    (u.withPathStart input).authority = u.authority := by
  unfold withPathStart
  split
  · split
    · exact withWalk_authority _ _ _
    · exact withTail_authority _ _
  · split
    · exact withWalk_authority _ _ _
    · split
      · exact withTail_authority _ _
      · exact withWalk_authority _ _ _

/-! ## Shapes -/

/-- The shapes of readings. -/
inductive Shape (base : Option Url) : Except ParseError Url → Prop
  /-- The base takes no references. -/
  | verbatim : Shape base (.error .relativeToVerbatim)
  /-- Two slashes, and an authority behind them. -/
  | slashes (scheme input : List Char) : Shape base (afterSlashes scheme input)
  /-- Two slashes, and the host of a `file` URL behind them. -/
  | fileSlashes (input : List Char) : Shape base (fileAfterSlashes input)
  | file (host : Option Host) (path : List (List Char)) (input : List Char) :
    Shape base (.ok ((fileUrl host).withWalk path input))
  /-- A reference into the base. -/
  | inBase {b v : Url} (hb : base = some b) (hscheme : v.scheme = b.scheme)
    (hauthority : v.authority = b.authority) : Shape base (.ok v)
  | bare {v : Url} (h : v.authority = none) : Shape base (.ok v)

variable {base base' : Option Url} {b : Url}

theorem shape_withTail (hb : base = some b) (input : List Char) :
    Shape base (.ok (b.withTail input)) :=
  .inBase hb (withTail_scheme b input) (withTail_authority b input)

theorem shape_withWalk (hb : base = some b) (path : List (List Char)) (input : List Char) :
    Shape base (.ok (b.withWalk path input)) :=
  .inBase hb (withWalk_scheme b path input) (withWalk_authority b path input)

theorem shape_fileInDirectory (hb : base = some b) (input : List Char) :
    Shape base (.ok (fileInDirectory b input)) := by
  unfold fileInDirectory
  dsimp only
  split
  · exact shape_withWalk hb _ _
  · split
    · exact shape_withWalk hb _ _
    · split
      · exact shape_withWalk hb _ _
      · split
        · split
          · exact shape_withTail hb _
          · split
            · exact shape_withWalk hb _ _
            · exact shape_withWalk hb _ _
        · split
          · exact shape_withWalk hb _ _
          · exact shape_withWalk hb _ _
        · exact .inBase hb rfl rfl

theorem shape_fileFromRoot (base base' : Option Url) (input : List Char) :
    Shape base (.ok (fileFromRoot base' input)) := by
  unfold fileFromRoot
  split
  · exact .file _ _ _
  · split
    · exact .file _ _ _
    · split
      · split
        · exact .file _ _ _
        · exact .file _ _ _
      · exact .file _ _ _

/-- A `file` URL may be read without the base, when that is none. -/
theorem shape_parseFile (h : ∀ b, base' = some b → base = some b) (input : List Char) :
    Shape base (parseFile base' input) := by
  unfold parseFile
  split
  · split
    · split
      · split
        · exact .fileSlashes _
        · exact shape_fileFromRoot base base' _
      · exact shape_fileFromRoot base base' _
    · split
      · exact .file _ _ _
      · split
        · exact shape_withTail (h _ rfl) _
        · split
          · exact .inBase (h _ rfl) rfl rfl
          · split
            · exact .file _ _ _
            · exact shape_fileInDirectory (h _ rfl) _
  · split
    · exact .file _ _ _
    · exact .inBase (h _ rfl) rfl rfl

theorem shape_parseRelative (hb : base = some b) (input : List Char) :
    Shape base (parseRelative b input) := by
  unfold parseRelative
  split
  · exact .inBase hb rfl rfl
  · split
    · exact shape_withTail hb _
    · split
      · exact .inBase hb rfl rfl
      · split
        · split
          · split
            · split
              · exact .slashes _ _
              · exact .slashes _ _
            · exact shape_withWalk hb _ _
          · exact shape_withWalk hb _ _
        · exact shape_withWalk hb _ _

theorem shape_parseOther (base : Option Url) (scheme input : List Char) :
    Shape base (parseOther scheme input) := by
  unfold parseOther
  dsimp only
  split
  · exact .slashes _ _
  · exact .bare (withWalk_authority _ _ _)
  · exact .bare (withTail_authority _ _)

theorem shape_parseScheme (base : Option Url) (scheme input : List Char) :
    Shape base (parseScheme base scheme input) := by
  have hfilter (b : Url) (hb : base.filter (·.scheme = scheme) = some b) : base = some b :=
    (Option.filter_eq_some_iff.mp hb).1
  unfold parseScheme
  split
  · exact shape_parseFile hfilter _
  · split
    · rename_i b hb
      split
      · exact shape_parseRelative (hfilter b hb) _
      · exact .slashes _ _
    · exact .slashes _ _
  · exact shape_parseOther _ _ _

theorem shape_parseReference (b : Url) (input : List Char) :
    Shape (some b) (parseReference (some b) input) := by
  unfold parseReference
  dsimp only
  split
  · exact .inBase rfl rfl rfl
  · exact .verbatim
  · split
    · exact shape_parseFile (fun _ hb => hb) _
    · exact shape_parseRelative rfl _

/-- **Every text that has a scheme, or a base to be read in, is read as something of such a shape.** -/
theorem shape_parse {text : List Char} (h : splitScheme (clean text) ≠ none ∨ base ≠ none) :
    Shape base (parse base text) := by
  unfold parse
  dsimp only
  cases hsplit : splitScheme (clean text) with
  | some p => exact shape_parseScheme base p.1 p.2
  | none =>
    cases base with
    | none => simp [hsplit] at h
    | some b => exact shape_parseReference b _

/-- Any other text is refused for being relative. -/
theorem parse_of_splitScheme_eq_none {text : List Char} (h : splitScheme (clean text) = none) :
    parse none text = .error .relativeWithoutBase := by
  unfold parse
  simp only [h]
  rfl

end FragmentFeed.Url
