import FragmentFeed.Http.MediaType
import FragmentFeed.Proofs.Http.Head
import FragmentFeed.Proofs.Text.Pieces

/-!
# Media types that name UTF-8

A media type is a type and a subtype, and parameters behind them, which may have their values in quotes
(`IsParameter`). Where the first one that names a charset names UTF-8, in letters of either case, that is what
the text of a response is read in (`charset_of_namesUtf8`).
-/

namespace FragmentFeed.Http

open Text

/-! ## Writing -/

/-- Whether bytes are a word of names and bare values. -/
structure IsToken (bs : List UInt8) : Prop where
  ne_nil : bs ≠ []
  token : ∀ b ∈ bs, isTokenByte b = true

/-- Whether bytes may stand between quotes. A quote may be the first one of them. -/
inductive IsQuotable : List UInt8 → Prop
  | intro {b : UInt8} {bs : List UInt8} (hb : 0x20 ≤ b) (hbs : ∀ c ∈ bs, 0x20 ≤ c ∧ c ≠ 0x22) : IsQuotable (b :: bs)

/-- A parameter as it is written, with its name in lower case and its value. -/
inductive IsParameter : List UInt8 → List Char × List UInt8 → Prop
  | bare {name value : List UInt8} (blanks : Nat) (hname : IsToken name) (hvalue : IsToken value) :
    IsParameter (List.replicate blanks 0x20 ++ (name ++ 0x3D :: value)) (lower name, value)
  | quoted {name value : List UInt8} (blanks behind : Nat) (hname : IsToken name) (hvalue : IsQuotable value) :
    IsParameter (List.replicate blanks 0x20
      ++ (name ++ 0x3D :: 0x22 :: (value ++ 0x22 :: List.replicate behind 0x20))) (lower name, value)

/-- Whether a media type names UTF-8: of its parameters the first one that names a charset does. It may end
there, or something else may be told behind a semicolon. -/
inductive NamesUtf8 : List UInt8 → Prop
  | intro {type subtype own label after : List UInt8} {before : List (List UInt8)} (htype : IsToken type)
    (hsubtype : IsToken subtype)
    (hbefore : ∀ text ∈ before, ∃ p, IsParameter text p ∧ p.1 ≠ "charset".toList)
    (hown : IsParameter own ("charset".toList, label)) (hlabel : lower label = "utf-8".toList)
    (hafter : after = [] ∨ after.head? = some 0x3B) :
    NamesUtf8 (type ++ 0x2F :: (subtype ++ 0x3B :: (before.flatMap (· ++ [0x3B]) ++ (own ++ after))))

variable {name value read bs rest text type subtype : List UInt8} {word : List Char}
variable {p : List Char × List UInt8} {c : Parameter}

/-! ## Parameters -/

/-- Blanks are passed over where one is. -/
theorem parameters?_blanks (h : ∀ rest, parameters? c (0x20 :: rest) = parameters? c rest) (n : Nat)
    (rest : List UInt8) : parameters? c (List.replicate n 0x20 ++ rest) = parameters? c rest := by
  induction n with
  | zero => rfl
  | succ n ih => rw [List.replicate_succ, List.cons_append, h, ih]

/-- Bytes are gathered where each of them is. -/
theorem parameters?_gather {place : List UInt8 → Parameter}
    (h : ∀ b ∈ bs, ∀ read rest, parameters? (place read) (b :: rest) = parameters? (place (b :: read)) rest) :
    parameters? (place read) (bs ++ rest) = parameters? (place (bs.reverse ++ read)) rest := by
  induction bs generalizing read with
  | nil => rfl
  | cons b bs ih =>
    rw [List.cons_append, h b (by simp), ih fun c hc => h c (by simp [hc]), List.reverse_cons,
      List.append_assoc]
    rfl

/-- A byte of a token is none of the marks. -/
theorem ne_of_isTokenByte {b mark : UInt8} (h : isTokenByte b = true) (hmark : isTokenByte mark = false) :
    b ≠ mark := by
  rintro rfl
  rw [h] at hmark
  cases hmark

theorem parameters?_name_token (h : ∀ b ∈ bs, isTokenByte b = true) :
    parameters? (.name read) (bs ++ rest) = parameters? (.name (bs.reverse ++ read)) rest := by
  refine parameters?_gather fun b hb read rest => ?_
  rw [parameters?, if_neg (ne_of_isTokenByte (h b hb) (by decide)), if_pos (h b hb)]

theorem parameters?_bare_token (h : ∀ b ∈ bs, isTokenByte b = true) :
    parameters? (.bare word read) (bs ++ rest) = parameters? (.bare word (bs.reverse ++ read)) rest := by
  refine parameters?_gather fun b hb read rest => ?_
  rw [parameters?, if_neg fun hquote => ne_of_isTokenByte (h b hb) (by decide) hquote.1,
    if_neg fun hend => ne_of_isTokenByte (h b hb) (by decide) hend.1, if_pos (h b hb)]

theorem parameters?_quoted_bytes (h : ∀ b ∈ bs, 0x20 ≤ b ∧ b ≠ 0x22) :
    parameters? (.quoted word read) (bs ++ rest) = parameters? (.quoted word (bs.reverse ++ read)) rest := by
  refine parameters?_gather fun b hb read rest => ?_
  rw [parameters?, if_neg fun hend => (h b hb).2 hend.1, if_pos (h b hb).1]

/-- What is between quotes is read up to the quote behind it. -/
theorem parameters?_quoted (h : IsQuotable value) (rest : List UInt8) :
    parameters? (.quoted word []) (value ++ 0x22 :: rest) = parameters? (.behind word value) rest := by
  obtain ⟨hb, hbs⟩ := h
  rename_i b bs
  rw [List.cons_append, parameters?, if_neg fun hend => hend.2 rfl, if_pos hb, parameters?_quoted_bytes hbs,
    parameters?, if_pos ⟨rfl, by simp⟩]
  simp

/-- A name is read up to the sign behind it, and blanks in front of it are passed over. -/
theorem parameters?_name (n : Nat) (h : IsToken name) (rest : List UInt8) :
    parameters? .gap (List.replicate n 0x20 ++ (name ++ 0x3D :: rest))
      = parameters? (.bare (lower name) []) rest := by
  rw [parameters?_blanks fun _ => by rw [parameters?, if_pos rfl]]
  cases name with
  | nil => exact absurd rfl h.ne_nil
  | cons b bs =>
    have hb := h.token b (by simp)
    have hbs : ∀ c ∈ bs, isTokenByte c = true := fun c hc => h.token c (by simp [hc])
    rw [List.cons_append, parameters?, if_neg (ne_of_isTokenByte hb (by decide)), if_pos hb,
      parameters?_name_token hbs, parameters?, if_pos rfl, List.reverse_append, List.reverse_reverse]
    rfl

/-- A place where a parameter has been read whose value may end. -/
inductive Parameter.Holds : Parameter → List Char × List UInt8 → Prop
  | bare {read : List UInt8} (word : List Char) (h : read ≠ []) : Holds (.bare word read) (word, read.reverse)
  | behind (word : List Char) (value : List UInt8) : Holds (.behind word value) (word, value)

/-- **A parameter is read as it is written.** -/
theorem IsParameter.exists_holds (h : IsParameter text p) :
    ∃ c : Parameter, c.Holds p ∧ ∀ rest, parameters? .gap (text ++ rest) = parameters? c rest := by
  cases h with
  | @bare name value blanks hname hvalue =>
    have hread : value.reverse ++ [] ≠ [] := by simpa using hvalue.ne_nil
    have hholds := Parameter.Holds.bare (lower name) hread
    rw [List.append_nil, List.reverse_reverse] at hholds
    refine ⟨_, hholds, fun rest => ?_⟩
    rw [List.append_assoc, List.append_assoc, List.cons_append, parameters?_name blanks hname,
      parameters?_bare_token hvalue.token, List.append_nil]
  | @quoted name value blanks behind hname hvalue =>
    refine ⟨_, .behind (lower name) value, fun rest => ?_⟩
    rw [List.append_assoc, List.append_assoc, List.cons_append, List.cons_append, List.append_assoc,
      List.cons_append, parameters?_name blanks hname, parameters?, if_pos ⟨rfl, rfl⟩, parameters?_quoted hvalue,
      parameters?_blanks fun _ => by rw [parameters?, if_pos rfl]]

theorem Parameter.Holds.parameters?_nil (h : c.Holds p) : parameters? c [] = some [p] := by
  cases h <;> rfl

theorem Parameter.Holds.parameters?_semicolon (h : c.Holds p) (rest : List UInt8) :
    parameters? c (0x3B :: rest) = (parameters? .gap rest).map (p :: ·) := by
  cases h with
  | bare word hread => rw [parameters?, if_neg fun hquote => absurd hquote.1 (by decide), if_pos ⟨rfl, hread⟩]
  | behind word value => rw [parameters?, if_neg (by decide), if_pos rfl]

/-- **Of parameters in front of one nothing is lost.** Behind it there may be a fault, and then there are no
parameters at all. -/
theorem parameters?_flatMap {before : List (List UInt8)} {own after : List UInt8} {name : List Char}
    (hbefore : ∀ text ∈ before, ∃ q, IsParameter text q ∧ q.1 ≠ name) (hown : IsParameter own p)
    (hafter : after = [] ∨ after.head? = some 0x3B) {ps : List (List Char × List UInt8)}
    (h : parameters? .gap (before.flatMap (· ++ [0x3B]) ++ (own ++ after)) = some ps) :
    ∃ front back, ps = front ++ p :: back ∧ ∀ q ∈ front, q.1 ≠ name := by
  induction before generalizing ps with
  | nil =>
    obtain ⟨c, hholds, hread⟩ := hown.exists_holds
    rw [List.flatMap_nil, List.nil_append, hread] at h
    rcases after with - | ⟨b, after⟩
    · rw [hholds.parameters?_nil] at h
      exact ⟨[], [], (Option.some.inj h).symm, by simp⟩
    · obtain rfl : b = 0x3B := by simpa using hafter
      rw [hholds.parameters?_semicolon] at h
      obtain ⟨back, -, rfl⟩ := Option.map_eq_some_iff.mp h
      exact ⟨[], back, rfl, by simp⟩
  | cons text before ih =>
    obtain ⟨q, hq, hname⟩ := hbefore text (by simp)
    obtain ⟨c, hholds, hread⟩ := hq.exists_holds
    rw [List.flatMap_cons, List.append_assoc, List.append_assoc, List.singleton_append, hread,
      hholds.parameters?_semicolon] at h
    obtain ⟨qs, hqs, rfl⟩ := Option.map_eq_some_iff.mp h
    obtain ⟨front, back, rfl, hfront⟩ := ih (fun t ht => hbefore t (by simp [ht])) hqs
    exact ⟨q :: front, back, rfl, List.forall_mem_cons.mpr ⟨hname, hfront⟩⟩

/-- The parameters of a media type are those behind its subtype, if it has no fault. -/
theorem parametersOf?_append (htype : IsToken type) (hsubtype : IsToken subtype) (rest : List UInt8) :
    parametersOf? (type ++ 0x2F :: (subtype ++ 0x3B :: rest)) = parameters? .gap rest ∨
      parametersOf? (type ++ 0x2F :: (subtype ++ 0x3B :: rest)) = none := by
  have hslash : ¬ isTokenByte 0x2F = true := by decide
  have hsemicolon : ¬ isTokenByte 0x3B = true := by decide
  have hbehind : (type ++ 0x2F :: (subtype ++ 0x3B :: rest)).dropWhile isTokenByte
      = 0x2F :: (subtype ++ 0x3B :: rest) := by
    rw [List.dropWhile_append_of_pos htype.token, List.dropWhile_cons_of_neg hslash]
  have hrest : (subtype ++ 0x3B :: rest).dropWhile isTokenByte = 0x3B :: rest := by
    rw [List.dropWhile_append_of_pos hsubtype.token, List.dropWhile_cons_of_neg hsemicolon]
  simp only [parametersOf?, hbehind, hrest]
  split
  · exact .inl rfl
  · exact .inr rfl

/-! ## Charsets -/

/-- A character whose lower case is not in a word does not come up in it, in whichever case it is written. -/
theorem ne_of_map_toLower {label : List Char} (h : label.map Char.toLower = word) {c : Char}
    (hc : c.toLower ∉ word) : ∀ d ∈ label, d ≠ c := by
  rintro d hd rfl
  rw [← h] at hc
  exact hc (List.mem_map_of_mem hd)

theorem ofLabel_utf8 {label : List Char} (h : label.map Char.toLower = "utf-8".toList) :
    Charset.ofLabel label = .utf8 := by
  have hblank : ∀ c ∈ label, Charset.isLabelBlank c = false := by
    intro c hc
    refine Bool.eq_false_iff.mpr fun hcontains => ?_
    have hmem := List.contains_iff_mem.mp hcontains
    have hall : [' ', '\t', '\n', '\r', '\x0c'].all
        (fun blank => !"utf-8".toList.contains blank.toLower) = true := by decide +kernel
    have hlower : c.toLower ∉ "utf-8".toList := by simpa using List.all_eq_true.mp hall c hmem
    exact ne_of_map_toLower h hlower c hc rfl
  unfold Charset.ofLabel
  rw [trim_of_no_blanks hblank, h]
  decide +kernel

/-- **A media type that names UTF-8 is read so.** One that has a fault behind the name is not read at all. -/
theorem charsetLabel?_of_namesUtf8 (h : NamesUtf8 value) :
    charsetLabel? value = none ∨
      ∃ label, charsetLabel? value = some label ∧ Charset.ofLabel label = .utf8 := by
  obtain ⟨htype, hsubtype, hbefore, hown, hlabel, hafter⟩ := h
  rename_i label after before
  unfold charsetLabel?
  rcases parametersOf?_append htype hsubtype _ with hps | hps
  · rw [hps]
    cases hread : parameters? .gap (before.flatMap (· ++ [0x3B]) ++ (_ ++ after)) with
    | none => exact .inl rfl
    | some ps =>
      obtain ⟨front, back, rfl, hfront⟩ := parameters?_flatMap hbefore hown hafter hread
      refine .inr ⟨label.map fun b => Char.ofNat b.toNat, ?_, ofLabel_utf8 ?_⟩
      · rw [Option.bind_some, valuesOf_append, valuesOf_eq_nil hfront, List.nil_append, valuesOf_cons_self]
        rfl
      · rw [List.map_map]
        exact hlabel
  · rw [hps]
    exact .inl rfl

/-- **Without a content type that names another charset a text is read as UTF-8.** -/
theorem charset_of_namesUtf8 {r : Response}
    (h : ∀ field ∈ r.headers, field.1 = "content-type".toList → NamesUtf8 field.2) : r.charset = .utf8 := by
  unfold Response.charset
  cases hvalues : valuesOf "content-type" r.headers with
  | nil => rfl
  | cons value more =>
    have hmem : value ∈ valuesOf "content-type" r.headers := by
      rw [hvalues]
      exact List.mem_cons_self
    obtain ⟨field, hfield, rfl⟩ := List.mem_map.mp hmem
    obtain ⟨hfield, hname⟩ := List.mem_filter.mp hfield
    rw [List.head?_cons, Option.bind_some]
    rcases charsetLabel?_of_namesUtf8 (h field hfield (of_decide_eq_true hname)) with hnone | ⟨label, hlabel, hutf8⟩
    · rw [hnone]
    · rw [hlabel]
      exact hutf8

end FragmentFeed.Http
