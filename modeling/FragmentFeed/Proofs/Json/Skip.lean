import FragmentFeed.Proofs.Json.Number
import FragmentFeed.Proofs.Json.Quoted

/-!
# Skipping values

`skipValue` takes a value of the grammar off the front of a text, and nothing but one
(`skipValue_sound`, `Derives.skipValue_eq`). The machine behind it stands at any time in some brackets;
`Closes` says what is to come until all of them are closed.
-/

namespace FragmentFeed.Json

variable {cs tail rest w v s : List Char} {c : Char} {b : Bracket} {around : List Bracket}
variable {awaited : Awaited}

/-! ## Values without parts -/

theorem word_sound {letters : List Char} (h : word letters cs = .ok rest) : cs = letters ++ rest := by
  induction letters generalizing cs with
  | nil =>
    cases h
    rfl
  | cons l letters ih =>
    cases cs with
    | nil => cases h
    | cons c cs =>
      rw [word] at h
      split at h
      · next hc => rw [ih h, hc, List.cons_append]
      · cases h

theorem word_append (letters rest : List Char) : word letters (letters ++ rest) = .ok rest := by
  induction letters with
  | nil => rfl
  | cons l letters ih => rw [List.cons_append, word, if_pos rfl, ih]

theorem skipScalar_sound (h : skipScalar c tail = .ok rest) :
    ∃ v, Derives .value v ∧ c :: tail = v ++ rest := by
  unfold skipScalar at h
  split at h
  · next hc =>
    subst hc
    exact ⟨"null".toList, .word (by simp [words]), by rw [word_sound h]; rfl⟩
  split at h
  · next hc =>
    subst hc
    exact ⟨"true".toList, .word (by simp [words]), by rw [word_sound h]; rfl⟩
  split at h
  · next hc =>
    subst hc
    exact ⟨"false".toList, .word (by simp [words]), by rw [word_sound h]; rfl⟩
  split at h
  · next hc =>
    subst hc
    obtain ⟨w, hw, rfl⟩ := skipString_eq_ok_iff.mp h
    exact ⟨_, .string hw, by simp⟩
  split at h
  · next hc =>
    subst hc
    obtain ⟨n, hn⟩ := snd_of_map_snd h
    obtain ⟨w, hw, rfl⟩ := Numeral.isNumeral hn
    exact ⟨'-' :: w, .number (.inr ⟨w, rfl, hw⟩), rfl⟩
  split at h
  · obtain ⟨n, hn⟩ := snd_of_map_snd h
    obtain ⟨w, hw, hcs⟩ := Numeral.isNumeral hn
    exact ⟨w, .number (.inl hw), hcs⟩
  · cases h

/-- A value without parts is read as what it is, by its first character. -/
def IsScalar (v : List Char) : Prop :=
  ∃ c tail, v = c :: tail ∧ isBlank c = false ∧ (∀ b : Bracket, c ≠ b.opening) ∧
    ∀ rest, Stops continuesNumber rest → skipScalar c (tail ++ rest) = .ok rest

theorem isScalar_of_mem_words (h : w ∈ words) : IsScalar w := by
  have hopening : ∀ {c : Char}, c ≠ '[' → c ≠ '\x7b' → ∀ b : Bracket, c ≠ b.opening := by
    intro c hlist hobject b
    cases b with
    | list => exact hlist
    | object => exact hobject
  simp only [words, List.mem_cons, List.not_mem_nil, or_false] at h
  rcases h with rfl | rfl | rfl
  · exact ⟨'n', ['u', 'l', 'l'], rfl, rfl, hopening (by decide) (by decide), fun rest _ =>
      word_append ['u', 'l', 'l'] rest⟩
  · exact ⟨'t', ['r', 'u', 'e'], rfl, rfl, hopening (by decide) (by decide), fun rest _ =>
      word_append ['r', 'u', 'e'] rest⟩
  · exact ⟨'f', ['a', 'l', 's', 'e'], rfl, rfl, hopening (by decide) (by decide), fun rest _ =>
      word_append ['a', 'l', 's', 'e'] rest⟩

theorem isScalar_of_isBody (h : IsBody w) : IsScalar ('"' :: (w ++ ['"'])) := by
  refine ⟨'"', w ++ ['"'], rfl, rfl, fun b => by cases b <;> decide, fun rest _ => ?_⟩
  show skipString (w ++ ['"'] ++ rest) = .ok rest
  exact skipString_eq_ok_iff.mpr ⟨w, h, by simp⟩

/-- A digit is none of the characters that something else begins with. -/
theorem skipScalar_of_isDigit (hc : isDigit c = true) (tail : List Char) :
    skipScalar c tail = (numeral .invalidNumber (c :: tail)).map (·.2) := by
  have hne := fun d hd => ne_of_isDigit (d := d) hc hd
  unfold skipScalar
  rw [if_neg (hne 'n' rfl), if_neg (hne 't' rfl), if_neg (hne 'f' rfl), if_neg (hne '"' rfl),
    if_neg (hne '-' rfl), if_pos hc]

theorem isScalar_of_isNumber (h : IsNumber w) : IsScalar w := by
  rcases h with h | ⟨w', rfl, h⟩
  · have hread : ∀ rest, Stops continuesNumber rest →
        ∃ n, numeral .invalidNumber (w ++ rest) = .ok (n, rest) :=
      fun rest hrest => h.exists_numeral .invalidNumber hrest
    obtain ⟨integer, fraction, exponent, rfl, ⟨hdigits, -⟩, -, -⟩ := h
    obtain ⟨c, tail, rfl⟩ := List.exists_cons_of_ne_nil hdigits.1
    have hc := hdigits.isDigit c (by simp)
    have hne := fun d hd => ne_of_isDigit (d := d) hc hd
    refine ⟨c, tail ++ (fraction ++ exponent), rfl, ?_, ?_, ?_⟩
    · simp [isBlank, hne ' ' rfl, hne '\n' rfl, hne '\t' rfl, hne '\r' rfl]
    · intro b
      exact hne _ (by cases b <;> rfl)
    · intro rest hrest
      obtain ⟨n, hn⟩ := hread rest hrest
      rw [skipScalar_of_isDigit hc, ← List.cons_append, ← List.cons_append, hn]
      rfl
  · refine ⟨'-', w', rfl, rfl, fun b => by cases b <;> decide, fun rest hrest => ?_⟩
    obtain ⟨n, hn⟩ := h.exists_numeral .invalidNumber hrest
    show (numeral .invalidNumber (w' ++ rest)).map (·.2) = .ok rest
    rw [hn]
    rfl

/-! ## Keys -/

theorem colon_eq_ok_iff : colon cs = .ok rest ↔ ∃ s, IsBlanks s ∧ cs = s ++ ':' :: rest := by
  constructor
  · intro h
    unfold colon at h
    split at h
    · cases h
    · next tail hskip =>
      cases h
      exact exists_blanks_of_eq hskip
    · cases h
  · rintro ⟨s, hs, rfl⟩
    unfold colon
    rw [skipBlanks_append hs, skipBlanks_cons rfl]
    rfl

theorem skipKey_eq_ok_iff :
    skipKey cs = .ok rest ↔ ∃ s₁ key s₂, IsBlanks s₁ ∧ IsBody key ∧ IsBlanks s₂ ∧
      cs = s₁ ++ '"' :: (key ++ '"' :: (s₂ ++ ':' :: rest)) := by
  constructor
  · intro h
    unfold skipKey at h
    split at h
    · cases h
    · next tail hskip =>
      obtain ⟨s₁, hs₁, rfl⟩ := exists_blanks_of_eq hskip
      cases hstring : skipString tail with
      | error f => rw [hstring] at h; cases h
      | ok tail' =>
        rw [hstring] at h
        obtain ⟨key, hkey, rfl⟩ := skipString_eq_ok_iff.mp hstring
        obtain ⟨s₂, hs₂, rfl⟩ := colon_eq_ok_iff.mp h
        exact ⟨s₁, key, s₂, hs₁, hkey, hs₂, rfl⟩
    · cases h
  · rintro ⟨s₁, key, s₂, hs₁, hkey, hs₂, rfl⟩
    unfold skipKey
    rw [skipBlanks_append hs₁, skipBlanks_cons rfl]
    show (skipString (key ++ '"' :: (s₂ ++ ':' :: rest))).bind colon = .ok rest
    rw [skipString_eq_ok_iff.mpr ⟨key, hkey, rfl⟩]
    exact colon_eq_ok_iff.mpr ⟨s₂, hs₂, rfl⟩

/-- Blanks before a key do not matter. -/
theorem skipKey_congr {cs' : List Char} (h : skipBlanks cs = skipBlanks cs') :
    skipKey cs = skipKey cs' := by
  unfold skipKey
  rw [h]

/-! ## What is skipped is a value -/

/-- What is to come until the value at hand and all the brackets around it are closed. -/
inductive Closes : Awaited → List Bracket → List Char → Prop
  | done : Closes .closed [] []
  | close {b : Bracket} {around : List Bracket} {s w : List Char} (hs : IsBlanks s)
    (h : Closes .closed around w) : Closes .closed (b :: around) (s ++ b.closing :: w)
  | more {b : Bracket} {around : List Bracket} {s v w : List Char} (hs : IsBlanks s)
    (hv : Derives (.items b) v) (h : Closes .closed around w) :
    Closes .closed (b :: around) (s ++ ',' :: (v ++ b.closing :: w))
  | value {around : List Bracket} {s v w : List Char} (hs : IsBlanks s) (hv : Derives .value v)
    (h : Closes .closed around w) : Closes .value around (s ++ (v ++ w))
  | item {b : Bracket} {around : List Bracket} {v w : List Char} (hv : Derives (.items b) v)
    (h : Closes .closed around w) : Closes (.item b) around (v ++ b.closing :: w)
  | nothing {b : Bracket} {around : List Bracket} {s w : List Char} (hs : IsBlanks s)
    (h : Closes .closed around w) : Closes (.opened b) around (s ++ b.closing :: w)
  | opened {b : Bracket} {around : List Bracket} {w : List Char} (h : Closes (.item b) around w) :
    Closes (.opened b) around w

/-- Blanks may come before items. -/
theorem Derives.blanks_items (hs : IsBlanks s) (h : Derives (.items b) w) :
    Derives (.items b) (s ++ w) := by
  have hitem : ∀ {v : List Char}, Derives (.item b) v → Derives (.item b) (s ++ v) := by
    intro v hv
    cases hv with
    | element hs₁ hv hs₂ =>
      rw [← List.append_assoc]
      exact .element (hs.append hs₁) hv hs₂
    | member h₁ hkey h₂ h₃ hv h₄ =>
      rw [← List.append_assoc]
      exact .member (hs.append h₁) hkey h₂ h₃ hv h₄
  cases h with
  | one h => exact .one (hitem h)
  | more h h' =>
    rw [← List.append_assoc]
    exact .more (hitem h) h'

namespace Closes

/-- A bracket that is opened is a value when it is closed. -/
theorem bracket (hs : IsBlanks s) (h : Closes (.opened b) around w) :
    Closes .value around (s ++ b.opening :: w) := by
  cases h with
  | @nothing _ _ s' w hs' h =>
    have hvalue := Closes.value hs (.nothing b hs') h
    simpa using hvalue
  | opened h =>
    cases h with
    | item hv h =>
      have hvalue := Closes.value hs (.bracket hv) h
      simpa using hvalue

/-- A value makes an item with what stands before it and the blanks behind it. -/
theorem item_of_value {k : List Char} (h : Closes .value (b :: around) w)
    (hitem : ∀ {s v s' : List Char}, IsBlanks s → Derives .value v → IsBlanks s' →
      Derives (.item b) (k ++ (s ++ (v ++ s')))) :
    Closes (.item b) around (k ++ w) := by
  cases h with
  | @value _ s v w hs hv h =>
    cases h with
    | @close _ _ s' w hs' h =>
      have hclosed := Closes.item (.one (hitem hs hv hs')) h
      simpa using hclosed
    | @more _ _ s' v' w hs' hv' h =>
      have hclosed := Closes.item (.more (hitem hs hv hs') hv') h
      simpa using hclosed

/-- Blanks may come before what is to come in a bracket that has been opened. -/
theorem blanks_opened (hs : IsBlanks s) (h : Closes (.item b) around w) :
    Closes (.opened b) around (s ++ w) := by
  cases h with
  | item hv h =>
    rw [← List.append_assoc]
    exact .opened (.item (hv.blanks_items hs) h)

end Closes

/-- **What is skipped is what was to come.** -/
theorem skipFrom_sound (h : skipFrom awaited around cs = .ok rest) :
    ∃ w, Closes awaited around w ∧ cs = w ++ rest := by
  fun_induction skipFrom awaited around cs with
  | case1 | case4 | case7 | case9 | case13 | case16 => cases h
  | case2 around cs tail hskip ih =>
    obtain ⟨w, hw, rfl⟩ := ih h
    obtain ⟨s, hs, rfl⟩ := exists_blanks_of_eq hskip
    exact ⟨_, .bracket hs hw, by simp [Bracket.opening]⟩
  | case3 around cs tail hskip _ ih =>
    obtain ⟨w, hw, rfl⟩ := ih h
    obtain ⟨s, hs, rfl⟩ := exists_blanks_of_eq hskip
    exact ⟨_, .bracket hs hw, by simp [Bracket.opening]⟩
  | case5 around cs c tail hskip hlist hobject tail' hscalar ih =>
    obtain ⟨w, hw, rfl⟩ := ih h
    obtain ⟨s, hs, rfl⟩ := exists_blanks_of_eq hskip
    obtain ⟨v, hv, htail⟩ := skipScalar_sound hscalar
    exact ⟨_, .value hs hv hw, by rw [htail]; simp⟩
  | case6 around cs ih =>
    obtain ⟨w, hw, rfl⟩ := ih h
    have hitem := hw.item_of_value (k := []) fun {s v s'} hs hv hs' => by
      simpa using Derives.element hs hv hs'
    exact ⟨w, hitem, rfl⟩
  | case8 around cs tail hkey ih =>
    obtain ⟨w, hw, rfl⟩ := ih h
    obtain ⟨s₁, key, s₂, hs₁, hbody, hs₂, rfl⟩ := skipKey_eq_ok_iff.mp hkey
    have hitem := hw.item_of_value (k := s₁ ++ '"' :: (key ++ '"' :: (s₂ ++ [':'])))
      fun {s v s'} hs hv hs' => by simpa using Derives.member hs₁ hbody hs₂ hs hv hs'
    exact ⟨_, hitem, by simp⟩
  | case10 around cs b tail hskip ih =>
    obtain ⟨w, hw, rfl⟩ := ih h
    obtain ⟨s, hs, rfl⟩ := exists_blanks_of_eq hskip
    exact ⟨_, .nothing hs hw, by simp⟩
  | case11 around cs b c tail hskip hc ih =>
    obtain ⟨w, hw, htail⟩ := ih h
    obtain ⟨s, hs, rfl⟩ := exists_blanks_of_eq hskip
    exact ⟨_, hw.blanks_opened hs, by rw [htail]; simp⟩
  | case12 cs =>
    cases h
    exact ⟨[], .done, rfl⟩
  | case14 cs b outer tail hskip ih =>
    obtain ⟨w, hw, rfl⟩ := ih h
    obtain ⟨s, hs, rfl⟩ := exists_blanks_of_eq hskip
    cases hw with
    | item hv hw => exact ⟨_, .more hs hv hw, by simp⟩
  | case15 cs b outer tail hskip hcomma ih =>
    obtain ⟨w, hw, rfl⟩ := ih h
    obtain ⟨s, hs, rfl⟩ := exists_blanks_of_eq hskip
    exact ⟨_, .close hs hw, by simp⟩

/-! ## A value is skipped -/

/-- A value begins with a character that is no blank and closes nothing. -/
def BeginsValue (c : Char) : Prop := isBlank c = false ∧ ∀ b : Bracket, c ≠ b.closing

theorem IsScalar.exists_cons (h : IsScalar v) : ∃ c tail, v = c :: tail ∧ BeginsValue c := by
  obtain ⟨c, tail, rfl, hblank, -, hskip⟩ := h
  refine ⟨c, tail, rfl, hblank, ?_⟩
  rintro b rfl
  -- a closing bracket is not read as a value
  have hread := hskip [] (stops_nil _)
  cases b <;> cases hread

theorem Derives.exists_cons (h : Derives .value v) : ∃ c tail, v = c :: tail ∧ BeginsValue c := by
  have hopening : ∀ b : Bracket, BeginsValue b.opening := by
    intro b
    refine ⟨by cases b <;> rfl, fun b' => ?_⟩
    cases b <;> cases b' <;> decide
  cases h with
  | word h => exact (isScalar_of_mem_words h).exists_cons
  | number h => exact (isScalar_of_isNumber h).exists_cons
  | string h => exact (isScalar_of_isBody h).exists_cons
  | nothing b h => exact ⟨_, _, rfl, hopening b⟩
  | bracket h => exact ⟨_, _, rfl, hopening _⟩

/-- So does an item, behind its blanks. -/
theorem Derives.exists_begin_item (h : Derives (.item b) w) :
    ∃ s c tail, IsBlanks s ∧ w = s ++ c :: tail ∧ BeginsValue c := by
  cases h with
  | @element s s' v hs hv hs' =>
    obtain ⟨c, tail, rfl, hc⟩ := hv.exists_cons
    exact ⟨s, c, tail ++ s', hs, rfl, hc⟩
  | @member s₁ s₂ s₃ s₄ key v h₁ hkey h₂ h₃ hv h₄ =>
    refine ⟨s₁, '"', _, h₁, rfl, rfl, fun b => ?_⟩
    cases b <;> decide

theorem Derives.exists_begin_items (h : Derives (.items b) w) :
    ∃ s c tail, IsBlanks s ∧ w = s ++ c :: tail ∧ BeginsValue c := by
  cases h with
  | one h => exact h.exists_begin_item
  | @more _ v w' h h' =>
    obtain ⟨s, c, tail, hs, rfl, hc⟩ := h.exists_begin_item
    exact ⟨s, c, tail ++ ',' :: w', hs, by simp, hc⟩

section machine

theorem skipFrom_of_opening (h : skipBlanks cs = b.opening :: tail) :
    skipFrom .value around cs = skipFrom (.opened b) around tail := by
  rw [skipFrom]
  split
  · next hskip =>
    rw [h] at hskip
    cases hskip
  · next c rest hskip =>
    rw [h] at hskip
    cases hskip
    cases b with
    | list => exact if_pos rfl
    | object => rw [if_neg (by decide), if_pos (by decide)]

theorem skipFrom_of_scalar (h : skipBlanks cs = c :: tail) (hc : ∀ b : Bracket, c ≠ b.opening)
    (hscalar : skipScalar c tail = .ok rest) :
    skipFrom .value around cs = skipFrom .closed around rest := by
  rw [skipFrom]
  split
  · next hskip =>
    rw [h] at hskip
    cases hskip
  · next c' tail' hskip =>
    rw [h] at hskip
    cases hskip
    have hlist : c ≠ '[' := hc .list
    have hobject : c ≠ '\x7b' := hc .object
    rw [if_neg hlist, if_neg hobject]
    split
    · next e he =>
      rw [hscalar] at he
      cases he
    · next rest' hrest =>
      rw [hscalar] at hrest
      cases hrest
      rfl

theorem skipFrom_of_key (h : skipKey cs = .ok rest) :
    skipFrom (.item .object) around cs = skipFrom .value (.object :: around) rest := by
  conv => lhs; rw [skipFrom]
  split
  · next e he =>
    rw [h] at he
    cases he
  · next rest' hrest =>
    rw [h] at hrest
    cases hrest
    rfl

theorem skipFrom_opened_of_closing (h : skipBlanks cs = b.closing :: tail) :
    skipFrom (.opened b) around cs = skipFrom .closed around tail := by
  rw [skipFrom]
  split
  · next hskip =>
    rw [h] at hskip
    cases hskip
  · next c rest hskip =>
    rw [h] at hskip
    cases hskip
    exact if_pos rfl

theorem skipFrom_opened_of_ne (h : skipBlanks cs = c :: tail) (hc : c ≠ b.closing) :
    skipFrom (.opened b) around cs = skipFrom (.item b) around (c :: tail) := by
  rw [skipFrom]
  split
  · next hskip =>
    rw [h] at hskip
    cases hskip
  · next c' rest hskip =>
    rw [h] at hskip
    cases hskip
    exact if_neg hc

theorem skipFrom_closed_of_comma (h : skipBlanks cs = ',' :: tail) :
    skipFrom .closed (b :: around) cs = skipFrom (.item b) around tail := by
  rw [skipFrom]
  split
  · next hskip =>
    rw [h] at hskip
    cases hskip
  · next c rest hskip =>
    rw [h] at hskip
    cases hskip
    exact if_pos rfl

theorem skipFrom_closed_of_closing (h : skipBlanks cs = b.closing :: tail) :
    skipFrom .closed (b :: around) cs = skipFrom .closed around tail := by
  rw [skipFrom]
  split
  · next hskip =>
    rw [h] at hskip
    cases hskip
  · next c rest hskip =>
    rw [h] at hskip
    cases hskip
    rw [if_neg (by cases b <;> decide), if_pos rfl]

end machine

/-- What is skipped of a part that the machine awaits, and of the blanks before it. -/
def Skipped : Part → List Char → Prop
  | .value, w => ∀ around cs rest, Stops continuesNumber rest → skipBlanks cs = w ++ rest →
    skipFrom .value around cs = skipFrom .closed around rest
  | .item b, w => ∀ around cs rest, Stops continuesNumber rest →
    skipBlanks cs = skipBlanks (w ++ rest) →
    ∃ cs', skipBlanks cs' = skipBlanks rest ∧
      skipFrom (.item b) around cs = skipFrom .closed (b :: around) cs'
  | .items b, w => ∀ around cs rest, skipBlanks cs = skipBlanks (w ++ b.closing :: rest) →
    skipFrom (.item b) around cs = skipFrom .closed around rest

theorem IsScalar.skipped (h : IsScalar v) : Skipped .value v := by
  intro around cs rest hrest hcs
  obtain ⟨c, tail, rfl, -, hc, hskip⟩ := h
  exact skipFrom_of_scalar hcs hc (hskip rest hrest)

/-- **What the grammar derives is skipped.** -/
theorem Derives.skipped {part : Part} (h : Derives part w) : Skipped part w := by
  induction h with
  | word h => exact (isScalar_of_mem_words h).skipped
  | number h => exact (isScalar_of_isNumber h).skipped
  | string h => exact (isScalar_of_isBody h).skipped
  | @nothing b s hs =>
    intro around cs rest _ hcs
    have hclosing : skipBlanks (s ++ [b.closing] ++ rest) = b.closing :: rest := by
      rw [List.append_assoc, skipBlanks_append hs]
      exact skipBlanks_cons (by cases b <;> rfl) rest
    rw [List.cons_append] at hcs
    rw [skipFrom_of_opening hcs, skipFrom_opened_of_closing hclosing]
  | @bracket b w hw ih =>
    intro around cs rest _ hcs
    obtain ⟨s, c, tail, hs, rfl, hblank, hc⟩ := hw.exists_begin_items
    have hbegin : skipBlanks (s ++ c :: tail ++ [b.closing] ++ rest)
        = c :: (tail ++ b.closing :: rest) := by
      simp [skipBlanks_append hs, skipBlanks_cons hblank]
    rw [List.cons_append] at hcs
    rw [skipFrom_of_opening hcs, skipFrom_opened_of_ne hbegin (hc b)]
    refine ih around _ rest ?_
    simp [skipBlanks_append hs, skipBlanks_cons hblank]
  | @element s s' v hs hv hs' ih =>
    intro around cs rest hrest hcs
    obtain ⟨c, tail, rfl, hblank, -⟩ := hv.exists_cons
    refine ⟨s' ++ rest, skipBlanks_append hs' rest, ?_⟩
    rw [skipFrom]
    refine ih _ cs (s' ++ rest) (stops_of_blanks hs' hrest) ?_
    rw [hcs]
    simp [skipBlanks_append hs, skipBlanks_cons hblank]
  | @member s₁ s₂ s₃ s₄ key v h₁ hkey h₂ h₃ hv h₄ ih =>
    intro around cs rest hrest hcs
    obtain ⟨c, tail, rfl, hblank, -⟩ := hv.exists_cons
    refine ⟨s₄ ++ rest, skipBlanks_append h₄ rest, ?_⟩
    have hread : skipKey cs = .ok (s₃ ++ (c :: tail ++ (s₄ ++ rest))) := by
      rw [skipKey_congr hcs]
      exact skipKey_eq_ok_iff.mpr ⟨s₁, key, s₂, h₁, hkey, h₂, by simp⟩
    rw [skipFrom_of_key hread]
    refine ih _ _ (s₄ ++ rest) (stops_of_blanks h₄ hrest) ?_
    rw [skipBlanks_append h₃]
    exact skipBlanks_cons hblank _
  | @one b w hw ih =>
    intro around cs rest hcs
    obtain ⟨cs', hcs', hskip⟩ := ih around cs (b.closing :: rest) (stops_closing b rest) hcs
    rw [hskip]
    refine skipFrom_closed_of_closing (hcs'.trans ?_)
    exact skipBlanks_cons (by cases b <;> rfl) rest
  | @more b v w hv hw ihv ihw =>
    intro around cs rest hcs
    have happend : v ++ ',' :: w ++ b.closing :: rest = v ++ ',' :: (w ++ b.closing :: rest) := by simp
    rw [happend] at hcs
    obtain ⟨cs', hcs', hskip⟩ := ihv around cs _ (stops_cons rfl) hcs
    rw [hskip, skipFrom_closed_of_comma (hcs'.trans (skipBlanks_cons rfl _))]
    exact ihw around _ rest rfl

/-- **What is skipped is a value, with the blanks before it.** -/
theorem skipValue_sound (h : skipValue cs = .ok rest) :
    ∃ s v, IsBlanks s ∧ Derives .value v ∧ cs = s ++ (v ++ rest) := by
  obtain ⟨w, hw, rfl⟩ := skipFrom_sound h
  cases hw with
  | @value _ s v w hs hv hdone =>
    cases hdone
    exact ⟨s, v, hs, hv, by simp⟩

/-- **Every value is skipped, whatever its depth.** -/
theorem Derives.skipValue_eq (hv : Derives .value v) (hs : IsBlanks s)
    (hrest : Stops continuesNumber rest) : skipValue (s ++ (v ++ rest)) = .ok rest := by
  obtain ⟨c, tail, rfl, hblank, -⟩ := hv.exists_cons
  have hcs : skipBlanks (s ++ (c :: tail ++ rest)) = c :: tail ++ rest := by
    rw [skipBlanks_append hs]
    exact skipBlanks_cons hblank _
  rw [skipValue, hv.skipped [] _ rest hrest hcs, skipFrom]

end FragmentFeed.Json
