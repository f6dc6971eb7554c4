import FragmentFeed.Proofs.Json.Grammar

/-!
# Reading numbers

`numeral` takes a number of the grammar off the front of a text, and as much of it as there is: what is
left does not go on with the number (`Numeral.isNumeral`, `IsNumeral.exists_numeral`).
-/

namespace FragmentFeed.Json

variable {atEnd : Cause} {cs ds rest w : List Char} {p : Char → Bool}

/-! ## Characters of numbers -/

theorem isDigit_iff {c : Char} : isDigit c = true ↔ '0' ≤ c ∧ c ≤ '9' := by
  simp [isDigit]

theorem isExponentMark_iff {c : Char} : isExponentMark c = true ↔ c = 'e' ∨ c = 'E' := by
  simp [isExponentMark]

theorem IsDigits.isDigit (h : IsDigits w) : ∀ c ∈ w, Json.isDigit c = true := by
  intro c hc
  exact isDigit_iff.mpr (h.2 c hc)

/-- What is no digit is not one of the digits. -/
theorem ne_of_isDigit {c d : Char} (hc : isDigit c = true) (hd : isDigit d = false) : c ≠ d := by
  rintro rfl
  rw [hc] at hd
  cases hd

/-! ## Where a number stops -/

theorem Stops.mono {q : Char → Bool} (h : Stops q rest) (hpq : ∀ c, q c = false → p c = false) :
    Stops p rest := by
  intro c tail hc
  exact hpq c (h c tail hc)

theorem Stops.isDigit (h : Stops continuesNumber rest) : Stops Json.isDigit rest := by
  refine h.mono fun c hc => ?_
  simp only [continuesNumber, Bool.or_eq_false_iff] at hc
  exact hc.1.1

theorem Stops.isPoint (h : Stops continuesNumber rest) : Stops (· = '.') rest := by
  refine h.mono fun c hc => ?_
  simp only [continuesNumber, Bool.or_eq_false_iff] at hc
  exact hc.1.2

theorem Stops.isExponentMark (h : Stops continuesNumber rest) : Stops Json.isExponentMark rest := by
  refine h.mono fun c hc => ?_
  simp only [continuesNumber, Bool.or_eq_false_iff] at hc
  exact hc.2

/-- An exponent begins with its mark. -/
theorem IsExponent.stops (h : IsExponent w) (hmark : ∀ c, isExponentMark c = true → p c = false)
    (hrest : Stops p rest) : Stops p (w ++ rest) := by
  rcases h with rfl | ⟨e, sign, ds, rfl, he, -, -⟩
  · exact hrest
  · exact stops_cons (hmark e (isExponentMark_iff.mpr he))

/-- A fraction begins with its point. -/
theorem IsFraction.stops (h : IsFraction w) (hpoint : p '.' = false) (hrest : Stops p rest) :
    Stops p (w ++ rest) := by
  rcases h with rfl | ⟨ds, rfl, -⟩
  · exact hrest
  · exact stops_cons hpoint

theorem isDigit_of_isExponentMark {c : Char} (h : isExponentMark c = true) : isDigit c = false := by
  rcases isExponentMark_iff.mp h with rfl | rfl <;> rfl

theorem isPoint_of_isExponentMark {c : Char} (h : isExponentMark c = true) :
    decide (c = '.') = false := by
  rcases isExponentMark_iff.mp h with rfl | rfl <;> rfl

/-! ## Digits -/

theorem digits_sound (h : digits atEnd cs = .ok (ds, rest)) : IsDigits ds ∧ cs = ds ++ rest := by
  unfold digits at h
  split at h
  · cases h
  · next hne =>
    cases h
    refine ⟨⟨hne, ?_⟩, List.takeWhile_append_dropWhile.symm⟩
    intro c hc
    exact isDigit_iff.mp (List.all_eq_true.mp List.all_takeWhile c hc)

theorem takeWhile_append_of_stops (h : ∀ c ∈ ds, p c = true) (hrest : Stops p rest) :
    (ds ++ rest).takeWhile p = ds ∧ (ds ++ rest).dropWhile p = rest := by
  induction ds with
  | nil =>
    cases rest with
    | nil => exact ⟨rfl, rfl⟩
    | cons c tail =>
      have hc : ¬p c = true := by simp [hrest c tail rfl]
      exact ⟨List.takeWhile_cons_of_neg hc, List.dropWhile_cons_of_neg hc⟩
  | cons c ds ih =>
    have hc := h c (by simp)
    obtain ⟨htake, hdrop⟩ := ih fun d hd => h d (by simp [hd])
    rw [List.cons_append, List.takeWhile_cons_of_pos hc, List.dropWhile_cons_of_pos hc, htake, hdrop]
    exact ⟨rfl, rfl⟩

theorem digits_append (hds : IsDigits ds) (hrest : Stops isDigit rest) :
    digits atEnd (ds ++ rest) = .ok (ds, rest) := by
  obtain ⟨htake, hdrop⟩ := takeWhile_append_of_stops hds.isDigit hrest
  unfold digits
  rw [htake, hdrop]
  cases ds with
  | nil => exact absurd rfl hds.1
  | cons c ds => rfl

/-! ## The parts of a number -/

theorem integerDigits_sound (h : integerDigits atEnd cs = .ok (ds, rest)) :
    IsInteger ds ∧ cs = ds ++ rest := by
  unfold integerDigits at h
  split at h
  · cases h
  · next hne =>
    obtain ⟨hds, hcs⟩ := digits_sound h
    refine ⟨⟨hds, ?_⟩, hcs⟩
    -- a zero that does not stand alone would have been refused
    intro hzero
    cases ds with
    | nil => cases hzero
    | cons c tail =>
      obtain rfl : c = '0' := by simpa using hzero
      cases tail with
      | nil => rfl
      | cons d tail => exact absurd h (hne d tail rest)

theorem integerDigits_append (hds : IsInteger ds) (hrest : Stops isDigit rest) :
    integerDigits atEnd (ds ++ rest) = .ok (ds, rest) := by
  unfold integerDigits
  rw [digits_append hds.1 hrest]
  split
  · next d tail rest' heq =>
    simp only [Except.ok.injEq, Prod.mk.injEq] at heq
    have halone := hds.2 (by rw [heq.1]; rfl)
    rw [heq.1] at halone
    cases halone
  · rfl

theorem fractionDigits_sound (h : fractionDigits atEnd cs = .ok (ds, rest)) :
    ∃ w, IsFraction w ∧ cs = w ++ rest := by
  unfold fractionDigits at h
  split at h
  · obtain ⟨hds, rfl⟩ := digits_sound h
    exact ⟨'.' :: ds, .inr ⟨ds, rfl, hds⟩, rfl⟩
  · cases h
    exact ⟨[], .inl rfl, rfl⟩

theorem exists_fractionDigits (atEnd : Cause) (hw : IsFraction w) (hdigit : Stops isDigit rest)
    (hpoint : Stops (· = '.') rest) : ∃ ds, fractionDigits atEnd (w ++ rest) = .ok (ds, rest) := by
  rcases hw with rfl | ⟨ds, rfl, hds⟩
  · refine ⟨[], ?_⟩
    rw [List.nil_append]
    unfold fractionDigits
    split
    · next tail =>
      have := hpoint '.' tail rfl
      cases this
    · rfl
  · exact ⟨ds, digits_append hds hdigit⟩

theorem exponentDigits_sound {e : Option (Bool × List Char)}
    (h : exponentDigits atEnd cs = .ok (e, rest)) : ∃ w, IsExponent w ∧ cs = w ++ rest := by
  unfold exponentDigits at h
  split at h
  · next c tail =>
    split at h
    · next hmark =>
      have hsigned : ∀ {sign tail' : List Char} {negative : Bool},
          (sign = [] ∨ sign = ['+'] ∨ sign = ['-']) →
          (digits atEnd tail').map (fun r => (some (negative, r.1), r.2)) = .ok (e, rest) →
          ∃ w, IsExponent w ∧ c :: (sign ++ tail') = w ++ rest := by
        intro sign tail' negative hsign hread
        cases hds : digits atEnd tail' with
        | error f => rw [hds] at hread; cases hread
        | ok r =>
          obtain ⟨ds, rest'⟩ := r
          rw [hds] at hread
          cases hread
          obtain ⟨hdigits, rfl⟩ := digits_sound hds
          have he := isExponentMark_iff.mp hmark
          exact ⟨c :: (sign ++ ds), .inr ⟨c, sign, ds, rfl, he, hsign, hdigits⟩, by simp⟩
      dsimp only at h
      split at h
      · exact hsigned (.inr (.inl rfl)) h
      · exact hsigned (.inr (.inr rfl)) h
      · exact hsigned (.inl rfl) h
    · cases h
      exact ⟨[], .inl rfl, rfl⟩
  · cases h
    exact ⟨[], .inl rfl, rfl⟩

theorem exists_exponentDigits (atEnd : Cause) (hw : IsExponent w) (hdigit : Stops isDigit rest)
    (hmark : Stops isExponentMark rest) :
    ∃ e, exponentDigits atEnd (w ++ rest) = .ok (e, rest) := by
  rcases hw with rfl | ⟨e, sign, ds, rfl, he, hsign, hds⟩
  · refine ⟨none, ?_⟩
    cases rest with
    | nil => rfl
    | cons c tail =>
      unfold exponentDigits
      dsimp only [List.nil_append]
      rw [if_neg (by simp [hmark c tail rfl])]
  · have hread : digits atEnd (ds ++ rest) = .ok (ds, rest) := digits_append hds hdigit
    unfold exponentDigits
    dsimp only [List.cons_append]
    rw [if_pos (isExponentMark_iff.mpr he), List.append_assoc]
    rcases hsign with rfl | rfl | rfl
    · -- the first digit is no sign
      obtain ⟨d, tail, rfl⟩ := List.exists_cons_of_ne_nil hds.1
      have hd := hds.isDigit d (by simp)
      refine ⟨some (false, d :: tail), ?_⟩
      split
      · next r hr =>
        cases hr
        exact absurd rfl (ne_of_isDigit hd rfl)
      · next r hr =>
        cases hr
        exact absurd rfl (ne_of_isDigit hd rfl)
      · show (digits atEnd (d :: tail ++ rest)).map _ = _
        rw [hread]
        rfl
    · refine ⟨some (false, ds), ?_⟩
      show (digits atEnd (ds ++ rest)).map _ = _
      rw [hread]
      rfl
    · refine ⟨some (true, ds), ?_⟩
      show (digits atEnd (ds ++ rest)).map _ = _
      rw [hread]
      rfl

/-! ## Numbers -/

theorem Numeral.isNumeral {n : Numeral} (h : numeral atEnd cs = .ok (n, rest)) :
    ∃ w, IsNumeral w ∧ cs = w ++ rest := by
  unfold numeral at h
  split at h
  · cases h
  · next integer r₁ h₁ =>
    split at h
    · cases h
    · next fraction r₂ h₂ =>
      split at h
      · cases h
      · next exponent r₃ h₃ =>
        cases h
        obtain ⟨hinteger, rfl⟩ := integerDigits_sound h₁
        obtain ⟨w₂, hfraction, rfl⟩ := fractionDigits_sound h₂
        obtain ⟨w₃, hexponent, rfl⟩ := exponentDigits_sound h₃
        exact ⟨integer ++ (w₂ ++ w₃), ⟨integer, w₂, w₃, rfl, hinteger, hfraction, hexponent⟩, by simp⟩

/-- **A number is read to its end.** -/
theorem IsNumeral.exists_numeral (atEnd : Cause) (hw : IsNumeral w) (hrest : Stops continuesNumber rest) :
    ∃ n, numeral atEnd (w ++ rest) = .ok (n, rest) := by
  obtain ⟨integer, fraction, exponent, rfl, hinteger, hfraction, hexponent⟩ := hw
  have hdigit := hexponent.stops (fun c hc => isDigit_of_isExponentMark hc) hrest.isDigit
  have hpoint := hexponent.stops (fun c hc => isPoint_of_isExponentMark hc) hrest.isPoint
  have h₁ : integerDigits atEnd (integer ++ (fraction ++ (exponent ++ rest))) = .ok (integer, _) :=
    integerDigits_append hinteger (hfraction.stops rfl hdigit)
  obtain ⟨ds, h₂⟩ := exists_fractionDigits atEnd hfraction hdigit hpoint
  obtain ⟨e, h₃⟩ := exists_exponentDigits atEnd hexponent hrest.isDigit hrest.isExponentMark
  refine ⟨⟨integer, ds, e⟩, ?_⟩
  unfold numeral
  simp only [List.append_assoc, h₁, h₂, h₃]

end FragmentFeed.Json
