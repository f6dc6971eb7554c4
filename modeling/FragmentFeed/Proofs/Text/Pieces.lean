import Mathlib.Data.List.TakeWhile
import FragmentFeed.Text.Pieces

/-!
# Pieces and separators

Pieces hold no separators (`not_isSeparator_of_mem_pieces`), and to cut what has been put together from
such pieces gives them back (`pieces_append_flatMap`, `pieces_intercalate`). A list without blanks around
it is not trimmed (`trim_eq_self`), and what is trimmed off at the end is blank (`dropWhile_eq_trim_append`).
-/

namespace FragmentFeed.Text

variable {α : Type} {isSeparator : α → Bool} {a b : List α} {s : α}

theorem pieces_cons_of_separator (h : isSeparator s = true) (b : List α) :
    pieces isSeparator (s :: b) = [] :: pieces isSeparator b := by
  rw [pieces, if_pos h]

/-- What stands in front of the first separator is the first piece. -/
theorem pieces_append_of_head (ha : ∀ c ∈ a, isSeparator c = false) {p : List α} {ps : List (List α)}
    (hb : pieces isSeparator b = p :: ps) : pieces isSeparator (a ++ b) = (a ++ p) :: ps := by
  induction a with
  | nil => exact hb
  | cons c a ih =>
    have hc : isSeparator c = false := ha c (by simp)
    have ha' : ∀ d ∈ a, isSeparator d = false := fun d hd => ha d (by simp [hd])
    rw [List.cons_append, pieces, if_neg (by simp [hc]), ih ha']
    rfl

/-- A text without separators is one piece. -/
theorem pieces_eq_singleton (ha : ∀ c ∈ a, isSeparator c = false) : pieces isSeparator a = [a] := by
  have h := pieces_append_of_head (b := []) ha rfl
  rwa [List.append_nil] at h

/-- **To cut is to undo putting together.** -/
theorem pieces_append_flatMap (hs : isSeparator s = true) {ps : List (List α)}
    (ha : ∀ c ∈ a, isSeparator c = false) (hps : ∀ p ∈ ps, ∀ c ∈ p, isSeparator c = false) :
    pieces isSeparator (a ++ ps.flatMap (s :: ·)) = a :: ps := by
  induction ps generalizing a with
  | nil =>
    rw [List.flatMap_nil, List.append_nil]
    exact pieces_eq_singleton ha
  | cons p ps ih =>
    have hrest : pieces isSeparator (s :: (p ++ ps.flatMap (s :: ·))) = [] :: p :: ps := by
      rw [pieces_cons_of_separator hs, ih (hps p (by simp)) fun q hq => hps q (by simp [hq])]
    have happend := pieces_append_of_head ha hrest
    rwa [List.append_nil] at happend

theorem intercalate_cons (s : α) (p : List α) (ps : List (List α)) :
    [s].intercalate (p :: ps) = p ++ ps.flatMap (s :: ·) := by
  induction ps generalizing p with
  | nil => simp
  | cons q ps ih => rw [List.intercalate_cons_cons, ih, List.flatMap_cons]; simp

theorem pieces_intercalate (hs : isSeparator s = true) {ps : List (List α)} (hne : ps ≠ [])
    (hps : ∀ p ∈ ps, ∀ c ∈ p, isSeparator c = false) :
    pieces isSeparator ([s].intercalate ps) = ps := by
  cases ps with
  | nil => exact absurd rfl hne
  | cons p ps =>
    rw [intercalate_cons]
    exact pieces_append_flatMap hs (hps p (by simp)) fun q hq => hps q (by simp [hq])

/-- A separator cuts, whatever stands around it. -/
theorem pieces_append_separator (hs : isSeparator s = true) (a b : List α) :
    pieces isSeparator (a ++ s :: b) = pieces isSeparator a ++ pieces isSeparator b := by
  induction a with
  | nil => exact pieces_cons_of_separator hs b
  | cons c a ih =>
    rw [List.cons_append, pieces, pieces, ih]
    split
    · rfl
    · cases hp : pieces isSeparator a with
      | nil => exact absurd hp (pieces_ne_nil isSeparator a)
      | cons p ps => rfl

/-- There are no separators in a piece. -/
theorem not_isSeparator_of_mem_pieces {p : List α} (h : p ∈ pieces isSeparator a) :
    ∀ c ∈ p, c ∈ a ∧ isSeparator c = false := by
  induction a generalizing p with
  | nil =>
    rw [pieces, List.mem_singleton] at h
    simp [h]
  | cons d a ih =>
    rw [pieces] at h
    split at h
    · rcases List.mem_cons.mp h with rfl | hp
      · simp
      · exact fun c hc => ⟨List.mem_cons_of_mem d (ih hp c hc).1, (ih hp c hc).2⟩
    · rename_i hd
      split at h
      · rename_i hnil
        exact absurd hnil (pieces_ne_nil isSeparator a)
      · rename_i q ps hq
        have hrest {r : List α} (hr : r ∈ q :: ps) : ∀ c ∈ r, c ∈ d :: a ∧ isSeparator c = false := by
          intro c hc
          rw [← hq] at hr
          exact ⟨List.mem_cons_of_mem d (ih hr c hc).1, (ih hr c hc).2⟩
        rcases List.mem_cons.mp h with rfl | hp
        · intro c hc
          rcases List.mem_cons.mp hc with rfl | hc
          · exact ⟨by simp, by simpa using hd⟩
          · exact hrest (by simp) c hc
        · exact hrest (by simp [hp])

/-! ## Up to a mark -/

section

variable {p : α → Bool}

/-- What is passed over ends where the rest begins. -/
theorem takeWhile_append_of_head? (ha : ∀ c ∈ a, p c = true) (hb : ∀ c, b.head? = some c → p c = false) :
    (a ++ b).takeWhile p = a := by
  rw [List.takeWhile_append_of_pos ha]
  cases b with
  | nil => exact List.append_nil a
  | cons c b => rw [List.takeWhile_cons_of_neg (Bool.eq_false_iff.mp (hb c rfl)), List.append_nil]

theorem dropWhile_append_of_head? (ha : ∀ c ∈ a, p c = true) (hb : ∀ c, b.head? = some c → p c = false) :
    (a ++ b).dropWhile p = b := by
  rw [List.dropWhile_append_of_pos ha]
  cases b with
  | nil => rfl
  | cons c b => rw [List.dropWhile_cons_of_neg (Bool.eq_false_iff.mp (hb c rfl))]

end

/-! ## Blanks around a list -/

variable {isBlank : α → Bool}

/-- What is taken off at the end of a list is blank. -/
theorem dropWhile_eq_trim_append (isBlank : α → Bool) (a : List α) :
    ∃ tail, a.dropWhile isBlank = trim isBlank a ++ tail ∧ ∀ c ∈ tail, isBlank c = true := by
  refine ⟨((a.dropWhile isBlank).reverse.takeWhile isBlank).reverse, ?_, fun c hc => ?_⟩
  · rw [trim, ← List.reverse_append, List.takeWhile_append_dropWhile, List.reverse_reverse]
  · exact List.mem_takeWhile_imp (List.mem_reverse.mp hc)

theorem dropWhile_of_head? {p : α → Bool} (h : ∀ c, a.head? = some c → p c = false) : a.dropWhile p = a :=
  dropWhile_append_of_head? (a := []) (by simp) h

/-- A list that neither begins nor ends with a blank is left as it is. -/
theorem trim_eq_self (h : ∀ c, a.head? = some c ∨ a.getLast? = some c → isBlank c = false) :
    trim isBlank a = a := by
  rw [trim, dropWhile_of_head? fun c hc => h c (Or.inl hc), dropWhile_of_head?, List.reverse_reverse]
  intro c hc
  rw [List.head?_reverse] at hc
  exact h c (Or.inr hc)

/-- And so is one without blanks. -/
theorem trim_of_no_blanks (h : ∀ c ∈ a, isBlank c = false) : trim isBlank a = a := by
  refine trim_eq_self fun c hc => h c ?_
  rcases hc with hhead | hlast
  · exact List.mem_of_mem_head? hhead
  · exact List.mem_of_mem_getLast? hlast

end FragmentFeed.Text
