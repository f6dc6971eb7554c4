/-!
# Pieces

A list cut at its separators. There is one piece more than there are separators, and pieces may be
empty; the pieces with the separators put back between them are the list. `trim` takes off what
stands around a list.
-/

namespace FragmentFeed.Text

/-- The pieces of a list between the separators. -/
def pieces {α : Type} (isSeparator : α → Bool) : List α → List (List α)
  | [] => [[]]
  | c :: rest =>
    if isSeparator c then [] :: pieces isSeparator rest
    else
      match pieces isSeparator rest with
      | [] => [[c]]
      | s :: more => (c :: s) :: more

theorem pieces_ne_nil {α : Type} (isSeparator : α → Bool) (cs : List α) :
    pieces isSeparator cs ≠ [] := by
  cases cs with
  | nil => simp [pieces]
  | cons c rest =>
    rw [pieces]
    split
    · simp
    · split <;> simp

/-- A list without the blanks around it. -/
def trim {α : Type} (isBlank : α → Bool) (cs : List α) : List α :=
  ((cs.dropWhile isBlank).reverse.dropWhile isBlank).reverse

end FragmentFeed.Text
