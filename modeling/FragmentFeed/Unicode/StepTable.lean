import FragmentFeed.Text.Digit
import FragmentFeed.Text.Pieces

/-!
# Step tables

A property of code points as a table of steps: each row gives the first code point of a range and
the tag of every code point from there to the next row. A table is written in lines, its rows apart
by spaces and each of the form `start:tag`, with the start in hexadecimal.
-/

namespace FragmentFeed.Unicode

open Text

/-- Rows by ascending start. -/
abbrev StepTable := Array (Nat × List Char)

namespace StepTable

/-- One row, `start:tag`; what has no colon is no row. -/
def row? (cs : List Char) : Option (Nat × List Char) :=
  match cs.dropWhile (· != ':') with
  | _ :: tag => (Digit.gather? 16 0 (cs.takeWhile (· != ':'))).map (·, tag)
  | [] => none

/-- The rows of a line. -/
def rowsOf (line : List Char) : List (Nat × List Char) := (pieces (· = ' ') line).filterMap row?

/-- Reads a table. -/
def ofLines (lines : List String) : StepTable := ((lines.map String.toList).flatMap rowsOf).toArray

/-- The number of rows, among those from `lo` to `hi`, that begin at or before `n`, by halving. -/
def search (t : StepTable) (n lo hi : Nat) : Nat :=
  if lo < hi then
    let mid := (lo + hi) / 2
    match t[mid]? with
    | none => search t n lo mid
    | some r => if r.1 ≤ n then search t n (mid + 1) hi else search t n lo mid
  else lo
termination_by hi - lo

/-- The row that holds code point `n`. -/
def find? (t : StepTable) (n : Nat) : Option (Nat × List Char) :=
  match search t n 0 t.size with
  | 0 => none
  | k + 1 => t[k]?

/-- The tag of a code point, empty before the first row. -/
def tag (t : StepTable) (n : Nat) : List Char := ((t.find? n).map (·.2)).getD []

end StepTable

end FragmentFeed.Unicode
