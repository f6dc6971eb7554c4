import FragmentFeed.Proofs.Text.Digit
import FragmentFeed.Proofs.Text.Pieces
import FragmentFeed.Url.Ipv4

/-!
# IPv4 addresses there and back

An address is read as it is written (`parse?_toText`): as four decimal bytes, the last of which tells that it is
an address (`endsInNumber_toText`).
-/

namespace FragmentFeed.Ipv4

open Text

variable {a : Ipv4} {c : Char} {n : Nat}

/-- The byte that weighs a power of 256. -/
def byte (a : Ipv4) (k : Nat) : Nat := a.value.toNat / Nat.pow 256 k % 256

theorem byte_lt (a : Ipv4) (k : Nat) : a.byte k < 256 := Nat.mod_lt _ (by decide)

/-- The bytes as they are written, the most significant one first. -/
def parts (a : Ipv4) : List (List Char) := [3, 2, 1, 0].map fun k => Digit.decimal (a.byte k)

theorem ne_dot_of_isDigit (h : c.isDigit = true) : decide (c = '.') = false := by
  refine decide_eq_false ?_
  rintro rfl
  exact absurd h (by decide)

theorem pieces_toText (a : Ipv4) : pieces (· = '.') a.toText = a.parts := by
  have htext : a.toText = Digit.decimal (a.byte 3) ++ (a.parts.drop 1).flatMap ('.' :: ·) := by
    simp only [toText, parts, byte, List.map_cons, List.map_nil, List.drop_one, List.tail_cons, List.flatMap_cons,
      List.flatMap_nil, List.append_nil, List.append_assoc, List.cons_append]
  rw [htext]
  refine pieces_append_flatMap (by decide) (fun c hc => ne_dot_of_isDigit (Digit.isDigit_of_mem_decimal hc)) ?_
  intro p hp c hc
  obtain ⟨k, -, rfl⟩ := List.mem_map.mp (List.mem_of_mem_drop hp)
  exact ne_dot_of_isDigit (Digit.isDigit_of_mem_decimal hc)

/-- Written out an address is made of digits and dots. -/
theorem isDigit_of_mem_toText (h : c ∈ a.toText) : c.isDigit = true ∨ c = '.' := by
  simp only [toText, List.mem_append, List.mem_cons, or_assoc] at h
  rcases h with h | rfl | h | rfl | h | rfl | h
  · exact Or.inl (Digit.isDigit_of_mem_decimal h)
  · exact Or.inr rfl
  · exact Or.inl (Digit.isDigit_of_mem_decimal h)
  · exact Or.inr rfl
  · exact Or.inl (Digit.isDigit_of_mem_decimal h)
  · exact Or.inr rfl
  · exact Or.inl (Digit.isDigit_of_mem_decimal h)

theorem labels_toText (a : Ipv4) : labels a.toText = a.parts := by
  have hlast : ¬ (a.parts.length > 1 ∧ a.parts.getLast? = some []) := by
    rintro ⟨-, hlast⟩
    exact Nat.toDigits_ne_nil (Option.some.inj hlast)
  unfold labels
  dsimp only
  rw [pieces_toText, if_neg hlast]

/-- It is told to be an address. -/
theorem endsInNumber_toText (a : Ipv4) : endsInNumber a.toText = true := by
  obtain ⟨d, ds, hdigits⟩ := List.exists_cons_of_ne_nil (Nat.toDigits_ne_nil (n := a.byte 0) (b := 10))
  have hall : (d :: ds).all Char.isDigit = true := by
    rw [← hdigits]
    exact List.all_eq_true.mpr fun c hc => Digit.isDigit_of_mem_decimal hc
  have hlast : a.parts.getLast? = some (d :: ds) := by
    rw [← hdigits]
    rfl
  unfold endsInNumber
  rw [labels_toText, hlast]
  dsimp only
  rw [hall, Bool.true_or]

/-- A byte in decimal is read as itself. -/
theorem number_decimal (h : n < 256) : number (Digit.decimal n) = .value n := by
  have hall : ∀ n ∈ List.range 256, number (Digit.decimal n) = .value n := by decide +kernel
  exact hall n (List.mem_range.mpr h)

/-- What reads a byte as itself reads those of an address. -/
theorem mapM_parts {f : List Char → Option Nat} (hf : ∀ n < 256, f (Digit.decimal n) = some n) (a : Ipv4) :
    a.parts.mapM f = some [a.byte 3, a.byte 2, a.byte 1, a.byte 0] := by
  simp only [parts, List.map_cons, List.map_nil, List.mapM_cons, List.mapM_nil, hf _ (a.byte_lt _)]
  rfl

theorem ofNumbers_bytes (a : Ipv4) :
    ofNumbers 3 [a.byte 3, a.byte 2, a.byte 1, a.byte 0] = some a.value.toNat := by
  have hvalue : a.byte 3 * 256 ^ 3 + (a.byte 2 * 256 ^ 2 + (a.byte 1 * 256 ^ 1 + a.byte 0)) = a.value.toNat := by
    have hsize : a.value.toNat < 4294967296 := a.value.toNat_lt
    show a.value.toNat / 256 ^ 3 % 256 * 256 ^ 3 + (a.value.toNat / 256 ^ 2 % 256 * 256 ^ 2
      + (a.value.toNat / 256 ^ 1 % 256 * 256 ^ 1 + a.value.toNat / 256 ^ 0 % 256)) = a.value.toNat
    omega
  simp only [ofNumbers, a.byte_lt, if_true]
  exact congrArg some hvalue

/-- **An address is read as it is written.** -/
theorem parse?_toText (a : Ipv4) : parse? a.toText = some a := by
  unfold parse?
  rw [labels_toText, mapM_parts (fun n hn => by rw [number_decimal hn]), Option.bind_eq_bind, Option.bind_some,
    ofNumbers_bytes]
  show some (⟨UInt32.ofNat a.value.toNat⟩ : Ipv4) = some a
  rw [UInt32.ofNat_toNat]

end FragmentFeed.Ipv4
