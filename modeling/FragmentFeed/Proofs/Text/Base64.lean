import FragmentFeed.Proofs.Text.Percent
import FragmentFeed.Text.Base64

/-!
# Base64 as it is written

What it means that a text is some bytes in base 64 (`Writes`), apart from how it is computed, and that
`encode` makes such a text (`writes_encode`). It is made of visible characters (`isVisible_of_mem_encode`).
-/

namespace FragmentFeed.Text.Base64

/-- The digits, by value. -/
def alphabet : List Char := "ABCDEFGHIJKLMNOPQRSTUVWXYZabcdefghijklmnopqrstuvwxyz0123456789+/".toList

/-- Whether a text is some bytes in base 64. Three bytes and four digits make the same number; where bytes are
missing in the last group, what is left makes it with zero bits behind, and the text is filled up. -/
inductive Writes : List UInt8 → List Char → Prop
  | nil : Writes [] []
  | one {a : UInt8} {p q : Char} {v w : Nat} (hp : alphabet[v]? = some p) (hq : alphabet[w]? = some q)
    (h : v * 64 + w = a.toNat * 16) : Writes [a] [p, q, '=', '=']
  | two {a b : UInt8} {p q r : Char} {v w x : Nat} (hp : alphabet[v]? = some p) (hq : alphabet[w]? = some q)
    (hr : alphabet[x]? = some r) (h : (v * 64 + w) * 64 + x = (a.toNat * 256 + b.toNat) * 4) :
    Writes [a, b] [p, q, r, '=']
  | three {a b c : UInt8} {p q r s : Char} {v w x y : Nat} {bs : List UInt8} {text : List Char}
    (hp : alphabet[v]? = some p) (hq : alphabet[w]? = some q) (hr : alphabet[x]? = some r)
    (hs : alphabet[y]? = some s)
    (h : ((v * 64 + w) * 64 + x) * 64 + y = (a.toNat * 256 + b.toNat) * 256 + c.toNat)
    (hrest : Writes bs text) : Writes (a :: b :: c :: bs) (p :: q :: r :: s :: text)

theorem getElem?_alphabet {n : Nat} (h : n < 64) : alphabet[n]? = some (digit n) := by
  have hall : ∀ n ∈ List.range 64, alphabet[n]? = some (digit n) := by decide
  exact hall n (List.mem_range.mpr h)

/-- **Bytes are written in base 64.** -/
theorem writes_encode (bs : List UInt8) : Writes bs (encode bs) := by
  have hlt (b : UInt8) : b.toNat < 256 := b.toNat_lt
  fun_induction encode bs with
  | case1 => exact .nil
  | case2 a n =>
    have ha := hlt a
    exact .one (getElem?_alphabet (by omega)) (getElem?_alphabet (by omega)) (by omega)
  | case3 a b n =>
    have ha := hlt a
    have hb := hlt b
    exact .two (getElem?_alphabet (by omega)) (getElem?_alphabet (by omega)) (getElem?_alphabet (by omega))
      (by omega)
  | case4 a b c rest n ih =>
    have ha := hlt a
    have hb := hlt b
    have hc := hlt c
    exact .three (getElem?_alphabet (by omega)) (getElem?_alphabet (by omega)) (getElem?_alphabet (by omega))
      (getElem?_alphabet (by omega)) (by omega) ih

example : encode [0x75, 0x3A, 0x70] = "dTpw".toList := by decide

/-! ## Characters -/

theorem isVisible_of_mem_alphabet : ∀ c ∈ alphabet, IsVisible c := by
  have hall : alphabet.all (fun c => decide (IsVisible c)) = true := by decide +kernel
  exact fun c hc => of_decide_eq_true (List.all_eq_true.mp hall c hc)

/-- **Written in base 64 bytes are visible.** -/
theorem Writes.isVisible {bs : List UInt8} {text : List Char} (h : Writes bs text) : ∀ c ∈ text, IsVisible c := by
  have hfill : IsVisible '=' := by decide
  have hdigit {v : Nat} {p : Char} (hp : alphabet[v]? = some p) : IsVisible p :=
    isVisible_of_mem_alphabet p (List.mem_of_getElem? hp)
  induction h with
  | nil => exact List.forall_mem_nil _
  | one hp hq h =>
    simp only [List.forall_mem_cons]
    exact ⟨hdigit hp, hdigit hq, hfill, hfill, List.forall_mem_nil _⟩
  | two hp hq hr h =>
    simp only [List.forall_mem_cons]
    exact ⟨hdigit hp, hdigit hq, hdigit hr, hfill, List.forall_mem_nil _⟩
  | three hp hq hr hs h hrest ih =>
    simp only [List.forall_mem_cons]
    exact ⟨hdigit hp, hdigit hq, hdigit hr, hdigit hs, ih⟩

theorem isVisible_of_mem_encode {bs : List UInt8} : ∀ c ∈ encode bs, IsVisible c := (writes_encode bs).isVisible

end FragmentFeed.Text.Base64
