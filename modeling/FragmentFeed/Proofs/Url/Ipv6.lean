import FragmentFeed.Proofs.Text.Digit
import FragmentFeed.Url.Ipv6

/-!
# IPv6 addresses there and back

An address is read as it is written (`parse?_toText`). The pieces are read one by one, and the run that has been
left out is the only one that can have been: what is read around it leaves as many pieces open as there are
zeros in it.
-/

namespace FragmentFeed.Ipv6

open Text

variable {a : Ipv6} {p : Partial} {q : UInt16} {qs pre post : List UInt16} {c d : Char} {cs ds rest : List Char}
variable {n m acc : Nat}

/-! ## Hexadecimal -/

theorem takeHex_zero (hrest : ∀ c, rest.head? = some c → Digit.value? 16 c = none) :
    takeHex n acc rest = (acc, rest) := by
  cases n with
  | zero => rfl
  | succ n =>
    cases rest with
    | nil => rfl
    | cons c rest => rw [takeHex, hrest c rfl]

/-- Digits are taken, and no more than there are. -/
theorem takeHex_append (hds : Digit.gather? 16 acc ds = some m) (hlength : ds.length ≤ n)
    (hrest : ∀ c, rest.head? = some c → Digit.value? 16 c = none) :
    takeHex n acc (ds ++ rest) = (m, rest) := by
  induction ds generalizing acc n with
  | nil =>
    cases hds
    exact takeHex_zero hrest
  | cons d ds ih =>
    cases n with
    | zero => cases hlength
    | succ n =>
      obtain ⟨v, hd, hds⟩ := Digit.gather?_cons_eq_some_iff.mp hds
      rw [List.cons_append, takeHex, hd]
      exact ih hds (Nat.le_of_succ_le_succ hlength)

theorem gather?_hexText (q : UInt16) : Digit.gather? 16 0 (hexText q) = some q.toNat :=
  Digit.gather?_toDigits (by decide) (by decide) q.toNat

theorem length_hexText_le (q : UInt16) : (hexText q).length ≤ 4 :=
  (Nat.length_toDigits_le_iff (by decide) (by decide)).mpr q.toNat_lt

theorem takeHex_hexText (q : UInt16) (hrest : ∀ c, rest.head? = some c → Digit.value? 16 c = none) :
    takeHex 4 0 (hexText q ++ rest) = (q.toNat, rest) :=
  takeHex_append (gather?_hexText q) (length_hexText_le q) hrest

theorem exists_value?_of_mem_hexText (hc : c ∈ hexText q) : ∃ v, Digit.value? 16 c = some v :=
  Digit.exists_value?_of_gather? (gather?_hexText q) hc

/-- A piece is written as one digit at least. -/
theorem exists_hexText_eq_cons (q : UInt16) : ∃ c cs, hexText q = c :: cs ∧ c ≠ ':' := by
  obtain ⟨c, cs, hcs⟩ := List.exists_cons_of_ne_nil (Nat.toDigits_ne_nil (n := q.toNat) (b := 16))
  refine ⟨c, cs, hcs, ?_⟩
  rintro rfl
  obtain ⟨v, hv⟩ := exists_value?_of_mem_hexText (q := q) (by rw [hexText, hcs]; exact List.mem_cons_self)
  exact absurd hv (by simp [Digit.value?])

/-! ## Reading pieces -/

theorem push_toNat (p : Partial) (q : UInt16) : p.push q.toNat = { p with pieces := p.pieces ++ [q] } := by
  rw [Partial.push, UInt16.ofNat_toNat]

theorem readPieces_nil (p : Partial) : readPieces p [] = some p := by
  rw [readPieces]

/-- The last piece. -/
theorem readPieces_hexText (hlength : p.pieces.length < 8) (q : UInt16) :
    readPieces p (hexText q) = some { p with pieces := p.pieces ++ [q] } := by
  obtain ⟨c, cs, hcs, hcolon⟩ := exists_hexText_eq_cons q
  have htake : takeHex 4 0 (c :: cs) = (q.toNat, []) := by
    have hall : takeHex 4 0 (hexText q ++ []) = (q.toNat, []) := takeHex_hexText q nofun
    rwa [List.append_nil, hcs] at hall
  rw [hcs, readPieces, if_neg (Nat.ne_of_lt hlength), if_neg hcolon, ← push_toNat]
  split
  · rename_i hread
    cases htake.symm.trans hread
    rfl
  -- the text does not end so in any other case
  all_goals
    rename_i hread
    cases htake.symm.trans hread

/-- A piece that is not the last one. -/
theorem readPieces_hexText_colon (hlength : p.pieces.length < 8) (q : UInt16) (d : Char) (rest : List Char) :
    readPieces p (hexText q ++ ':' :: d :: rest)
      = readPieces { p with pieces := p.pieces ++ [q] } (d :: rest) := by
  obtain ⟨c, cs, hcs, hcolon⟩ := exists_hexText_eq_cons q
  have htake : takeHex 4 0 (c :: (cs ++ ':' :: d :: rest)) = (q.toNat, ':' :: d :: rest) := by
    rw [← List.cons_append, ← hcs]
    refine takeHex_hexText q ?_
    rintro c ⟨⟩
    rfl
  rw [hcs, List.cons_append, readPieces, if_neg (Nat.ne_of_lt hlength), if_neg hcolon, ← push_toNat]
  split
  · rename_i hread
    cases htake.symm.trans hread
  · rename_i hread
    cases htake.symm.trans hread
  · rename_i hread
    cases htake.symm.trans hread
  · rename_i hread
    cases htake.symm.trans hread
    rfl
  · rename_i hother hread
    cases htake.symm.trans hread
    exact absurd rfl (hother d rest rfl)

/-- The run that is left out. -/
theorem readPieces_colon (hlength : p.pieces.length < 8) (hgap : p.gap = none) (rest : List Char) :
    readPieces p (':' :: rest)
      = readPieces { pieces := p.pieces ++ [0], gap := some (p.pieces.length + 1) } rest := by
  rw [readPieces, if_neg (Nat.ne_of_lt hlength), if_pos rfl, hgap]
  rfl

theorem joinPieces_cons_cons (q r : UInt16) (qs : List UInt16) :
    joinPieces (q :: r :: qs) = hexText q ++ ':' :: joinPieces (r :: qs) := rfl

theorem exists_joinPieces_eq_cons (q : UInt16) (qs : List UInt16) :
    ∃ c cs, joinPieces (q :: qs) = c :: cs ∧ c ≠ ':' := by
  obtain ⟨c, cs, hcs, hcolon⟩ := exists_hexText_eq_cons q
  cases qs with
  | nil => exact ⟨c, cs, hcs, hcolon⟩
  | cons r qs => exact ⟨c, _, by rw [joinPieces_cons_cons, hcs, List.cons_append], hcolon⟩

/-- Pieces at the end of the text are all read. -/
theorem readPieces_joinPieces (hlength : p.pieces.length + qs.length ≤ 8) :
    readPieces p (joinPieces qs) = some { p with pieces := p.pieces ++ qs } := by
  induction qs generalizing p with
  | nil =>
    rw [joinPieces, readPieces_nil, List.append_nil]
  | cons q qs ih =>
    rw [List.length_cons] at hlength
    cases qs with
    | nil => exact readPieces_hexText (by omega) q
    | cons r qs =>
      obtain ⟨d, rest, hrest, -⟩ := exists_joinPieces_eq_cons r qs
      have hmore : p.pieces.length + [q].length + (r :: qs).length ≤ 8 := by
        rw [List.length_singleton]
        omega
      rw [joinPieces_cons_cons, hrest, readPieces_hexText_colon (by omega), ← hrest,
        ih (by rw [List.length_append]; exact hmore), List.append_assoc]
      rfl

/-- And so are pieces in front of a run that is left out. -/
theorem readPieces_joinPieces_colons (hne : qs ≠ []) (hlength : p.pieces.length + qs.length < 8)
    (hgap : p.gap = none) (rest : List Char) :
    readPieces p (joinPieces qs ++ ':' :: ':' :: rest)
      = readPieces { pieces := p.pieces ++ qs ++ [0], gap := some (p.pieces.length + qs.length + 1) } rest := by
  induction qs generalizing p with
  | nil => exact absurd rfl hne
  | cons q qs ih =>
    rw [List.length_cons] at hlength
    cases qs with
    | nil =>
      have hmore : (p.pieces ++ [q]).length < 8 := by
        rw [List.length_append, List.length_singleton]
        exact hlength
      rw [joinPieces, readPieces_hexText_colon (by omega),
        readPieces_colon (p := { p with pieces := p.pieces ++ [q] }) hmore hgap, List.length_append]
    | cons r qs =>
      obtain ⟨d, cs, hcs, -⟩ := exists_joinPieces_eq_cons r qs
      have hmore : (p.pieces ++ [q]).length + (r :: qs).length < 8 := by
        rw [List.length_append, List.length_singleton]
        omega
      have hread := ih (p := { p with pieces := p.pieces ++ [q] }) (List.cons_ne_nil r qs) hmore hgap
      rw [hcs, List.cons_append] at hread
      rw [joinPieces_cons_cons, hcs, List.append_assoc, List.cons_append, List.cons_append,
        readPieces_hexText_colon (by omega), hread]
      simp only [List.append_assoc, List.length_append, List.length_cons, List.length_nil, List.cons_append,
        List.nil_append]
      congr 3
      omega

/-! ## Runs of zeros -/

theorem eq_replicate_zeroRun (qs : List UInt16) :
    qs = List.replicate (zeroRun qs) 0 ++ qs.drop (zeroRun qs) := by
  induction qs with
  | nil => rfl
  | cons q qs ih =>
    rw [zeroRun]
    split
    · rename_i hzero
      rw [hzero, List.replicate_succ, List.drop_succ_cons, List.cons_append, ← ih]
    · rfl

/-- The longest run is one of zeros, and begins where it is told to. -/
theorem exists_longestRun (i : Nat) (qs : List UInt16) :
    ∃ pre post, qs = pre ++ List.replicate (longestRun i qs).2 0 ++ post ∧
      (0 < (longestRun i qs).2 → (longestRun i qs).1 = i + pre.length) := by
  induction qs generalizing i with
  | nil => exact ⟨[], [], rfl, fun h => absurd h (Nat.lt_irrefl 0)⟩
  | cons q qs ih =>
    rw [longestRun]
    split
    · exact ⟨[], _, eq_replicate_zeroRun (q :: qs), fun _ => rfl⟩
    · obtain ⟨pre, post, hqs, hstart⟩ := ih (i + 1)
      refine ⟨q :: pre, post, ?_, fun h => ?_⟩
      · rw [List.cons_append, List.cons_append, ← hqs]
      · rw [hstart h, List.length_cons]
        omega

/-! ## Whole addresses -/

/-- The run comes back where it was left out. -/
theorem complete_gap (hn : 0 < n) (hlength : pre.length + n + post.length = 8) :
    Partial.complete { pieces := pre ++ [0] ++ post, gap := some (pre.length + 1) }
      = pre ++ List.replicate n 0 ++ post := by
  have hbefore : (pre ++ [0]).length = pre.length + 1 := by rw [List.length_append, List.length_singleton]
  have hleft : 8 - (pre ++ [0] ++ post).length = n - 1 := by
    rw [List.length_append, hbefore]
    omega
  have hzeros : List.replicate n (0 : UInt16) = [0] ++ List.replicate (n - 1) 0 := by
    rw [List.singleton_append, ← List.replicate_succ]
    congr 1
    omega
  unfold Partial.complete
  dsimp only
  rw [hleft, List.take_left' hbefore, List.drop_left' hbefore, hzeros]
  simp only [List.append_assoc]

/-- What has been read as the pieces of an address is that address. -/
theorem finish_of_complete_eq (h : p.complete = a.pieces) :
    (if h : p.complete.length = 8 then some (⟨p.complete, h⟩ : Ipv6) else none) = some a := by
  obtain ⟨pieces, hlength⟩ := a
  subst h
  exact dif_pos hlength

theorem parse?_of_ne_colon (hc : c ≠ ':') (hread : readPieces ⟨[], none⟩ (c :: d :: rest) = some p)
    (hcomplete : p.complete = a.pieces) : parse? (c :: d :: rest) = some a := by
  rw [parse?, start, if_neg hc, Option.bind_some, hread, Option.bind_some]
  exact finish_of_complete_eq hcomplete

theorem parse?_of_colons (hread : readPieces ⟨[0], some 1⟩ rest = some p)
    (hcomplete : p.complete = a.pieces) : parse? (':' :: ':' :: rest) = some a := by
  rw [parse?, start, if_pos rfl, if_pos rfl, Option.bind_some, hread, Option.bind_some]
  exact finish_of_complete_eq hcomplete

/-- Two pieces or more take two characters or more. -/
theorem exists_joinPieces_eq_cons_cons (q r : UInt16) (qs : List UInt16) :
    ∃ c d rest, joinPieces (q :: r :: qs) = c :: d :: rest ∧ c ≠ ':' := by
  obtain ⟨c, cs, hcs, hcolon⟩ := exists_hexText_eq_cons q
  rw [joinPieces_cons_cons, hcs, List.cons_append]
  cases cs with
  | nil => exact ⟨c, _, _, rfl, hcolon⟩
  | cons d cs => exact ⟨c, d, _, rfl, hcolon⟩

/-- An address none of which is left out. -/
theorem parse?_joinPieces (a : Ipv6) : parse? (joinPieces a.pieces) = some a := by
  have hread : readPieces ⟨[], none⟩ (joinPieces a.pieces) = some ⟨a.pieces, none⟩ :=
    readPieces_joinPieces (p := ⟨[], none⟩) (Nat.le_of_eq (by rw [List.length_nil, Nat.zero_add, a.length_eq]))
  obtain ⟨q, r, qs, hpieces⟩ : ∃ q r qs, a.pieces = q :: r :: qs := by
    obtain ⟨pieces, hlength⟩ := a
    match pieces, hlength with
    | q :: r :: qs, _ => exact ⟨q, r, qs, rfl⟩
  obtain ⟨c, d, rest, htext, hcolon⟩ := exists_joinPieces_eq_cons_cons q r qs
  rw [hpieces, htext] at hread
  rw [hpieces, htext]
  exact parse?_of_ne_colon hcolon hread hpieces.symm

/-- An address of which a run of zeros is left out. -/
theorem parse?_joinPieces_colons (hpieces : a.pieces = pre ++ List.replicate n 0 ++ post) (hn : 1 < n) :
    parse? (joinPieces pre ++ ':' :: ':' :: joinPieces post) = some a := by
  have hlength : pre.length + n + post.length = 8 := by
    rw [← a.length_eq, hpieces, List.length_append, List.length_append, List.length_replicate]
  have hcomplete : Partial.complete { pieces := pre ++ [0] ++ post, gap := some (pre.length + 1) } = a.pieces := by
    rw [complete_gap (by omega) hlength, hpieces]
  have hbefore : (pre ++ [0]).length = pre.length + 1 := by rw [List.length_append, List.length_singleton]
  have hread : readPieces { pieces := pre ++ [0], gap := some (pre.length + 1) } (joinPieces post)
      = some { pieces := pre ++ [0] ++ post, gap := some (pre.length + 1) } :=
    readPieces_joinPieces (p := { pieces := pre ++ [0], gap := some (pre.length + 1) }) (by dsimp only; omega)
  cases pre with
  | nil => exact parse?_of_colons hread hcomplete
  | cons q qs =>
    have hfront := readPieces_joinPieces_colons (p := ⟨[], none⟩) (List.cons_ne_nil q qs)
      (by rw [List.length_nil]; omega) rfl (joinPieces post)
    rw [List.length_nil, Nat.zero_add, List.nil_append, hread] at hfront
    obtain ⟨c, cs, hcs, hcolon⟩ := exists_joinPieces_eq_cons q qs
    rw [hcs, List.cons_append] at hfront ⊢
    cases cs with
    | nil => exact parse?_of_ne_colon hcolon hfront hcomplete
    | cons d cs => exact parse?_of_ne_colon hcolon hfront hcomplete

theorem toText_of_lt (h : (longestRun 0 a.pieces).2 < 2) : a.toText = joinPieces a.pieces :=
  if_pos h

/-- The run of zeros that is left out, and what stands around it. -/
theorem exists_toText_of_le (h : 2 ≤ (longestRun 0 a.pieces).2) :
    ∃ pre n post, a.pieces = pre ++ List.replicate n 0 ++ post ∧ 1 < n ∧
      a.toText = joinPieces pre ++ ':' :: ':' :: joinPieces post := by
  obtain ⟨pre, post, hpieces, hstart⟩ := exists_longestRun 0 a.pieces
  have hrun : (longestRun 0 a.pieces).1 = pre.length := by rw [hstart (by omega), Nat.zero_add]
  refine ⟨pre, (longestRun 0 a.pieces).2, post, hpieces, h, ?_⟩
  have htake : a.pieces.take (longestRun 0 a.pieces).1 = pre := by
    rw [hrun]
    conv => lhs; rw [hpieces, List.append_assoc]
    exact List.take_left' rfl
  have hdrop : a.pieces.drop ((longestRun 0 a.pieces).1 + (longestRun 0 a.pieces).2) = post := by
    rw [hrun]
    generalize (longestRun 0 a.pieces).2 = n at hpieces
    rw [hpieces]
    exact List.drop_left' (by rw [List.length_append, List.length_replicate])
  unfold toText
  dsimp only
  rw [if_neg (Nat.not_lt.mpr h), htake, hdrop]

/-- **An address is read as it is written.** -/
theorem parse?_toText (a : Ipv6) : parse? a.toText = some a := by
  by_cases h : (longestRun 0 a.pieces).2 < 2
  · rw [toText_of_lt h]
    exact parse?_joinPieces a
  · obtain ⟨pre, n, post, hpieces, hn, htext⟩ := exists_toText_of_le (Nat.not_lt.mp h)
    rw [htext]
    exact parse?_joinPieces_colons hpieces hn

/-! ## What an address is written with -/

theorem isDigit_of_mem_joinPieces (hc : c ∈ joinPieces qs) : c = ':' ∨ ∃ v, Digit.value? 16 c = some v := by
  induction qs with
  | nil => cases hc
  | cons q qs ih =>
    cases qs with
    | nil => exact .inr (exists_value?_of_mem_hexText hc)
    | cons r qs =>
      rw [joinPieces_cons_cons] at hc
      rcases List.mem_append.mp hc with hc | hc
      · exact .inr (exists_value?_of_mem_hexText hc)
      · rcases List.mem_cons.mp hc with rfl | hc
        · exact .inl rfl
        · exact ih hc

/-- Digits and colons. -/
theorem isDigit_of_mem_toText (hc : c ∈ a.toText) : c = ':' ∨ ∃ v, Digit.value? 16 c = some v := by
  by_cases h : (longestRun 0 a.pieces).2 < 2
  · rw [toText_of_lt h] at hc
    exact isDigit_of_mem_joinPieces hc
  · obtain ⟨pre, n, post, -, -, htext⟩ := exists_toText_of_le (Nat.not_lt.mp h)
    rw [htext] at hc
    rcases List.mem_append.mp hc with hc | hc
    · exact isDigit_of_mem_joinPieces hc
    · rcases List.mem_cons.mp hc with rfl | hc
      · exact .inl rfl
      · rcases List.mem_cons.mp hc with rfl | hc
        · exact .inl rfl
        · exact isDigit_of_mem_joinPieces hc

end FragmentFeed.Ipv6
