import Mathlib.Data.List.Infix
import FragmentFeed.Http.Body
import FragmentFeed.Proofs.Http.Head

/-!
# Chunked bodies there and back

Where the bytes of a chunked body lead, without a look at what may follow (`Reading.Reads`). Chunks as
they are written are read as their bytes (`reads_encodeChunk`), and only the very last byte ends the body. So
it is read as a whole (`chunked?_encodeChunked`), and no part of it is read where any byte is missing
(`chunked?_of_missing`).
-/

namespace FragmentFeed.Http

open Text

variable {r r' r'' : Reading} {b : UInt8} {bs ds rest : List UInt8} {n : Nat}

/-! ## Reading on -/

@[simp] theorem Reading.next_goOn (r : Reading) (c : Chunk) : (r.goOn c).next = c := rfl

/-- What bytes of a chunked body lead to, without an end on the way. -/
inductive Reading.Reads : Reading → List UInt8 → Reading → Prop
  | nil (r : Reading) : Reads r [] r
  | cons {r r' r'' : Reading} {b : UInt8} {bs : List UInt8} (h : r.read? b = some r') (hmore : r'.next ≠ .done)
    (hrest : Reads r' bs r'') : Reads r (b :: bs) r''

namespace Reading.Reads

theorem single (h : r.read? b = some r') (hmore : r'.next ≠ .done) : r.Reads [b] r' := .cons h hmore (.nil r')

theorem append (h : r.Reads bs r') (h' : r'.Reads ds r'') : r.Reads (bs ++ ds) r'' := by
  induction h with
  | nil r => exact h'
  | cons hread hmore _ ih => exact .cons hread hmore (ih h')

/-- What has been read goes on with the rest. -/
theorem readAll?_append (h : r.Reads bs r') (rest : List UInt8) : r.readAll? (bs ++ rest) = r'.readAll? rest := by
  induction h with
  | nil r => rfl
  | cons hread hmore _ ih =>
    rw [List.cons_append, readAll?, hread]
    show (if _ then _ else _) = _
    rw [if_neg hmore, ih]

/-- What breaks off before its end is no body. -/
theorem readAll?_eq_none (h : r.Reads bs r') : r.readAll? bs = none := by
  have hall := h.readAll?_append []
  rwa [List.append_nil] at hall

/-- And neither is the beginning of it. -/
theorem of_beginning (h : r.Reads bs r') {cut : List UInt8} (hcut : cut <+: bs) : ∃ q, r.Reads cut q := by
  induction h generalizing cut with
  | nil r =>
    obtain rfl := List.prefix_nil.mp hcut
    exact ⟨r, .nil r⟩
  | @cons r _ _ b bs hread hmore _ ih =>
    rcases List.prefix_cons_iff.mp hcut with rfl | ⟨more, rfl, hprefix⟩
    · exact ⟨r, .nil r⟩
    · obtain ⟨q, hq⟩ := ih hprefix
      exact ⟨q, .cons hread hmore hq⟩

end Reading.Reads

/-! ## Sizes -/

/-- The bytes of digits. -/
def digitBytes (digits : List Char) : List UInt8 := digits.map fun c => UInt8.ofNat c.toNat

theorem hex?_of_value? {digit : Char} {v : Nat} (h : Digit.value? 16 digit = some v) :
    hex? (UInt8.ofNat digit.toNat) = some v := by
  obtain ⟨-, hv, hdigit⟩ := Digit.value?_eq_some_iff.mp h
  rw [hex?, char_of_byte (by omega), h]

/-- More digits of a size that is small enough. -/
theorem reads_size {digits : List Char} {acc : Nat} (h : Digit.gather? 16 acc digits = some n)
    (hn : n < UInt64.size) (r : Reading) : (r.goOn (.size acc)).Reads (digitBytes digits) (r.goOn (.size n)) := by
  induction digits generalizing acc with
  | nil =>
    obtain rfl := Option.some.inj h
    exact .nil _
  | cons digit digits ih =>
    rw [Digit.gather?] at h
    cases hdigit : Digit.value? 16 digit with
    | none =>
      rw [hdigit] at h
      cases h
    | some v =>
      rw [hdigit] at h
      have hle : acc * 16 + v < UInt64.size := Nat.lt_of_le_of_lt (Digit.le_of_gather? h (by decide)) hn
      have hread : (r.goOn (.size acc)).read? (UInt8.ofNat digit.toNat)
          = some (r.goOn (.size (acc * 16 + v))) := by
        simp only [Reading.read?, Reading.goOn, hex?_of_value? hdigit]
        exact if_pos hle
      exact .cons hread (by simp) (ih h)

/-- **A size is read as it is written.** -/
theorem reads_sizeBytes (hn : n < UInt64.size) (r : Reading) :
    (r.goOn .start).Reads (sizeBytes n) (r.goOn (.size n)) := by
  have hgather : Digit.gather? 16 0 (Nat.toDigits 16 n) = some n :=
    Digit.gather?_toDigits (by decide) (by decide) n
  show (r.goOn .start).Reads (digitBytes (Nat.toDigits 16 n)) (r.goOn (.size n))
  cases hdigits : Nat.toDigits 16 n with
  | nil => exact absurd hdigits Nat.toDigits_ne_nil
  | cons digit digits =>
    rw [hdigits, Digit.gather?] at hgather
    cases hdigit : Digit.value? 16 digit with
    | none =>
      rw [hdigit] at hgather
      cases hgather
    | some v =>
      simp only [hdigit, Nat.zero_mul, Nat.zero_add] at hgather
      have hread : (r.goOn .start).read? (UInt8.ofNat digit.toNat) = some (r.goOn (.size v)) := by
        simp only [Reading.read?, Reading.goOn, hex?_of_value? hdigit]
        rfl
      exact .cons hread (by simp) (reads_size hgather hn r)

/-- The line end behind a size. -/
theorem reads_lineEnd_size (n : Nat) (r : Reading) :
    (r.goOn (.size n)).Reads lineEnd (r.goOn (match n with | 0 => .trailerStart | n + 1 => .data n)) := by
  have hreturn : (r.goOn (.size n)).read? 0x0D = some (r.goOn (.sizeEnd n)) := rfl
  refine .cons hreturn (by simp) ?_
  cases n with
  | zero => exact .single rfl (by simp)
  | succ n => exact .single rfl (by simp)

/-! ## Chunks -/

/-- Some bytes more of the body. -/
def Reading.keep (r : Reading) (bs : List UInt8) : Reading := { r with body := bs.reverse ++ r.body }

/-- The bytes of a chunk belong to the body. -/
theorem reads_data (data : List UInt8) (h : data.length = n + 1) (r : Reading) :
    (r.goOn (.data n)).Reads data ((r.keep data).goOn .dataReturn) := by
  induction data generalizing n r with
  | nil => cases h
  | cons b data ih =>
    have hkeep : (r.keep [b]).keep data = r.keep (b :: data) := by simp [Reading.keep]
    cases n with
    | zero =>
      obtain rfl := List.eq_nil_of_length_eq_zero (Nat.succ.inj h)
      exact .single rfl (by simp)
    | succ n =>
      have hrest := ih (Nat.succ.inj h) (r.keep [b])
      rw [hkeep] at hrest
      exact .cons rfl (by simp) hrest

/-- **A chunk is read as it is written.** -/
theorem reads_encodeChunk {chunk : List UInt8} (hne : chunk ≠ []) (hlength : chunk.length < UInt64.size)
    (r : Reading) : (r.goOn .start).Reads (encodeChunk chunk) ((r.keep chunk).goOn .start) := by
  obtain ⟨n, hn⟩ := Nat.exists_eq_succ_of_ne_zero (mt List.eq_nil_of_length_eq_zero hne)
  have hsize := (reads_sizeBytes hlength r).append (reads_lineEnd_size chunk.length r)
  rw [hn] at hsize
  have hend : ((r.keep chunk).goOn .dataReturn).Reads lineEnd ((r.keep chunk).goOn .start) :=
    .cons rfl (by simp) (.single rfl (by simp))
  have hall := (hsize.append (reads_data chunk hn r)).append hend
  rwa [← hn] at hall

/-- Whether chunks can be written: none is empty, and the size of each is a number of 64 bits. -/
def AreChunks (chunks : List (List UInt8)) : Prop := ∀ chunk ∈ chunks, chunk ≠ [] ∧ chunk.length < UInt64.size

theorem reads_encodeChunks {chunks : List (List UInt8)} (h : AreChunks chunks) (r : Reading) :
    (r.goOn .start).Reads (chunks.flatMap encodeChunk) ((r.keep chunks.flatten).goOn .start) := by
  induction chunks generalizing r with
  | nil => exact .nil _
  | cons chunk chunks ih =>
    obtain ⟨hne, hlength⟩ := h chunk (by simp)
    have hrest := ih (fun c hc => h c (by simp [hc])) (r.keep chunk)
    have hkeep : (r.keep chunk).keep chunks.flatten = r.keep (chunk ++ chunks.flatten) := by
      simp [Reading.keep]
    rw [hkeep] at hrest
    rw [List.flatMap_cons, List.flatten_cons]
    exact (reads_encodeChunk hne hlength r).append hrest

/-- A body of which all has been read but its last byte. -/
def atLastByte (body : List UInt8) : Reading := ⟨.finish, body.reverse, 0, [0x0D], 0⟩

/-- All of a body but its last byte. -/
theorem exists_reads_encodeChunked {chunks : List (List UInt8)} (h : AreChunks chunks) :
    ∃ front, encodeChunked chunks = front ++ [0x0A] ∧
      Reading.begin.Reads front (atLastByte chunks.flatten) := by
  have hchunks := reads_encodeChunks h .begin
  have hzero := (reads_sizeBytes (by decide) (Reading.begin.keep chunks.flatten)).append
    (reads_lineEnd_size 0 (Reading.begin.keep chunks.flatten))
  have hreturn : ((Reading.begin.keep chunks.flatten).goOn .trailerStart).Reads [0x0D]
      (atLastByte chunks.flatten) := by
    refine .single ?_ (by simp [atLastByte])
    simp [Reading.read?, Reading.goOn, Reading.gather, Reading.limit, Reading.keep, Reading.begin, atLastByte]
  refine ⟨chunks.flatMap encodeChunk ++ (sizeBytes 0 ++ lineEnd ++ [0x0D]), ?_, ?_⟩
  · simp [encodeChunked, lineEnd, sizeBytes]
  · exact hchunks.append (hzero.append hreturn)

/-- **A chunked body is read as its chunks together.** -/
theorem chunked?_encodeChunked {chunks : List (List UInt8)} (h : AreChunks chunks) :
    chunked? (encodeChunked chunks) = some chunks.flatten := by
  obtain ⟨front, hfront, hreads⟩ := exists_reads_encodeChunked h
  rw [chunked?, hfront, hreads.readAll?_append]
  show some chunks.flatten.reverse.reverse = _
  rw [List.reverse_reverse]

/-- **Where any byte of a chunked body is missing there is no body.** -/
theorem chunked?_of_missing {chunks : List (List UInt8)} (h : AreChunks chunks) {cut : List UInt8}
    (hbeginning : cut <+: encodeChunked chunks) (hcut : cut ≠ encodeChunked chunks) : chunked? cut = none := by
  obtain ⟨front, hfront, hreads⟩ := exists_reads_encodeChunked h
  rw [hfront] at hbeginning hcut
  rcases List.prefix_concat_iff.mp hbeginning with hall | hbeginning
  · exact absurd hall hcut
  · obtain ⟨r, hr⟩ := hreads.of_beginning hbeginning
    exact hr.readAll?_eq_none

end FragmentFeed.Http
