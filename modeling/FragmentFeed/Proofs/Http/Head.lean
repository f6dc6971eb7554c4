import Mathlib.Data.List.TakeWhile
import FragmentFeed.Http.Response
import FragmentFeed.Proofs.Text.Digit

/-!
# Heads there and back

A head is read line by line as it is written (`headLines_lines`): the status line with its status
(`status?_of_status`), and each header with its name in lower case and its value without the blanks around
it (`header?_of_isHeader`). What stands behind it is left for the body (`parse?_encode`).
-/

namespace FragmentFeed.Http

open Text

variable {b : UInt8} {bs line rest : List UInt8} {field : List UInt8 × List UInt8}

/-! ## Bytes and characters -/

/-- The character of a byte that was made of a character. -/
theorem char_of_byte {c : Char} (h : c.toNat < 0x100) : Char.ofNat (UInt8.ofNat c.toNat).toNat = c := by
  rw [UInt8.toNat_ofNat', Nat.mod_eq_of_lt h, Char.ofNat_toNat]

theorem toNat_digitChar_lt {d : Nat} (h : d < 16) : d.digitChar.toNat < 0x80 := by
  have hall : ∀ d ∈ List.range 16, d.digitChar.toNat < 0x80 := by decide
  exact hall d (List.mem_range.mpr h)

theorem char_of_digit {d : Nat} (h : d < 16) :
    Char.ofNat (UInt8.ofNat d.digitChar.toNat).toNat = d.digitChar :=
  char_of_byte (Nat.lt_trans (toNat_digitChar_lt h) (by decide))

/-! ## Lines -/

theorem headLines_cons_of_ne (h : b ≠ 0x0A) : headLines line (b :: rest) = headLines (b :: line) rest := by
  rw [headLines.eq_def]
  exact if_neg h

/-- Within a line its bytes are gathered. -/
theorem headLines_append (h : 0x0A ∉ bs) : headLines line (bs ++ rest) = headLines (bs.reverse ++ line) rest := by
  induction bs generalizing line with
  | nil => rfl
  | cons b bs ih =>
    rw [List.mem_cons, not_or] at h
    rw [List.cons_append, headLines_cons_of_ne (Ne.symm h.1), ih h.2, List.reverse_cons, List.append_assoc]
    rfl

/-- The end of a line that is not empty. -/
theorem headLines_lineEnd (h : line ≠ []) (rest : List UInt8) :
    headLines line (lineEnd ++ rest) = (headLines [] rest).map fun r => (line.reverse :: r.1, r.2) := by
  cases line with
  | nil => exact absurd rfl h
  | cons b line => rfl

/-- An empty line ends the head. -/
theorem headLines_nil_lineEnd (rest : List UInt8) : headLines [] (lineEnd ++ rest) = some ([], rest) := rfl

/-- **Lines are read as they are written**, up to the first empty one. -/
theorem headLines_lines {lines : List (List UInt8)} (h : ∀ l ∈ lines, l ≠ [] ∧ 0x0A ∉ l)
    (rest : List UInt8) :
    headLines [] (lines.flatMap (· ++ lineEnd) ++ (lineEnd ++ rest)) = some (lines, rest) := by
  induction lines with
  | nil => exact headLines_nil_lineEnd rest
  | cons l lines ih =>
    obtain ⟨hne, hbreak⟩ := h l (by simp)
    rw [List.flatMap_cons, List.append_assoc, List.append_assoc, headLines_append hbreak, List.append_nil,
      headLines_lineEnd (by rwa [ne_eq, List.reverse_eq_nil_iff]), ih fun m hm => h m (by simp [hm]),
      List.reverse_reverse]
    rfl

/-! ## Headers -/

/-- Whether name and value are those of a header. -/
structure IsHeader (field : List UInt8 × List UInt8) : Prop where
  name_ne_nil : field.1 ≠ []
  length_name : field.1.length ≤ 65535
  name : ∀ b ∈ field.1, isTokenByte b = true
  value : ∀ b ∈ field.2, isTextByte b = true

/-- A header as it is written, without the end of the line. -/
def headerLine (field : List UInt8 × List UInt8) : List UInt8 := field.1 ++ ascii ": " ++ field.2

/-- A header as it is read. -/
def readHeader (field : List UInt8 × List UInt8) : List Char × List UInt8 :=
  (lower field.1, trim isSpaceByte field.2)

/-- **A header is read as it is written.** -/
theorem header?_of_isHeader (h : IsHeader field) : header? (headerLine field) = some (readHeader field) := by
  have hline : headerLine field = field.1 ++ 0x3A :: 0x20 :: field.2 := by
    rw [headerLine, List.append_assoc]
    rfl
  have hcolon : ¬ isTokenByte 0x3A = true := by decide
  have hname : (headerLine field).takeWhile isTokenByte = field.1 := by
    rw [hline, List.takeWhile_append_of_pos h.name, List.takeWhile_cons_of_neg hcolon, List.append_nil]
  have hvalue : (headerLine field).dropWhile isTokenByte = 0x3A :: 0x20 :: field.2 := by
    rw [hline, List.dropWhile_append_of_pos h.name, List.dropWhile_cons_of_neg hcolon]
  have htext : (0x20 :: field.2).all isTextByte = true := by
    rw [List.all_cons, List.all_eq_true.mpr h.value]
    rfl
  have hempty : field.1.isEmpty = false := List.isEmpty_eq_false_iff.mpr h.name_ne_nil
  have hlength : field.1.length ≤ nameLimit := h.length_name
  unfold header?
  simp only [hname, hvalue, htext, hempty, decide_eq_true hlength]
  rfl

theorem headerLine_noBreak (h : IsHeader field) : headerLine field ≠ [] ∧ 0x0A ∉ headerLine field := by
  refine ⟨?_, fun hbreak => ?_⟩
  · rw [headerLine, List.append_assoc]
    exact fun hnil => h.name_ne_nil (List.append_eq_nil_iff.mp hnil).1
  · rw [headerLine, List.mem_append, List.mem_append] at hbreak
    rcases hbreak with (hname | hcolon) | hvalue
    · exact absurd (h.name _ hname) (by decide)
    · exact absurd hcolon (by decide)
    · exact absurd (h.value _ hvalue) (by decide)

theorem mapM_headerLine {fields : List (List UInt8 × List UInt8)} (h : ∀ f ∈ fields, IsHeader f) :
    (fields.map headerLine).mapM header? = some (fields.map readHeader) := by
  induction fields with
  | nil => rfl
  | cons f fields ih =>
    rw [List.map_cons, List.mapM_cons, header?_of_isHeader (h f (by simp)), ih fun g hg => h g (by simp [hg])]
    rfl

/-! ## Values by their names -/

section valuesOf

variable {name : String} {headers : List (List Char × List UInt8)}

theorem valuesOf_append (more : List (List Char × List UInt8)) :
    valuesOf name (headers ++ more) = valuesOf name headers ++ valuesOf name more := by
  rw [valuesOf, List.filter_append, List.map_append]
  rfl

theorem valuesOf_eq_nil (h : ∀ field ∈ headers, field.1 ≠ name.toList) : valuesOf name headers = [] := by
  rw [valuesOf, List.filter_eq_nil_iff.mpr fun field hfield => by simpa using h field hfield]
  rfl

theorem valuesOf_cons_self (name : String) (value : List UInt8) (headers : List (List Char × List UInt8)) :
    valuesOf name ((name.toList, value) :: headers) = value :: valuesOf name headers := by
  rw [valuesOf, List.filter_cons_of_pos (by simp)]
  rfl

end valuesOf

/-! ## Statuses -/

/-- The status line, without its end. -/
def statusLine (status : Nat) (reason : List UInt8) : List UInt8 :=
  ascii "HTTP/1.1 " ++ ascii (toString status) ++ 0x20 :: reason

/-- The bytes of a status of three digits. -/
theorem ascii_toString_of_status {status : Nat} (h : 100 ≤ status ∧ status < 1000) :
    ascii (toString status)
      = [status / 100, status / 10 % 10, status % 10].map fun d => UInt8.ofNat d.digitChar.toNat := by
  have hdigits : Nat.toDigits 10 status
      = [(status / 10 / 10).digitChar, (status / 10 % 10).digitChar, (status % 10).digitChar] := by
    rw [Nat.toDigits_eq_if (by decide), if_neg (by omega), Nat.toDigits_eq_if (by decide),
      if_neg (by omega), Nat.toDigits_eq_if (by decide), if_pos (by omega)]
    rfl
  rw [ascii, Nat.toString_eq_ofList_toDigits, String.toList_ofList, hdigits, Nat.div_div_eq_div_mul]
  rfl

theorem digit?_digitChar {d : Nat} (h : d < 10) : digit? (UInt8.ofNat d.digitChar.toNat) = some d := by
  rw [digit?, char_of_digit (Nat.lt_trans h (by decide)), Digit.value?_digitChar h (by decide)]

/-- **The status is read as it is written.** -/
theorem status?_of_status {status : Nat} (h : 100 ≤ status ∧ status < 1000) {reason : List UInt8}
    (hreason : ∀ b ∈ reason, isTextByte b = true) :
    status? (statusLine status reason) = some (true, status) := by
  have hsum : status / 100 * 100 + status / 10 % 10 * 10 + status % 10 = status := by omega
  have hall : reason.all isTextByte = true := List.all_eq_true.mpr hreason
  rw [statusLine, ascii_toString_of_status h]
  show (do
    let new ← (some true : Option Bool)
    let n := (← digit? _) * 100 + (← digit? _) * 10 + (← digit? _)
    let fits := decide ((0x20 : UInt8) = 0x20) && (0x20 :: reason).all isTextByte
    if fits && decide (100 ≤ n) then some (new, n) else none) = _
  rw [digit?_digitChar (by omega), digit?_digitChar (by omega), digit?_digitChar (by omega),
    List.all_cons, hall]
  show (if decide (100 ≤ status / 100 * 100 + status / 10 % 10 * 10 + status % 10) then _ else none) = _
  rw [hsum, if_pos (decide_eq_true h.1)]

theorem statusLine_noBreak {status : Nat} (h : 100 ≤ status ∧ status < 1000) {reason : List UInt8}
    (hreason : ∀ b ∈ reason, isTextByte b = true) :
    statusLine status reason ≠ [] ∧ 0x0A ∉ statusLine status reason := by
  refine ⟨List.cons_ne_nil _ _, fun hbreak => ?_⟩
  rw [statusLine, ascii_toString_of_status h, List.mem_append, List.mem_append, List.mem_cons] at hbreak
  rcases hbreak with (hversion | hdigit) | hblank | htext
  · exact absurd hversion (by decide)
  · obtain ⟨d, hd, heq⟩ := List.mem_map.mp hdigit
    have hlt : d < 10 := by
      simp only [List.mem_cons, List.not_mem_nil, or_false] at hd
      omega
    have hall : ∀ d ∈ List.range 10, UInt8.ofNat d.digitChar.toNat ≠ 0x0A := by decide
    exact hall d (List.mem_range.mpr hlt) heq
  · exact absurd hblank (by decide)
  · exact absurd (hreason _ htext) (by decide)

/-! ## Responses -/

/-- Whether the head of a response is small enough, with the header that closes the connection. -/
structure Script.Fits (s : Script) : Prop where
  count : s.headers.length + 1 ≤ 100
  size : s.encode.length ≤ 417792 + s.body.length

/-- Whether a response is final, with a status of three digits, and has a proper head that fits. -/
structure Script.IsProper (s : Script) : Prop where
  status : 200 ≤ s.status ∧ s.status < 1000
  reason : ∀ b ∈ s.reason, isTextByte b = true
  headers : ∀ field ∈ s.headers, IsHeader field
  fits : s.Fits

theorem Script.IsProper.threeDigits {s : Script} (hs : s.IsProper) : 100 ≤ s.status ∧ s.status < 1000 :=
  ⟨Nat.le_trans (by decide) hs.status.1, hs.status.2⟩

/-- The header that stands last in each written response. -/
def connectionClose : List UInt8 × List UInt8 := (ascii "Connection", ascii "close")

theorem isHeader_connectionClose : IsHeader connectionClose :=
  ⟨by decide, by decide, List.all_eq_true.mp (by decide), List.all_eq_true.mp (by decide)⟩

/-- The headers of a written response, as they are read. -/
def Script.readHeaders (s : Script) : List (List Char × List UInt8) :=
  (s.headers ++ [connectionClose]).map readHeader

/-- A written response as its lines. -/
theorem encode_eq (s : Script) :
    s.encode = (statusLine s.status s.reason :: (s.headers ++ [connectionClose]).map headerLine).flatMap
        (· ++ lineEnd) ++ (lineEnd ++ s.body) := by
  rw [List.flatMap_cons, List.map_append, List.flatMap_append, List.flatMap_map]
  simp only [Script.encode, statusLine, headerLine, List.append_assoc, List.map_cons, List.map_nil,
    List.flatMap_cons, List.flatMap_nil, List.nil_append, List.cons_append]
  rfl

theorem Script.IsProper.isHeader {s : Script} (hs : s.IsProper) :
    ∀ f ∈ s.headers ++ [connectionClose], IsHeader f := by
  intro f hf
  rcases List.mem_append.mp hf with hf | hf
  · exact hs.headers f hf
  · rw [List.mem_singleton.mp hf]
    exact isHeader_connectionClose

theorem Script.IsProper.length_lines_le {s : Script} (hs : s.IsProper) :
    ((s.headers ++ [connectionClose]).map headerLine).length ≤ countLimit := by
  rw [List.length_map, List.length_append, List.length_singleton]
  exact hs.fits.count

/-- The lines of the head, and the body behind them. -/
theorem headLines_encode {s : Script} (hs : s.IsProper) :
    headLines [] s.encode
      = some (statusLine s.status s.reason :: (s.headers ++ [connectionClose]).map headerLine, s.body) := by
  rw [encode_eq]
  refine headLines_lines (fun l hl => ?_) s.body
  rcases List.mem_cons.mp hl with rfl | hl
  · exact statusLine_noBreak hs.threeDigits hs.reason
  · obtain ⟨f, hf, rfl⟩ := List.mem_map.mp hl
    exact headerLine_noBreak (hs.isHeader f hf)

/-- What is read of a head whose lines can be read. -/
theorem parseOne?_of_headLines {bs line rest : List UInt8} {lines : List (List UInt8)} {new : Bool}
    {status : Nat} {headers : List (List Char × List UInt8)}
    (hlines : headLines [] (bs.dropWhile fun b => b = 0x0D || b = 0x0A) = some (line :: lines, rest))
    (hcount : lines.length ≤ countLimit) (hsize : bs.length ≤ headLimit + rest.length)
    (hstatus : status? line = some (new, status)) (hheaders : lines.mapM header? = some headers) :
    parseOne? bs = (framing? new status headers).map fun f => ⟨status, headers, f, rest⟩ := by
  rw [parseOne?, hlines]
  simp only [Option.bind_eq_bind, Option.bind_some, hstatus, hheaders, if_pos (And.intro hcount hsize)]
  exact Option.map_eq_bind.symm

/-- **A response is read as it is written.** -/
theorem parse?_encode {s : Script} (hs : s.IsProper) :
    Response.parse? s.encode
      = (framing? true s.status s.readHeaders).map fun f => ⟨s.status, s.readHeaders, f, s.body⟩ := by
  have hstart : s.encode.dropWhile (fun b => b = 0x0D || b = 0x0A) = s.encode := rfl
  have hone : parseOne? s.encode
      = (framing? true s.status s.readHeaders).map fun f => ⟨s.status, s.readHeaders, f, s.body⟩ :=
    parseOne?_of_headLines (by rw [hstart, headLines_encode hs]) hs.length_lines_le hs.fits.size
      (status?_of_status hs.threeDigits hs.reason) (mapM_headerLine hs.isHeader)
  rw [Response.parse?, parseFrom?, hone]
  cases framing? true s.status s.readHeaders with
  | none => rfl
  | some f =>
    have hfinal : ¬ s.status < 200 := Nat.not_lt.mpr hs.status.1
    show (if Response.isInterim ⟨s.status, s.readHeaders, f, s.body⟩ then _ else some _) = _
    rw [Response.isInterim, decide_eq_false hfinal]
    rfl

end FragmentFeed.Http
