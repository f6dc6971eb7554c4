import FragmentFeed.Text.Digit
import FragmentFeed.Text.Pieces

/-!
# Responses

What comes back: a head, which is a status line and headers, and all the bytes behind it up to the
close of the connection. `encode` writes a response, `parse?` reads one.
-/

namespace FragmentFeed.Http

open Text

/-- How the body of a response is told from what stands behind it. -/
inductive Framing where
  | empty
  | sized (length : Nat)
  | chunked
  /-- All bytes up to the close. -/
  | untilClose
  deriving DecidableEq, Repr

/-- A response. -/
structure Response where
  status : Nat
  /-- The names are in lower case. -/
  headers : List (List Char × List UInt8)
  framing : Framing
  /-- All that stands behind the head. -/
  rest : List UInt8
  deriving DecidableEq, Repr

/-- ASCII characters as bytes. -/
def ascii (s : String) : List UInt8 := s.toList.map fun c => UInt8.ofNat c.toNat

/-! ## The head -/

/-- The lines up to the first empty one, and what stands behind it. `line` is what has been read of a
line, last byte first; a carriage return at its end is not part of it. -/
def headLines (line : List UInt8) : List UInt8 → Option (List (List UInt8) × List UInt8)
  | [] => none
  | b :: rest =>
    if b = 0x0A then
      match (match line with | 0x0D :: l => l | l => l) with
      | [] => some ([], rest)
      | l => (headLines [] rest).map fun r => (l.reverse :: r.1, r.2)
    else headLines (b :: line) rest

/-- Whether a byte may stand in a header's name. -/
def isTokenByte (b : UInt8) : Bool :=
  (Char.ofNat b.toNat).isAlphanum || (ascii "!#$%&'*+-.^_|~" ++ [0x60]).contains b

/-- Whether a byte may stand in a header's value or a reason. -/
def isTextByte (b : UInt8) : Bool := b = 0x09 || (0x20 ≤ b && b ≠ 0x7F)

/-- Whether a byte is a space or a tab. -/
def isSpaceByte (b : UInt8) : Bool := b = 0x20 || b = 0x09

/-- Bytes as characters, in lower case. -/
def lower (bs : List UInt8) : List Char := bs.map fun b => (Char.ofNat b.toNat).toLower

/-- How many bytes the name of a header may have. -/
def nameLimit : Nat := 65535

/-- How many headers a head may have. -/
def countLimit : Nat := 100

/-- How many bytes a head may have. -/
def headLimit : Nat := 8192 + 4096 * 100

/-- The name and value of a header. -/
def header? (line : List UInt8) : Option (List Char × List UInt8) :=
  let name := line.takeWhile isTokenByte
  match line.dropWhile isTokenByte with
  | 0x3A :: value =>
    if !name.isEmpty && name.length ≤ nameLimit && value.all isTextByte then
      some (lower name, trim isSpaceByte value)
    else none
  | _ => none

/-- A decimal digit. -/
def digit? (b : UInt8) : Option Nat := Digit.value? 10 (Char.ofNat b.toNat)

/-- The status of a status line, and whether the version is 1.1 and not 1.0. -/
def status? (line : List UInt8) : Option (Bool × Nat) :=
  match line with
  | 0x48 :: 0x54 :: 0x54 :: 0x50 :: 0x2F :: 0x31 :: 0x2E :: v :: 0x20 :: a :: b :: c :: reason => do
    let new ← if v = 0x31 then some true else if v = 0x30 then some false else none
    let n := (← digit? a) * 100 + (← digit? b) * 10 + (← digit? c)
    let fits := match reason with
      | [] => true
      | r :: _ => r = 0x20 && reason.all isTextByte
    if fits && 100 ≤ n then some (new, n) else none
  | _ => none

/-- The values of a header. -/
def valuesOf (name : String) (headers : List (List Char × List UInt8)) : List (List UInt8) :=
  (headers.filter (·.1 = name.toList)).map (·.2)

/-- The parts of a value between commas. -/
def listItems (value : List UInt8) : List (List UInt8) :=
  (pieces (· = 0x2C) value).map (trim isSpaceByte)

/-- A length. The two greatest numbers of 64 bits are none, for they stand for bodies without a length. -/
def length? (bs : List UInt8) : Option Nat :=
  match bs.map fun b => Char.ofNat b.toNat with
  | [] => none
  | cs =>
    match Digit.gather? 10 0 cs with
    | some n => if n + 2 < UInt64.size then some n else none
    | none => none

/-- The one length that all items of the length headers name. -/
def contentLength? (values : List (List UInt8)) : Option Nat :=
  match (values.flatMap listItems).map length? with
  | some n :: more => if more.all (· = some n) then some n else none
  | _ => none

/-- Whether the last encoding named is the chunked one. -/
def endsInChunked (values : List (List UInt8)) : Bool :=
  match values.getLast? with
  | none => false
  | some v =>
    (listItems v).getLast?.map lower = some "chunked".toList

/-- How the body is framed; `none` where the head contradicts itself. -/
def framing? (new : Bool) (status : Nat) (headers : List (List Char × List UInt8)) : Option Framing :=
  if status < 200 ∨ status = 204 ∨ status = 304 then some .empty
  else
    match valuesOf "transfer-encoding" headers, valuesOf "content-length" headers with
    | [], [] => some .untilClose
    | [], lengths => (contentLength? lengths).map .sized
    | encodings, _ =>
      if !new then none
      else if endsInChunked encodings then some .chunked
      else some .untilClose

/-- Reads one head, in front of which empty lines may stand. -/
def parseOne? (bs : List UInt8) : Option Response := do
  let (lines, rest) ← headLines [] (bs.dropWhile fun b => b = 0x0D || b = 0x0A)
  match lines with
  | [] => none
  | l :: more =>
    if more.length ≤ countLimit ∧ bs.length ≤ headLimit + rest.length then
      let (new, status) ← status? l
      let headers ← more.mapM header?
      return ⟨status, headers, ← framing? new status headers, rest⟩
    else none

/-- Whether a response only tells that another one will come. -/
def Response.isInterim (r : Response) : Bool := r.status < 200 && r.status ≠ 101

/-- Reads a response, passing over interim ones, of which there are fewer than bytes. -/
def parseFrom? : (fuel : Nat) → List UInt8 → Option Response
  | 0, _ => none
  | n + 1, bs => do
    let r ← parseOne? bs
    if r.isInterim then parseFrom? n r.rest else some r

/-- Reads a response. -/
def Response.parse? (bs : List UInt8) : Option Response := parseFrom? (bs.length + 1) bs

/-! ## Writing -/

/-- A response to be written. -/
structure Script where
  status : Nat
  reason : List UInt8
  headers : List (List UInt8 × List UInt8)
  body : List UInt8
  deriving DecidableEq, Repr

/-- The end of a line. -/
def lineEnd : List UInt8 := [0x0D, 0x0A]

/-- The bytes of a response, after which the connection is closed. -/
def Script.encode (s : Script) : List UInt8 :=
  ascii "HTTP/1.1 " ++ ascii (toString s.status) ++ 0x20 :: s.reason ++ lineEnd
    ++ s.headers.flatMap (fun h => h.1 ++ ascii ": " ++ h.2 ++ lineEnd)
    ++ ascii "Connection: close" ++ lineEnd ++ lineEnd ++ s.body

end FragmentFeed.Http
