import FragmentFeed.Http.Response

/-!
# Bodies

The bytes of a body, taken out of what stands behind the head. A body that breaks off before its end
is none at all: no part of it is given back.
-/

namespace FragmentFeed.Http

open Text

/-- The value of a hexadecimal digit. -/
def hex? (b : UInt8) : Option Nat := Digit.value? 16 (Char.ofNat b.toNat)

/-- What comes next of a chunked body. -/
inductive Chunk where
  /-- The first digit of a size. -/
  | start
  /-- More digits of a size. -/
  | size (n : Nat)
  /-- Blanks behind a size. -/
  | sizeBlank (n : Nat)
  /-- What may be said about a chunk behind its size. -/
  | extension (n : Nat)
  | sizeEnd (n : Nat)
  /-- Bytes of a chunk, of which there are `n + 1` to come. -/
  | data (n : Nat)
  | dataReturn
  | dataEnd
  /-- The first byte of a line behind the last chunk. -/
  | trailerStart
  | trailer
  | trailerEnd
  | finish
  /-- Nothing: the body is whole. -/
  | done
  deriving DecidableEq, Repr

/-- How far a chunked body has been read. -/
structure Reading where
  next : Chunk
  /-- The bytes of the body, last one first. -/
  body : List UInt8
  /-- How many bytes have been said about chunks. -/
  said : Nat
  /-- What stands behind the last chunk, last byte first. -/
  trailer : List UInt8
  /-- How many lines of it have come to their end. -/
  lines : Nat
  deriving DecidableEq, Repr

namespace Reading

/-- How many bytes are too many to be said about chunks, or behind the last one. -/
def limit : Nat := 16384

/-- Nothing has been read. -/
def begin : Reading := ⟨.start, [], 0, [], 0⟩

/-- Goes on with something else. -/
def goOn (r : Reading) (c : Chunk) : Reading := { r with next := c }

/-- Goes on behind the size of a chunk. -/
def behindSize (r : Reading) (n : Nat) (b : UInt8) : Option Reading :=
  if isSpaceByte b then some (r.goOn (.sizeBlank n))
  else if b = 0x3B then some (r.goOn (.extension n))
  else if b = 0x0D then some (r.goOn (.sizeEnd n))
  else none

/-- Goes on behind the last chunk. -/
def gather (r : Reading) (b : UInt8) (c : Chunk) : Option Reading :=
  if r.trailer.length + 1 < limit then some { r with next := c, trailer := b :: r.trailer } else none

/-- Whether headers stand behind the last chunk, no more than lines have been counted. -/
def endsWell (r : Reading) : Bool :=
  match headLines [] r.trailer.reverse with
  | some (lines, _) => lines.length ≤ r.lines && lines.all fun l => (header? l).isSome
  | none => false

/-- Goes on with one more byte; `none` where it does not fit. -/
def read? (r : Reading) (b : UInt8) : Option Reading :=
  match r.next with
  | .start => (hex? b).map fun d => r.goOn (.size d)
  | .size n =>
    match hex? b with
    | some d => if n * 16 + d < UInt64.size then some (r.goOn (.size (n * 16 + d))) else none
    | none => r.behindSize n b
  | .sizeBlank n => r.behindSize n b
  | .extension n =>
    if b = 0x0D then some (r.goOn (.sizeEnd n))
    else if b = 0x0A then none
    else if r.said + 1 < limit then some { r with said := r.said + 1 }
    else none
  | .sizeEnd n =>
    if b ≠ 0x0A then none
    else
      match n with
      | 0 => some (r.goOn .trailerStart)
      | n + 1 => some (r.goOn (.data n))
  | .data 0 => some { r with next := .dataReturn, body := b :: r.body }
  | .data (n + 1) => some { r with next := .data n, body := b :: r.body }
  | .dataReturn => if b = 0x0D then some (r.goOn .dataEnd) else none
  | .dataEnd => if b = 0x0A then some (r.goOn .start) else none
  | .trailerStart => r.gather b (if b = 0x0D then .finish else .trailer)
  | .trailer => r.gather b (if b = 0x0D then .trailerEnd else .trailer)
  | .trailerEnd =>
    if b = 0x0A ∧ r.lines < countLimit then { r with lines := r.lines + 1 }.gather b .trailerStart
    else none
  | .finish =>
    if b = 0x0A then (r.gather b .done).bind fun r' => if r'.endsWell then some r' else none
    else none
  | .done => none

/-- Reads up to the end of the body. -/
def readAll? (r : Reading) : List UInt8 → Option (List UInt8)
  | [] => none
  | b :: rest =>
    match r.read? b with
    | none => none
    | some r' => if r'.next = .done then some r'.body.reverse else r'.readAll? rest

end Reading

/-- A chunked body. -/
def chunked? (bs : List UInt8) : Option (List UInt8) := Reading.begin.readAll? bs

/-- The body of a response; `none` where it breaks off. -/
def Response.body? (r : Response) : Option (List UInt8) :=
  match r.framing with
  | .empty => some []
  | .sized n => if n ≤ r.rest.length then some (r.rest.take n) else none
  | .chunked => chunked? r.rest
  | .untilClose => some r.rest

/-- A size as it stands in front of a chunk. -/
def sizeBytes (n : Nat) : List UInt8 := (Nat.toDigits 16 n).map fun c => UInt8.ofNat c.toNat

/-- A chunk as it is written. -/
def encodeChunk (c : List UInt8) : List UInt8 := sizeBytes c.length ++ lineEnd ++ c ++ lineEnd

/-- Chunks, none of them empty, as a body. -/
def encodeChunked (chunks : List (List UInt8)) : List UInt8 :=
  chunks.flatMap encodeChunk ++ 0x30 :: lineEnd ++ lineEnd

end FragmentFeed.Http
