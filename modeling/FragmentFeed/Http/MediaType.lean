import FragmentFeed.Http.Response
import FragmentFeed.Text.Charset

/-!
# Media types

The charset that a response names for its text: a parameter of its media type, which is written
`type/subtype; name=value`. A media type with a fault anywhere names no charset at all.
-/

namespace FragmentFeed.Http

open Text

/-- Whether a byte may stand in a media type. -/
def isVisibleByte (b : UInt8) : Bool := b = 0x09 || (0x20 ≤ b && b < 0x7F)

/-- What comes next of the parameters. -/
inductive Parameter where
  /-- Blanks or a name. -/
  | gap
  /-- More of a name, of which `read` has been read, last byte first. -/
  | name (read : List UInt8)
  /-- The value of a name, of which `read` has been read, last byte first. -/
  | bare (name : List Char) (read : List UInt8)
  /-- The same in quotes. -/
  | quoted (name : List Char) (read : List UInt8)
  /-- Blanks behind quotes. -/
  | behind (name : List Char) (value : List UInt8)

/-- The parameters of a media type, with the names in lower case and the values without quotes. Between
quotes there is at least one byte, and the first one may be a quote. -/
def parameters? (p : Parameter) : List UInt8 → Option (List (List Char × List UInt8))
  | [] =>
    match p with
    | .gap => some []
    | .bare name read => some [(name, read.reverse)]
    | .behind name value => some [(name, value)]
    | _ => none
  | b :: rest =>
    match p with
    | .gap =>
      if b = 0x20 then parameters? .gap rest
      else if isTokenByte b then parameters? (.name [b]) rest
      else none
    | .name read =>
      if b = 0x3D then parameters? (.bare (lower read.reverse) []) rest
      else if isTokenByte b then parameters? (.name (b :: read)) rest
      else none
    | .bare name read =>
      if b = 0x22 ∧ read = [] then parameters? (.quoted name []) rest
      else if b = 0x3B ∧ read ≠ [] then (parameters? .gap rest).map ((name, read.reverse) :: ·)
      else if isTokenByte b then parameters? (.bare name (b :: read)) rest
      else none
    | .quoted name read =>
      if b = 0x22 ∧ read ≠ [] then parameters? (.behind name read.reverse) rest
      else if 0x20 ≤ b then parameters? (.quoted name (b :: read)) rest
      else none
    | .behind name value =>
      if b = 0x20 then parameters? (.behind name value) rest
      else if b = 0x3B then (parameters? .gap rest).map ((name, value) :: ·)
      else none

/-- The parameters of a whole media type. -/
def parametersOf? (value : List UInt8) : Option (List (List Char × List UInt8)) :=
  match value.dropWhile isTokenByte with
  | 0x2F :: subtype =>
    match subtype.dropWhile isTokenByte with
    | 0x3B :: rest =>
      if value.all isVisibleByte && value.head? ≠ some 0x2F && subtype.head? ≠ some 0x3B then
        parameters? .gap rest
      else none
    | _ => none
  | _ => none

/-- The charset that a media type names. -/
def charsetLabel? (value : List UInt8) : Option (List Char) :=
  (parametersOf? value).bind fun ps =>
    (valuesOf "charset" ps).head?.map fun bs => bs.map fun b => Char.ofNat b.toNat

/-- The charset of a response. -/
def Response.charset (r : Response) : Charset :=
  match (valuesOf "content-type" r.headers).head?.bind charsetLabel? with
  | some label => .ofLabel label
  | none => .utf8

end FragmentFeed.Http
