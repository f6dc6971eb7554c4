import FragmentFeed.Text.Pieces
import FragmentFeed.Text.Utf16
import FragmentFeed.Text.Utf8

/-!
# Charsets

How the bytes of a text are to be read, by the labels of the WHATWG Encoding Standard. UTF-8, UTF-16
and windows-1252, which stands in for ASCII and Latin-1, are read here. The tables of all other charsets
come from outside; under a label that has none a text is read as UTF-8. A byte order mark wins over every
label and is no part of the text.
-/

namespace FragmentFeed.Text

/-- A way to read bytes as text. -/
inductive Charset where
  | utf8
  | utf16 (bigEndian : Bool)
  | windows1252
  /-- The charset of another label, if it has a table. -/
  | tabled (label : List Char)
  deriving DecidableEq, Repr

namespace Charset

/-- The tables of charsets, by label: how bytes are read in them. -/
abbrev Tables : Type := List Char → Option (List UInt8 → List Char)

/-- The labels of UTF-8. -/
def utf8Labels : List String :=
  ["unicode-1-1-utf-8", "unicode11utf8", "unicode20utf8", "utf-8", "utf8", "x-unicode20utf8"]

/-- The labels of UTF-16 with the low byte in front. -/
def utf16Labels : List String :=
  ["csunicode", "iso-10646-ucs-2", "ucs-2", "unicode", "unicodefeff", "utf-16", "utf-16le"]

/-- The labels of UTF-16 with the high byte in front. -/
def utf16BigLabels : List String := ["unicodefffe", "utf-16be"]

/-- The labels of windows-1252. -/
def windows1252Labels : List String :=
  ["ansi_x3.4-1968", "ascii", "cp1252", "cp819", "csisolatin1", "ibm819", "iso-8859-1",
    "iso-ir-100", "iso8859-1", "iso88591", "iso_8859-1", "iso_8859-1:1987", "l1", "latin1",
    "us-ascii", "windows-1252", "x-cp1252"]

/-- Whether a character around a label is passed over. -/
def isLabelBlank (c : Char) : Bool := [' ', '\t', '\n', '\r', '\x0c'].contains c

/-- The charset that a label names, in letters of either case. -/
def ofLabel (label : List Char) : Charset :=
  let cs := (trim isLabelBlank label).map Char.toLower
  let l := String.ofList cs
  if utf8Labels.contains l then .utf8
  else if utf16Labels.contains l then .utf16 false
  else if utf16BigLabels.contains l then .utf16 true
  else if windows1252Labels.contains l then .windows1252
  else .tabled cs

/-- The characters of the bytes `0x80` to `0x9F` in windows-1252. -/
def windows1252High : List Nat :=
  [0x20AC, 0x81, 0x201A, 0x0192, 0x201E, 0x2026, 0x2020, 0x2021, 0x02C6, 0x2030, 0x0160, 0x2039,
    0x0152, 0x8D, 0x017D, 0x8F, 0x90, 0x2018, 0x2019, 0x201C, 0x201D, 0x2022, 0x2013, 0x2014,
    0x02DC, 0x2122, 0x0161, 0x203A, 0x0153, 0x9D, 0x017E, 0x0178]

/-- The character of a byte in windows-1252. -/
def windows1252Char (b : UInt8) : Char :=
  Char.ofNat (if 0x80 ≤ b.toNat then windows1252High.getD (b.toNat - 0x80) b.toNat else b.toNat)

/-- Reads bytes in a charset. -/
def decodeIn (tables : Tables) (bs : List UInt8) : Charset → List Char
  | .utf8 => Utf8.decodeLossy bs
  | .utf16 bigEndian => Utf16.decodeLossy bigEndian bs
  | .windows1252 => bs.map windows1252Char
  | .tabled label =>
    match tables label with
    | some read => read bs
    | none => Utf8.decodeLossy bs

/-- Reads bytes, in the charset of their byte order mark if they have one. -/
def decode (tables : Tables) (charset : Charset) : List UInt8 → List Char
  | 0xEF :: 0xBB :: 0xBF :: bs => decodeIn tables bs .utf8
  | 0xFF :: 0xFE :: bs => decodeIn tables bs (.utf16 false)
  | 0xFE :: 0xFF :: bs => decodeIn tables bs (.utf16 true)
  | bs => decodeIn tables bs charset

end Charset

end FragmentFeed.Text
