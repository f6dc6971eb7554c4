import FragmentFeed.Unicode.Bidi
import FragmentFeed.Unicode.Joining
import FragmentFeed.Unicode.Mark
import FragmentFeed.Unicode.Normal
import FragmentFeed.Url.Domain.Mapping
import FragmentFeed.Url.Punycode

/-!
# Domain names

A name is mapped, normalized and split into labels; labels beyond ASCII are written in Punycode
behind `xn--`, and labels that come so are read back and held to the same rules. A name of ASCII
characters without such a label becomes itself in lower case, or nothing if it holds a forbidden
character; none of the tables has a part in that.
-/

namespace FragmentFeed.Domain

open Unicode

/-- ASCII characters that no domain name holds: controls, the space, DEL and the delimiters of a
URL. -/
def forbidden (c : Char) : Bool :=
  c.toNat ≤ 0x20 || c.toNat = 0x7F
    || ['%', '#', '/', ':', '<', '>', '?', '@', '[', '\\', ']', '^', '|'].contains c

/-- What stands before the Punycode of a label. -/
def encodedMark : List Char := ['x', 'n', '-', '-']

/-- Whether a text holds ASCII characters only. -/
def isAscii (cs : List Char) : Bool := cs.all (·.toNat < 0x80)

/-- Whether a joiner may stand where it does, given what stands before it, last character first, and
after it: after a sign that silences a vowel either joiner may; otherwise a non-joiner may stand
between two characters that would join across it. -/
def joinerFits (c : Char) (before after : List Char) : Bool :=
  before.head?.any (combiningClass · = virama)
    || c = '\u200C'
      && (before.dropWhile (joining · = .transparent)).head?.any
        (fun d => joining d = .left || joining d = .dual)
      && (after.dropWhile (joining · = .transparent)).head?.any
        (fun d => joining d = .right || joining d = .dual)

/-- Whether every joiner may stand where it does. -/
def joinersFit (before : List Char) : List Char → Bool
  | [] => true
  | c :: rest =>
    (!(c = '\u200C' || c = '\u200D') || joinerFits c before rest) && joinersFit (c :: before) rest

/-- The rules for a label with characters beyond ASCII. -/
def admissible (label : List Char) : Bool :=
  label.all (mapping · = .keep) && normalize label = label && !label.head?.any isMark
    && !encodedMark.isPrefixOf label && joinersFit [] label

/-- A label as it reads and as it is written in ASCII. -/
structure Label where
  text : List Char
  written : List Char

/-- Takes one label of a mapped name. -/
def Label.ofMapped? (cs : List Char) : Option Label :=
  if encodedMark.isPrefixOf cs then
    match Punycode.decode? (cs.drop 4) with
    | none => none
    | some text => if !isAscii text && admissible text then some ⟨text, cs⟩ else none
  else if isAscii cs then some ⟨cs, cs⟩
  else if admissible cs then some ⟨cs, encodedMark ++ Punycode.encode cs⟩
  else none

/-- Whether a name with these labels keeps to the rule for directions, which binds it only if it
holds a right-to-left character. -/
def directionsFit (labels : List Label) : Bool :=
  !labels.any (·.text.any fun c => (direction c).isRightToLeft)
    || labels.all (fun l => oneDirection (l.text.map direction))

/-- Labels with dots between them. -/
def join : List (List Char) → List Char
  | [] => []
  | [l] => l
  | l :: rest => l ++ '.' :: join rest

/-- A name as it is written in ASCII; `none` where it is not a domain name. -/
def toAscii? (name : List Char) : Option (List Char) := do
  let mapped ← mapAll name
  let normal := if isAscii mapped then mapped else normalize mapped
  let labels ← (Text.pieces (· = '.') normal).mapM Label.ofMapped?
  let written := join (labels.map (·.written))
  if directionsFit labels && !written.any forbidden then some written else none

end FragmentFeed.Domain
