import FragmentFeed.Log.FieldValue
import FragmentFeed.Log.Level
import FragmentFeed.Text.Pieces
import FragmentFeed.Text.Utf8
import FragmentFeed.Unicode.Alphanumeric
import FragmentFeed.Unicode.Blank

/-!
# Directives

One piece of a filter: the threshold of what has a target, or happens within a span. A directive is
written `target[span{field=value}]=level`, of which each part may be missing; a word alone is a level
if it reads as one, and else a target of which everything is let through.

What reads directives is a library, and so filters and the log take a `Reader` for it; `Directive.parse` is
one. It is meant to give back a directive or an error.
-/

namespace FragmentFeed.Log

open Text

/-- A field that is asked for, and the value asked of it. -/
structure FieldPattern where
  name : List Char
  value : Option (List Char)
  deriving DecidableEq, Repr

/-- One piece of a filter. -/
structure Directive where
  threshold : Threshold
  target : Option (List Char)
  span : Option (List Char)
  fields : List FieldPattern
  deriving DecidableEq, Repr

/-- Why a text is not a directive. -/
inductive DirectiveError where
  | malformed
  | badLevel
  | badPattern (objection : String)
  deriving DecidableEq, Repr

/-- The wording of an error. -/
def DirectiveError.message : DirectiveError → String
  | .malformed => "invalid filter directive"
  | .badLevel => "error parsing level filter: expected one of \"off\", \"error\", \"warn\", \"info\", \"debug\", \"trace\", or a number 0-5"
  | .badPattern objection => "invalid field filter: " ++ objection

/-- Why no directive comes of a text. -/
inductive Fault where
  | wrong (error : DirectiveError)
  /-- The reading breaks down, and with it whatever waits for it. -/
  | breakdown
  deriving DecidableEq, Repr

/-- A way to read directives. -/
abbrev Reader : Type := List Char → Except Fault Directive

namespace Directive

/-- A directive that lets everything through, of which no part has been read. -/
def start : Directive := ⟨.upTo .trace, none, none, []⟩

/-- What is being read, with the place where it began. -/
inductive Reading where
  | nothing
  | word
  | span (start : Nat)
  | field (start : Nat)
  | fieldsEnd
  | spanEnd
  | threshold (start : Nat)
  deriving DecidableEq, Repr

/-- The part of a text between two places, which are counted in bytes. To cut within a character is to break
down. -/
def slice (text : List Char) (start stop : Nat) : Except Fault (List Char) :=
  match (Utf8.cutAt? start text).bind fun x => Utf8.cutAt? (stop - start) x.2 with
  | some (part, _) => .ok part
  | none => .error .breakdown

/-- The part of a text behind a place. -/
def sliceFrom (text : List Char) (start : Nat) : Except Fault (List Char) :=
  match Utf8.cutAt? start text with
  | some (_, rest) => .ok rest
  | none => .error .breakdown

/-- Whether a word may begin with a character. -/
def startsWord (c : Char) : Bool := c = '-' || c = ':' || c = '_' || Unicode.isAlphanumeric c

/-- Adds a field, `name` or `name=value`, unless it is empty or there is something against the value. -/
def addField (compile : Compiler) (d : Directive) (field : List Char) : Except Fault Directive :=
  match field, pieces (· = '=') field with
  | [], _ => .error (.wrong .malformed)
  | _, name :: value :: _ =>
    match FieldValue.objection? compile value with
    | none => .ok { d with fields := d.fields ++ [⟨name, some value⟩] }
    | some objection => .error (.wrong (.badPattern objection))
  | _, pieces => .ok { d with fields := d.fields ++ [⟨pieces.headD [], none⟩] }

/-- Takes note of the character `c` at place `i` of the text. -/
def step (compile : Compiler) (text : List Char) (i : Nat) (c : Char) (r : Reading) (d : Directive) :
    Except Fault (Reading × Directive) :=
  match r with
  | .nothing =>
    if c = '[' then .ok (.span (i + 1), d)
    else if startsWord c then .ok (.word, d)
    else .error (.wrong .malformed)
  | .word =>
    if c = '=' then (slice text 0 i).map fun target => (.threshold (i + 1), { d with target := some target })
    else if c = '[' then (slice text 0 i).map fun target => (.span (i + 1), { d with target := some target })
    else .ok (.word, d)
  | .span s =>
    if c = ']' then (slice text s i).map fun name => (.spanEnd, { d with span := some name })
    else if c = '\x7b' then
      (slice text s i).map fun name =>
        (.field (i + 1), { d with span := if name.isEmpty then none else some name })
    else .ok (.span s, d)
  | .field s =>
    if c = '\x7d' then do
      let field ← slice text s i
      return (.fieldsEnd, ← d.addField compile field)
    else .ok (.field s, d)
  | .fieldsEnd => if c = ']' then .ok (.spanEnd, d) else .error (.wrong .malformed)
  | .spanEnd => if c = '=' then .ok (.threshold (i + 1), d) else .error (.wrong .malformed)
  | .threshold s => .ok (.threshold s, d)

/-- Takes note of characters, the first of which is at place `i` of the text. -/
def steps (compile : Compiler) (text : List Char) : (i : Nat) → List Char → Reading → Directive →
    Except Fault (Reading × Directive)
  | _, [], r, d => .ok (r, d)
  | i, c :: rest, r, d =>
    match step compile text i c r d with
    | .error e => .error e
    | .ok (r', d') => steps compile text (i + c.utf8Size) rest r' d'

/-- Takes note of the end of the text. -/
def finish (text : List Char) (r : Reading) (d : Directive) : Except Fault Directive :=
  match r with
  | .word =>
    match Threshold.parse? text with
    | some t => .ok { d with threshold := t, target := none }
    | none => .ok { d with threshold := .upTo .trace, target := some text }
  | .threshold s =>
    match sliceFrom text s with
    | .error e => .error e
    | .ok [] => .ok d
    | .ok level =>
      match Threshold.parse? level with
      | some t => .ok { d with threshold := t }
      | none => .error (.wrong .badLevel)
  | .spanEnd => .ok d
  | _ => .error (.wrong .malformed)

/-- Reads a directive. Its marks are looked for in the text without the blanks around it, but the
parts are cut at those places from the text as it is: blanks in front shift every part. -/
def parse (compile : Compiler) : Reader := fun text =>
  match steps compile text 0 (trim Unicode.isBlank text) .nothing start with
  | .error e => .error e
  | .ok (r, d) => finish text r d

/-- Whether the directive asks for a value of a field. -/
def asksForValue (d : Directive) : Bool := d.fields.any (·.value.isSome)

end Directive

end FragmentFeed.Log
