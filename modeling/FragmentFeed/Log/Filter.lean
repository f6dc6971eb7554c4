import FragmentFeed.Log.Directive
import FragmentFeed.Text.Utf8

/-!
# Filters

A filter decides by target and level which events are let through. Its rules stand in order, the
most specific first, and the first one that covers an event decides. Directives that name a span or
ask for a value make no rule, for an event is in no span here; all the same they raise the ceiling,
the threshold that no event passes.
-/

namespace FragmentFeed.Log

open Text

/-- A threshold for the events whose target begins as given and that have the fields named. -/
structure Rule where
  target : Option (List Char)
  fields : List (List Char)
  threshold : Threshold
  deriving DecidableEq, Repr

namespace Rule

/-- The rule that a directive makes. -/
def ofDirective? (d : Directive) : Option Rule :=
  if d.span.isNone && !d.asksForValue then some ⟨d.target, d.fields.map (·.name), d.threshold⟩
  else none

/-- The fields of an event. -/
def eventFields : List (List Char) := ["message".toList]

/-- Whether a rule covers the events of a target. -/
def covers (r : Rule) (target : List Char) : Bool :=
  (r.target.getD []).isPrefixOf target && r.fields.all eventFields.contains

/-- How specific a rule is next to another: first by the length of its target, then by the number of
its fields. Of equally specific ones the later in the alphabet counts as more specific, so that only
rules for the same events compare equal. -/
def specificity (a b : Rule) : Ordering :=
  ((compare (a.target.map Utf8.byteLength) (b.target.map Utf8.byteLength)).then
    (compare a.fields.length b.fields.length)).then
    ((compare a.target b.target).then (compare a.fields b.fields))

end Rule

/-- What is let through. -/
structure Filter where
  /-- By falling specificity. -/
  rules : List Rule
  ceiling : Threshold
  deriving DecidableEq, Repr

namespace Filter

/-- Puts a rule in its place, instead of one for the same events. -/
def insertRule (r : Rule) : List Rule → List Rule
  | [] => [r]
  | s :: rest =>
    match r.specificity s with
    | .gt => r :: s :: rest
    | .eq => r :: rest
    | .lt => s :: insertRule r rest

/-- The directives in the order in which their rules are put in place: those that have fields come
after the others. -/
def inOrder (ds : List Directive) : List Directive :=
  ds.filter (·.fields.isEmpty) ++ ds.filter (!·.fields.isEmpty)

/-- The ceiling that directives make. Where a value is asked for, everything may have to be looked
at. -/
def ceilingOf (ds : List Directive) : Threshold :=
  if ds.any (·.asksForValue) then .upTo .trace
  else ds.foldl (fun t d => t.max d.threshold) .off

/-- The filter that directives make. -/
def ofDirectives (ds : List Directive) : Filter :=
  ⟨((inOrder ds).filterMap Rule.ofDirective?).foldl (fun rules r => insertRule r rules) [],
    ceilingOf ds⟩

/-- Whether events of a target and level are let through. -/
def enabled (f : Filter) (target : List Char) (level : Level) : Bool :=
  match f.rules.find? (·.covers target) with
  | none => false
  | some r => r.threshold.allows level

/-! ## Filters as texts -/

/-- The directives' texts. -/
def directiveTexts (text : List Char) : List (List Char) := (pieces (· = ',') text).filter (· ≠ [])

/-- Reads a filter in which every directive has to be right. -/
def parse (read : Reader) (text : List Char) : Except Fault Filter :=
  ((directiveTexts text).mapM read).map ofDirectives

/-- A directive that is passed over. -/
structure Ignored where
  text : List Char
  cause : DirectiveError
  deriving DecidableEq, Repr

/-- What is said about a directive that is passed over. -/
def Ignored.message (i : Ignored) : String :=
  "ignoring `" ++ String.ofList i.text ++ "`: " ++ i.cause.message

/-- Whether the reading of a directive breaks down. -/
def breaksDown (read : Reader) (t : List Char) : Bool :=
  match read t with
  | .error .breakdown => true
  | _ => false

/-- The directives among texts. -/
def accepted (read : Reader) (texts : List (List Char)) : List Directive :=
  texts.filterMap fun t => (read t).toOption

/-- The texts that are passed over, as far as the reading comes. -/
def ignored (read : Reader) (texts : List (List Char)) : List Ignored :=
  (texts.takeWhile fun t => !breaksDown read t).filterMap fun t =>
    match read t with
    | .error (.wrong e) => some ⟨t, e⟩
    | _ => none

/-- The directive that holds where no other does: errors are let through. -/
def fallback : Directive := { Directive.start with threshold := .upTo .error }

/-- Reads a filter and passes over the directives that are wrong; `none` where the reading breaks down. -/
def parseLossy (read : Reader) (text : List Char) : Option Filter :=
  let texts := directiveTexts text
  if texts.any (breaksDown read) then none
  else
    match accepted read texts with
    | [] => some (ofDirectives [fallback])
    | ds => some (ofDirectives ds)

end Filter

end FragmentFeed.Log
