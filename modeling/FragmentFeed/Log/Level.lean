import FragmentFeed.Text.Digit

/-!
# Levels

How grave an event is, and up to which level events are let through.
-/

namespace FragmentFeed.Log

open Text

/-- The level of an event, the gravest first. -/
inductive Level where
  | error
  | warn
  | info
  | debug
  | trace
  deriving DecidableEq, Repr

namespace Level

/-- The place of a level, the gravest being first. -/
def rank : Level → Nat
  | .error => 1
  | .warn => 2
  | .info => 3
  | .debug => 4
  | .trace => 5

/-- The name that an event shows. -/
def name : Level → String
  | .error => "ERROR"
  | .warn => "WARN"
  | .info => "INFO"
  | .debug => "DEBUG"
  | .trace => "TRACE"

/-- All levels, the gravest first. -/
def all : List Level := [error, warn, info, debug, trace]

end Level

/-- The levels that are let through: none, or all down to one. -/
inductive Threshold where
  | off
  | upTo (level : Level)
  deriving DecidableEq, Repr

namespace Threshold

/-- The number of levels let through. -/
def rank : Threshold → Nat
  | .off => 0
  | .upTo l => l.rank

/-- Whether a level is let through. -/
def allows (t : Threshold) (l : Level) : Bool := l.rank ≤ t.rank

/-- The name of a threshold. -/
def name : Threshold → String
  | .off => "off"
  | .upTo .error => "error"
  | .upTo .warn => "warn"
  | .upTo .info => "info"
  | .upTo .debug => "debug"
  | .upTo .trace => "trace"

/-- All thresholds, by rank. -/
def all : List Threshold := off :: Level.all.map upTo

/-- The one of two thresholds that lets more through. -/
def max (a b : Threshold) : Threshold := if a.rank < b.rank then b else a

/-- A number, perhaps behind a plus sign. -/
def number? (cs : List Char) : Option Nat :=
  match (match cs with | '+' :: rest => rest | _ => cs) with
  | [] => none
  | ds => Digit.gather? 10 0 ds

/-- Reads a threshold, which is given by its rank or, in letters of either case, by its name. -/
def parse? (cs : List Char) : Option Threshold :=
  match number? cs with
  | some n => all[n]?
  | none => all.find? (·.name.toList = cs.map Char.toLower)

end Threshold

end FragmentFeed.Log
