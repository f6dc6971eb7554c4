import FragmentFeed.Config.Basic
import FragmentFeed.Log.Event
import FragmentFeed.Log.Filter
import FragmentFeed.Text.Quotation

/-!
# Log output

The log is set up once: the first attempt decides which filter is in force, and all others do
nothing. From then on the events that the filter lets through are written, each behind the time. Where the
first attempt breaks down the log is never set up.
-/

namespace FragmentFeed.Log

open Text

/-- What is written: an event behind the time, or a text as it is. -/
inductive Written where
  | event (text : String)
  | plain (text : String)
  deriving DecidableEq, Repr

namespace Written

/-- A character of a message. Those that would do something to a terminal are escaped. -/
def encodeChar (c : Char) : List Char :=
  if c = '\x07' then "\\x07".toList
  else if c = '\x08' then "\\x08".toList
  else if c = '\x0c' then "\\x0c".toList
  else if c = '\x1b' then "\\x1b".toList
  else if c = '\x7f' then "\\x7f".toList
  else if 0x80 ≤ c.toNat ∧ c.toNat < 0xA0 then Quotation.numbered c
  else [c]

/-- A message as it is written. -/
def encode (message : String) : String := String.ofList (message.toList.flatMap encodeChar)

/-- The name of a level in five columns. -/
def column (level : Level) : String :=
  String.ofList (List.replicate (5 - level.name.length) ' ') ++ level.name

/-- An event as it is written. -/
def ofEvent (e : Event) : Written :=
  .event (column e.level ++ " " ++ e.target ++ ": " ++ encode e.message)

/-- The whole text; `time` stands for the time of an event. -/
def text (time : String) : Written → String
  | .event t => time ++ " " ++ t
  | .plain t => t

/-- The lines of a text; a carriage return at the end of one is not part of it. -/
def linesOf (text : String) : List String :=
  (pieces (· = '\n') text.toList).map fun l =>
    String.ofList (if l.getLast? = some '\r' then l.dropLast else l)

/-- The lines. -/
def lines (time : String) (w : Written) : List String := linesOf (w.text time)

end Written

/-- The filter that is in force once the log is set up, and what has been written. -/
structure Output where
  filter : Option Filter
  /-- Whether the attempt to set it up has broken down. Then every other one breaks down as well. -/
  broken : Bool
  written : List Written
  deriving DecidableEq, Repr

namespace Output

/-- The log before it is set up. -/
def empty : Output := ⟨none, false, []⟩

/-- The text that the environment asks for a filter in: the bytes have to be UTF-8. -/
def environment? (setting : Option (List UInt8)) : Option (List Char) := setting.bind Utf8.decode?

/-- Whether an event is let through; before the log is set up none is. -/
def enabled (o : Output) (target : String) (level : Level) : Bool :=
  match o.filter with
  | none => false
  | some f => f.enabled target.toList level

/-- Writes an event if it is let through. -/
def emit (o : Output) (e : Event) : Output :=
  if o.enabled e.target e.level then { o with written := o.written ++ [.ofEvent e] } else o

/-- The log as the configuration wants it. -/
def configured (read : Reader) (config : Config) : Output :=
  let text := config.filter.toList
  let filter := Filter.parseLossy read text
  ⟨filter, filter.isNone, (Filter.ignored read (Filter.directiveTexts text)).map (.plain ·.message)⟩

/-- The log as the environment wants it, if every directive there is right, or else as the configuration
does. -/
def begin (read : Reader) (setting : Option (List UInt8)) (config : Config) : Output :=
  match environment? setting with
  | none => configured read config
  | some text =>
    match Filter.parse read text with
    | .ok f => ⟨some f, false, []⟩
    | .error (.wrong _) => configured read config
    | .error .breakdown => ⟨none, true, []⟩

/-- Sets up the log, unless that has been attempted before. -/
def init (read : Reader) (setting : Option (List UInt8)) (o : Output) (config : Config) : Output :=
  if o.filter.isSome || o.broken then o else (begin read setting config).emit .initialized

/-- The threshold that no event passes. -/
def ceiling (o : Output) : Threshold := (o.filter.map (·.ceiling)).getD .off

/-- The lines written; `time` stands for the time of an event. -/
def lines (time : String) (o : Output) : List String := o.written.flatMap (Written.lines time)

end Output

end FragmentFeed.Log
