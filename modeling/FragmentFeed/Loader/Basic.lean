import FragmentFeed.Fetch.Exchange

/-!
# Loaders

A loader has a URL and the text that was last fetched from it. Each success replaces the text, even
by the same one, and counts as a new version; a failure leaves both alone and is told in the log
only.
-/

namespace FragmentFeed

open Http Text

/-- What a source comes back with. -/
inductive Reply where
  | text (content : String)
  | failure (error : FetchError)
  /-- The source breaks down, which ends the load without a word in the log. -/
  | panic (message : String)
  deriving DecidableEq, Repr

/-- The reply that the result of a fetch is. -/
def Reply.ofResult : Except FetchError String → Reply
  | .ok content => .text content
  | .error e => .failure e

/-- Where a loader gets its text from. -/
inductive Origin where
  /-- A source whose replies are given from outside. -/
  | scripted
  | web (source : Source)
  deriving DecidableEq, Repr

/-- A loader. -/
structure Loader where
  url : String
  origin : Origin
  content : String
  /-- How many times the content has been replaced. -/
  version : Nat
  deriving DecidableEq, Repr

/-- How a load that was not stopped has ended. -/
inductive Ending where
  /-- The source came back, with a text or a failure. -/
  | returned
  | panicked (message : String)
  deriving DecidableEq, Repr

/-- The ending that a reply makes. -/
def Reply.ending : Reply → Ending
  | .panic message => .panicked message
  | _ => .returned

namespace Loader

/-- A loader that has loaded nothing. -/
def new (url : String) (origin : Origin) : Loader := ⟨url, origin, "", 0⟩

/-- The loader after a reply. -/
def accept (l : Loader) : Reply → Loader
  | .text content => { l with content := content, version := l.version + 1 }
  | _ => l

/-- What the log tells of a reply. -/
def eventsOf (l : Loader) : Reply → List Log.Event
  | .text content => [.loaded l.url content.utf8ByteSize]
  | .failure error => [.failed l.url error]
  | .panic _ => []

/-! ## Beginning a load -/

/-- What is at hand when a load begins. -/
structure Supply where
  /-- The reply of a scripted source. -/
  reply : Option Reply
  /-- What the server responds with. -/
  responses : List (List UInt8)
  deriving DecidableEq, Repr

/-- What a load waits for. -/
inductive Wait where
  | reply
  | response (exchange : Exchange)
  deriving DecidableEq, Repr

/-- How far a load comes at once. -/
structure Launch where
  /-- What it waits for, or the reply that it has. -/
  state : Wait ⊕ Reply
  trace : Trace
  deriving DecidableEq, Repr

/-- What a stage of a fetch means for its load. -/
def ofProgress : Progress → Wait ⊕ Reply
  | .waiting x => .inl (.response x)
  | .finished r => .inr (.ofResult r)

/-- What is seen when a load begins: the log tells of it, and the source is called. -/
def opening (l : Loader) : Trace := [.event (.pending l.url), .call l.url]

/-- Begins a load. -/
def launch (ctx : Context) (l : Loader) (supply : Supply) : Launch :=
  match l.origin with
  | .scripted =>
    ⟨match supply.reply with
      | some r => .inr r
      | none => .inl .reply, l.opening⟩
  | .web source =>
    let stage := ((source.start ctx l.url).receiveAll ctx supply.responses).1
    ⟨ofProgress stage.progress, l.opening ++ stage.trace⟩

/-- The reply of a load that may not wait: the connection is closed on a request. A scripted source
without a reply gives none. -/
def Launch.reply? (launch : Launch) : Option Reply :=
  match launch.state with
  | .inr r => some r
  | .inl (.response x) => some (.failure (.transport (.unanswered x.origin)))
  | .inl .reply => none

/-- What is seen when a reply has come. -/
def closing (l : Loader) (r : Reply) : Trace := (l.eventsOf r).map .event

/-- A load run to its end: the loader after it, and what is seen of it. -/
def loadInPlace (ctx : Context) (l : Loader) (supply : Supply) : Loader × Trace :=
  let launch := l.launch ctx supply
  match launch.reply? with
  | some r => (l.accept r, launch.trace ++ l.closing r)
  | none => (l, launch.trace)

end Loader

end FragmentFeed
