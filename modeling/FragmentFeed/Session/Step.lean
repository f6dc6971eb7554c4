import FragmentFeed.Config.Json
import FragmentFeed.Session.Basic

/-!
# Steps of a session

Each step does one thing and reports what came of it: an answer, and what was seen from outside. A step that
refers to something that is not there does nothing else than say so. Whatever can go on without a reply has
done so when the step is over.
-/

namespace FragmentFeed

open Http

/-- How a loader is made. -/
inductive Making where
  | scripted
  /-- A web source without a base. -/
  | plain
  /-- A web source as a configuration text asks for it. -/
  | configured (text : String)
  deriving DecidableEq, Repr

/-- What is given to a load that waits. -/
inductive Delivery where
  | reply (r : Reply)
  | response (bytes : List UInt8)
  deriving DecidableEq, Repr

/-- What can be done in a session. Numbers refer to loaders, loads and receivers. -/
inductive Step where
  | new (url : String) (making : Making)
  | load (loader : Nat) (supply : Loader.Supply)
  | loadInPlace (loader : Nat) (supply : Loader.Supply)
  | url (loader : Nat)
  | dropLoader (loader : Nat)
  | subscribe (loader : Nat)
  | deliver (load : Nat) (delivery : Delivery)
  | abort (load : Nat)
  | handle (load : Nat)
  | borrow (receiver : Nat)
  | borrowAndUpdate (receiver : Nat)
  | hasChanged (receiver : Nat)
  | changed (receiver : Nat)
  | cloneReceiver (receiver : Nat)
  | dropReceiver (receiver : Nat)
  deriving DecidableEq, Repr

/-- What a step answers. -/
inductive Answer where
  | loader (number : Nat) (url : String)
  | configError (error : ConfigError)
  | fetchError (error : FetchError)
  | load (number : Nat) (waits : Bool)
  | text (content : String)
  | receiver (number : Nat)
  | outcome (outcome : Outcome)
  | flag (value : Bool)
  | done
  | finished
  | waiting
  | notWaiting
  | pending
  | taken
  | ready
  | closed
  | noLoader
  | noLoad
  | noReceiver
  deriving DecidableEq, Repr

/-- What came of a step. -/
structure Report where
  answer : Answer
  trace : Trace
  deriving DecidableEq, Repr

/-- An answer and nothing else. -/
def Report.only (a : Answer) : Report := ⟨a, []⟩

namespace Session

/-- Makes a loader. -/
def new (s : Session) (url : String) (making : Making) : Session × Report :=
  match origin with
  | .ok o => (s.addLoader (.new url o), .only (.loader s.slots.length url))
  | .error a => (s, .only a)
where
  origin : Except Answer Origin :=
    match making with
    | .scripted => .ok .scripted
    | .plain => .ok (.web .absolute)
    | .configured text =>
      match Config.ofText text with
      | .error e => .error (.configError e)
      | .ok c =>
        match Source.ofConfig c with
        | .error e => .error (.fetchError e)
        | .ok source => .ok (.web source)

/-- Begins a load that runs by itself. -/
def load (ctx : Context) (s : Session) (n : Nat) (l : Loader) (supply : Loader.Supply) :
    Session × Report :=
  let launch := l.launch ctx supply
  match launch.state with
  | .inl wait => (s.addLoad ⟨n, .waiting wait⟩, ⟨.load s.loads.length true, launch.trace⟩)
  | .inr r =>
    ((s.setLoader n (l.accept r)).addLoad ⟨n, .finished (.ended r.ending) false⟩,
      ⟨.load s.loads.length false, launch.trace ++ l.closing r⟩)

/-- Runs a load to its end. -/
def loadInPlace (ctx : Context) (s : Session) (n : Nat) (l : Loader) (supply : Loader.Supply) :
    Session × Report :=
  let (l', trace) := l.loadInPlace ctx supply
  (s.setLoader n l', ⟨.done, trace⟩)

/-- Ends a load with the reply of its source. -/
def finish (s : Session) (n : Nat) (k : Load) (l : Loader) (r : Reply) (trace : Trace) :
    Session × Report :=
  ((s.setLoader k.loader (l.accept r)).setPhase n (.finished (.ended r.ending) false),
    ⟨.finished, trace ++ l.closing r⟩)

/-- Gives a load what it waits for. What it does not wait for leaves it as it is. -/
def deliver (ctx : Context) (s : Session) (n : Nat) (k : Load) (l : Loader) (d : Delivery) :
    Session × Report :=
  match k.phase, d with
  | .finished _ _, _ => (s, .only .notWaiting)
  | .waiting .reply, .reply r => s.finish n k l r []
  | .waiting (.response x), .response bytes =>
    let stage := x.receive ctx bytes
    match stage.progress with
    | .waiting x' => (s.setPhase n (.waiting (.response x')), ⟨.waiting, stage.trace⟩)
    | .finished result => s.finish n k l (.ofResult result) stage.trace
  | .waiting _, _ => (s, .only .waiting)

/-- Stops a load if it waits. -/
def abort (s : Session) (n : Nat) (k : Load) : Session × Report :=
  match k.phase with
  | .waiting _ => (s.setPhase n (.finished .cancelled false), .only .done)
  | .finished _ _ => (s, .only .done)

/-- Asks for the outcome of a load, which is given once. -/
def handle (s : Session) (n : Nat) (k : Load) : Session × Report :=
  match k.phase with
  | .waiting _ => (s, .only .pending)
  | .finished o false => (s.setPhase n (.finished o true), .only (.outcome o))
  | .finished _ true => (s, .only .taken)

/-- Notes that a receiver has seen what there is. -/
def see (s : Session) (n : Nat) (r : Receiver) (l : Loader) : Session :=
  s.setReceiver n { r with seen := l.version }

/-- Asks whether there is something unseen. -/
def hasChanged (s : Session) (r : Receiver) (l : Loader) : Answer :=
  if s.isClosed r.loader then .closed else .flag (r.seen ≠ l.version)

/-- Waits for something unseen, but not any longer than it takes to look. -/
def changed (s : Session) (n : Nat) (r : Receiver) (l : Loader) : Session × Report :=
  if r.seen ≠ l.version then (s.see n r l, .only .ready)
  else if s.isClosed r.loader then (s, .only .closed)
  else (s, .only .pending)

/-- Does something with a loader that the program refers to. -/
def withLoader (s : Session) (n : Nat) (act : Loader → Session × Report) : Session × Report :=
  match s.held? n with
  | some l => act l
  | none => (s, .only .noLoader)

/-- Does something with a load. -/
def withLoad (s : Session) (n : Nat) (act : Load → Loader → Session × Report) : Session × Report :=
  match s.load? n with
  | some (k, l) => act k l
  | none => (s, .only .noLoad)

/-- Does something with a receiver. -/
def withReceiver (s : Session) (n : Nat) (act : Receiver → Loader → Session × Report) :
    Session × Report :=
  match s.receiver? n with
  | some (r, l) => act r l
  | none => (s, .only .noReceiver)

/-- Takes a step. -/
def step (ctx : Context) (s : Session) : Step → Session × Report
  | .new url making => s.new url making
  | .load n supply => s.withLoader n fun l => s.load ctx n l supply
  | .loadInPlace n supply => s.withLoader n fun l => s.loadInPlace ctx n l supply
  | .url n => s.withLoader n fun l => (s, .only (.text l.url))
  | .dropLoader n => s.withLoader n fun _ => (s.release n, .only .done)
  | .subscribe n => s.withLoader n fun l =>
    (s.addReceiver ⟨n, l.version, true⟩, .only (.receiver s.receivers.length))
  | .deliver n d => s.withLoad n fun k l => s.deliver ctx n k l d
  | .abort n => s.withLoad n fun k _ => s.abort n k
  | .handle n => s.withLoad n fun k _ => s.handle n k
  | .borrow n => s.withReceiver n fun _ l => (s, .only (.text l.content))
  | .borrowAndUpdate n => s.withReceiver n fun r l => (s.see n r l, .only (.text l.content))
  | .hasChanged n => s.withReceiver n fun r l => (s, .only (s.hasChanged r l))
  | .changed n => s.withReceiver n fun r l => s.changed n r l
  | .cloneReceiver n => s.withReceiver n fun r _ =>
    (s.addReceiver r, .only (.receiver s.receivers.length))
  | .dropReceiver n => s.withReceiver n fun r _ =>
    (s.setReceiver n { r with live := false }, .only .done)

/-- Takes steps one after the other; what came of each, with the session after it. -/
def run (ctx : Context) (s : Session) : List Step → List (Session × Report)
  | [] => []
  | t :: more =>
    let r := s.step ctx t
    r :: run ctx r.1 more

end Session

end FragmentFeed
