import FragmentFeed.Loader.Basic

/-!
# Sessions

The loaders, loads and receivers of a program, each kind numbered by creation. A load that waits
keeps its loader alive; a receiver follows the content of a loader and knows which version it has
seen.
-/

namespace FragmentFeed

/-- How a load has ended. -/
inductive Outcome where
  | ended (ending : Ending)
  | cancelled
  deriving DecidableEq, Repr

/-- How far a load has come. -/
inductive Phase where
  | waiting (wait : Loader.Wait)
  /-- An end, and whether it has been asked for. -/
  | finished (outcome : Outcome) (taken : Bool)
  deriving DecidableEq, Repr

/-- A load that runs by itself. -/
structure Load where
  loader : Nat
  phase : Phase
  deriving DecidableEq, Repr

/-- Whether a load waits. -/
def Load.isWaiting (k : Load) : Bool :=
  match k.phase with
  | .waiting _ => true
  | .finished _ _ => false

/-- What follows the content of a loader. -/
structure Receiver where
  loader : Nat
  /-- The version that counts as seen. -/
  seen : Nat
  live : Bool
  deriving DecidableEq, Repr

/-- A loader and whether the program still refers to it. -/
structure Slot where
  loader : Loader
  held : Bool
  deriving DecidableEq, Repr

/-- All that there is. -/
structure Session where
  slots : List Slot
  loads : List Load
  receivers : List Receiver
  deriving DecidableEq, Repr

namespace Session

/-- The session in which nothing has been created. -/
def empty : Session := ⟨[], [], []⟩

/-- The loader of a number, if the program refers to it. -/
def held? (s : Session) (n : Nat) : Option Loader :=
  match s.slots[n]? with
  | some ⟨l, true⟩ => some l
  | _ => none

/-- The receiver of a number, unless it has been dropped, and the loader it follows. -/
def receiver? (s : Session) (n : Nat) : Option (Receiver × Loader) :=
  match s.receivers[n]? with
  | some r => if r.live then s.slots[r.loader]?.map (r, ·.loader) else none
  | none => none

/-- The load of a number and its loader. -/
def load? (s : Session) (n : Nat) : Option (Load × Loader) :=
  match s.loads[n]? with
  | some k => s.slots[k.loader]?.map (k, ·.loader)
  | none => none

/-- Whether a loader is gone: the program does not refer to it and no load of it waits. -/
def isClosed (s : Session) (n : Nat) : Bool :=
  (s.held? n).isNone && !s.loads.any fun k => k.loader = n && k.isWaiting

/-- The content of each loader that the program refers to. -/
def contents (s : Session) : List (Option String) :=
  s.slots.map fun slot => if slot.held then some slot.loader.content else none

/-- Puts another state in a loader's place. -/
def setLoader (s : Session) (n : Nat) (l : Loader) : Session :=
  { s with slots := s.slots.modify n fun slot => { slot with loader := l } }

/-- Gives up the reference to a loader. -/
def release (s : Session) (n : Nat) : Session :=
  { s with slots := s.slots.modify n fun slot => { slot with held := false } }

/-- Puts a load into another phase. -/
def setPhase (s : Session) (n : Nat) (p : Phase) : Session :=
  { s with loads := s.loads.modify n fun k => { k with phase := p } }

/-- Puts another state in a receiver's place. -/
def setReceiver (s : Session) (n : Nat) (r : Receiver) : Session :=
  { s with receivers := s.receivers.set n r }

/-- Adds a loader, which the program refers to. -/
def addLoader (s : Session) (l : Loader) : Session := { s with slots := s.slots ++ [⟨l, true⟩] }

/-- Adds a load. -/
def addLoad (s : Session) (k : Load) : Session := { s with loads := s.loads ++ [k] }

/-- Adds a receiver. -/
def addReceiver (s : Session) (r : Receiver) : Session :=
  { s with receivers := s.receivers ++ [r] }

end Session

end FragmentFeed
