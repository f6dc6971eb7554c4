import FragmentFeed.Text.Pieces
import FragmentFeed.Text.Utf8

/-!
# Files

A directory as the names of what is in it, at any depth, and the look-up of a name as a path of
components. `.` and empty components stand for the directory at hand, `..` for the one around it.
Nothing is known of what lies outside, so nothing is found there; a name that begins with a slash
starts outside.
-/

namespace FragmentFeed

open Text

/-- Why a file cannot be read. -/
inductive ReadError where
  | missing
  | notDirectory
  | isDirectory
  | nameTooLong
  | nulInName
  | notUtf8
  deriving DecidableEq, Repr

/-- The wording of an error. -/
def ReadError.message : ReadError → String
  | .missing => "No such file or directory (os error 2)"
  | .notDirectory => "Not a directory (os error 20)"
  | .isDirectory => "Is a directory (os error 21)"
  | .nameTooLong => "File name too long (os error 36)"
  | .nulInName => "file name contained an unexpected NUL byte"
  | .notUtf8 => "stream did not contain valid UTF-8"

/-- The components of a path. -/
def components (path : List Char) : List (List Char) := pieces (· = '/') path

/-- What there is in a directory: the components of each path with the bytes of a file, or `none` for
a directory. The directories on the way to an entry are there too. -/
structure Files where
  entries : List (List (List Char) × Option (List UInt8))
  deriving DecidableEq, Repr

namespace Files

/-- What a path leads to. -/
inductive Entry where
  | file (bytes : List UInt8)
  | directory
  deriving DecidableEq, Repr

/-- Puts an entry at a path. -/
def insert (fs : Files) (path : String) (bytes : Option (List UInt8)) : Files :=
  ⟨fs.entries ++ [((components path.toList).filter fun c => c ≠ [] ∧ c ≠ ['.'], bytes)]⟩

/-- What is at a path that has been made plain. -/
def get? (fs : Files) (path : List (List Char)) : Option Entry :=
  if path = [] then some .directory
  else
    match fs.entries.find? (·.1 = path) with
    | some (_, some bytes) => some (.file bytes)
    | some (_, none) => some .directory
    | none => if fs.entries.any (path.isPrefixOf ·.1) then some .directory else none

/-- Where a walk has come to: a path within the directory, or outside of it. -/
inductive Spot where
  | inside (path : List (List Char))
  | outside
  deriving DecidableEq, Repr

/-- The longest name of an entry, in bytes. -/
def longestName : Nat := 255

/-- The longest path, in bytes. -/
def longestPath : Nat := 4095

/-- Walks from a spot along components. -/
def walk (fs : Files) (spot : Spot) : List (List Char) → Except ReadError Entry
  | [] =>
    match spot with
    | .outside => .ok .directory
    | .inside path => (fs.get? path).elim (.error .missing) .ok
  | c :: rest =>
    match spot with
    | .outside =>
      if c = [] ∨ c = ['.'] ∨ c = ['.', '.'] then fs.walk .outside rest else .error .missing
    | .inside path =>
      match fs.get? path with
      | none => .error .missing
      | some (.file _) => .error .notDirectory
      | some .directory =>
        if c = [] ∨ c = ['.'] then fs.walk (.inside path) rest
        else if c = ['.', '.'] then
          fs.walk (if path = [] then .outside else .inside path.dropLast) rest
        else if longestName < Utf8.byteLength c then .error .nameTooLong
        else fs.walk (.inside (path ++ [c])) rest

/-- The text of the file that a name leads to. -/
def readText (fs : Files) (name : String) : Except ReadError String :=
  let cs := name.toList
  if cs.contains '\x00' then .error .nulInName
  else if cs = [] then .error .missing
  else if longestPath < Utf8.byteLength cs then .error .nameTooLong
  else
    match fs.walk (if cs.head? = some '/' then .outside else .inside []) (components cs) with
    | .error e => .error e
    | .ok .directory => .error .isDirectory
    | .ok (.file bytes) =>
      match Utf8.decode? bytes with
      | none => .error .notUtf8
      | some text => .ok (String.ofList text)

end Files

end FragmentFeed
