import FragmentFeed.Text.Pieces
import FragmentFeed.Url.Basic

/-!
# Path segments

How the segments of a reference act on a path. `.` stays, `..` goes up one segment, both also where
their dots are percent-encoded; anything else goes down. Nothing goes above the root, and a segment
that reads like a drive letter is never left again.
-/

namespace FragmentFeed.Segments

open Text

/-- Parts of a path between slashes, backslashes counting as slashes if `special`. There is at least
one part. -/
def split (special : Bool) (text : List Char) : List (List Char) :=
  pieces (fun c => c = '/' || special && c = '\\') text

/-- The spellings of one dot. -/
def isDot : List Char → Bool
  | ['.'] => true
  | ['%', '2', e] => e = 'e' || e = 'E'
  | _ => false

/-- The spellings of two dots. -/
def isDotDot : List Char → Bool
  | ['.', '.'] => true
  | ['.', '%', '2', e] => e = 'e' || e = 'E'
  | ['%', '2', e, '.'] => e = 'e' || e = 'E'
  | ['%', '2', d, '%', '2', e] => (d = 'e' || d = 'E') && (e = 'e' || e = 'E')
  | _ => false

/-- A letter and a colon or bar. -/
def isDrive : List Char → Bool
  | [a, b] => a.isAlpha && (b = ':' || b = '|')
  | _ => false

/-- A letter and a colon. -/
def isPlainDrive : List Char → Bool
  | [a, b] => a.isAlpha && b = ':'
  | _ => false

/-- Begins like a drive letter that a slash of either kind follows. -/
def isDriveLike : List Char → Bool
  | [a, b] => isDrive [a, b]
  | a :: b :: '\\' :: _ => isDrive [a, b]
  | _ => false

/-- One segment up. Paths are held with the last segment first here. -/
def up : List (List Char) → List (List Char)
  | [] => []
  | s :: rest => if isDriveLike s then s :: rest else rest

/-- The form in which a segment is kept: in a `file` URL a drive letter at the root takes a colon. -/
def kept (file : Bool) (path : List (List Char)) (s : List Char) : List Char :=
  match path, s with
  | [], [a, b] => if file ∧ isDrive [a, b] then [a, ':'] else s
  | _, _ => s

/-- Lets segments act on a path, whose last segment comes first. -/
def walk (file : Bool) (path : List (List Char)) : List (List Char) → List (List Char)
  | [] => path
  | [s] =>
    if isDotDot s then [] :: up path
    else if isDot s then [] :: path
    else kept file path s :: path
  | s :: rest =>
    if isDotDot s then walk file (up path) rest
    else if isDot s then walk file path rest
    else walk file (kept file path s :: path) rest

/-- Whether a drive letter comes to stand at the root on the way. -/
def meetsDrive (path : List (List Char)) : List (List Char) → Bool
  | [] => false
  | s :: rest =>
    if isDotDot s then meetsDrive (up path) rest
    else if isDot s then meetsDrive path rest
    else (path.isEmpty && isDrive s) || meetsDrive (s :: path) rest

/-- Empty segments in front do not count in a `file` URL, whose path has at least one segment. -/
def dropLeadingEmpty (path : List (List Char)) : List (List Char) :=
  match path.dropWhile List.isEmpty with
  | [] => [[]]
  | p => p

/-- The path that percent-encoded segments of the text lead to from `path`, last segment first. -/
def resolve (kind : SchemeKind) (path : List (List Char)) (text : List Char) : List (List Char) :=
  let segments := (split kind.isSpecial text).map (Percent.encode Percent.pathSet)
  let result := (walk (kind = .file) path segments).reverse
  if kind = .file then dropLeadingEmpty result else result

end FragmentFeed.Segments
