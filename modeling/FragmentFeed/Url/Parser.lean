import FragmentFeed.Text.Pieces
import FragmentFeed.Url.Segments

/-!
# Reading URLs

`Url.parse` reads a text as a URL, with or without a base. A text with a scheme of its own is
absolute, except that a special scheme equal to that of the base and followed by fewer than two
slashes leaves the rest relative. A text without a scheme is a reference into the base.

Controls and spaces around a text, and tabs and line ends inside it, do not count.
-/

namespace FragmentFeed

open Text

namespace Url

/-! ## Cleaning -/

/-- Controls and the space. -/
def isBlank (c : Char) : Bool := c.toNat ≤ 0x20

/-- Tab, line feed and carriage return. -/
def isLineSpace (c : Char) : Bool := c = '\t' || c = '\n' || c = '\r'

/-- The text without what does not count. -/
def clean (text : List Char) : List Char := (trim isBlank text).filter (!isLineSpace ·)

/-! ## Scheme -/

/-- Whether a character may stand inside a scheme. -/
def isSchemeChar (c : Char) : Bool := c.isAlphanum || c = '+' || c = '-' || c = '.'

/-- Takes the scheme off the front, in lower case: a letter, then letters, digits, `+`, `-` and `.`
up to a colon. -/
def splitScheme (input : List Char) : Option (List Char × List Char) :=
  match input.dropWhile isSchemeChar with
  | ':' :: rest =>
    if input.head?.any Char.isAlpha then
      some ((input.takeWhile isSchemeChar).map Char.toLower, rest)
    else none
  | _ => none

/-- Slashes of either kind. -/
def isSlash (c : Char) : Bool := c = '/' || c = '\\'

/-- What ends the path. -/
def endsPath (c : Char) : Bool := c = '?' || c = '#'

/-- What ends the authority. -/
def endsAuthority (kind : SchemeKind) (c : Char) : Bool :=
  c = '/' || c = '?' || c = '#' || kind.isSpecial && c = '\\'

/-! ## Query and fragment -/

/-- The query that a text of that kind of URL is kept as. -/
def encodeQuery (kind : SchemeKind) (text : List Char) : List Char :=
  Percent.encode (if kind.isSpecial then Percent.specialQuerySet else Percent.querySet) text

/-- The fragment that a text is kept as. -/
def encodeFragment (text : List Char) : List Char := Percent.encode Percent.fragmentSet text

/-- Gives a URL the query and fragment that the rest of a text begins with: `?` and a query, `#` and
a fragment, both or neither. -/
def withTail (u : Url) (rest : List Char) : Url :=
  match rest with
  | '?' :: r =>
    { u with
      query := some (encodeQuery u.kind (r.takeWhile (· != '#')))
      fragment :=
        match r.dropWhile (· != '#') with
        | _ :: f => some (encodeFragment f)
        | [] => none }
  | '#' :: f => { u with query := none, fragment := some (encodeFragment f) }
  | _ => { u with query := none, fragment := none }

/-- Gives a URL the path that the segments of the text lead to from `path`, last segment first, and
the query and fragment behind them. -/
def withWalk (u : Url) (path : List (List Char)) (input : List Char) : Url :=
  ({ u with path := .segments (Segments.resolve u.kind path (input.takeWhile (!endsPath ·))) }).withTail
    (input.dropWhile (!endsPath ·))

/-! ## Authority -/

/-- Everything up to the last `@` before the end of the authority, and what follows it. -/
def splitUserInfo (kind : SchemeKind) (input : List Char) : Option (List Char × List Char) :=
  let authority := input.takeWhile (!endsAuthority kind ·)
  let rest := input.dropWhile (!endsAuthority kind ·)
  match authority.reverse.dropWhile (· != '@') with
  | _ :: before =>
    some (before.reverse, (authority.reverse.takeWhile (· != '@')).reverse ++ rest)
  | [] => none

/-- User name and password: what stands before and after the first colon. An empty password is
none. -/
def readUserInfo (text : List Char) : List Char × Option (List Char) :=
  let username := Percent.encode Percent.userInfoSet (text.takeWhile (· != ':'))
  match text.dropWhile (· != ':') with
  | _ :: c :: rest => (username, some (Percent.encode Percent.userInfoSet (c :: rest)))
  | _ => (username, none)

/-- The length of the text of a host: it ends at a colon outside brackets or at the end of the
authority. -/
def hostLength (kind : SchemeKind) (bracketed : Bool) : List Char → Nat
  | [] => 0
  | c :: rest =>
    if c = ':' ∧ bracketed = false ∨ endsAuthority kind c = true then 0
    else hostLength kind (if c = '[' then true else if c = ']' then false else bracketed) rest + 1

/-- Reads the digits of a port onto `n`, up to a slash of either kind, `?` or `#`. -/
def readPort (n : Option Nat) : List Char → Except ParseError (Option Nat × List Char)
  | [] => .ok (n, [])
  | c :: rest =>
    if c.isDigit then
      let m := n.getD 0 * 10 + (c.toNat - 0x30)
      if m < 0x10000 then readPort (some m) rest else .error .invalidPort
    else if isSlash c || endsPath c then .ok (n, c :: rest)
    else .error .invalidPort

/-- Reads the host, which may be empty unless the scheme is special. -/
def readHost (kind : SchemeKind) (text : List Char) : Except ParseError (Option Host) :=
  if text.isEmpty then if kind.isSpecial then .error .emptyHost else .ok none
  else (if kind.isSpecial then Host.parse text else Host.parseVerbatim text).map some

/-- Reads an authority after its two slashes: its parts and what is left. -/
def readAuthority (scheme input : List Char) : Except ParseError (Authority × List Char) := do
  let kind := SchemeKind.of scheme
  let (userInfo, input) := (splitUserInfo kind input).getD ([], input)
  let (username, password) := readUserInfo userInfo
  let length := hostLength kind false input
  let host ← readHost kind (input.take length)
  let rest := input.drop length
  match host, rest with
  | none, ':' :: _ => .error .emptyHost
  | host, rest =>
    let (port, rest) ←
      match rest with
      | ':' :: r => readPort none r
      | r => .ok (none, r)
    let port := if port = defaultPort scheme then none else port
    if host.isNone ∧ !(username.isEmpty && password.isNone) then .error .emptyHost
    else .ok ({ username, password, host, port }, rest)

/-- Gives a URL the path that follows its authority, and what comes behind the path. A special URL
has at least the root for its path. -/
def withPathStart (u : Url) : List Char → Url
  | [] => if u.kind.isSpecial then u.withWalk [] [] else u.withTail []
  | c :: rest =>
    if c = '/' ∨ u.kind.isSpecial = true ∧ c = '\\' then u.withWalk [] rest
    else if endsPath c ∧ u.kind.isSpecial = false then u.withTail (c :: rest)
    else u.withWalk [] (c :: rest)

/-- The URL that a scheme, two slashes and the text spell. -/
def afterSlashes (scheme input : List Char) : Except ParseError Url := do
  let kind := SchemeKind.of scheme
  if (splitUserInfo kind input).any fun p => p.1.isEmpty && p.2.head?.any (endsAuthority kind) then
    .error .emptyHost
  else
    let (authority, rest) ← readAuthority scheme input
    let u : Url :=
      { scheme := scheme
        authority := some authority
        path := .segments []
        query := none
        fragment := none }
    return u.withPathStart rest

/-! ## `file` URLs -/

/-- A `file` URL with that host and no path yet. -/
def fileUrl (host : Option Host) : Url :=
  { scheme := "file".toList
    authority := some { username := [], password := none, host, port := none }
    path := .segments []
    query := none
    fragment := none }

/-- Whether a text begins with a segment that is a drive letter. -/
def beginsWithDrive : List Char → Bool
  | [a, b] => Segments.isDrive [a, b]
  | a :: b :: c :: _ => Segments.isDrive [a, b] && (isSlash c || endsPath c)
  | _ => false

/-- The `file` URL that two slashes and the text spell. A drive letter in place of the host is the
beginning of the path, and one at the beginning of the path leaves no host. -/
def fileAfterSlashes (input : List Char) : Except ParseError Url := do
  let isEnd (c : Char) : Bool := isSlash c || endsPath c
  let name := input.takeWhile (!isEnd ·)
  let rest := input.dropWhile (!isEnd ·)
  if name.isEmpty ∨ Segments.isDrive name = true then return (fileUrl none).withWalk [] input
  else
    let host ← Host.parse name
    if host = .domain "localhost".toList then return (fileUrl none).withWalk [] rest
    else
      let pathText :=
        match rest with
        | [] => []
        | c :: r => if isSlash c then r else c :: r
      let segments := (Segments.split true (pathText.takeWhile (!endsPath ·))).map
        (Percent.encode Percent.pathSet)
      let host := if Segments.meetsDrive [] segments then none else some host
      return (fileUrl host).withWalk [] pathText

/-- The segments of the path, if it has any. -/
def pathSegments (u : Url) : List (List Char) :=
  match u.path with
  | .segments l => l
  | .verbatim _ => []

/-- The `file` URL that one slash and the text spell, which keeps the drive letter or else the host
of the base. -/
def fileFromRoot (base : Option Url) (input : List Char) : Url :=
  if beginsWithDrive input then (fileUrl none).withWalk [] input
  else
    match base with
    | none => (fileUrl none).withWalk [] input
    | some b =>
      match b.pathSegments with
      | first :: _ =>
        if Segments.isPlainDrive first then (fileUrl none).withWalk [first] input
        else (fileUrl b.host).withWalk [] input
      | [] => (fileUrl b.host).withWalk [] input

/-- The `file` URL that a text without a slash in front spells in the directory of the base. A last
segment that is a drive letter is not left: at the root it is a directory, and elsewhere the text
goes on with it. -/
def fileInDirectory (b : Url) (input : List Char) : Url :=
  let path := b.pathSegments.reverse
  match path with
  | [] => b.withWalk [] input
  | last :: dir =>
    if !Segments.isPlainDrive last then b.withWalk dir input
    else if dir.isEmpty then b.withWalk [last] input
    else
      let text := input.takeWhile (!endsPath ·)
      match (Segments.split true text).map (Percent.encode Percent.pathSet) with
      | [s] =>
        if Segments.isDotDot s then b.withTail (input.dropWhile (!endsPath ·))
        else if Segments.isDot s then b.withWalk path input
        else b.withWalk dir (last ++ input)
      | s :: _ =>
        if Segments.isDotDot s ∨ Segments.isDot s then
          b.withWalk path ((input.dropWhile (!isSlash ·)).drop 1)
        else b.withWalk dir (last ++ input)
      | [] => b

/-- The `file` URL that the text after the scheme spells, or a reference into a base that is one. -/
def parseFile (base : Option Url) (input : List Char) : Except ParseError Url :=
  match input with
  | c :: rest =>
    if isSlash c then
      match rest with
      | d :: more => if isSlash d then fileAfterSlashes more else .ok (fileFromRoot base rest)
      | [] => .ok (fileFromRoot base rest)
    else
      match base with
      | none => .ok ((fileUrl none).withWalk [] input)
      | some b =>
        if c = '?' then .ok (b.withTail input)
        else if c = '#' then .ok { b with fragment := some (encodeFragment rest) }
        else if beginsWithDrive input then .ok ((fileUrl none).withWalk [] input)
        else .ok (fileInDirectory b input)
  | [] =>
    match base with
    | none => .ok ((fileUrl none).withWalk [] [])
    | some b => .ok b.withoutFragment

/-! ## References -/

/-- The URL that a reference spells in a base that is not a `file` URL and has a path of
segments. -/
def parseRelative (b : Url) (input : List Char) : Except ParseError Url :=
  match input with
  | [] => .ok b.withoutFragment
  | c :: rest =>
    if c = '?' then .ok (b.withTail input)
    else if c = '#' then .ok { b with fragment := some (encodeFragment rest) }
    else if isSlash c then
      match rest with
      | d :: more =>
        if isSlash d then
          if c = '/' ∧ d = '/' then afterSlashes b.scheme more
          else afterSlashes b.scheme (input.dropWhile isSlash)
        else .ok (b.withWalk [] rest)
      | [] => .ok (b.withWalk [] rest)
    else .ok (b.withWalk (b.pathSegments.reverse.drop 1) input)

/-- A URL with a scheme that is neither special nor `file`. -/
def parseOther (scheme input : List Char) : Except ParseError Url :=
  let u : Url :=
    { scheme := scheme
      authority := none
      path := .segments []
      query := none
      fragment := none }
  match input with
  | '/' :: '/' :: rest => afterSlashes scheme rest
  | '/' :: rest => .ok (u.withWalk [] rest)
  | _ =>
    .ok ({ u with
      path := .verbatim (Percent.encode Percent.controlSet (input.takeWhile (!endsPath ·))) }.withTail
        (input.dropWhile (!endsPath ·)))

/-- The URL that a scheme and the text behind its colon spell. -/
def parseScheme (base : Option Url) (scheme input : List Char) : Except ParseError Url :=
  match SchemeKind.of scheme with
  | .file => parseFile (base.filter (·.scheme = scheme)) input
  | .special =>
    match base.filter (·.scheme = scheme) with
    | some b =>
      if (input.takeWhile isSlash).length < 2 then parseRelative b input
      else afterSlashes scheme (input.dropWhile isSlash)
    | none => afterSlashes scheme (input.dropWhile isSlash)
  | .other => parseOther scheme input

/-- The URL that a text without a scheme spells. -/
def parseReference (base : Option Url) (input : List Char) : Except ParseError Url :=
  match base with
  | none => .error .relativeWithoutBase
  | some b =>
    match input, b.path with
    | '#' :: rest, _ => .ok { b with fragment := some (encodeFragment rest) }
    | _, .verbatim _ => .error .relativeToVerbatim
    | _, .segments _ =>
      if b.kind = .file then parseFile (some b) input else parseRelative b input

/-- Reads a text as a URL. -/
def parse (base : Option Url) (text : List Char) : Except ParseError Url :=
  let input := clean text
  match splitScheme input with
  | some (scheme, rest) => parseScheme base scheme rest
  | none => parseReference base input

end Url

end FragmentFeed
