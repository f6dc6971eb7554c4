/-!
# Values of fields

What may be asked of a field: a truth value, a number, or else a regular expression. Which texts are
expressions is not said here. It comes in as a `Compiler`, for no event has a field whose value would be
compared.
-/

namespace FragmentFeed.Log

/-- What is said against a text as a regular expression; `none` where it is one. -/
abbrev Compiler : Type := List Char → Option String

namespace FieldValue

/-- What stands behind a sign, which may be missing. -/
def unsigned : List Char → List Char
  | '+' :: rest => rest
  | '-' :: rest => rest
  | text => text

/-- Whether a text is nothing, or the exponent of a number. -/
def isExponent : List Char → Bool
  | [] => true
  | e :: rest => (e = 'e' || e = 'E') && !(unsigned rest).isEmpty && (unsigned rest).all Char.isDigit

/-- Whether a text is a number without a sign: digits with or without a point and an exponent, or the
name of what is no finite number. -/
def isUnsigned (text : List Char) : Bool :=
  let whole := text.takeWhile Char.isDigit
  let (fraction, rest) :=
    match text.dropWhile Char.isDigit with
    | '.' :: r => (r.takeWhile Char.isDigit, r.dropWhile Char.isDigit)
    | r => ([], r)
  (!(whole.isEmpty && fraction.isEmpty) && isExponent rest)
    || ["inf", "infinity", "nan"].any (·.toList = text.map Char.toLower)

/-- Whether a text is a truth value or a number. -/
def isLiteral (text : List Char) : Bool :=
  text = "true".toList || text = "false".toList || isUnsigned (unsigned text)

/-- What is said against a text as the value of a field. -/
def objection? (compile : Compiler) (text : List Char) : Option String :=
  if isLiteral text then none else compile text

end FieldValue

end FragmentFeed.Log
