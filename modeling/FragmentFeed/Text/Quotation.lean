import FragmentFeed.Text.Digit
import FragmentFeed.Unicode.Hidden

/-!
# Quotations

A text between quotes, written so that all of it can be seen and its end is plain: quotes and
backslashes are escaped, and so is every character that cannot be shown.
-/

namespace FragmentFeed.Text.Quotation

/-- The hexadecimal digits of a number, in lower case. -/
def hexadecimal (n : Nat) : List Char := Nat.toDigits 16 n

/-- The escape that tells a character by its number. -/
def numbered (c : Char) : List Char := ['\\', 'u', '\x7b'] ++ hexadecimal c.toNat ++ ['\x7d']

/-- A character as it stands in a quotation. -/
def encodeChar (c : Char) : List Char :=
  if c = '"' ∨ c = '\\' then ['\\', c]
  else if c = '\n' then ['\\', 'n']
  else if c = '\r' then ['\\', 'r']
  else if c = '\t' then ['\\', 't']
  else if c = '\x00' then ['\\', '0']
  else if Unicode.isHidden c then numbered c
  else [c]

/-- A text in quotes. -/
def encode (cs : List Char) : List Char := '"' :: cs.flatMap encodeChar ++ ['"']

end FragmentFeed.Text.Quotation
