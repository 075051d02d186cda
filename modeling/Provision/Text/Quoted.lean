import Provision.Text.DefaultIgnorable
import Provision.Text.Digits
import Provision.Text.GraphemeExtend
import Provision.Text.Unprintable

/-!
# Quoted text

A text between double quotes, in which a character that would not show as itself is
escaped: a quote, a backslash and the common controls by a letter, the others that combine
with their neighbour, show nothing or have no shape by their code point in hexadecimal.
-/

namespace Provision.Quoted

/-- The code point of a character as an escape. -/
def codePoint (c : Char) : List Char :=
  ['\\', 'u', '\x7b'] ++ Digits.hex c.toNat ++ ['\x7d']

/-- The marks of voiced sounds in halfwidth. They extend the character before them, but in a
column of their own. -/
def isSoundMark (c : Char) : Bool :=
  c == '\uFF9E' || c == '\uFF9F'

/-- The character would not show as itself. -/
def isHidden (c : Char) : Bool :=
  (Unicode.isGraphemeExtend c && !isSoundMark c) || Unicode.isDefaultIgnorable c
    || Unicode.isUnprintable c

/-- A character as it stands between the quotes. -/
def escape (c : Char) : List Char :=
  if c = '\x00' then ['\\', '0']
  else if c = '\t' then ['\\', 't']
  else if c = '\n' then ['\\', 'n']
  else if c = '\r' then ['\\', 'r']
  else if c = '\x22' then ['\\', '\x22']
  else if c = '\\' then ['\\', '\\']
  else if isHidden c then codePoint c
  else [c]

/-- The text between quotes. -/
def encode (s : List Char) : List Char :=
  '\x22' :: (s.flatMap escape ++ ['\x22'])

/-- The text between quotes, as a string. -/
def quote (s : String) : String :=
  String.ofList (encode s.toList)

end Provision.Quoted
