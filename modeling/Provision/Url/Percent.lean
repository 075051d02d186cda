import Provision.Text.Digits
import Provision.Text.Utf8

/-!
# Percent-encoding

A byte is written as `%` and two hexadecimal digits wherever it could be taken for
something else. Which bytes those are depends on the part of the URL: each part has a set
of escaped bytes, and every such set contains all bytes that are not printable ASCII.
-/

namespace Provision.Url.Percent

/-- A set of bytes that are to be escaped. -/
abbrev Escaped := UInt8 → Bool

/-- The bytes that are controls or no ASCII at all. -/
def controls : Escaped := fun b => b < 0x20 || b > 0x7E

/-- The set with the bytes of the given characters added. -/
def Escaped.also (escaped : Escaped) (chars : List Char) : Escaped := fun b =>
  escaped b || chars.contains (Char.ofNat b.toNat)

def fragment : Escaped := Escaped.also controls [' ', '\x22', '<', '>', '\x60']

def query : Escaped := Escaped.also controls [' ', '\x22', '#', '<', '>']

def specialQuery : Escaped := Escaped.also query ['\x27']

def path : Escaped := Escaped.also fragment ['#', '?', '\x7b', '\x7d']

/-- The bytes escaped in a path segment that must read back as itself. -/
def segment : Escaped := Escaped.also path ['/', '%', '\\']

def userinfo : Escaped :=
  Escaped.also path ['/', ':', ';', '=', '@', '[', '\\', ']', '^', '|']

def encodeByte (b : UInt8) : List Char :=
  ['%', Digits.upperHex (b.toNat / 16), Digits.upperHex (b.toNat % 16)]

/-- A text with the bytes of a set escaped. -/
def encode (escaped : Escaped) (s : List Char) : List Char :=
  (Utf8.encode s).flatMap fun b => if escaped b then encodeByte b else [Char.ofNat b.toNat]

/-- The byte given by two hexadecimal digits. -/
def pair? (high low : UInt8) : Option UInt8 :=
  match Digits.value? (Char.ofNat high.toNat), Digits.value? (Char.ofNat low.toNat) with
  | some h, some l => some (UInt8.ofNat (h * 16 + l))
  | _, _ => none

/-- The byte given by two hexadecimal digits, or by one after a plus sign. -/
def signedPair? (high low : UInt8) : Option UInt8 :=
  if high = '+'.toUInt8 then (Digits.value? (Char.ofNat low.toNat)).map UInt8.ofNat
  else pair? high low

/-- The bytes with every escape that can be read replaced by what it stands for. -/
def decodeBytes (read? : UInt8 → UInt8 → Option UInt8) : List UInt8 → List UInt8
  | b :: high :: low :: rest =>
    if b = '%'.toUInt8 then
      match read? high low with
      | some decoded => decoded :: decodeBytes read? rest
      | none => b :: decodeBytes read? (high :: low :: rest)
    else b :: decodeBytes read? (high :: low :: rest)
  | bytes => bytes

/-- The text of the decoded bytes. -/
def decode (read? : UInt8 → UInt8 → Option UInt8) (s : List Char) : List Char :=
  Utf8.decodeLossy (decodeBytes read? (Utf8.encode s))

end Provision.Url.Percent
