import Provision.Text.Segments
import Provision.Url.Percent
import Provision.Url.Scheme

/-!
# Paths of a URL

A path is either plain text or a list of segments, each written after a slash. A text is
read into segments one at a time: a segment `.` adds nothing, a segment `..` takes the one
before it away, and escapes of the dot count as dots. A segment that names a drive, such as
`C:`, is never taken away.
-/

namespace Provision.Url

/-- The path of a URL. -/
inductive Path where
  | rooted (segments : List (List Char))
  | plain (text : List Char)
deriving DecidableEq, Repr

namespace Path

/-- The path as it stands in a URL. -/
def text : Path → List Char
  | .rooted segments => Segments.joinLed '/' segments
  | .plain text => text

/-- The text with every escaped dot written as a dot. -/
def withDots : List Char → List Char
  | '%' :: '2' :: 'e' :: rest => '.' :: withDots rest
  | '%' :: '2' :: 'E' :: rest => '.' :: withDots rest
  | c :: rest => c :: withDots rest
  | [] => []

/-- The segment stands for the place it is in. -/
def isDot (segment : List Char) : Bool :=
  withDots segment == ['.']

/-- The segment stands for the place above. -/
def isDotDot (segment : List Char) : Bool :=
  withDots segment == ['.', '.']

/-- The segment is a letter with a colon or a bar. -/
def isDrive : List Char → Bool
  | [letter, mark] => letter.isAlpha && (mark == ':' || mark == '|')
  | _ => false

/-- The segment is a drive, or a drive with a backslash after it and any text after that. -/
def startsWithDrive : List Char → Bool
  | letter :: mark :: '\\' :: _ => isDrive [letter, mark]
  | segment => isDrive segment

/-- The segment is a letter with a colon. -/
def isPlainDrive : List Char → Bool
  | [letter, mark] => letter.isAlpha && mark == ':'
  | _ => false

/-- A drive with a colon for its mark. -/
def plainDrive : List Char → List Char
  | letter :: _ => [letter, ':']
  | [] => []

/-- The segments, last one first, without the last one unless that starts with a drive. -/
def up : List (List Char) → List (List Char)
  | [] => []
  | last :: rest => if startsWithDrive last then last :: rest else rest

/-- The segments, last one first, after a segment that a slash follows. -/
def enter (walked : List (List Char)) (segment : List Char) : List (List Char) :=
  if isDotDot segment then up walked
  else if isDot segment then walked
  else segment :: walked

/-- The segments, last one first, after the segment that ends the path. -/
def arrive (walked : List (List Char)) (segment : List Char) : List (List Char) :=
  if isDotDot segment then [] :: up walked
  else if isDot segment then [] :: walked
  else segment :: walked

/-- The segments, last one first, after the given ones, which come in order. -/
def walk (walked : List (List Char)) : List (List Char) → List (List Char)
  | [] => walked
  | [segment] => arrive walked segment
  | segment :: rest => walk (enter walked segment) rest

/-- The segments of a path without its first slash. -/
def ofText (kind : SchemeKind) (s : List Char) : List (List Char) :=
  let isSlash := fun c : Char => c == '/' || (kind.isSpecial && c == '\\')
  (walk [] ((Segments.split isSlash s).map (Percent.encode Percent.path))).reverse

end Path

end Provision.Url
