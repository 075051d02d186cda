import Provision.Resource.Error
import Provision.Text.Segments

/-!
# Resource paths

A resource path is a list of segments below a root. Its text is read leniently: slashes at
its ends, doubled slashes and segments `.` do not count. A segment `..` and a backslash are
refused, so that no path leads out of the root. The empty text names the root itself.
-/

namespace Provision.ResourcePath

/-- The segment adds nothing to a path. -/
def isIdle (segment : List Char) : Bool :=
  segment.isEmpty || segment == ['.']

/-- The segments between the slashes of a text. -/
def segments (s : List Char) : List (List Char) :=
  Segments.split (· == '/') s

/-- The segments that a text names. -/
def read (s : List Char) : Except PathFault (List (List Char)) :=
  if s.contains '\\' then .error .backslash
  else if (segments s).contains ['.', '.'] then .error .parentSegment
  else .ok ((segments s).filter (!isIdle ·))

/-- The only text of its segments that has no idle segment. -/
def normalize (path : String) : Except ResourceError String :=
  match read path.toList with
  | .ok segments => .ok (String.ofList (Segments.join ['/'] segments))
  | .error fault => .error (.invalidPath path fault)

/-- The text with every double colon, read from the left, replaced by a slash. -/
def slashed : List Char → List Char
  | ':' :: ':' :: rest => '/' :: slashed rest
  | c :: rest => c :: slashed rest
  | [] => []

/-- The text of a path in a name space, which counts only if the path has no slash in
front. -/
def inSpace (space path : String) : String :=
  if path.toList.head? = some '/' then path
  else String.ofList (slashed space.toList ++ '/' :: path.toList)

/-- The normal form of a path in a name space. -/
def join (space path : String) : Except ResourceError String :=
  normalize (inSpace space path)

end Provision.ResourcePath
