import Provision.Text.Segments

/-!
# Texts of paths

A path of a disk is a text of names with slashes between them. It is absolute if it begins
with a slash.
-/

namespace Provision.PathText

def isAbsolute (path : String) : Bool :=
  path.toList.head? == some '/'

def endsInSlash (path : String) : Bool :=
  path.toList.getLast? == some '/'

/-- The names in a path. A name `.` stands for nothing. -/
def names (path : String) : List String :=
  (((Segments.split (· == '/') path.toList).filter fun name => !name.isEmpty).map
    String.ofList).filter (· != ".")

/-- The path of a name below a path. -/
def join (path name : String) : String :=
  if path.isEmpty then name
  else if endsInSlash path then path ++ name
  else path ++ "/" ++ name

end Provision.PathText
