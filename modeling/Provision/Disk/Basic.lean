import Provision.Disk.Fault
import Provision.Disk.PathText
import Provision.Text.Utf8

/-!
# Disks

A `Disk` is a tree of directories and files, and the directory that relative paths start
from. A path is walked name by name; every name but the last must be that of a directory,
and the last one too if a slash follows it.
-/

namespace Provision

/-- What stands at a place. -/
inductive DiskNode where
  | directory
  | file (contents : List UInt8)
deriving DecidableEq, Repr

/-- A tree of directories and files: the places that hold something, each by the names on
the way to it from the top. -/
structure Disk where
  nodes : List (List String × DiskNode)
  current : List String

namespace Disk

/-- What stands at a place. The top is always a directory. -/
def node? (disk : Disk) (place : List String) : Option DiskNode :=
  if place.isEmpty then some .directory else disk.nodes.lookup place

/-- The places on the way to a place, itself left out. -/
def above (place : List String) : List (List String) :=
  (List.range place.length).map place.take

/-- The disk with a place set. Directories on the way to it are added. -/
def set (disk : Disk) (place : List String) (node : DiskNode) : Disk :=
  let missing := (above place).filter fun place => (disk.node? place).isNone
  let kept := disk.nodes.filter (·.1 != place)
  { disk with nodes := kept ++ missing.map (·, .directory) ++ [(place, node)] }

/-- A disk on which there is only the current directory. -/
def empty (current : List String) : Disk :=
  set { nodes := [], current } current .directory

/-! ### Walking -/

/-- The number of bytes that a name may have. -/
def maxNameBytes : Nat := 255

/-- The number of bytes below which a path must stay. -/
def maxPathBytes : Nat := 4096

/-- The place a name leads to. -/
def enter (disk : Disk) (place : List String) (name : String) :
    Except AccessFault (List String) :=
  match disk.node? place with
  | none => .error .notFound
  | some (.file _) => .error .notDirectory
  | some .directory =>
    if name = "." then .ok place
    else if name = ".." then .ok place.dropLast
    else if name.utf8ByteSize > maxNameBytes then .error .nameTooLong
    else if (disk.node? (place ++ [name])).isNone then .error .notFound
    else .ok (place ++ [name])

/-- The place that a path leads to. -/
def place (disk : Disk) (path : String) : Except AccessFault (List String) :=
  if path.toList.contains '\x00' then .error .invalidName
  else if path.isEmpty then .error .notFound
  else if path.utf8ByteSize ≥ maxPathBytes then .error .nameTooLong
  else
    let start := if PathText.isAbsolute path then [] else disk.current
    let names := (Segments.split (· == '/') path.toList).filter fun name => !name.isEmpty
    let steps := if PathText.endsInSlash path then names ++ [['.']] else names
    (steps.map String.ofList).foldlM disk.enter start

/-- What stands where a path leads to. -/
def find (disk : Disk) (path : String) : Except AccessFault DiskNode := do
  let place ← disk.place path
  match disk.node? place with
  | some node => return node
  | none => throw .notFound

/-- The path leads to something. -/
def contains (disk : Disk) (path : String) : Bool :=
  (disk.find path).toOption.isSome

def isDirectory (disk : Disk) (path : String) : Bool :=
  match disk.find path with
  | .ok .directory => true
  | _ => false

def isFile (disk : Disk) (path : String) : Bool :=
  match disk.find path with
  | .ok (.file _) => true
  | _ => false

/-! ### Reading -/

/-- The contents of the file that a path leads to. -/
def readBytes (disk : Disk) (path : String) : Except AccessFault (List UInt8) := do
  match ← disk.find path with
  | .file contents => return contents
  | .directory => throw .isDirectory

/-- The text of the file that a path leads to. -/
def readText (disk : Disk) (path : String) : Except AccessFault String := do
  match Utf8.decode? (← disk.readBytes path) with
  | some text => return String.ofList text
  | none => throw .invalidData

/-- The name of a place that stands directly below another. -/
def nameBelow? (directory place : List String) : Option String :=
  match directory.isPrefixOf? place with
  | some [name] => some name
  | _ => none

/-- The names in a directory, in the order of their code points. -/
def namesIn (disk : Disk) (directory : List String) : List String :=
  (disk.nodes.filterMap fun entry => nameBelow? directory entry.1).mergeSort
    fun a b => !(b < a)

/-- The names in the directory that a path leads to; none if it leads to a file. -/
def list (disk : Disk) (path : String) : Except AccessFault (Option (List String)) := do
  let place ← disk.place path
  match disk.node? place with
  | some .directory => return some (disk.namesIn place)
  | _ => return none

/-! ### Absolute paths -/

/-- The path of a place. -/
def pathOf (place : List String) : String :=
  "/" ++ "/".intercalate place

/-- The absolute form of a path. Names `..` stay, and so do a slash at the end and exactly
two slashes at the start. -/
def absolute (disk : Disk) (path : String) : Except AccessFault String :=
  if path.isEmpty then .error .invalidName
  else
    let slashes := (path.toList.takeWhile (· == '/')).length
    let start := if slashes = 0 then pathOf disk.current else if slashes = 2 then "//" else "/"
    let whole := (PathText.names path).foldl PathText.join start
    .ok (if PathText.endsInSlash path then PathText.join whole "" else whole)

end Disk

end Provision
