import Provision.Text.Segments

/-!
# Children of a directory of names

An archive has no directories of its own: the names of its entries say which there are. A
directory is there if a name is its name or leads through it, and its children are the next
segments of the names that lead through it, each once, in the order of their first
appearance. The names are gone through one after the other.
-/

namespace Provision.Children

/-- The rest of a name below a directory, where the empty name is that of the top. -/
def below? (directory name : List Char) : Option (List Char) :=
  if directory.isEmpty then some name else (directory ++ ['/']).isPrefixOf? name

/-- What is known of a directory after some of the names: whether it is there, and its children
in the order of their first appearance. The children are kept in a set as well, in which each
name's child is looked up. -/
structure Scan where
  found : Bool
  seen : List (List Char)
  children : List (List Char)
deriving DecidableEq, Repr

namespace Scan

/-- Without any name only the top is known to be there. -/
def start (directory : List Char) : Scan where
  found := directory.isEmpty
  seen := []
  children := []

/-- What is known after one more name. -/
def step (directory : List Char) (scan : Scan) (name : List Char) : Scan :=
  if name = directory then { scan with found := true }
  else
    match below? directory name with
    | none => scan
    | some rest =>
      let child := rest.takeWhile (· != '/')
      if child.isEmpty ∨ child ∈ scan.seen then { scan with found := true }
      else
        { found := true
          seen := scan.seen.insert child
          children := scan.children ++ [child] }

/-- What is known after all names. -/
def run (directory : List Char) (names : List (List Char)) : Scan :=
  names.foldl (step directory) (start directory)

end Scan

/-- The children of a directory, if it is there. -/
def children? (names : List String) (directory : String) : Option (List String) :=
  let scan := Scan.run directory.toList (names.map String.toList)
  if scan.found then some (scan.children.map String.ofList) else none

end Provision.Children
