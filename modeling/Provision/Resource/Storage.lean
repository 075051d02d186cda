import Provision.Resource.Children
import Provision.Resource.Location
import Provision.Zip.Archive

/-!
# Storage of resources

A location is served from a plain directory or from an archive. An archive is opened for
each request and closed at its end, whatever the outcome.
-/

namespace Provision

/-- The two ways of storing resources. -/
inductive ResourceStorage where
  | plain
  | packed
deriving DecidableEq, Repr

namespace ResourceStorage

/-- The storage that serves a location. -/
def serving (location : ResourceLocation) : Except ResourceError ResourceStorage :=
  location.kind.map fun
    | .file => plain
    | .archive => packed

variable (disk : Disk) (location : ResourceLocation)

/-! ### Plain directories -/

/-- The outcome of an access for the sake of a resource. -/
def access {α : Type} (result : Except AccessFault α) : Except ResourceError α :=
  result.mapError (ResourceError.ofAccess location.resourcePath)

def listPlain : Attempt ResourceError (List String) := do
  let path ← Attempt.ofExcept location.filePath
  match ← Attempt.ofExcept (access location (disk.list path)) with
  | none => return []
  | some names =>
    Attempt.record (.directoryListed path names.length)
    return names

def readPlain : Attempt ResourceError String :=
  Attempt.ofExcept do
    let path ← location.filePath
    access location (disk.readText path)

def existsPlain : Attempt ResourceError Bool :=
  Attempt.ofExcept (location.filePath.map disk.contains)

/-! ### Archives -/

/-- The archive at a path, opened for the sake of an entry. -/
def openArchive (path entry : String) : Except ResourceError Zip.Archive := do
  let file ← (disk.readBytes path).mapError (ResourceError.ofAccess entry)
  (Zip.Archive.read file).mapError (ResourceError.ofArchive entry)

/-- What is done with an archive that has been opened, up to its closing. -/
def whileOpen {α : Type} (path : String) (act : Attempt ResourceError α) :
    Attempt ResourceError α := do
  Attempt.record (.archiveOpened path)
  act.closing (.archiveClosed path)

/-- Lists the children of a directory in an archive. -/
def listArchive (path directory : String) (archive : Zip.Archive) :
    Attempt ResourceError (List String) :=
  match Children.children? archive.names directory with
  | none => Attempt.fail (.notFound directory)
  | some names => do
    Attempt.record (.archiveListed path directory names.length)
    return names

/-- The text of an entry of an archive. A directory counts as missing. -/
def readArchive (entry : String) (archive : Zip.Archive) : Except ResourceError String := do
  let found ← (archive.openEntry entry).mapError (ResourceError.ofArchive entry)
  if found.isDirectory then throw (.notFound entry)
  let contents ← found.contents.mapError fun _ => ResourceError.unreadable entry
  match Utf8.decode? contents with
  | some text => return String.ofList text
  | none => throw (.unreadable entry)

def listPacked : Attempt ResourceError (List String) := do
  let (path, entry) ← Attempt.ofExcept location.archiveEntry
  let archive ← Attempt.ofExcept (openArchive disk path entry)
  whileOpen path (listArchive path entry archive)

def readPacked : Attempt ResourceError String := do
  let (path, entry) ← Attempt.ofExcept location.archiveEntry
  let archive ← Attempt.ofExcept (openArchive disk path entry)
  whileOpen path (Attempt.ofExcept (readArchive entry archive))

/-- Nothing is in an archive that is missing. -/
def existsPacked : Attempt ResourceError Bool := do
  let (path, entry) ← Attempt.ofExcept location.archiveEntry
  match openArchive disk path entry with
  | .ok archive => whileOpen path (return (Children.children? archive.names entry).isSome)
  | .error e => if e.isNotFound then return false else Attempt.fail e

/-! ### Either -/

/-- The names directly below a location. -/
def list : ResourceStorage → Attempt ResourceError (List String)
  | plain => listPlain disk location
  | packed => listPacked disk location

/-- The text at a location. -/
def read : ResourceStorage → Attempt ResourceError String
  | plain => readPlain disk location
  | packed => readPacked disk location

/-- Whether something is at a location. -/
def probe : ResourceStorage → Attempt ResourceError Bool
  | plain => existsPlain disk location
  | packed => existsPacked disk location

end ResourceStorage

end Provision
