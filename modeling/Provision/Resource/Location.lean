import Provision.Resource.Path
import Provision.Resource.Root
import Provision.Url.FilePath

/-!
# Resource locations

A resource path under a root has a location, whose URL says how to reach the resource: the
URL of a file below a directory, or of an entry in an archive.
-/

namespace Provision

/-- How a resource is reached. -/
inductive LocationKind where
  | file
  | archive
deriving DecidableEq, Repr

/-- The location of a resource. -/
structure ResourceLocation where
  url : Url
  resourcePath : String
  /-- The path of the archive, if the resource is in one. -/
  archive : Option String
deriving DecidableEq, Repr

namespace ResourceLocation

variable [DomainNames]

/-- The scheme of locations in a directory. -/
def fileScheme : String := "file"

/-- The scheme of locations in an archive. -/
def archiveScheme : String := "jar"

/-- What stands between the URL of an archive and the path of an entry. -/
def entryMark : String := "!/"

/-- The location of a normal resource path below a directory. -/
def inDirectory (home resourcePath : String) : Except PathFault ResourceLocation :=
  let target := if resourcePath.isEmpty then home else PathText.join home resourcePath
  match Url.ofFilePath? target.toList with
  | none => .error .relativeDirectory
  | some url => .ok { url, resourcePath, archive := none }

/-- The location of a normal resource path in an archive. -/
def inArchive (archive resourcePath : String) : Except PathFault ResourceLocation :=
  match Url.ofFilePath? archive.toList with
  | none => .error .relativeArchive
  | some file =>
    let text := archiveScheme.toList ++ ':' :: file.text ++ entryMark.toList
      ++ resourcePath.toList
    match Url.parse text with
    | .error fault => .error (.unreadableUrl fault.message)
    | .ok url => .ok { url, resourcePath, archive := some archive }

/-- The location of a resource path under a root. -/
def resolve (root : ResourceRoot) (path : String) : Except ResourceError ResourceLocation := do
  let resourcePath ← ResourcePath.normalize path
  let location :=
    match root with
    | .directory home => inDirectory home resourcePath
    | .archive archive => inArchive archive resourcePath
  location.mapError (ResourceError.invalidPath path)

def text (location : ResourceLocation) : String :=
  String.ofList location.url.text

/-- An error about the location as a whole. -/
def refuse {α : Type} (location : ResourceLocation) (fault : PathFault) :
    Except ResourceError α :=
  .error (.invalidPath location.text fault)

def scheme (location : ResourceLocation) : String :=
  String.ofList location.url.scheme

/-- How the resource is reached. -/
def kind (location : ResourceLocation) : Except ResourceError LocationKind :=
  if location.scheme = fileScheme then .ok .file
  else if location.scheme = archiveScheme then .ok .archive
  else location.refuse (.unknownScheme location.scheme)

/-- The path of the file. -/
def filePath (location : ResourceLocation) : Except ResourceError String :=
  if location.scheme ≠ fileScheme then location.refuse .noFileLocation
  else
    match location.url.filePath? with
    | some path => .ok (String.ofList path)
    | none => location.refuse .noLocalPath

/-- The path of the archive, and the name of the entry in it. -/
def archiveEntry (location : ResourceLocation) : Except ResourceError (String × String) :=
  match location.archive with
  | some archive =>
    if location.scheme = archiveScheme then .ok (archive, location.resourcePath)
    else location.refuse .noArchiveLocation
  | none => location.refuse .noArchiveLocation

end ResourceLocation

end Provision
