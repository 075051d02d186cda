import Provision.Disk.Basic
import Provision.Environment
import Provision.Log.Attempt
import Provision.Resource.Error

/-!
# Resource roots

Resources live in a directory or in an archive. A root is given outright, or found: by a
variable of the environment, or else beside the program, where a directory goes before an
archive.
-/

namespace Provision

/-- Where resources live. -/
inductive ResourceRoot where
  | directory (path : String)
  | archive (path : String)
deriving DecidableEq, Repr

namespace ResourceRoot

/-- The variable that may hold the path of the root. -/
def variableName : String := "DBKIT_RESOURCES"

/-- The name of the directory beside the program. -/
def directoryName : String := "resources"

/-- The name of the archive beside the program. -/
def archiveName : String := "resources.zip"

def path : ResourceRoot → String
  | directory path => path
  | archive path => path

def isArchive : ResourceRoot → Bool
  | directory _ => false
  | archive _ => true

def text : ResourceRoot → String
  | directory path => "dir:" ++ path
  | archive path => "archive:" ++ path

variable (disk : Disk)

/-- The absolute form of a path. -/
def absolute (path : String) : Except ResourceError String :=
  (disk.absolute path).mapError (ResourceError.ofAccess path)

/-- The root in a directory, which need not be there yet. -/
def ofDirectory (path : String) : Except ResourceError ResourceRoot :=
  (absolute disk path).map directory

/-- The root in an archive, which need not be there yet. -/
def ofArchive (path : String) : Except ResourceError ResourceRoot :=
  (absolute disk path).map archive

/-- The root at a path. Whatever is no directory is taken for an archive. -/
def ofPath (path : String) : Except ResourceError ResourceRoot := do
  match ← (disk.find path).mapError (ResourceError.ofAccess path) with
  | .directory => ofDirectory disk path
  | .file _ => ofArchive disk path

/-- The root in a directory that may hold resources in either form. -/
def detectIn (home : String) : Except ResourceError ResourceRoot :=
  let unpacked := PathText.join home directoryName
  let packed := PathText.join home archiveName
  if disk.isDirectory unpacked then ofDirectory disk unpacked
  else if disk.isFile packed then ofArchive disk packed
  else .error (.notFound unpacked)

/-- The root that the environment names, or else the one beside the program. -/
def detect (environment : Environment) (programHome : String) :
    Attempt ResourceError ResourceRoot := do
  match environment.lookup variableName with
  | some path =>
    Attempt.record (.rootConfigured path)
    Attempt.ofExcept (ofPath disk path)
  | none =>
    let root ← Attempt.ofExcept (detectIn disk programHome)
    Attempt.record (.rootDetected root.text)
    return root

end ResourceRoot

end Provision
