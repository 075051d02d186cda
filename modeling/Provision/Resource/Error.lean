import Provision.Zip.Fault

/-!
# Errors of resources

The causes for which a resource cannot be served, their wording, and what a report says
about them besides.
-/

namespace Provision

/-- Why a text does not name a resource. -/
inductive PathFault where
  | backslash
  | parentSegment
  | relativeDirectory
  | relativeArchive
  | unreadableUrl (reason : String)
  | rootIsNoFile
  | unknownScheme (scheme : String)
  | noFileLocation
  | noLocalPath
  | noArchiveLocation
  | described (reason : String)
deriving DecidableEq, Repr

def PathFault.message : PathFault → String
  | .backslash => "backslashes are not allowed"
  | .parentSegment => "parent segments are not allowed"
  | .relativeDirectory => "root directory is not an absolute path"
  | .relativeArchive => "archive is not an absolute path"
  | .unreadableUrl reason => reason
  | .rootIsNoFile => "the resource root is not a file"
  | .unknownScheme scheme => "unsupported location scheme \x60" ++ scheme ++ "\x60"
  | .noFileLocation => "not a file location"
  | .noLocalPath => "not a local file path"
  | .noArchiveLocation => "not an archive location"
  | .described reason => reason

/-- Why a resource cannot be served. -/
inductive ResourceError where
  | notFound (path : String)
  | unreadable (path : String)
  | invalidPath (path : String) (fault : PathFault)
deriving DecidableEq, Repr

namespace ResourceError

def message : ResourceError → String
  | .notFound path => "resource not found: " ++ path
  | .unreadable path => "failed to read resource: " ++ path
  | .invalidPath path fault => "invalid resource path \x60" ++ path ++ "\x60: " ++ fault.message

/-- The error of a place on a disk. Only a place that is missing counts as missing. -/
def ofAccess (path : String) : AccessFault → ResourceError
  | .notFound => .notFound path
  | _ => .unreadable path

/-- The error of an archive. -/
def ofArchive (path : String) : Zip.Fault → ResourceError
  | .noSuchEntry => .notFound path
  | .access fault => .ofAccess path fault
  | .invalid | .unsupported => .unreadable path

def isNotFound : ResourceError → Bool
  | .notFound _ => true
  | _ => false

/-- The code under which a report files the error. -/
def code : ResourceError → String
  | .notFound _ => "dbkit::resources::not_found"
  | .unreadable _ => "dbkit::resources::read_error"
  | .invalidPath _ _ => "dbkit::resources::invalid_path"

/-- The advice that a report gives. -/
def help? : ResourceError → Option String
  | .invalidPath _ _ =>
    some "resource paths are slash-separated and relative to the resource root"
  | _ => none

/-- The error was caused by one of a layer below. -/
def hasSource : ResourceError → Bool
  | .unreadable _ => true
  | _ => false

end ResourceError

end Provision
