/-!
# Faults of storage

Why a place on a disk cannot be reached or read.
-/

namespace Provision

/-- Why a place on a disk cannot be reached or read. -/
inductive AccessFault where
  | notFound
  | permissionDenied
  /-- A file stands where a directory is needed. -/
  | notDirectory
  /-- A directory stands where a file is needed. -/
  | isDirectory
  | nameTooLong
  /-- A name that no disk has. -/
  | invalidName
  | invalidData
  | unexpectedEnd
  | other
deriving DecidableEq, Repr

end Provision
