import Provision.Disk.Fault

/-!
# Faults of an archive

Why an archive cannot be opened, or an entry of it not be read.
-/

namespace Provision.Zip

/-- Why an archive or an entry of it cannot be read. -/
inductive Fault where
  | noSuchEntry
  | invalid
  | unsupported
  | access (fault : AccessFault)
deriving DecidableEq, Repr

end Provision.Zip
