import Provision.Connection.Document
import Provision.Disk.Basic

/-!
# Configuration files

A configuration document may stand in a file of a disk.
-/

namespace Provision.Config

/-- The configuration of the document in a file. -/
def ofFile [DomainNames] (disk : Disk) (environment : Environment) (path : String) :
    Attempt ConfigError Config := do
  let text ← Attempt.ofExcept ((disk.readText path).mapError fun _ => .unreadable path)
  let c ← ofToml environment text
  Attempt.record (.documentLoaded path c.text)
  return c

end Provision.Config
