import Provision.Resource.Storage

/-!
# Bundles of resources

A `Bundle` serves the resources under one root by their paths. The root itself can be
listed but not read.
-/

namespace Provision

/-- The resources under a root. -/
structure Bundle where
  root : ResourceRoot
deriving DecidableEq, Repr

namespace Bundle

variable [DomainNames] (disk : Disk) (bundle : Bundle)

/-- The location of a path. -/
def resolve (path : String) : Except ResourceError ResourceLocation :=
  ResourceLocation.resolve bundle.root path

/-- The text of a resource. -/
def readText (path : String) : Attempt ResourceError String := do
  let location ← Attempt.ofExcept (bundle.resolve path)
  if location.resourcePath.isEmpty then
    Attempt.fail (.invalidPath path .rootIsNoFile)
  else
    Attempt.record (.textWanted location.text)
    let storage ← Attempt.ofExcept (ResourceStorage.serving location)
    storage.read disk location

/-- The text of a resource in a name space. -/
def readTextIn (space path : String) : Attempt ResourceError String := do
  bundle.readText disk (← Attempt.ofExcept (ResourcePath.join space path))

/-- The names directly below a path. -/
def list (path : String) : Attempt ResourceError (List String) := do
  let location ← Attempt.ofExcept (bundle.resolve path)
  Attempt.record (.directoryWanted location.text)
  let storage ← Attempt.ofExcept (ResourceStorage.serving location)
  storage.list disk location

/-- Whether something is at a path. -/
def probe (path : String) : Attempt ResourceError Bool := do
  let location ← Attempt.ofExcept (bundle.resolve path)
  let storage ← Attempt.ofExcept (ResourceStorage.serving location)
  storage.probe disk location

end Bundle

end Provision
