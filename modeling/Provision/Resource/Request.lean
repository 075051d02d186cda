import Provision.Resource.Bundle

/-!
# Requests for resources

A request is one call for resources: of a bundle by a path, or of an archive by a location, without
a bundle. Each request sees the disk as it is at the time, and nothing is kept from one request to
the next.
-/

namespace Provision

/-- What can be asked about a location. -/
inductive Inquiry where
  | list
  | read
  | probe
deriving DecidableEq, Repr

/-- One call for resources. -/
inductive ResourceRequest where
  | list (path : String)
  | read (path : String)
  | readIn (space path : String)
  | probe (path : String)
  /-- An archive is asked about a location by itself. -/
  | direct (inquiry : Inquiry) (location : ResourceLocation)
deriving DecidableEq, Repr

namespace ResourceRequest

/-- What a request is answered with if it does not fail. -/
inductive Answer where
  | names (names : List String)
  | text (text : String)
  | truth (there : Bool)
deriving DecidableEq, Repr

variable [DomainNames] (disk : Disk) (bundle : Bundle)

/-- What a request does. -/
def attempt : ResourceRequest → Attempt ResourceError Answer
  | list path => (bundle.list disk path).map .names
  | read path => (bundle.readText disk path).map .text
  | readIn space path => (bundle.readTextIn disk space path).map .text
  | probe path => (bundle.probe disk path).map .truth
  | direct .list location => (ResourceStorage.packed.list disk location).map .names
  | direct .read location => (ResourceStorage.packed.read disk location).map .text
  | direct .probe location => (ResourceStorage.packed.probe disk location).map .truth

/-- What happens in the course of requests, each with the disk as it is at the time. -/
def log (calls : List (Disk × ResourceRequest)) : List Event :=
  calls.flatMap fun (disk, request) => (request.attempt disk bundle).events

end ResourceRequest

end Provision
