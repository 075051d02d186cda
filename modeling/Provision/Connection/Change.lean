import Provision.Connection.Property

/-!
# Changes of a configuration

A `Change` is anything that can be done to a configuration. A change that fails leaves the
configuration as it was.
-/

namespace Provision

/-- Something that can be done to a configuration. -/
inductive Change where
  | url (raw : String)
  | username (value : String)
  | password (value : String)
  | table (value : String)
  | dataSource (value : String)
  | maxConnections (value : UInt32)
  | poolDisabled (value : Bool)
  | maxLifetime (value : Duration)
  | idleTimeout (value : Duration)
  | property (key value : String)
  /-- Sets the URL to the normal form of the one it has. -/
  | renormalize
deriving DecidableEq, Repr

namespace Config

variable [DomainNames]

/-- The configuration after a change. -/
def apply (c : Config) : Change → Attempt ConfigError Config
  | .url raw => c.setUrl raw
  | .username value => return { c with username := some value }
  | .password value => return { c with password := value }
  | .table value => return { c with table := some value }
  | .dataSource value => return { c with dataSource := some value }
  | .maxConnections value => return { c with maxConnections := some value }
  | .poolDisabled value => return { c with poolDisabled := value }
  | .maxLifetime value => return { c with maxLifetime := some value }
  | .idleTimeout value => return { c with idleTimeout := some value }
  | .property key value => c.applyProperty key value
  | .renormalize => c.setUrl (c.normalUrl.getD "")

/-- The configuration after a change, or the old one if the change fails. -/
def after (c : Config) (change : Change) : Config :=
  match (c.apply change).result with
  | .ok c => c
  | .error _ => c

/-- The configuration after changes in order, of which any may fail. -/
def afterAll (c : Config) (changes : List Change) : Config :=
  changes.foldl after c

end Config

end Provision
