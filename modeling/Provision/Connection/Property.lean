import Provision.Connection.Config
import Provision.Text.Numeral

/-!
# Properties

A configuration may be given by pairs of a key and a value. Pairs that set the URL apply
first, so that credentials given by themselves win over those in a URL; apart from that the
pairs apply in order. Several data sources can share one list of pairs, each under a name
of its own in front of its keys.
-/

namespace Provision

/-- The keys of a configuration. -/
inductive PropertyKey where
  | url
  | username
  | password
  | table
  | dataSource
  | maxConnections
  | poolDisabled
  | maxLifetime
  | idleTimeout
deriving DecidableEq, Repr

namespace PropertyKey

def all : List PropertyKey :=
  [url, username, password, table, dataSource, maxConnections, poolDisabled, maxLifetime,
    idleTimeout]

def text : PropertyKey → String
  | url => "url"
  | username => "username"
  | password => "password"
  | table => "table"
  | dataSource => "data-source"
  | maxConnections => "max-connection"
  | poolDisabled => "connection.disable-pool"
  | maxLifetime => "connection.max-life-time"
  | idleTimeout => "connection.max-idle-timeout"

def ofText? (text : String) : Option PropertyKey :=
  all.find? (·.text == text)

end PropertyKey

namespace Property

/-- A number of connections. -/
def connections (key value : String) : Except ConfigError UInt32 :=
  match Numeral.unsigned? UInt32.size value.toList with
  | some n => .ok (UInt32.ofNat n)
  | none => .error (.invalidValue key (.notUnsigned value))

def truth (key value : String) : Except ConfigError Bool :=
  match Numeral.truth? value.toList with
  | some b => .ok b
  | none => .error (.invalidValue key (.notBoolean value))

/-- A duration in milliseconds. -/
def millis (key value : String) : Except ConfigError Duration :=
  match Numeral.unsigned? UInt64.size value.toList with
  | some n => .ok (.ofMillis n)
  | none => .error (.invalidValue key (.notMillis value))

end Property

namespace Config

variable [DomainNames]

/-- The configuration after a property that is not its URL. -/
def withProperty (c : Config) (key : PropertyKey) (value : String) :
    Except ConfigError Config :=
  match key with
  | .url => .ok c
  | .username => .ok { c with username := some value }
  | .password => .ok { c with password := value }
  | .table => .ok { c with table := some value }
  | .dataSource => .ok { c with dataSource := some value }
  | .maxConnections =>
    (Property.connections key.text value).map fun n => { c with maxConnections := some n }
  | .poolDisabled => (Property.truth key.text value).map fun b => { c with poolDisabled := b }
  | .maxLifetime => (Property.millis key.text value).map fun d => { c with maxLifetime := some d }
  | .idleTimeout => (Property.millis key.text value).map fun d => { c with idleTimeout := some d }

/-- Sets what a key stands for. -/
def applyProperty (c : Config) (key value : String) : Attempt ConfigError Config := do
  Attempt.record (.propertyGiven key)
  match PropertyKey.ofText? key with
  | none => Attempt.fail (.unknownProperty key)
  | some .url => c.setUrl value
  | some key => Attempt.ofExcept (c.withProperty key value)

/-- Applies properties in order. -/
def applyProperties (c : Config) : List (String × String) → Attempt ConfigError Config
  | [] => return c
  | (key, value) :: rest => do (← c.applyProperty key value).applyProperties rest

/-- The configuration given by properties. -/
def ofProperties (properties : List (String × String)) : Attempt ConfigError Config :=
  let isUrl := fun property : String × String => property.1 == PropertyKey.url.text
  empty.applyProperties (properties.filter isUrl ++ properties.filter (!isUrl ·))

/-- The key without the name and the dot in front of it. -/
def keyIn? (space key : String) : Option String :=
  ((space.toList ++ ['.']).isPrefixOf? key.toList).map String.ofList

/-- The properties under a name. Every other one is reported. -/
def propertiesIn (space : String) :
    List (String × String) → Attempt ConfigError (List (String × String))
  | [] => return []
  | (key, value) :: rest =>
    match keyIn? space key with
    | some inner => do return (inner, value) :: (← propertiesIn space rest)
    | none => do
      Attempt.record (.propertyIgnored key space)
      propertiesIn space rest

/-- The configuration given by the properties under a name. -/
def ofPropertiesIn (space : String) (properties : List (String × String)) :
    Attempt ConfigError Config := do
  ofProperties (← propertiesIn space properties)

end Config

end Provision
