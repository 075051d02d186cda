import Provision.Connection.Url
import Provision.Duration
import Provision.Log.Attempt

/-!
# Configurations

A `Config` is what a data source is set up with. Its URL is set as a whole, and host, port,
database and normal form are read off it, so they never disagree with it. Credentials in a
URL are taken over, but may be set by themselves as well.

Two configurations are the same data source if their `Identity` is equal: host, port,
database and the settings of the pool take no part in it.
-/

namespace Provision

/-- The URL of a configuration, as it was given and as it was read. -/
structure UrlSetting where
  raw : String
  url : ConnectionUrl
deriving DecidableEq, Repr

/-- The settings of a data source. -/
structure Config where
  setting : Option UrlSetting := none
  username : Option String := none
  password : String := ""
  maxConnections : Option UInt32 := none
  dataSource : Option String := none
  table : Option String := none
  poolDisabled : Bool := false
  maxLifetime : Option Duration := none
  idleTimeout : Option Duration := none
deriving DecidableEq, Repr

namespace Config

variable [DomainNames]

def empty : Config := {}

/-! ### What follows from the URL -/

def rawUrl (c : Config) : Option String :=
  c.setting.map (·.raw)

def normalUrl (c : Config) : Option String :=
  c.setting.map (·.url.text)

def host (c : Config) : Option String :=
  c.setting.bind (·.url.host)

def port (c : Config) : Option UInt16 :=
  c.setting.bind (·.url.port)

def database (c : Config) : Option String :=
  c.setting.map (·.url.database)

/-! ### Changes -/

/-- The configuration with a URL that has been read. Credentials are replaced only by
those that the URL has. -/
def withUrl (c : Config) (raw : String) (url : ConnectionUrl) : Config :=
  { c with
    setting := some { raw, url }
    username := url.username <|> c.username
    password := url.password.getD c.password }

/-- Sets the URL. -/
def setUrl (c : Config) (raw : String) : Attempt ConfigError Config := do
  Attempt.record (.urlGiven raw.utf8ByteSize)
  let url ← Attempt.ofExcept (ConnectionUrl.parse raw)
  let c := c.withUrl raw url
  Attempt.record (.urlAccepted url.scheme c.host c.port c.database)
  return c

/-- A fresh configuration with the URL. -/
def ofUrl (raw : String) : Attempt ConfigError Config :=
  empty.setUrl raw

/-- A configuration can be used only if it has a URL. -/
def validate (c : Config) : Except ConfigError Unit :=
  if c.setting.isNone then .error (.missingField "url") else .ok ()

/-! ### Identity -/

/-- What makes two configurations the same data source. -/
structure Identity where
  normalUrl : Option String
  table : Option String
  username : Option String
  password : String
  maxConnections : Option UInt32
  dataSource : Option String
deriving DecidableEq, Repr

def identity (c : Config) : Identity where
  normalUrl := c.normalUrl
  table := c.table
  username := c.username
  password := c.password
  maxConnections := c.maxConnections
  dataSource := c.dataSource

/-- The number of data sources among the configurations. -/
def distinct (configs : List Config) : Nat :=
  (configs.map identity).eraseDups.length

/-! ### Texts -/

/-- The user and the place, as shown to people. -/
def text (c : Config) : String :=
  c.username.getD "" ++ "@" ++ c.normalUrl.getD ""

/-- The configuration as shown to developers. Of the URL as given only the length is
shown, and of the password nothing. -/
def outline (c : Config) : Record where
  name := "JdbcConfig"
  fields :=
    let optionalText := Outline.optional Outline.quoted
    let optionalNumber := Outline.optional Outline.number
    let optionalDuration := Outline.optional fun d : Duration => Outline.atom d.text
    [("raw_url_len", optionalNumber (c.rawUrl.map String.utf8ByteSize)),
      ("normalized_url", optionalText c.normalUrl),
      ("host", optionalText c.host),
      ("port", optionalNumber (c.port.map UInt16.toNat)),
      ("database", optionalText c.database),
      ("username", optionalText c.username),
      ("password", .quoted "***"),
      ("max_connections", optionalNumber (c.maxConnections.map UInt32.toNat)),
      ("data_source", optionalText c.dataSource),
      ("table", optionalText c.table),
      ("pool_disabled", .truth c.poolDisabled),
      ("connection_max_lifetime", optionalDuration c.maxLifetime),
      ("connection_idle_timeout", optionalDuration c.idleTimeout)]

end Config

end Provision
