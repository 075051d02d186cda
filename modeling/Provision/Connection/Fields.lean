import Provision.Connection.Change

/-!
# Configurations in place

A configuration in place is a record of thirteen fields, each of which is kept by itself and
written by itself. An `Update` works on such a record: what it has written stays written,
also when it fails later on. Setting a URL writes up to seven fields, one after the other,
and none of them before the URL has been read.
-/

namespace Provision

/-- The fields of a configuration. -/
structure Fields where
  rawUrl : Option String := none
  normalUrl : Option String := none
  host : Option String := none
  port : Option UInt16 := none
  database : Option String := none
  username : Option String := none
  password : String := ""
  maxConnections : Option UInt32 := none
  dataSource : Option String := none
  table : Option String := none
  poolDisabled : Bool := false
  maxLifetime : Option Duration := none
  idleTimeout : Option Duration := none
deriving DecidableEq, Repr

/-- Work on the fields of a configuration: an attempt, and the fields that it leaves. -/
def Update (α : Type) : Type :=
  Fields → Attempt ConfigError α × Fields

namespace Update

variable {α β : Type}

/-- Nothing is done. -/
def succeed (a : α) : Update α := fun fields =>
  (.succeed a, fields)

/-- The second part works on the fields that the first one leaves, unless that fails. -/
def andThen (u : Update α) (f : α → Update β) : Update β := fun fields =>
  let (x, fields) := u fields
  match x.result with
  | .error e => (⟨.error e, x.events⟩, fields)
  | .ok a =>
    let (y, fields) := f a fields
    (⟨y.result, x.events ++ y.events⟩, fields)

instance : Monad Update where
  pure := succeed
  bind := andThen

/-- An attempt that has nothing to do with the fields. -/
def lift (x : Attempt ConfigError α) : Update α := fun fields =>
  (x, fields)

def read : Update Fields := fun fields =>
  (.succeed fields, fields)

def write (f : Fields → Fields) : Update Unit := fun fields =>
  (.succeed (), f fields)

end Update

namespace Fields

variable [DomainNames]

/-! ### Setters -/

def setUsername (value : String) : Update Unit :=
  .write fun fields => { fields with username := some value }

def setPassword (value : String) : Update Unit :=
  .write fun fields => { fields with password := value }

def setTable (value : String) : Update Unit :=
  .write fun fields => { fields with table := some value }

def setDataSource (value : String) : Update Unit :=
  .write fun fields => { fields with dataSource := some value }

def setMaxConnections (value : UInt32) : Update Unit :=
  .write fun fields => { fields with maxConnections := some value }

def setPoolDisabled (value : Bool) : Update Unit :=
  .write fun fields => { fields with poolDisabled := value }

def setMaxLifetime (value : Duration) : Update Unit :=
  .write fun fields => { fields with maxLifetime := some value }

def setIdleTimeout (value : Duration) : Update Unit :=
  .write fun fields => { fields with idleTimeout := some value }

/-! ### The URL -/

/-- Writes the credentials of a URL, as far as it has any. -/
def takeCredentials (url : ConnectionUrl) : Update Unit := do
  if let some username := url.username then
    setUsername username
  if let some password := url.password then
    setPassword password

/-- Sets the URL and all that is read off it. -/
def setUrl (raw : String) : Update Unit := do
  Update.lift (.record (.urlGiven raw.utf8ByteSize))
  let url ← Update.lift (.ofExcept (ConnectionUrl.parse raw))
  takeCredentials url
  Update.write fun fields => { fields with host := url.host }
  Update.write fun fields => { fields with port := url.port }
  Update.write fun fields => { fields with database := some url.database }
  Update.write fun fields => { fields with normalUrl := some url.text }
  Update.write fun fields => { fields with rawUrl := some raw }
  let fields ← Update.read
  Update.lift (.record (.urlAccepted url.scheme fields.host fields.port fields.database))

/-- The fields of a fresh configuration with the URL. -/
def ofUrl (raw : String) : Attempt ConfigError Fields := do
  let (attempt, fields) := setUrl raw {}
  attempt
  return fields

/-- A configuration can be used only if it has a URL. -/
def validate (fields : Fields) : Except ConfigError Unit :=
  if fields.normalUrl.isNone then .error (.missingField "url") else .ok ()

/-! ### Properties -/

/-- Sets what a key stands for. A value that is no text is converted first. -/
def setProperty (key : PropertyKey) (value : String) : Update Unit :=
  match key with
  | .url => setUrl value
  | .username => setUsername value
  | .password => setPassword value
  | .table => setTable value
  | .dataSource => setDataSource value
  | .maxConnections => do
    setMaxConnections (← Update.lift (.ofExcept (Property.connections key.text value)))
  | .poolDisabled => do
    setPoolDisabled (← Update.lift (.ofExcept (Property.truth key.text value)))
  | .maxLifetime => do
    setMaxLifetime (← Update.lift (.ofExcept (Property.millis key.text value)))
  | .idleTimeout => do
    setIdleTimeout (← Update.lift (.ofExcept (Property.millis key.text value)))

/-- Sets what the text of a key stands for. -/
def applyProperty (key value : String) : Update Unit := do
  Update.lift (.record (.propertyGiven key))
  match PropertyKey.ofText? key with
  | none => Update.lift (.fail (.unknownProperty key))
  | some known => setProperty known value

end Fields

/-- The work of a change on the fields of a configuration. -/
def Change.update [DomainNames] : Change → Update Unit
  | .url raw => Fields.setUrl raw
  | .username value => Fields.setUsername value
  | .password value => Fields.setPassword value
  | .table value => Fields.setTable value
  | .dataSource value => Fields.setDataSource value
  | .maxConnections value => Fields.setMaxConnections value
  | .poolDisabled value => Fields.setPoolDisabled value
  | .maxLifetime value => Fields.setMaxLifetime value
  | .idleTimeout value => Fields.setIdleTimeout value
  | .property key value => Fields.applyProperty key value
  | .renormalize => do
    let fields ← Update.read
    Fields.setUrl (fields.normalUrl.getD "")

end Provision
