import Provision.Connection.Property
import Provision.Connection.Reference
import Provision.Toml.Document

/-!
# Configuration documents

A configuration may be given by a TOML document with the same settings as the properties,
those of the pool in a table `connection`. A key that is none of a configuration is
refused, and so is a value of the wrong kind. Texts in the document may refer to variables
of an environment. The URL applies first, so that credentials in the document win over
those in the URL.
-/

namespace Provision

/-- The settings of the pool in a document. -/
structure PoolSection where
  disabled : Bool := false
  maxLifetime : Option UInt64 := none
  idleTimeout : Option UInt64 := none
deriving DecidableEq, Repr

/-- The settings in a document, before references in them are resolved. -/
structure Document where
  url : Option String
  username : Option String
  password : Option String
  table : Option String
  dataSource : Option String
  maxConnections : Option UInt32
  pool : PoolSection
deriving DecidableEq, Repr

namespace Document

/-- The keys of a document. -/
def keys : List String :=
  ["url", "username", "password", "table", "data-source", "max-connection", "connection"]

/-- The keys of the table of the pool. -/
def poolKeys : List String :=
  ["disable-pool", "max-life-time", "max-idle-timeout"]

/-- The reading of a value that may be missing. Failure to read a value that is there is
failure of the whole. -/
def optional? {α : Type} (read? : Toml.Value → Option α) (entries : Toml.Entries)
    (key : String) : Option (Option α) :=
  match entries.get? key with
  | none => some none
  | some value => (read? value).map some

def text? : Toml.Value → Option String
  | .text s => some s
  | _ => none

def truth? : Toml.Value → Option Bool
  | .truth b => some b
  | _ => none

/-- An integer from zero on. -/
def count? : Toml.Value → Option Nat
  | .integer n => if 0 ≤ n then some n.toNat else none
  | _ => none

/-- A number of connections. -/
def connections? (value : Toml.Value) : Option UInt32 :=
  ((count? value).filter (· < UInt32.size)).map UInt32.ofNat

/-- A number of milliseconds. -/
def millis? (value : Toml.Value) : Option UInt64 :=
  ((count? value).filter (· < UInt64.size)).map UInt64.ofNat

/-- No entry has a key other than the given ones. -/
def hasOnly (keys : List String) (entries : Toml.Entries) : Bool :=
  entries.all fun entry => keys.contains entry.1

/-- The settings of the pool: a table, or an array with the settings in the order of their
keys. -/
def pool? : Toml.Value → Option PoolSection
  | .table _ entries => do
    guard (hasOnly poolKeys entries)
    let disabled ← optional? truth? entries "disable-pool"
    let maxLifetime ← optional? millis? entries "max-life-time"
    let idleTimeout ← optional? millis? entries "max-idle-timeout"
    return { disabled := disabled.getD false, maxLifetime, idleTimeout }
  | .array (disabled :: maxLifetime :: idleTimeout :: _) => do
    let disabled ← truth? disabled
    let maxLifetime ← millis? maxLifetime
    let idleTimeout ← millis? idleTimeout
    return { disabled, maxLifetime := some maxLifetime, idleTimeout := some idleTimeout }
  | _ => none

/-- The settings of the entries of a document. -/
def ofEntries? (entries : Toml.Entries) : Option Document := do
  guard (hasOnly keys entries)
  return {
    url := ← optional? text? entries "url"
    username := ← optional? text? entries "username"
    password := ← optional? text? entries "password"
    table := ← optional? text? entries "table"
    dataSource := ← optional? text? entries "data-source"
    maxConnections := ← optional? connections? entries "max-connection"
    pool := (← optional? pool? entries "connection").getD {} }

/-- The settings that a text gives. -/
def parse (text : String) : Except ConfigError Document :=
  match (Toml.parse? text).bind ofEntries? with
  | some document => .ok document
  | none => .error .malformedDocument

end Document

namespace Config

variable [DomainNames]

/-- The configuration with a text set, its references resolved, if the document has it. -/
def withText (environment : Environment) (set : Config → String → Config)
    (text : Option String) (c : Config) : Except ConfigError Config :=
  match text with
  | none => .ok c
  | some text => (Reference.expand environment text).map (set c)

/-- The configuration with the numbers and truth values of a document. -/
def withNumbers (c : Config) (document : Document) : Config :=
  { c with
    maxConnections := document.maxConnections <|> c.maxConnections
    poolDisabled := document.pool.disabled
    maxLifetime := document.pool.maxLifetime.map (.ofMillis ·.toNat) <|> c.maxLifetime
    idleTimeout := document.pool.idleTimeout.map (.ofMillis ·.toNat) <|> c.idleTimeout }

/-- The configuration with the texts of a document other than its URL. -/
def withTexts (environment : Environment) (document : Document) (c : Config) :
    Except ConfigError Config := do
  let c ← c.withText environment (fun c s => { c with username := some s }) document.username
  let c ← c.withText environment (fun c s => { c with password := s }) document.password
  let c ← c.withText environment (fun c s => { c with table := some s }) document.table
  c.withText environment (fun c s => { c with dataSource := some s }) document.dataSource

/-- The configuration that a document gives. -/
def ofDocument (environment : Environment) (document : Document) :
    Attempt ConfigError Config := do
  let c ←
    match document.url with
    | none => pure empty
    | some url => do empty.setUrl (← Attempt.ofExcept (Reference.expand environment url))
  let c ← Attempt.ofExcept (c.withTexts environment document)
  return c.withNumbers document

/-- The configuration that the text of a document gives. -/
def ofToml (environment : Environment) (text : String) : Attempt ConfigError Config := do
  ofDocument environment (← Attempt.ofExcept (Document.parse text))

/-- The variable that may hold the URL. -/
def urlVariable : String := "DATABASE_URL"

/-- The configuration of the URL in an environment. -/
def ofEnvironment (environment : Environment) : Attempt ConfigError Config := do
  Attempt.record .environmentUrlWanted
  match environment.lookup urlVariable with
  | some url => ofUrl url
  | none => Attempt.fail (.variableNotFound urlVariable)

end Config

end Provision
