import Provision.Text.Outline

/-!
# Events

An `Event` is something that happens while a configuration is read or a resource is
fetched. An `Entry` is the form in which it reaches a log: a level, the name of the part
that reports it, a message and named texts.
-/

namespace Provision

/-- The severity of a log entry. -/
inductive Level where
  | trace
  | debug
  | info
  | warn
  | error
deriving DecidableEq, Repr

/-- The name of a level in a log entry. -/
def Level.label : Level → String
  | .trace => "TRACE"
  | .debug => "DEBUG"
  | .info => "INFO"
  | .warn => "WARN"
  | .error => "ERROR"

/-- What happened. -/
inductive Event where
  /-- A connection URL of so many bytes is about to be read. -/
  | urlGiven (bytes : Nat)
  | urlAccepted (scheme : String) (host : Option String) (port : Option UInt16)
      (database : Option String)
  | propertyGiven (key : String)
  /-- A property stands outside the name space that is read. -/
  | propertyIgnored (key space : String)
  | environmentUrlWanted
  | documentLoaded (path config : String)
  | directoryWanted (location : String)
  | textWanted (location : String)
  | directoryListed (directory : String) (count : Nat)
  | archiveOpened (archive : String)
  | archiveListed (archive directory : String) (count : Nat)
  | archiveClosed (archive : String)
  | rootConfigured (path : String)
  | rootDetected (root : String)
deriving DecidableEq, Repr

/-- An event as a log shows it. -/
structure Entry where
  level : Level
  target : String
  message : String
  fields : List (String × String)
deriving DecidableEq, Repr

namespace Event

private def decimal (n : Nat) : String :=
  String.ofList (Digits.decimal n)

private def shown {α : Type} (show? : α → Outline) (a : Option α) : String :=
  (Outline.optional show? a).inline

/-- The entry that reports an event. -/
def entry : Event → Entry
  | .urlGiven bytes =>
    ⟨.debug, "dbkit_config::jdbc", "JdbcConfig::set_url()", [("url_len", decimal bytes)]⟩
  | .urlAccepted scheme host port database =>
    ⟨.debug, "dbkit_config::jdbc", "Connection URL parsed",
      [("scheme", scheme), ("host", shown .quoted host),
        ("port", shown (fun p => .number p.toNat) port),
        ("database", shown .quoted database)]⟩
  | .propertyGiven key =>
    ⟨.debug, "dbkit_config::properties", "JdbcConfig::apply_property()", [("key", key)]⟩
  | .propertyIgnored key space =>
    ⟨.warn, "dbkit_config::properties", "Ignoring property outside prefix",
      [("key", key), ("prefix", space)]⟩
  | .environmentUrlWanted =>
    ⟨.info, "dbkit_config::file", "Loading connection configuration from DATABASE_URL", []⟩
  | .documentLoaded path config =>
    ⟨.info, "dbkit_config::file", "JdbcConfig loaded from file",
      [("path", path), ("config", config)]⟩
  | .directoryWanted location =>
    ⟨.debug, "dbkit_resources::reader", "BundledResources::list_directory_entries()",
      [("location", location)]⟩
  | .textWanted location =>
    ⟨.debug, "dbkit_resources::reader", "BundledResources::read_text()",
      [("location", location)]⟩
  | .directoryListed directory count =>
    ⟨.debug, "dbkit_resources::backend", "Listed directory",
      [("dir", directory), ("count", decimal count)]⟩
  | .archiveOpened archive =>
    ⟨.trace, "dbkit_resources::backend", "Archive opened", [("archive", archive)]⟩
  | .archiveListed archive directory count =>
    ⟨.debug, "dbkit_resources::backend", "Listed archive directory",
      [("archive", archive), ("dir", directory), ("count", decimal count)]⟩
  | .archiveClosed archive =>
    ⟨.trace, "dbkit_resources::backend", "Archive closed", [("archive", archive)]⟩
  | .rootConfigured path =>
    ⟨.debug, "dbkit_resources::root", "Resource root from DBKIT_RESOURCES", [("path", path)]⟩
  | .rootDetected root =>
    ⟨.info, "dbkit_resources::root", "Resource root detected", [("root", root)]⟩

end Event

end Provision
