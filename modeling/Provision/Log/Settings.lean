import Provision.Environment
import Provision.Log.Event

/-!
# Log settings

The verbosity and the layout of a log, decided by three variables of the environment.
Names of levels and layouts are read in any case. Without a known name the level is
`debug` if debugging is asked for and `warn` if not, and the layout is `json`.
-/

namespace Provision

/-- The name of a level in the environment. -/
def Level.name : Level → String
  | .trace => "trace"
  | .debug => "debug"
  | .info => "info"
  | .warn => "warn"
  | .error => "error"

/-- The level of a name in any case. -/
def Level.ofName? (name : String) : Option Level :=
  [Level.trace, .debug, .info, .warn, .error].find? (·.name == name.toLower)

/-- How the entries of a log are laid out. -/
inductive Layout where
  | json
  | pretty
  | compact
deriving DecidableEq, Repr

namespace Layout

def name : Layout → String
  | .json => "json"
  | .pretty => "pretty"
  | .compact => "compact"

/-- The layout of a name in any case. -/
def ofName? (name : String) : Option Layout :=
  [json, pretty, compact].find? (·.name == name.toLower)

end Layout

/-- The settings of a log. -/
structure LogSettings where
  debug : Bool
  level : Level
  layout : Layout
deriving DecidableEq, Repr

namespace LogSettings

def debugVariable : String := "DBKIT_DEBUG"

def levelVariable : String := "DBKIT_LOG_LEVEL"

def layoutVariable : String := "DBKIT_LOG_FORMAT"

/-- A text that asks for something to be switched on. -/
def isTrue (value : String) : Bool :=
  ["true", "1", "yes"].contains value.toLower

/-- The settings that an environment asks for. -/
def ofEnvironment (environment : Environment) : LogSettings :=
  let debug := (environment.lookup debugVariable).any isTrue
  { debug
    level := ((environment.lookup levelVariable).bind Level.ofName?).getD
      (if debug then .debug else .warn)
    layout := ((environment.lookup layoutVariable).bind Layout.ofName?).getD .json }

end LogSettings

end Provision
