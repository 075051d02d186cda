import Provision.Url.Error

/-!
# Errors of a configuration

The causes for which no configuration comes about, their wording, and what a report says
about them besides.
-/

namespace Provision

/-- Why a text is no connection URL. -/
inductive UriFault where
  | malformed (fault : Url.Fault)
  | noDatabasePath
  | described (reason : String)
deriving DecidableEq, Repr

def UriFault.message : UriFault → String
  | .malformed fault => fault.message
  | .noDatabasePath => "missing database path"
  | .described reason => reason

/-- Why the value of a property is refused. -/
inductive ValueFault where
  | notUnsigned (value : String)
  | notBoolean (value : String)
  | notMillis (value : String)
  | described (message : String)
deriving DecidableEq, Repr

def ValueFault.message : ValueFault → String
  | .notUnsigned value => "expected an unsigned integer, got \x60" ++ value ++ "\x60"
  | .notBoolean value => "expected \x60true\x60 or \x60false\x60, got \x60" ++ value ++ "\x60"
  | .notMillis value => "expected milliseconds, got \x60" ++ value ++ "\x60"
  | .described message => message

/-- Why a reference to a variable cannot be resolved. -/
inductive ReferenceFault where
  | unterminated
  | nameless
  | required
  | described (message : String)
deriving DecidableEq, Repr

/-- The wording of a fault in a reference to the named variable. -/
def ReferenceFault.message (name : String) : ReferenceFault → String
  | .unterminated => "unterminated \x60$\x7b\x60"
  | .nameless => "empty variable name"
  | .required => "required variable \x60" ++ name ++ "\x60 is not set"
  | .described message => message

/-- Why no configuration comes about. -/
inductive ConfigError where
  | invalidUri (input : String) (fault : UriFault)
  | missingField (name : String)
  | unknownProperty (key : String)
  | invalidValue (key : String) (fault : ValueFault)
  | variableNotFound (name : String)
  | invalidReference (name : String) (fault : ReferenceFault)
  | unreadable (path : String)
  | malformedDocument
deriving DecidableEq, Repr

namespace ConfigError

def message : ConfigError → String
  | .invalidUri input fault => "invalid connection URI \x60" ++ input ++ "\x60: " ++ fault.message
  | .missingField name => "missing required field: " ++ name
  | .unknownProperty key => "unknown configuration property \x60" ++ key ++ "\x60"
  | .invalidValue key fault => "invalid value for \x60" ++ key ++ "\x60: " ++ fault.message
  | .variableNotFound name => "environment variable not found: " ++ name
  | .invalidReference name fault =>
    "invalid environment variable \x60" ++ name ++ "\x60: " ++ fault.message name
  | .unreadable path => "failed to read file: " ++ path
  | .malformedDocument => "failed to parse TOML"

def isInvalidUri : ConfigError → Bool
  | .invalidUri _ _ => true
  | _ => false

/-- The code under which a report files the error. -/
def code : ConfigError → String
  | .invalidUri _ _ => "dbkit::config::invalid_uri"
  | .missingField _ => "dbkit::config::missing_field"
  | .unknownProperty _ => "dbkit::config::unknown_property"
  | .invalidValue _ _ => "dbkit::config::invalid_value"
  | .variableNotFound _ => "dbkit::config::env_not_found"
  | .invalidReference _ _ => "dbkit::config::invalid_env_value"
  | .unreadable _ => "dbkit::config::io_error"
  | .malformedDocument => "dbkit::config::toml_error"

/-- The advice that a report gives. -/
def help? : ConfigError → Option String
  | .invalidUri _ _ =>
    some "expected [jdbc:]scheme://[user[:password]@]host[:port]/database[?query]"
  | _ => none

/-- The error was caused by one of a layer below. -/
def hasSource : ConfigError → Bool
  | .invalidUri _ (.malformed _) => true
  | .unreadable _ => true
  | .malformedDocument => true
  | _ => false

end ConfigError

end Provision
