import Provision.Connection.Fields

/-!
# Sessions

A session keeps configurations under names. A step makes a configuration, changes one or
copies one; it may fail, and a session goes on after a step that has failed. The trace of
steps has, for each of them in order, what it attempted and the session after it.
-/

namespace Provision

/-- Something done in a session. A configuration made of a URL takes the place of the one
that has its name only if the URL can be read. -/
inductive Step where
  | create (name : String)
  | createOfUrl (name raw : String)
  | change (name : String) (change : Change)
  | copy (name source : String)
deriving DecidableEq, Repr

/-- The configurations of a session by their names. A name that nothing has been done with
has an empty configuration. -/
def Session : Type :=
  String → Fields

namespace Session

variable [DomainNames]

def empty : Session := fun _ => {}

/-- The session with a configuration in the place of the one with its name. -/
def set (s : Session) (name : String) (fields : Fields) : Session := fun other =>
  if other = name then fields else s other

/-- What a step attempts, and the session after it. -/
def step (s : Session) : Step → Attempt ConfigError Unit × Session
  | .create name => (.succeed (), s.set name {})
  | .createOfUrl name raw =>
    let made := Fields.ofUrl raw
    match made.result with
    | .error e => (⟨.error e, made.events⟩, s)
    | .ok fields => (⟨.ok (), made.events⟩, s.set name fields)
  | .change name change =>
    let (attempt, fields) := change.update (s name)
    (attempt, s.set name fields)
  | .copy name source => (.succeed (), s.set name (s source))

/-- The session after steps in order, of which any may fail. -/
def run (s : Session) (steps : List Step) : Session :=
  steps.foldl (fun s step => (s.step step).2) s

/-- What each of the steps attempts, with the session after it. -/
def trace (s : Session) : List Step → List (Attempt ConfigError Unit × Session)
  | [] => []
  | step :: rest => s.step step :: (s.step step).2.trace rest

end Session

end Provision
