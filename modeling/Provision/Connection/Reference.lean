import Provision.Connection.Error
import Provision.Environment
import Provision.Text.Alphabetic
import Provision.Text.Numeric

/-!
# References to variables

A text may refer to variables: `$name`, or in braces `${name}`, `${name:-default}` and
`${name:?message}`. Two dollar signs stand for one, and a dollar sign that begins nothing
stands for itself. `Reference.pieces` cuts a text into pieces, each of which has a meaning
in an environment by itself, so the value of one piece is never read again.
-/

namespace Provision.Reference

/-- What a reference asks of a variable besides its value. -/
inductive Demand where
  /-- The variable must be set. -/
  | plain
  /-- The text is taken if the variable is not set or empty. -/
  | default (text : List Char)
  /-- The variable must be set and not empty, or else the message is given. -/
  | required (message : List Char)
  /-- The variable must be set and not empty. -/
  | unknown
deriving DecidableEq, Repr

/-- A part of a text with a meaning of its own. -/
inductive Piece where
  | char (c : Char)
  | reference (name : List Char) (demand : Demand)
  | unterminated (name : List Char)
  | nameless
deriving DecidableEq, Repr

def startsName (c : Char) : Bool :=
  Unicode.isAlphabetic c || c == '_'

def continuesName (c : Char) : Bool :=
  Unicode.isAlphabetic c || Unicode.isNumeric c || c == '_'

/-- The demand of what follows the name in braces. -/
def demand : List Char → Demand
  | ':' :: '-' :: text => .default text
  | ':' :: '?' :: message => .required message
  | ':' :: _ :: _ => .unknown
  | _ => .plain

/-- The piece of a text in braces. -/
def braced (body : List Char) (closed : Bool) : Piece :=
  let name := body.takeWhile (· != ':')
  if !closed then .unterminated name
  else if name.isEmpty then .nameless
  else .reference name (demand (body.dropWhile (· != ':')))

theorem length_dropWhile_le (p : Char → Bool) (s : List Char) :
  (s.dropWhile p).length ≤ s.length
  := (List.dropWhile_sublist p).length_le

/-- The pieces of a text. -/
def pieces (s : List Char) : List Piece :=
  match s with
  | [] => []
  | '$' :: '$' :: rest => .char '$' :: pieces rest
  | '$' :: '\x7b' :: rest =>
    let body := rest.takeWhile (· != '\x7d')
    match _h : rest.dropWhile (· != '\x7d') with
    | [] => [braced body false]
    | _ :: after => braced body true :: pieces after
  | c :: rest =>
    if c == '$' && rest.head?.any startsName then
      .reference (rest.takeWhile continuesName) .plain :: pieces (rest.dropWhile continuesName)
    else .char c :: pieces rest
termination_by s.length
decreasing_by
  · simp only [List.length_cons]
    omega
  · have := length_dropWhile_le (· != '\x7d') rest
    simp_all
    omega
  · have := length_dropWhile_le continuesName rest
    simp only [List.length_cons]
    omega
  · simp

/-- The meaning of a reference. -/
def resolve (environment : Environment) (name : List Char) (demand : Demand) :
    Except ConfigError (List Char) :=
  let name := String.ofList name
  let value := environment.lookup name
  match demand with
  | .plain => (value.map String.toList).elim (.error (.variableNotFound name)) .ok
  | demand =>
    match value.filter (!·.isEmpty), demand with
    | some value, _ => .ok value.toList
    | none, .default text => .ok text
    | none, .required [] => .error (.invalidReference name .required)
    | none, .required message =>
      .error (.invalidReference name (.described (String.ofList message)))
    | none, _ => .error (.variableNotFound name)

/-- The meaning of a piece. -/
def meaning (environment : Environment) : Piece → Except ConfigError (List Char)
  | .char c => .ok [c]
  | .reference name demand => resolve environment name demand
  | .unterminated name => .error (.invalidReference (String.ofList name) .unterminated)
  | .nameless => .error (.invalidReference "" .nameless)

/-- The text with its references resolved, or the fault of the first piece without a
meaning. -/
def expand (environment : Environment) (text : String) : Except ConfigError String :=
  ((pieces text.toList).mapM (meaning environment)).map (String.ofList ·.flatten)

end Provision.Reference
