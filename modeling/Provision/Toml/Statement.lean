import Provision.Toml.Moment
import Provision.Toml.Number
import Provision.Toml.Quotation

/-!
# Statements of a document

A document is a sequence of lines, each empty or one of three statements: the header of a
table, the header of a table in an array, or a key and its value. Values nest up to a fixed
depth, and a key has at most as many parts.
-/

namespace Provision.Toml

/-- The number of values that may be open inside each other. -/
def maxDepth : Nat := 79

/-! ### Keys -/

def isBare (c : Char) : Bool :=
  c.isAlphanum || c == '-' || c == '_'

/-- One part of a key: a word or a quotation. -/
def keyPart : Reader String := fun s =>
  match quotation s with
  | some read => some read
  | none =>
    let word := s.takeWhile isBare
    if word.isEmpty then none else some (String.ofList word, s.dropWhile isBare)

/-- The parts of a key, with dots and blanks between them. -/
def keyParts (s : List Char) : Option (List String × List Char) :=
  match keyPart (skipBlanks s) with
  | none => none
  | some (part, rest) =>
    match skipBlanks rest with
    | '.' :: rest =>
      if rest.length < s.length then (keyParts rest).map fun r => (part :: r.1, r.2) else none
    | rest => some ([part], rest)
termination_by s.length

/-- A key that is not too long: the parts before its last one, and the last one. -/
def key : Reader (List String × String) := fun s => do
  let (parts, rest) ← keyParts s
  let last ← parts.getLast?
  if parts.length ≤ maxDepth then some ((parts.dropLast, last), rest) else none

/-! ### Values -/

/-- The items of an array whose bracket has been read. -/
def items (item : Reader Value) (s : List Char) : Option (List Value × List Char) :=
  match skipFiller s with
  | ']' :: rest => some ([], rest)
  | start =>
    match item start with
    | none => none
    | some (value, rest) =>
      match skipFiller rest with
      | ',' :: rest =>
        if rest.length < s.length then (items item rest).map fun r => (value :: r.1, r.2)
        else none
      | ']' :: rest => some ([value], rest)
      | _ => none
termination_by s.length

/-- A key, an equals sign and a value. -/
def assignment (value : Reader Value) : Reader ((List String × String) × Value) := fun s => do
  let (name, rest) ← key s
  match rest with
  | '=' :: rest =>
    let (v, rest) ← value (skipBlanks rest)
    return ((name, v), skipBlanks rest)
  | _ => none

/-- The entries of a table in braces, from its first key on, added to those read before. -/
def members (value : Reader Value) (entries : Entries) (s : List Char) :
    Option (Entries × List Char) :=
  match assignment value s with
  | none => none
  | some ((name, v), rest) =>
    match Entries.assign? name.1 name.2 v .header entries with
    | none => none
    | some entries =>
      match rest with
      | ',' :: rest => if rest.length < s.length then members value entries rest else none
      | '\x7d' :: rest => some (entries, rest)
      | _ => none
termination_by s.length

/-- A table in braces, whose first brace has been read. -/
def inlineTable (value : Reader Value) : Reader Value := fun s =>
  match skipBlanks s with
  | '\x7d' :: rest => some (.table .inline [], rest)
  | _ => (members value [] s).map fun r => (.table .inline r.1, r.2)

/-- A value without values inside it. -/
def simpleValue : Reader Value := fun s =>
  match s with
  | 't' :: 'r' :: 'u' :: 'e' :: rest => some (.truth true, rest)
  | 'f' :: 'a' :: 'l' :: 's' :: 'e' :: rest => some (.truth false, rest)
  | '\x22' :: _ | '\x27' :: _ => (anyQuotation s).map fun r => (.text r.1, r.2)
  | _ => Moment.moment s <|> Number.float s <|> Number.integer s

/-- A value with at most so many values open inside each other. -/
def value : Nat → Reader Value
  | 0 => simpleValue
  | depth + 1 => fun s =>
    match s with
    | '[' :: rest => (items (value depth) rest).map fun r => (.array r.1, r.2)
    | '\x7b' :: rest => inlineTable (value depth) rest
    | s => simpleValue s

/-! ### Lines -/

/-- A line that says something. -/
inductive Statement where
  | header (path : List String) (key : String)
  | arrayHeader (path : List String) (key : String)
  | assign (path : List String) (key : String) (value : Value)
deriving DecidableEq

/-- The statement in front of a text and what follows it on its line. -/
def statement : Reader Statement
  | '[' :: '[' :: rest => do
    let (name, rest) ← key rest
    match rest with
    | ']' :: ']' :: rest => some (.arrayHeader name.1 name.2, rest)
    | _ => none
  | '[' :: rest => do
    let (name, rest) ← key rest
    match rest with
    | ']' :: rest => some (.header name.1 name.2, rest)
    | _ => none
  | s => do
    let ((name, v), rest) ← assignment (value maxDepth) s
    return (.assign name.1 name.2 v, rest)

/-- The statements of the lines of a text. -/
def statements (s : List Char) : Option (List Statement) :=
  match skipBlanks s with
  | [] => some []
  | start =>
    let spoken :=
      if (afterLineEnd? start).isSome ∨ start.head? = some '#' then some ([], start)
      else (statement start).map fun r => ([r.1], r.2)
    match spoken with
    | none => none
    | some (first, rest) =>
      match afterLine? rest with
      | none => none
      | some rest =>
        if rest.length < s.length then (statements rest).map (first ++ ·) else none
termination_by s.length

end Provision.Toml
