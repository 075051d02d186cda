import Provision.Text.Quoted

/-!
# Outlines of values

The text by which a value is shown to a developer. An `Outline` is a name, or a named
wrapper around one outline; a `Record` is a name with a list of named outlines. Each is
written on one line, or as a block with one item per line, indented by four spaces and
followed by a comma.
-/

namespace Provision

/-- The shape of a value inside a record. -/
inductive Outline where
  | atom (text : String)
  | wrapped (name : String) (inner : Outline)
deriving DecidableEq, Repr

namespace Outline

def quoted (s : String) : Outline :=
  .atom (Quoted.quote s)

def number (n : Nat) : Outline :=
  .atom (String.ofList (Digits.decimal n))

def truth (b : Bool) : Outline :=
  .atom (if b then "true" else "false")

/-- A value that may be missing. -/
def optional {α : Type} (show? : α → Outline) : Option α → Outline
  | none => .atom "None"
  | some a => .wrapped "Some" (show? a)

/-- The outline on one line. -/
def inline : Outline → String
  | .atom text => text
  | .wrapped name inner => name ++ "(" ++ inner.inline ++ ")"

def indent (line : String) : String :=
  "    " ++ line

/-- The lines of an item of a block: the last is followed by a comma. -/
def withComma : List String → List String
  | [] => []
  | [line] => [line ++ ","]
  | line :: lines => line :: withComma lines

/-- The outline as the lines of a block. -/
def block : Outline → List String
  | .atom text => [text]
  | .wrapped name inner => (name ++ "(") :: ((withComma inner.block).map indent ++ [")"])

end Outline

/-- A named list of fields. -/
structure Record where
  name : String
  fields : List (String × Outline)
deriving DecidableEq, Repr

namespace Record

/-- The record on one line. -/
def inline (r : Record) : String :=
  r.name ++ " \x7b "
    ++ ", ".intercalate (r.fields.map fun field => field.1 ++ ": " ++ field.2.inline)
    ++ " \x7d"

/-- A field of a block: its name stands before the first line of its outline. -/
def fieldBlock (field : String × Outline) : List String :=
  match Outline.withComma field.2.block with
  | [] => []
  | line :: lines => (field.1 ++ ": " ++ line) :: lines

/-- The record as a block. -/
def block (r : Record) : String :=
  "\n".intercalate
    ((r.name ++ " \x7b") :: ((r.fields.flatMap fieldBlock).map Outline.indent ++ ["\x7d"]))

end Record

end Provision
