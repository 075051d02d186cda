import Provision.Toml.Statement

/-!
# Documents

The table that the statements of a document build. The first header ends the entries of the
document itself; after it, keys belong to the table whose header came last.
-/

namespace Provision.Toml

/-- A document in the making: its entries, and the path of the table that keys belong to. -/
structure Draft where
  entries : Entries
  place : List String

namespace Draft

def empty : Draft := ⟨[], []⟩

/-- The draft after a statement. -/
def add? (draft : Draft) : Statement → Option Draft
  | .header path key => do
    let entries ← Entries.alter? false (Entries.open? key) path .header draft.entries
    return ⟨entries, path ++ [key]⟩
  | .arrayHeader path key => do
    let entries ← Entries.alter? false (Entries.append? key) path .header draft.entries
    return ⟨entries, path ++ [key]⟩
  | .assign path key value => do
    let entries ←
      Entries.alter? false (Entries.assign? path key value) draft.place .header draft.entries
    return { draft with entries }

end Draft

/-- The entries that statements build. -/
def build? (statements : List Statement) : Option Entries :=
  (statements.foldlM Draft.add? Draft.empty).map (·.entries)

/-- The entries of the document that a text writes. A byte order mark in front of it does
not count. -/
def parse? (text : String) : Option Entries :=
  let s :=
    match text.toList with
    | '\uFEFF' :: rest => rest
    | s => s
  (statements s).bind build?

end Provision.Toml
