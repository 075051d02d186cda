import Mathlib
import Provision.Proofs.Toml.Facts
import Provision.Toml.Document

/-!
# What statements say

Every statement of a document says something by itself, once it is known which table its keys
belong to. The content of the document is what its statements say altogether, so neither
their order matters nor which statements say it.
-/

namespace Provision.Toml

namespace Statement

/-- What a statement says when keys belong to the table of the given path. -/
def Says (home : List String) : Statement → List Step → Fact → Prop
  | .header path key => Along (Below key (.table .header [])) path
  | .arrayHeader path key => Along (Below key (.tables [])) path
  | .assign path key value => Along (Along (Below key value) path) home

/-- The path of the table that keys belong to after a statement. -/
def homeAfter (home : List String) : Statement → List String
  | .header path key => path ++ [key]
  | .arrayHeader path key => path ++ [key]
  | .assign _ _ _ => home

end Statement

/-- What statements say when keys belong to the table of the given path in front of them. A
document is a table in any case. -/
def Said : List String → List Statement → List Step → Fact → Prop
  | _, [], place, fact => place = [] ∧ fact = .table
  | home, statement :: rest, place, fact =>
    statement.Says home place fact ∨ Said (statement.homeAfter home) rest place fact

theorem said_table (home : List String) (statements : List Statement) :
  Said home statements [] .table
  := by
  induction statements generalizing home with
  | nil => constructor <;> rfl
  | cons statement rest ih =>
      right
      apply ih

variable {draft draft' : Draft} {statement : Statement} {statements : List Statement}
  {entries : Entries} {place : List Step} {fact : Fact}

open Entries

/-- One step: a statement adds what it says. -/
theorem exists_writes_of_add? (h : draft.add? statement = some draft') :
  draft'.place = statement.homeAfter draft.place
    ∧ ∃ change, Writes change (statement.Says draft.place)
      ∧ change .header draft.entries = some draft'.entries
  := by
  cases statement with
  | header path key =>
      obtain ⟨entries, hentries, heq⟩ := Option.bind_eq_some_iff.mp h
      obtain rfl := Option.some.inj heq
      exact ⟨rfl, _, (writes_open? key).alter? false path, hentries⟩
  | arrayHeader path key =>
      obtain ⟨entries, hentries, heq⟩ := Option.bind_eq_some_iff.mp h
      obtain rfl := Option.some.inj heq
      exact ⟨rfl, _, (writes_append? key).alter? false path, hentries⟩
  | assign path key value =>
      obtain ⟨entries, hentries, heq⟩ := Option.bind_eq_some_iff.mp h
      obtain rfl := Option.some.inj heq
      exact ⟨rfl, _, (writes_assign? path key value).alter? false draft.place, hentries⟩

/-! A run: statements add what they say altogether. The inductions are on the statements, with
the draft in front of them general. -/

theorem only_foldlM (h : statements.foldlM Draft.add? draft = some draft')
    (hfact : draft'.entries.fact? place = some fact) :
  draft.entries.fact? place = some fact ∨ Said draft.place statements place fact
  := by
  induction statements generalizing draft with
  | nil =>
      obtain rfl := Option.some.inj h
      left
      apply hfact
  | cons statement rest ih =>
      obtain ⟨next, hnext, hrest⟩ := Option.bind_eq_some_iff.mp h
      obtain ⟨hplace, change, hwrites, hchange⟩ := exists_writes_of_add? hnext
      obtain hfact | hsaid := ih hrest
      · obtain hfact | hfirst := hwrites.only hchange hfact
        · left
          apply hfact
        · right
          left
          apply hfirst
      · right
        right
        rw [← hplace]
        apply hsaid

theorem tables_foldlM (h : statements.foldlM Draft.add? draft = some draft')
    (htables : HasTables draft.entries
      ∨ ∃ path, Said draft.place statements (keySteps path) .tables) :
  HasTables draft'.entries
  := by
  induction statements generalizing draft with
  | nil =>
      obtain rfl := Option.some.inj h
      obtain htables | ⟨path, -, hfact⟩ := htables
      · apply htables
      · cases hfact
  | cons statement rest ih =>
      obtain ⟨next, hnext, hrest⟩ := Option.bind_eq_some_iff.mp h
      obtain ⟨hplace, change, hwrites, hchange⟩ := exists_writes_of_add? hnext
      apply ih hrest
      obtain htables | ⟨path, hfirst | hsaid⟩ := htables
      · left
        apply hwrites.tables hchange (.inl htables)
      · left
        apply hwrites.tables hchange (.inr ⟨path, hfirst⟩)
      · right
        use path
        rw [hplace]
        apply hsaid

theorem all_foldlM (h : statements.foldlM Draft.add? draft = some draft')
    (htables : ¬ HasTables draft'.entries)
    (hfact : draft.entries.fact? place = some fact ∨ Said draft.place statements place fact) :
  draft'.entries.fact? place = some fact
  := by
  induction statements generalizing draft with
  | nil =>
      obtain rfl := Option.some.inj h
      obtain hfact | ⟨rfl, rfl⟩ := hfact
      · apply hfact
      · rfl
  | cons statement rest ih =>
      obtain ⟨next, hnext, hrest⟩ := Option.bind_eq_some_iff.mp h
      obtain ⟨hplace, change, hwrites, hchange⟩ := exists_writes_of_add? hnext
      have hnone : ¬ HasTables draft.entries := by
        intro hsome
        apply htables
        apply tables_foldlM hrest
        left
        apply hwrites.tables hchange (.inl hsome)
      apply ih hrest
      obtain hfact | hfirst | hsaid := hfact
      · left
        apply hwrites.all hchange hnone (.inl hfact)
      · left
        apply hwrites.all hchange hnone (.inr hfirst)
      · right
        rw [hplace]
        apply hsaid

/-! ### Whole documents -/

/-- A document says no more than its statements. -/
theorem said_of_build? (h : build? statements = some entries)
    (hfact : entries.fact? place = some fact) :
  Said [] statements place fact
  := by
  obtain ⟨draft, hdraft, rfl⟩ := Option.map_eq_some_iff.mp h
  obtain hempty | hsaid := only_foldlM hdraft hfact
  · obtain ⟨rfl, rfl⟩ := of_fact?_nil hempty
    apply said_table
  · apply hsaid

/-- A document has each array of tables of which its statements speak. -/
theorem hasTables_of_said (h : build? statements = some entries) {path : List String}
    (hsaid : Said [] statements (keySteps path) .tables) :
  HasTables entries
  := by
  obtain ⟨draft, hdraft, rfl⟩ := Option.map_eq_some_iff.mp h
  apply tables_foldlM hdraft (.inr ⟨path, hsaid⟩)

/-- What a document says without arrays of tables is what its statements say. -/
theorem fact?_build? (h : build? statements = some entries) (htables : ¬ HasTables entries) :
  entries.fact? place = some fact ↔ Said [] statements place fact
  := by
  constructor
  · apply said_of_build? h
  · intro hsaid
    obtain ⟨draft, hdraft, rfl⟩ := Option.map_eq_some_iff.mp h
    apply all_foldlM hdraft htables (.inr hsaid)

end Provision.Toml
