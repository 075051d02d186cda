import Mathlib
import Provision.Toml.Value

/-!
# What a document says

A document says what stands at the end of each path of keys and places in arrays. This is
its content: neither the order of the entries of a table nor the form of the table matters.
A change at the end of a path adds what it says to the content, and the tables on the way.
-/

namespace Provision.Toml

/-- A step into a table or into an array. -/
inductive Step where
  | key (name : String)
  | item (index : Nat)
deriving DecidableEq, Repr

/-- What stands at the end of a path, without what is inside of it. -/
inductive Fact where
  | text (s : String)
  | integer (n : Int)
  | float (literal : List Char)
  | truth (b : Bool)
  | moment (literal : List Char)
  | array
  | table
  | tables
deriving DecidableEq, Repr

namespace Value

/-- A value, without what is inside of it. -/
def root : Value → Fact
  | .text s => .text s
  | .integer n => .integer n
  | .float literal => .float literal
  | .truth b => .truth b
  | .moment literal => .moment literal
  | .array _ => .array
  | .table _ _ => .table
  | .tables _ => .tables

/-- The value one step inside. Arrays of tables are not entered. -/
def inside? : Step → Value → Option Value
  | .key name, .table _ entries => Entries.get? entries name
  | .item index, .array items => items[index]?
  | _, _ => none

/-- What a value says at the end of a path. -/
def fact? : List Step → Value → Option Fact
  | [], value => some value.root
  | step :: path, value => (value.inside? step).bind (fact? path)

end Value

/-- What the entries of a table say at the end of a path. -/
def Entries.fact? (path : List Step) (entries : Entries) : Option Fact :=
  Value.fact? path (.table .header entries)

/-- A path of keys. -/
def keySteps (path : List String) : List Step :=
  path.map .key

/-- What is said along a path: there is a table after each of its keys, and what is added is
at its end. -/
inductive Along (Adds : List Step → Fact → Prop) : List String → List Step → Fact → Prop where
  | table {path : List String} : Along Adds path [] .table
  | step {key : String} {path : List String} {rest : List Step} {fact : Fact} :
    Along Adds path rest fact → Along Adds (key :: path) (.key key :: rest) fact
  | added {place : List Step} {fact : Fact} : Adds place fact → Along Adds [] place fact

/-- What is said by a key with a value. -/
def Below (key : String) (value : Value) (place : List Step) (fact : Fact) : Prop :=
  ∃ rest, place = .key key :: rest ∧ value.fact? rest = some fact

theorem along_nil_iff {Adds : List Step → Fact → Prop} {place : List Step} {fact : Fact} :
  Along Adds [] place fact ↔ place = [] ∧ fact = .table ∨ Adds place fact
  := by
  constructor
  · rintro (- | - | hadds)
    · left
      constructor <;> rfl
    · right
      apply hadds
  · rintro (⟨rfl, rfl⟩ | hadds)
    · apply Along.table
    · apply Along.added hadds

theorem along_cons_iff {Adds : List Step → Fact → Prop} {key : String} {path : List String}
    {place : List Step} {fact : Fact} :
  Along Adds (key :: path) place fact
    ↔ place = [] ∧ fact = .table ∨ ∃ rest, place = .key key :: rest ∧ Along Adds path rest fact
  := by
  constructor
  · rintro (- | hadds)
    · left
      constructor <;> rfl
    · right
      exact ⟨_, rfl, hadds⟩
  · rintro (⟨rfl, rfl⟩ | ⟨rest, rfl, hadds⟩)
    · apply Along.table
    · apply Along.step hadds

namespace Entries

variable {entries entries' : Entries} {key name : String} {path : List String} {value : Value}
  {place rest : List Step} {fact : Fact} {form : TableForm} {byDots : Bool}
  {change : TableForm → Entries → Option Entries} {Adds : List Step → Fact → Prop}

/-! ### Look-up -/

theorem get?_cons (key name : String) (value : Value) (rest : Entries) :
  get? ((key, value) :: rest) name = if name = key then some value else get? rest name
  := by
  rw [get?, List.lookup_cons, get?]
  by_cases h : name = key
  · rw [if_pos h, h, beq_self_eq_true]
  · rw [if_neg h, beq_false_of_ne h]

theorem get?_append (h : entries.get? key = none) (name : String) (value : Value) :
  get? (entries ++ [(key, value)]) name = if name = key then some value else entries.get? name
  := by
  have hlast := get?_cons key name value []
  rw [get?] at hlast h ⊢
  rw [List.lookup_append, hlast]
  split_ifs with hname
  · rw [hname, h, Option.none_or]
  · apply Option.or_none

theorem get?_replace (entries : Entries) (key name : String) (value : Value) :
  (entries.replace key value).get? name
    = if name = key then (entries.get? key).map fun _ => value else entries.get? name
  := by
  induction entries with
  | nil =>
      split_ifs <;> rfl
  | cons entry rest ih =>
      obtain ⟨first, old⟩ := entry
      have hcons : replace ((first, old) :: rest) key value
          = (if first = key then (key, value) else (first, old)) :: replace rest key value := by
        simp [replace]
      rw [hcons]
      by_cases hfirst : first = key
      · subst hfirst
        rw [if_pos rfl, get?_cons, get?_cons, get?_cons, ih, if_pos rfl]
        split_ifs <;> rfl
      · rw [if_neg hfirst, get?_cons, get?_cons, get?_cons, ih, if_neg (Ne.symm hfirst)]
        by_cases hname : name = first
        · rw [if_pos hname, if_pos hname, if_neg (hname ▸ hfirst)]
        · rw [if_neg hname, if_neg hname]

/-! ### Content -/

theorem fact?_nil (entries : Entries) :
  entries.fact? [] = some .table
  := rfl

theorem fact?_key (entries : Entries) (name : String) (rest : List Step) :
  entries.fact? (.key name :: rest) = (entries.get? name).bind (Value.fact? rest)
  := rfl

theorem fact?_table (form : TableForm) (entries : Entries) (place : List Step) :
  Value.fact? place (.table form entries) = entries.fact? place
  := by
  cases place with
  | nil => rfl
  | cons step rest => cases step <;> rfl

/-- What is inside of an array of tables is not said. -/
theorem fact?_tables (found found' : List Value) (place : List Step) :
  Value.fact? place (.tables found) = Value.fact? place (.tables found')
  := by
  cases place with
  | nil => rfl
  | cons step rest => cases step <;> rfl

theorem of_fact?_nil (h : fact? place [] = some fact) :
  place = [] ∧ fact = .table
  := by
  cases place with
  | nil =>
      obtain rfl := Option.some.inj h
      constructor <;> rfl
  | cons step rest => cases step <;> cases h

/-- The entries have an array of tables at the end of a path of keys. -/
def HasTables (entries : Entries) : Prop :=
  ∃ path, entries.fact? (keySteps path) = some .tables

theorem not_hasTables_nil :
  ¬ HasTables []
  := by
  rintro ⟨path, hpath⟩
  cases path <;> cases hpath

/-- The way to an array of tables leads through a key. -/
theorem hasTables_of_get? (h : entries.get? key = some value)
    (hvalue : Value.fact? (keySteps path) value = some .tables) :
  HasTables entries
  := by
  use key :: path
  rw [keySteps, List.map_cons, fact?_key, h]
  apply hvalue

theorem hasTables_of_tables {found : List Value} (h : entries.get? key = some (.tables found)) :
  HasTables entries
  := by
  have hroot : Value.fact? (keySteps []) (.tables found) = some .tables := rfl
  apply hasTables_of_get? h hroot

theorem HasTables.of_table (h : entries.get? key = some (.table form entries'))
    (hinner : HasTables entries') :
  HasTables entries
  := by
  obtain ⟨path, hpath⟩ := hinner
  apply hasTables_of_get? h
  rw [fact?_table]
  apply hpath

theorem exists_get?_of_hasTables (h : HasTables entries) :
  ∃ key path value, entries.get? key = some value
    ∧ Value.fact? (keySteps path) value = some .tables
  := by
  obtain ⟨path, hpath⟩ := h
  cases path with
  | nil => cases hpath
  | cons key path =>
      rw [keySteps, List.map_cons, fact?_key] at hpath
      obtain ⟨value, hvalue, hfact⟩ := Option.bind_eq_some_iff.mp hpath
      use key, path, value, hvalue, hfact

/-! ### Changes -/

/-- What a change adds to what entries say: no more than the given, and as long as no array of
tables is in the way, all of it. Arrays of tables stay. -/
structure Writes (change : TableForm → Entries → Option Entries)
    (Adds : List Step → Fact → Prop) : Prop where
  only : ∀ {form entries entries' place fact}, change form entries = some entries' →
    fact? place entries' = some fact → entries.fact? place = some fact ∨ Adds place fact
  all : ∀ {form entries entries' place fact}, change form entries = some entries' →
    ¬ HasTables entries → fact? place entries = some fact ∨ Adds place fact →
    fact? place entries' = some fact
  tables : ∀ {form entries entries'}, change form entries = some entries' →
    HasTables entries ∨ (∃ path, Adds (keySteps path) .tables) → HasTables entries'

/-- Where a change goes on: into a table, which may be a new one, or into an array of tables. -/
theorem of_alter?_cons (h : alter? byDots change (key :: path) form entries = some entries') :
  (∃ form inner inner', (entries.get? key = some (.table form inner)
        ∨ entries.get? key = none ∧ inner = [])
      ∧ alter? byDots change path form inner = some inner'
      ∧ ∀ name, get? entries' name
        = if name = key then some (.table form inner') else entries.get? name)
    ∨ ∃ found found', entries.get? key = some (.tables found)
      ∧ ∀ name, get? entries' name
        = if name = key then some (.tables found') else entries.get? name
  := by
  rw [alter?] at h
  split at h
  case h_1 hnone =>
    left
    obtain ⟨inner', hinner, heq⟩ := Option.bind_eq_some_iff.mp h
    obtain rfl := Option.some.inj heq
    refine ⟨_, [], inner', .inr ⟨hnone, rfl⟩, hinner, ?_⟩
    intro name
    apply get?_append hnone
  case h_2 form' inner hsome =>
    left
    split_ifs at h
    obtain ⟨inner', hinner, heq⟩ := Option.bind_eq_some_iff.mp h
    obtain rfl := Option.some.inj heq
    refine ⟨form', inner, inner', .inl hsome, hinner, ?_⟩
    intro name
    rw [get?_replace, hsome]
    rfl
  case h_3 form' newest earlier hsome =>
    right
    obtain ⟨newest', -, heq⟩ := Option.bind_eq_some_iff.mp h
    obtain rfl := Option.some.inj heq
    refine ⟨_, .table form' newest' :: earlier, hsome, ?_⟩
    intro name
    rw [get?_replace, hsome]
    rfl
  case h_4 => cases h

/-- A path leads behind a key or away from it. -/
theorem eq_key_or_ne (key : String) (place : List Step) :
  (∃ rest, place = .key key :: rest) ∨ ∀ rest, place ≠ .key key :: rest
  := by
  by_cases h : ∃ rest, place = .key key :: rest
  · left
    apply h
  · right
    intro rest hrest
    apply h ⟨rest, hrest⟩

/-- What is said after the value of one key has been set: what was said away from the key, and
what the value says. -/
theorem fact?_of_set (hset : ∀ name, get? entries' name
    = if name = key then some value else entries.get? name) :
  (∀ rest, fact? (.key key :: rest) entries' = Value.fact? rest value)
    ∧ ∀ {place}, (∀ rest, place ≠ .key key :: rest) → fact? place entries' = entries.fact? place
  := by
  constructor
  · intro rest
    rw [fact?_key, hset, if_pos rfl, Option.bind_some]
  · intro place hplace
    match place with
    | [] => rfl
    | .item index :: rest => rfl
    | .key name :: rest =>
        rw [fact?_key, fact?_key, hset, if_neg]
        rintro rfl
        apply hplace rest rfl

/-! A change at the end of a path adds what it says along the path. The inductions are on the
path: at each of its keys only what is behind the key changes. -/

theorem Writes.only_alter? (h : Writes change Adds)
    (hchange : alter? byDots change path form entries = some entries')
    (hfact : fact? place entries' = some fact) :
  entries.fact? place = some fact ∨ Along Adds path place fact
  := by
  induction path generalizing form entries entries' place with
  | nil =>
      obtain hfact | hadds := h.only hchange hfact
      · left
        apply hfact
      · right
        apply Along.added hadds
  | cons key path ih =>
      obtain ⟨form, inner, inner', hold, hinner, hset⟩ | ⟨found, found', hold, hset⟩ :=
        of_alter?_cons hchange
      all_goals
        obtain ⟨hbehind, haway⟩ := fact?_of_set hset
        obtain ⟨rest, rfl⟩ | hplace := eq_key_or_ne key place
        case inr =>
          left
          rw [← haway hplace, hfact]
        rw [hbehind] at hfact
      · rw [fact?_table] at hfact
        obtain hfact | hadds := ih hinner hfact
        · obtain hold | ⟨-, rfl⟩ := hold
          · left
            rw [fact?_key, hold, Option.bind_some, fact?_table, hfact]
          · right
            obtain ⟨rfl, rfl⟩ := of_fact?_nil hfact
            apply Along.step Along.table
        · right
          apply Along.step hadds
      · left
        rw [fact?_key, hold, Option.bind_some, ← hfact]
        apply fact?_tables

theorem Writes.all_alter? (h : Writes change Adds)
    (hchange : alter? byDots change path form entries = some entries')
    (htables : ¬ HasTables entries)
    (hfact : fact? place entries = some fact ∨ Along Adds path place fact) :
  fact? place entries' = some fact
  := by
  induction path generalizing form entries entries' place with
  | nil =>
      obtain hfact | hadds := hfact
      · apply h.all hchange htables (.inl hfact)
      · obtain ⟨rfl, rfl⟩ | hadds := along_nil_iff.mp hadds
        · rfl
        · apply h.all hchange htables (.inr hadds)
  | cons key path ih =>
      obtain ⟨form, inner, inner', hold, hinner, hset⟩ | ⟨found, found', hold, -⟩ :=
        of_alter?_cons hchange
      · obtain ⟨hbehind, haway⟩ := fact?_of_set hset
        have hinnerTables : ¬ HasTables inner := by
          obtain hold | ⟨-, rfl⟩ := hold
          · apply mt (HasTables.of_table hold) htables
          · apply not_hasTables_nil
        obtain hfact | hadds := hfact
        · obtain ⟨rest, rfl⟩ | hplace := eq_key_or_ne key place
          · rw [hbehind, fact?_table]
            apply ih hinner hinnerTables (.inl _)
            obtain hold | ⟨hold, -⟩ := hold
            · rwa [fact?_key, hold, Option.bind_some, fact?_table] at hfact
            · rw [fact?_key, hold] at hfact
              cases hfact
          · rw [haway hplace, hfact]
        · obtain ⟨rfl, rfl⟩ | ⟨rest, rfl, hrest⟩ := along_cons_iff.mp hadds
          · rfl
          · rw [hbehind, fact?_table]
            apply ih hinner hinnerTables (.inr hrest)
      · exfalso
        apply htables (hasTables_of_tables hold)

theorem Writes.tables_alter? (h : Writes change Adds)
    (hchange : alter? byDots change path form entries = some entries')
    (htables : HasTables entries ∨ ∃ place, Along Adds path (keySteps place) .tables) :
  HasTables entries'
  := by
  induction path generalizing form entries entries' with
  | nil =>
      apply h.tables hchange
      obtain htables | ⟨place, hadds⟩ := htables
      · left
        apply htables
      · right
        obtain ⟨-, hfact⟩ | hadds := along_nil_iff.mp hadds
        · cases hfact
        · use place, hadds
  | cons key path ih =>
      obtain ⟨form, inner, inner', hold, hinner, hset⟩ | ⟨found, found', -, hset⟩ :=
        of_alter?_cons hchange
      · have hkey : get? entries' key = some (.table form inner') := by
          rw [hset, if_pos rfl]
        obtain htables | ⟨place, hadds⟩ := htables
        · obtain ⟨name, rest, value, hvalue, hfact⟩ := exists_get?_of_hasTables htables
          by_cases hname : name = key
          · subst hname
            rw [hvalue] at hold
            obtain hold | ⟨hnone, -⟩ := hold
            · obtain rfl := Option.some.inj hold
              rw [fact?_table] at hfact
              apply HasTables.of_table hkey
              apply ih hinner (.inl ⟨rest, hfact⟩)
            · cases hnone
          · have haway : get? entries' name = some value := by
              rw [hset, if_neg hname, hvalue]
            apply hasTables_of_get? haway hfact
        · obtain ⟨-, hfact⟩ | ⟨rest, hrest, hadds⟩ := along_cons_iff.mp hadds
          · cases hfact
          · obtain ⟨-, place, -, -, rfl⟩ := List.map_eq_cons_iff.mp hrest
            apply HasTables.of_table hkey
            apply ih hinner (.inr ⟨place, hadds⟩)
      · have hkey : get? entries' key = some (.tables found') := by
          rw [hset, if_pos rfl]
        apply hasTables_of_tables hkey

/-- A change at the end of a path adds what it says along the path. -/
theorem Writes.alter? (h : Writes change Adds) (byDots : Bool) (path : List String) :
  Writes (Entries.alter? byDots change path) (Along Adds path)
  where
  only := h.only_alter?
  all := h.all_alter?
  tables := h.tables_alter?

/-! ### Changes of a single key -/

/-- A change that gives a key a value, which says what the key said before and what the given
value says. -/
theorem writes_of_set (h : ∀ {form entries entries'}, change form entries = some entries' →
    ∃ found, (∀ name, get? entries' name = if name = key then some found else entries.get? name)
      ∧ ∀ rest fact, Value.fact? rest found = some fact
        ↔ fact? (.key key :: rest) entries = some fact ∨ value.fact? rest = some fact) :
  Writes change (Below key value)
  := by
  constructor
  · intro form entries entries' place fact hchange hfact
    obtain ⟨found, hset, hfound⟩ := h hchange
    obtain ⟨hbehind, haway⟩ := fact?_of_set hset
    obtain ⟨rest, rfl⟩ | hplace := eq_key_or_ne key place
    · rw [hbehind, hfound] at hfact
      obtain hfact | hfact := hfact
      · left
        apply hfact
      · right
        use rest, rfl, hfact
    · left
      rw [← haway hplace, hfact]
  · intro form entries entries' place fact hchange _ hfact
    obtain ⟨found, hset, hfound⟩ := h hchange
    obtain ⟨hbehind, haway⟩ := fact?_of_set hset
    obtain hfact | ⟨rest, rfl, hfact⟩ := hfact
    · obtain ⟨rest, rfl⟩ | hplace := eq_key_or_ne key place
      · rw [hbehind, hfound]
        left
        apply hfact
      · rw [haway hplace, hfact]
    · rw [hbehind, hfound]
      right
      apply hfact
  · intro form entries entries' hchange htables
    obtain ⟨found, hset, hfound⟩ := h hchange
    obtain ⟨hbehind, haway⟩ := fact?_of_set hset
    obtain ⟨place, hplace⟩ | ⟨place, rest, hplace, hfact⟩ := htables
    · use place
      obtain ⟨rest, hrest⟩ | hkey := eq_key_or_ne key (keySteps place)
      · rw [hrest] at hplace ⊢
        rw [hbehind, hfound]
        left
        apply hplace
      · rw [haway hkey, hplace]
    · use place
      rw [hplace, hbehind, hfound]
      right
      apply hfact

theorem writes_add? (entered : Bool) (key : String) (value : Value) :
  Writes (add? entered key value) (Below key value)
  := by
  apply writes_of_set
  intro form entries entries' h
  rw [add?] at h
  split_ifs at h with hentered hsome
  obtain rfl := Option.some.inj h
  rw [Bool.not_eq_true, Option.isSome_eq_false_iff, Option.isNone_iff_eq_none] at hsome
  use value
  constructor
  · intro name
    apply get?_append hsome
  · intro rest fact
    simp [fact?_key, hsome]

theorem writes_assign? (path : List String) (key : String) (value : Value) :
  Writes (assign? path key value) (Along (Below key value) path)
  := (writes_add? (!path.isEmpty) key value).alter? true path

theorem writes_open? (key : String) :
  Writes (open? key) (Below key (.table .header []))
  := by
  apply writes_of_set
  intro form entries entries' h
  rw [open?] at h
  split at h
  case h_1 hnone =>
    obtain rfl := Option.some.inj h
    use .table .header []
    constructor
    · intro name
      apply get?_append hnone
    · intro rest fact
      simp [fact?_key, hnone]
  case h_2 inner hsome =>
    obtain rfl := Option.some.inj h
    use .table .header inner
    constructor
    · intro name
      rw [get?_replace, hsome]
      rfl
    · intro rest fact
      rw [fact?_key, hsome, Option.bind_some, fact?_table, fact?_table, fact?_table]
      constructor
      · intro hfact
        left
        apply hfact
      · rintro (hfact | hfact)
        · apply hfact
        · obtain ⟨rfl, rfl⟩ := of_fact?_nil hfact
          rfl
  case h_3 => cases h

theorem writes_append? (key : String) :
  Writes (append? key) (Below key (.tables []))
  := by
  apply writes_of_set
  intro form entries entries' h
  rw [append?] at h
  split at h
  case h_1 hnone =>
    obtain rfl := Option.some.inj h
    use .tables [.table .header []]
    constructor
    · intro name
      apply get?_append hnone
    · intro rest fact
      rw [fact?_key, hnone, fact?_tables _ []]
      simp
  case h_2 found hsome =>
    obtain rfl := Option.some.inj h
    use .tables (.table .header [] :: found)
    constructor
    · intro name
      rw [get?_replace, hsome]
      rfl
    · intro rest fact
      rw [fact?_key, hsome, Option.bind_some, fact?_tables found [], fact?_tables _ [], or_self]
  case h_3 => cases h

end Entries
end Provision.Toml
