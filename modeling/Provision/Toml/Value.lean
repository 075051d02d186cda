/-!
# Values of a TOML document

A document is a table: a list of entries, each a key and a value. A table keeps the form in
which it was written, because the form decides who may add entries to it later.
-/

namespace Provision.Toml

/-- How a table came to be. -/
inductive TableForm where
  /-- The table has a header of its own, or is the whole document. -/
  | header
  /-- The table stands on the way to a header below it. -/
  | implied
  /-- The table stands on the way to a key with dots. -/
  | dotted
  /-- The table is written in braces. -/
  | inline
deriving DecidableEq, Repr

/-- A value. Floats and moments are kept as they were written. An array of tables has its
newest table first. -/
inductive Value where
  | text (s : String)
  | integer (n : Int)
  | float (literal : List Char)
  | truth (b : Bool)
  | moment (literal : List Char)
  | array (items : List Value)
  | table (form : TableForm) (entries : List (String × Value))
  | tables (newestFirst : List Value)
deriving Repr

/-! Values are compared with what is inside of them, so equality is decided together for values,
for the items of arrays and for the entries of tables. -/

mutual

def Value.decideEq (v v' : Value) : Decidable (v = v') :=
  if h : v.ctorIdx = v'.ctorIdx then
    match v, v', h with
    | .text s, .text s', _ => @decidable_of_decidable_of_iff (s = s') _ _ (by simp)
    | .integer n, .integer n', _ => @decidable_of_decidable_of_iff (n = n') _ _ (by simp)
    | .float s, .float s', _ => @decidable_of_decidable_of_iff (s = s') _ _ (by simp)
    | .truth b, .truth b', _ => @decidable_of_decidable_of_iff (b = b') _ _ (by simp)
    | .moment s, .moment s', _ => @decidable_of_decidable_of_iff (s = s') _ _ (by simp)
    | .array items, .array items', _ =>
      @decidable_of_decidable_of_iff _ _ (Value.decideEqItems items items') (by simp)
    | .table form entries, .table form' entries', _ =>
      @decidable_of_decidable_of_iff (form = form' ∧ entries = entries') _
        (@instDecidableAnd _ _ _ (Value.decideEqEntries entries entries')) (by simp)
    | .tables items, .tables items', _ =>
      @decidable_of_decidable_of_iff _ _ (Value.decideEqItems items items') (by simp)
  else isFalse fun heq => h (heq ▸ rfl)

def Value.decideEqItems : (items items' : List Value) → Decidable (items = items')
  | [], [] => isTrue rfl
  | v :: items, v' :: items' =>
    @decidable_of_decidable_of_iff (v = v' ∧ items = items') _
      (@instDecidableAnd _ _ (Value.decideEq v v') (Value.decideEqItems items items')) (by simp)
  | [], _ :: _ => isFalse nofun
  | _ :: _, [] => isFalse nofun

def Value.decideEqEntries :
    (entries entries' : List (String × Value)) → Decidable (entries = entries')
  | [], [] => isTrue rfl
  | (key, v) :: entries, (key', v') :: entries' =>
    @decidable_of_decidable_of_iff (key = key' ∧ v = v' ∧ entries = entries') _
      (@instDecidableAnd _ _ _
        (@instDecidableAnd _ _ (Value.decideEq v v') (Value.decideEqEntries entries entries')))
      (by simp [and_assoc])
  | [], _ :: _ => isFalse nofun
  | _ :: _, [] => isFalse nofun

end

instance : DecidableEq Value :=
  Value.decideEq

/-- The entries of a table. -/
abbrev Entries := List (String × Value)

namespace Entries

def get? (entries : Entries) (key : String) : Option Value :=
  entries.lookup key

/-- The entries with the value of a key replaced. -/
def replace (entries : Entries) (key : String) (value : Value) : Entries :=
  entries.map fun entry => if entry.1 == key then (key, value) else entry

/-- The entries with a change made to the table at the end of a path. A table that is not
there yet is added. Only arrays of tables and tables not written in braces can be entered,
and by a key with dots only tables without a header. -/
def alter? (byDots : Bool) (change : TableForm → Entries → Option Entries) :
    List String → TableForm → Entries → Option Entries
  | [], form, entries => change form entries
  | key :: path, _, entries =>
    match entries.get? key with
    | none => do
      let form := if byDots then TableForm.dotted else .implied
      let inner ← alter? byDots change path form []
      return entries ++ [(key, .table form inner)]
    | some (.table form inner) =>
      if form = .inline ∨ (byDots ∧ form = .header) then none
      else do
        let inner ← alter? byDots change path form inner
        return entries.replace key (.table form inner)
    | some (.tables (.table form newest :: earlier)) => do
      let newest ← alter? byDots change path form newest
      return entries.replace key (.tables (.table form newest :: earlier))
    | some _ => none

/-- Adds a key to a table. A table entered by dots must have been made by dots. -/
def add? (entered : Bool) (key : String) (value : Value) (form : TableForm)
    (entries : Entries) : Option Entries :=
  if entered ∧ form ≠ .dotted then none
  else if (entries.get? key).isSome then none
  else some (entries ++ [(key, value)])

/-- Adds the value of a key with dots. -/
def assign? (path : List String) (key : String) (value : Value) :
    TableForm → Entries → Option Entries :=
  alter? true (add? (!path.isEmpty) key value) path

/-- Gives a table its header. -/
def open? (key : String) (_ : TableForm) (entries : Entries) : Option Entries :=
  match entries.get? key with
  | none => some (entries ++ [(key, .table .header [])])
  | some (.table .implied inner) => some (entries.replace key (.table .header inner))
  | some _ => none

/-- Adds a table to an array of tables. -/
def append? (key : String) (_ : TableForm) (entries : Entries) : Option Entries :=
  match entries.get? key with
  | none => some (entries ++ [(key, .tables [.table .header []])])
  | some (.tables tables) => some (entries.replace key (.tables (.table .header [] :: tables)))
  | some _ => none

end Entries

end Provision.Toml
