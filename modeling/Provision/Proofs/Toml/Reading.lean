import Mathlib
import Provision.Proofs.Toml.Statements

/-!
# Values that a text writes

The integers in a text have 64 bits, and arrays of tables come from headers only. So what a
value in a text says is plain, however deep it stands.
-/

namespace Provision.Toml

/-- The fact may stand in a value that a text writes. -/
def Fact.IsPlain : Fact → Prop
  | .integer n => Number.inRange n = true
  | .tables => False
  | _ => True

/-- All that the value says is plain. -/
def Value.IsPlain (value : Value) : Prop :=
  ∀ place fact, value.fact? place = some fact → fact.IsPlain

variable {s rest : List Char} {value v : Value} {values : List Value} {entries entries' : Entries}
  {place : List Step} {fact : Fact} {item : Reader Value}

/-! ### Plain values -/

/-- A value with nothing inside is plain if it is so itself. -/
theorem isPlain_of_root (hinside : ∀ step, v.inside? step = none) (h : v.root.IsPlain) :
  v.IsPlain
  := by
  intro place fact hfact
  cases place with
  | nil =>
      obtain rfl := Option.some.inj hfact
      apply h
  | cons step rest =>
      rw [Value.fact?, hinside] at hfact
      cases hfact

theorem isPlain_array (h : ∀ v ∈ values, v.IsPlain) :
  (Value.array values).IsPlain
  := by
  intro place fact hfact
  cases place with
  | nil =>
      obtain rfl := Option.some.inj hfact
      trivial
  | cons step rest =>
      obtain ⟨v, hv, hinside⟩ := Option.bind_eq_some_iff.mp hfact
      cases step with
      | key name => cases hv
      | item index => apply h v (List.mem_of_getElem? hv) rest fact hinside

/-- What is said along a path is a table on the way, or what is said at the end. -/
theorem exists_of_along {Adds : List Step → Fact → Prop} {path : List String}
    (h : Along Adds path place fact) :
  fact = .table ∨ ∃ rest, Adds rest fact
  := by
  induction h with
  | table =>
      left
      rfl
  | step _ ih => apply ih
  | added hadds =>
      right
      exact ⟨_, hadds⟩

theorem isPlain_of_along_below {path : List String} {key : String} (hv : v.IsPlain)
    (h : Along (Below key v) path place fact) :
  fact.IsPlain
  := by
  obtain rfl | ⟨below, rest, -, hfact⟩ := exists_of_along h
  · trivial
  · apply hv rest fact hfact

/-- A table stays plain when a plain value is added. -/
theorem isPlain_assign? {path : List String} {key : String} {form : TableForm}
    (h : (Value.table .inline entries).IsPlain) (hv : v.IsPlain)
    (hassign : Entries.assign? path key v form entries = some entries') :
  (Value.table .inline entries').IsPlain
  := by
  intro place fact hfact
  rw [Entries.fact?_table] at hfact
  obtain hfact | halong := (Entries.writes_assign? path key v).only hassign hfact
  · apply h place fact
    rw [Entries.fact?_table, hfact]
  · apply isPlain_of_along_below hv halong

/-! ### Readers -/

theorem isPlain_of_ofDigits? {base : Nat} {negative : Bool} {digits : List Char}
    (h : Number.ofDigits? base negative digits = some v) :
  v.IsPlain
  := by
  obtain ⟨magnitude, -, hv⟩ := Option.bind_eq_some_iff.mp h
  dsimp only at hv
  generalize (if negative = true then -(magnitude : Int) else magnitude) = n at hv
  split_ifs at hv with hrange
  obtain rfl := Option.some.inj hv
  apply isPlain_of_root
  · intro step
    cases step <;> rfl
  · apply hrange

theorem isPlain_integer (h : Number.integer s = some (v, rest)) :
  v.IsPlain
  := by
  have hbased {base : Nat} {s : List Char} (h : Number.based base s = some (v, rest)) :
      v.IsPlain := by
    obtain ⟨⟨run, after⟩, -, hread⟩ := Option.bind_eq_some_iff.mp h
    obtain ⟨v', hv, heq⟩ := Option.bind_eq_some_iff.mp hread
    obtain ⟨rfl, -⟩ := Prod.mk.inj (Option.some.inj heq)
    apply isPlain_of_ofDigits? hv
  unfold Number.integer at h
  split at h
  case h_4 =>
    obtain ⟨⟨run, after⟩, -, hread⟩ := Option.bind_eq_some_iff.mp h
    obtain ⟨v', hv, heq⟩ := Option.bind_eq_some_iff.mp hread
    obtain ⟨rfl, -⟩ := Prod.mk.inj (Option.some.inj heq)
    apply isPlain_of_ofDigits? hv
  all_goals apply hbased h

theorem isPlain_float (h : Number.float s = some (v, rest)) :
  v.IsPlain
  := by
  have hfloat (literal : List Char) : (Value.float literal).IsPlain := by
    apply isPlain_of_root
    · intro step
      cases step <;> rfl
    · trivial
  rw [Number.float] at h
  dsimp only at h
  split at h
  · obtain ⟨rfl, -⟩ := Prod.mk.inj (Option.some.inj h)
    apply hfloat
  · obtain ⟨⟨mantissa, exponent, after⟩, -, hread⟩ := Option.bind_eq_some_iff.mp h
    dsimp only at hread
    split_ifs at hread
    obtain ⟨rfl, -⟩ := Prod.mk.inj (Option.some.inj hread)
    apply hfloat

theorem isPlain_moment (h : Moment.moment s = some (v, rest)) :
  v.IsPlain
  := by
  obtain ⟨after, -, heq⟩ := Option.bind_eq_some_iff.mp h
  obtain ⟨rfl, -⟩ := Prod.mk.inj (Option.some.inj heq)
  apply isPlain_of_root
  · intro step
    cases step <;> rfl
  · trivial

theorem isPlain_quotation (h : (anyQuotation s).map (fun r => (Value.text r.1, r.2))
    = some (v, rest)) :
  v.IsPlain
  := by
  obtain ⟨read, -, heq⟩ := Option.map_eq_some_iff.mp h
  obtain ⟨rfl, -⟩ := Prod.mk.inj heq
  apply isPlain_of_root
  · intro step
    cases step <;> rfl
  · trivial

theorem isPlain_truth (b : Bool) :
  (Value.truth b).IsPlain
  := by
  apply isPlain_of_root
  · intro step
    cases step <;> rfl
  · trivial

theorem isPlain_simpleValue (h : simpleValue s = some (v, rest)) :
  v.IsPlain
  := by
  unfold simpleValue at h
  split at h
  · obtain ⟨rfl, -⟩ := Prod.mk.inj (Option.some.inj h)
    apply isPlain_truth
  · obtain ⟨rfl, -⟩ := Prod.mk.inj (Option.some.inj h)
    apply isPlain_truth
  · apply isPlain_quotation h
  · apply isPlain_quotation h
  · obtain hmoment | ⟨-, hnumber⟩ := (Option.orElse_eq_some _ _ _).mp h
    · apply isPlain_moment hmoment
    · obtain hfloat | ⟨-, hinteger⟩ := (Option.orElse_eq_some _ _ _).mp hnumber
      · apply isPlain_float hfloat
      · apply isPlain_integer hinteger

/-! The readers of what nests take a reader for what is inside. Their inductions follow their
own recursion. -/

section Inside

variable (hitem : ∀ {s v rest}, item s = some (v, rest) → v.IsPlain)
include hitem

theorem isPlain_items (h : items item s = some (values, rest)) :
  ∀ v ∈ values, v.IsPlain
  := by
  fun_induction items item s generalizing values rest with
  | case1 =>
      obtain ⟨rfl, -⟩ := Prod.mk.inj (Option.some.inj h)
      intro v hv
      cases hv
  | case3 s first _ _ _ _ _ hfirst ih =>
      obtain ⟨read, hread, heq⟩ := Option.map_eq_some_iff.mp h
      obtain ⟨rfl, -⟩ := Prod.mk.inj heq
      intro v hv
      obtain rfl | hv := List.mem_cons.mp hv
      · apply hitem hfirst
      · apply ih hread v hv
  | case5 s only _ _ _ _ honly =>
      obtain ⟨rfl, -⟩ := Prod.mk.inj (Option.some.inj h)
      intro v hv
      obtain rfl := List.mem_singleton.mp hv
      apply hitem honly
  | case2 | case4 | case6 => cases h

theorem isPlain_assignment {name : List String × String}
    (h : assignment item s = some ((name, v), rest)) :
  v.IsPlain
  := by
  obtain ⟨⟨name', after⟩, -, hread⟩ := Option.bind_eq_some_iff.mp h
  dsimp only at hread
  split at hread
  · obtain ⟨⟨v', after⟩, hv, heq⟩ := Option.bind_eq_some_iff.mp hread
    obtain ⟨hname, -⟩ := Prod.mk.inj (Option.some.inj heq)
    obtain ⟨-, rfl⟩ := Prod.mk.inj hname
    apply hitem hv
  · cases hread

theorem isPlain_members (hentries : (Value.table .inline entries).IsPlain)
    (h : members item entries s = some (entries', rest)) :
  (Value.table .inline entries').IsPlain
  := by
  fun_induction members item entries s generalizing rest with
  | case3 _ _ _ _ _ hassign _ _ hread ih =>
      apply ih _ h
      apply isPlain_assign? hentries (isPlain_assignment hitem hread) hassign
  | case5 _ _ _ _ _ hassign _ hread =>
      obtain ⟨rfl, -⟩ := Prod.mk.inj (Option.some.inj h)
      apply isPlain_assign? hentries (isPlain_assignment hitem hread) hassign
  | case1 | case2 | case4 | case6 => cases h

theorem isPlain_inlineTable (h : inlineTable item s = some (v, rest)) :
  v.IsPlain
  := by
  have hempty : (Value.table .inline []).IsPlain := by
    intro place fact hfact
    rw [Entries.fact?_table] at hfact
    obtain ⟨-, rfl⟩ := Entries.of_fact?_nil hfact
    trivial
  rw [inlineTable] at h
  split at h
  · obtain ⟨rfl, -⟩ := Prod.mk.inj (Option.some.inj h)
    apply hempty
  · obtain ⟨read, hread, heq⟩ := Option.map_eq_some_iff.mp h
    obtain ⟨rfl, -⟩ := Prod.mk.inj heq
    apply isPlain_members hitem hempty hread

end Inside

/-- All that a value in a text says is plain, by induction on how deep values may nest. -/
theorem isPlain_value {depth : Nat} (h : Toml.value depth s = some (v, rest)) :
  v.IsPlain
  := by
  induction depth generalizing s v rest with
  | zero => apply isPlain_simpleValue h
  | succ depth ih =>
      unfold Toml.value at h
      split at h
      · obtain ⟨read, hread, heq⟩ := Option.map_eq_some_iff.mp h
        obtain ⟨rfl, -⟩ := Prod.mk.inj heq
        apply isPlain_array
        apply isPlain_items ih hread
      · apply isPlain_inlineTable ih h
      · apply isPlain_simpleValue h

/-! ### Statements -/

/-- What the statement assigns is plain. -/
def Statement.IsPlain : Statement → Prop
  | .assign _ _ value => value.IsPlain
  | _ => True

theorem isPlain_statement {said : Statement} (h : statement s = some (said, rest)) :
  said.IsPlain
  := by
  unfold statement at h
  split at h
  · obtain ⟨⟨name, after⟩, -, hread⟩ := Option.bind_eq_some_iff.mp h
    dsimp only at hread
    split at hread
    · obtain ⟨rfl, -⟩ := Prod.mk.inj (Option.some.inj hread)
      trivial
    · cases hread
  · obtain ⟨⟨name, after⟩, -, hread⟩ := Option.bind_eq_some_iff.mp h
    dsimp only at hread
    split at hread
    · obtain ⟨rfl, -⟩ := Prod.mk.inj (Option.some.inj hread)
      trivial
    · cases hread
  · obtain ⟨⟨⟨name, v⟩, after⟩, hread, heq⟩ := Option.bind_eq_some_iff.mp h
    obtain ⟨rfl, -⟩ := Prod.mk.inj (Option.some.inj heq)
    apply isPlain_assignment isPlain_value hread

/-- All that a text assigns is plain. -/
theorem isPlain_of_statements {said : List Statement} (h : statements s = some said) :
  ∀ statement ∈ said, statement.IsPlain
  := by
  fun_induction statements s generalizing said with
  | case1 =>
      obtain rfl := Option.some.inj h
      intro statement hstatement
      cases hstatement
  | case4 s first _ _ _ _ _ spoken hspoken =>
      rename_i ih
      obtain ⟨read, hread, rfl⟩ := Option.map_eq_some_iff.mp h
      intro statement hstatement
      obtain hfirst | hrest := List.mem_append.mp hstatement
      · dsimp only [spoken] at hspoken
        split_ifs at hspoken
        · obtain ⟨rfl, -⟩ := Prod.mk.inj (Option.some.inj hspoken)
          cases hfirst
        · obtain ⟨read, hsaid, heq⟩ := Option.map_eq_some_iff.mp hspoken
          obtain ⟨rfl, -⟩ := Prod.mk.inj heq
          obtain rfl := List.mem_singleton.mp hfirst
          apply isPlain_statement hsaid
      · apply ih hread statement hrest
  | case2 | case3 | case5 => cases h

/-! ### Documents -/

/-- The statements of the lines of a document, without the byte order mark in front of it. -/
def statementsOf? (text : String) : Option (List Statement) :=
  statements (match text.toList with
    | '\uFEFF' :: rest => rest
    | s => s)

theorem parse?_eq (text : String) :
  parse? text = (statementsOf? text).bind build?
  := rfl

/-- What a text says. -/
def Says (text : String) (place : List Step) (fact : Fact) : Prop :=
  ∃ said, statementsOf? text = some said ∧ Said [] said place fact

variable {text : String} {said : List Statement} {home : List String}

theorem says_iff (h : statementsOf? text = some said) :
  Says text place fact ↔ Said [] said place fact
  := by
  rw [Says, h]
  simp

theorem exists_keySteps_of_along {key : String} {path : List String}
    (h : Along (Below key (.tables [])) path place .tables) :
  ∃ names, place = keySteps names
  := by
  generalize hfact : Fact.tables = fact at h
  induction h with
  | table => cases hfact
  | @step key path rest fact _ ih =>
      obtain ⟨names, rfl⟩ := ih hfact
      use key :: names
      rfl
  | added hadds =>
      obtain ⟨rest, rfl, hrest⟩ := hadds
      cases rest with
      | nil =>
          use [key]
          rfl
      | cons step rest => cases step <;> cases hrest

/-- What a statement says is plain, or there is an array of tables behind keys. -/
theorem of_statement {statement : Statement} (hplain : statement.IsPlain)
    (h : statement.Says home place fact) :
  fact.IsPlain ∨ fact = .tables ∧ ∃ names, place = keySteps names
  := by
  have htable (rest : List Step) (fact : Fact)
      (hfact : Value.fact? rest (.table .header []) = some fact) : fact = .table := by
    rw [Entries.fact?_table] at hfact
    apply (Entries.of_fact?_nil hfact).2
  cases statement with
  | header path key =>
      left
      obtain rfl | ⟨below, rest, -, hfact⟩ := exists_of_along h
      · trivial
      · obtain rfl := htable rest fact hfact
        trivial
  | arrayHeader path key =>
      obtain rfl | ⟨below, rest, -, hfact⟩ := exists_of_along h
      · left
        trivial
      · right
        cases rest with
        | nil =>
            obtain rfl := Option.some.inj hfact
            use rfl
            apply exists_keySteps_of_along h
        | cons step rest => cases step <;> cases hfact
  | assign path key value =>
      left
      obtain rfl | ⟨rest, halong⟩ := exists_of_along h
      · trivial
      · apply isPlain_of_along_below hplain halong

theorem of_said (hplain : ∀ statement ∈ said, statement.IsPlain) (h : Said home said place fact) :
  fact.IsPlain ∨ fact = .tables ∧ ∃ names, place = keySteps names
  := by
  induction said generalizing home with
  | nil =>
      obtain ⟨rfl, rfl⟩ := h
      left
      trivial
  | cons statement rest ih =>
      obtain hfirst | hsaid := h
      · apply of_statement (hplain statement List.mem_cons_self) hfirst
      · apply ih (fun other hother => hplain other (List.mem_cons_of_mem statement hother)) hsaid

/-- The integers of a document have 64 bits. -/
theorem inRange_of_parse? (h : parse? text = some entries) {n : Int}
    (hfact : entries.fact? place = some (.integer n)) :
  Number.inRange n = true
  := by
  rw [parse?_eq] at h
  obtain ⟨said, hsaid, hbuild⟩ := Option.bind_eq_some_iff.mp h
  obtain hplain | ⟨heq, -⟩ := of_said (isPlain_of_statements hsaid) (said_of_build? hbuild hfact)
  · apply hplain
  · cases heq

/-- A text says of a document that there is an array of tables exactly if it has one. -/
theorem hasTables_iff_text (h : parse? text = some entries) :
  entries.HasTables ↔ ∃ place, Says text place .tables
  := by
  rw [parse?_eq] at h
  obtain ⟨said, hsaid, hbuild⟩ := Option.bind_eq_some_iff.mp h
  simp only [says_iff hsaid]
  constructor
  · rintro ⟨path, hpath⟩
    use keySteps path
    apply said_of_build? hbuild hpath
  · rintro ⟨place, htables⟩
    obtain hplain | ⟨-, names, rfl⟩ := of_said (isPlain_of_statements hsaid) htables
    · cases hplain
    · apply hasTables_of_said hbuild htables

/-- What a document without arrays of tables says is what its text says. -/
theorem fact?_iff_text (h : parse? text = some entries) (htables : ¬ entries.HasTables) :
  entries.fact? place = some fact ↔ Says text place fact
  := by
  rw [parse?_eq] at h
  obtain ⟨said, hsaid, hbuild⟩ := Option.bind_eq_some_iff.mp h
  rw [fact?_build? hbuild htables, says_iff hsaid]

end Provision.Toml
