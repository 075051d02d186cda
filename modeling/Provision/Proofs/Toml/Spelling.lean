import Mathlib
import Provision.Proofs.Toml.Statements

/-!
# Spellings of a table

The entries of a table can be written one by one with dots in their keys, below a header, or
in braces. However they are written and in whichever order, the document says the same.
-/

namespace Provision.Toml

variable {top inner : Entries} {key : String} {value : Value} {statements : List Statement}
  {place rest : List Step} {fact : Fact} {home path : List String} {entries : Entries}

/-- Statements that give the entries to the table at a path, one by one. -/
def assigns (path : List String) (entries : Entries) : List Statement :=
  entries.map fun entry => .assign path entry.1 entry.2

/-- The statements write entries at the top and a table of entries below a key, in one of the
ways there are and in any order. -/
inductive Spells (top : Entries) (key : String) (inner : Entries) : List Statement → Prop where
  | dotted {statements : List Statement} :
    statements.Perm (assigns [] top ++ assigns [key] inner) → Spells top key inner statements
  | header {top' inner' : Entries} : top'.Perm top → inner'.Perm inner →
    Spells top key inner (assigns [] top' ++ .header [] key :: assigns [] inner')
  | inline {inner' all : Entries} : inner'.Perm inner →
    all.Perm (top ++ [(key, .table .inline inner')]) → Spells top key inner (assigns [] all)

/-- What a table of entries says. -/
def InTable (entries : Entries) (place : List Step) (fact : Fact) : Prop :=
  place = [] ∧ fact = .table ∨ ∃ entry ∈ entries, Below entry.1 entry.2 place fact

/-- What entries at the top and a table of entries below a key say. -/
def SaidOf (top : Entries) (key : String) (inner : Entries) (place : List Step) (fact : Fact) :
    Prop :=
  InTable top place fact ∨ ∃ rest, place = .key key :: rest ∧ InTable inner rest fact

theorem inTable_perm {entries' : Entries} (h : entries.Perm entries') :
  InTable entries place fact ↔ InTable entries' place fact
  := by
  simp only [InTable, h.mem_iff]

/-! ### What is said -/

/-- Statements that leave the table that keys belong to say each for itself. -/
theorem said_append (h : ∀ statement ∈ statements, statement.homeAfter home = home)
    (others : List Statement) :
  Said home (statements ++ others) place fact
    ↔ (∃ statement ∈ statements, statement.Says home place fact) ∨ Said home others place fact
  := by
  induction statements with
  | nil => simp
  | cons statement rest ih =>
      have hrest := ih fun other hother => h other (List.mem_cons_of_mem statement hother)
      rw [List.cons_append, Said, h statement List.mem_cons_self, hrest, List.exists_mem_cons_iff,
        or_assoc]

theorem homeAfter_of_mem_assigns {statement : Statement} (h : statement ∈ assigns path entries) :
  statement.homeAfter home = home
  := by
  obtain ⟨entry, -, rfl⟩ := List.mem_map.mp h
  rfl

theorem exists_mem_assigns_iff :
  (∃ statement ∈ assigns path entries, statement.Says home place fact)
    ↔ ∃ entry ∈ entries, Along (Along (Below entry.1 entry.2) path) home place fact
  := by
  constructor
  · rintro ⟨statement, hstatement, halong⟩
    obtain ⟨entry, hentry, rfl⟩ := List.mem_map.mp hstatement
    use entry, hentry, halong
  · rintro ⟨entry, hentry, halong⟩
    use .assign path entry.1 entry.2, List.mem_map_of_mem hentry, halong

/-- The entries at the top say what they say below no keys. -/
theorem exists_along_or_iff {others : Prop} (h : place = [] ∧ fact = .table → others) :
  (∃ entry ∈ entries, Along (Along (Below entry.1 entry.2) []) [] place fact) ∨ others
    ↔ InTable entries place fact ∨ others
  := by
  simp only [along_nil_iff, InTable]
  constructor
  · rintro (⟨entry, hentry, hroot | hroot | hbelow⟩ | hothers)
    · right
      apply h hroot
    · right
      apply h hroot
    · left
      right
      use entry, hentry
    · right
      apply hothers
  · rintro ((hroot | ⟨entry, hentry, hbelow⟩) | hothers)
    · right
      apply h hroot
    · left
      use entry, hentry
      right
      right
      apply hbelow
    · right
      apply hothers

/-- A key in front of an entry says that there is a table below the key, and then what the entry
says. It does not matter whether it stands in a header or in front of a dot. -/
theorem along_key_iff {key : String} {Adds : List Step → Fact → Prop} :
  (Along (Along Adds [key]) [] place fact
      ↔ place = [] ∧ fact = .table
        ∨ ∃ rest, place = .key key :: rest ∧ (rest = [] ∧ fact = .table ∨ Adds rest fact))
    ∧ (Along (Along Adds []) [key] place fact
      ↔ place = [] ∧ fact = .table
        ∨ ∃ rest, place = .key key :: rest ∧ (rest = [] ∧ fact = .table ∨ Adds rest fact))
  := by
  simp only [along_nil_iff, along_cons_iff]
  constructor
  · rw [← or_assoc, or_self]
  · simp only [← or_assoc, or_self]

theorem exists_along_key_iff (hinner : inner ≠ []) :
  (∃ entry ∈ inner, place = [] ∧ fact = .table ∨ ∃ rest, place = .key key :: rest
      ∧ (rest = [] ∧ fact = .table ∨ Below entry.1 entry.2 rest fact))
      ∨ place = [] ∧ fact = .table
    ↔ (∃ rest, place = .key key :: rest ∧ InTable inner rest fact) ∨ place = [] ∧ fact = .table
  := by
  constructor
  · rintro (⟨entry, hentry, hroot | ⟨rest, hplace, hroot | hbelow⟩⟩ | hroot)
    · right
      apply hroot
    · left
      use rest, hplace, .inl hroot
    · left
      use rest, hplace, .inr ⟨entry, hentry, hbelow⟩
    · right
      apply hroot
  · rintro (⟨rest, hplace, hroot | ⟨entry, hentry, hbelow⟩⟩ | hroot)
    · left
      obtain ⟨entry, hentry⟩ := List.exists_mem_of_ne_nil inner hinner
      use entry, hentry, .inr ⟨rest, hplace, .inl hroot⟩
    · left
      use entry, hentry, .inr ⟨rest, hplace, .inr hbelow⟩
    · right
      apply hroot

/-! ### Tables in braces -/

theorem get?_eq_some_iff (h : (entries.map Prod.fst).Nodup) :
  entries.get? key = some value ↔ (key, value) ∈ entries
  := by
  induction entries with
  | nil => simp [Entries.get?]
  | cons entry rest ih =>
      obtain ⟨name, found⟩ := entry
      obtain ⟨hname, hrest⟩ := List.nodup_cons.mp h
      rw [Entries.get?_cons, List.mem_cons, Prod.mk.injEq]
      split_ifs with heq
      · subst heq
        constructor
        · intro hfound
          left
          use rfl, (Option.some.inj hfound).symm
        · rintro (⟨-, rfl⟩ | hmem)
          · rfl
          · exact absurd (List.mem_map_of_mem hmem) hname
      · rw [ih hrest]
        simp [heq]

/-- A table with different keys says what its entries say. -/
theorem fact?_iff_inTable (h : (entries.map Prod.fst).Nodup) :
  entries.fact? place = some fact ↔ InTable entries place fact
  := by
  cases place with
  | nil =>
      rw [Entries.fact?_nil, Option.some.injEq, InTable]
      constructor
      · rintro rfl
        left
        constructor <;> rfl
      · rintro (⟨-, rfl⟩ | ⟨entry, -, rest, hrest, -⟩)
        · rfl
        · cases hrest
  | cons step rest =>
      rw [InTable]
      constructor
      · intro hfact
        cases step with
        | item index => cases hfact
        | key name =>
            obtain ⟨value, hvalue, hfact⟩ := Option.bind_eq_some_iff.mp hfact
            right
            use (name, value), (get?_eq_some_iff h).mp hvalue, rest, rfl, hfact
      · rintro (⟨hnil, -⟩ | ⟨⟨name, value⟩, hentry, below, hbelow, hfact⟩)
        · cases hnil
        · obtain ⟨rfl, rfl⟩ := List.cons.inj hbelow
          rw [Entries.fact?_key, (get?_eq_some_iff h).mpr hentry]
          apply hfact

/-! ### All spellings -/

theorem saidOf_iff :
  SaidOf top key inner place fact
    ↔ InTable top place fact
      ∨ (∃ rest, place = .key key :: rest ∧ InTable inner rest fact) ∨ place = [] ∧ fact = .table
  := by
  rw [SaidOf, ← or_assoc]
  symm
  apply or_iff_left_of_imp
  intro hroot
  left
  left
  apply hroot

theorem Spells.said_iff_dotted
    (h : statements.Perm (assigns [] top ++ assigns [key] inner)) (hinner : inner ≠ []) :
  Said [] statements place fact ↔ SaidOf top key inner place fact
  := by
  have hhome : ∀ statement ∈ statements, statement.homeAfter [] = [] := by
    intro statement hstatement
    obtain hstatement | hstatement := List.mem_append.mp (h.mem_iff.mp hstatement)
    · apply homeAfter_of_mem_assigns hstatement
    · apply homeAfter_of_mem_assigns hstatement
  have hall : Said [] statements place fact
      ↔ (∃ statement ∈ statements, statement.Says [] place fact) ∨ place = [] ∧ fact = .table := by
    rw [← List.append_nil statements, said_append hhome, List.append_nil]
    rfl
  have hsplit : (∃ statement ∈ statements, statement.Says [] place fact)
      ↔ (∃ statement ∈ assigns [] top, statement.Says [] place fact)
        ∨ ∃ statement ∈ assigns [key] inner, statement.Says [] place fact := by
    simp only [h.mem_iff, List.mem_append, or_and_right, exists_or]
  rw [hall, hsplit, exists_mem_assigns_iff, exists_mem_assigns_iff, or_assoc,
    exists_along_or_iff Or.inr, saidOf_iff]
  simp only [along_key_iff.1]
  rw [exists_along_key_iff hinner]

theorem Spells.said_iff_header {top' inner' : Entries} (htop : top'.Perm top)
    (hperm : inner'.Perm inner) (hinner : inner ≠ []) :
  Said [] (assigns [] top' ++ .header [] key :: assigns [] inner') place fact
    ↔ SaidOf top key inner place fact
  := by
  have hinner' : inner' ≠ [] := by
    rintro rfl
    exact hinner hperm.nil_eq.symm
  have hbelow : Said [key] (assigns [] inner') place fact
      ↔ (∃ rest, place = .key key :: rest ∧ InTable inner' rest fact)
        ∨ place = [] ∧ fact = .table := by
    have hhome : ∀ statement ∈ assigns [] inner', statement.homeAfter [key] = [key] :=
      fun _ => homeAfter_of_mem_assigns
    rw [← List.append_nil (assigns [] inner'), said_append hhome, exists_mem_assigns_iff]
    simp only [along_key_iff.2]
    apply exists_along_key_iff hinner'
  have hheader : (Statement.header [] key).Says [] place fact → place = [] ∧ fact = .table
      ∨ ∃ rest, place = .key key :: rest ∧ InTable inner' rest fact := by
    intro halong
    obtain hroot | ⟨rest, rfl, hfact⟩ := along_nil_iff.mp halong
    · left
      apply hroot
    · right
      rw [Entries.fact?_table] at hfact
      use rest, rfl, .inl (Entries.of_fact?_nil hfact)
  rw [said_append fun _ => homeAfter_of_mem_assigns, exists_mem_assigns_iff,
    exists_along_or_iff, inTable_perm htop, saidOf_iff, Said]
  · have hhome : (Statement.header [] key).homeAfter [] = [key] := rfl
    rw [hhome, hbelow, or_iff_right_of_imp fun halong => (hheader halong).symm]
    simp only [inTable_perm hperm]
  · rintro ⟨rfl, rfl⟩
    apply said_table

theorem Spells.said_iff_inline {inner' all : Entries} (hperm : inner'.Perm inner)
    (hall : all.Perm (top ++ [(key, .table .inline inner')]))
    (hnodup : (inner.map Prod.fst).Nodup) :
  Said [] (assigns [] all) place fact ↔ SaidOf top key inner place fact
  := by
  have hnodup' : (inner'.map Prod.fst).Nodup := ((hperm.map Prod.fst).nodup_iff).mpr hnodup
  have hbelow : Below key (.table .inline inner') place fact
      ↔ ∃ rest, place = .key key :: rest ∧ InTable inner rest fact := by
    simp only [Below, Entries.fact?_table, fact?_iff_inTable hnodup', inTable_perm hperm]
  have htable : InTable all place fact
      ↔ InTable top place fact ∨ Below key (.table .inline inner') place fact := by
    rw [inTable_perm hall, InTable, InTable]
    simp only [List.mem_append, List.mem_singleton, or_and_right, exists_or, exists_eq_left,
      or_assoc]
  rw [← List.append_nil (assigns [] all), said_append fun _ => homeAfter_of_mem_assigns,
    exists_mem_assigns_iff, exists_along_or_iff, htable, hbelow, saidOf_iff, or_assoc]
  · rfl
  · apply id

/-- Whichever way entries are written, they are what is said. -/
theorem Spells.said_iff (h : Spells top key inner statements) (hinner : inner ≠ [])
    (hnodup : (inner.map Prod.fst).Nodup) :
  Said [] statements place fact ↔ SaidOf top key inner place fact
  := by
  cases h with
  | dotted hperm => apply Spells.said_iff_dotted hperm hinner
  | header htop hperm => apply Spells.said_iff_header htop hperm hinner
  | inline hperm hall => apply Spells.said_iff_inline hperm hall hnodup

/-! ### Keys that differ -/

/-- The path and the key that a statement is about. -/
def Statement.target : Statement → List String × String
  | .header path key => (path, key)
  | .arrayHeader path key => (path, key)
  | .assign path key _ => (path, key)

section Change

variable {form form' : TableForm} {name : String} {byDots entered : Bool} {inner' : Entries}
  {change : TableForm → Entries → Option Entries}

theorem add?_of_get? (form : TableForm) (hentered : ¬ (entered = true ∧ form ≠ .dotted))
    (h : entries.get? name = none) :
  Entries.add? entered name value form entries = some (entries ++ [(name, value)])
  := by
  rw [Entries.add?, if_neg hentered, if_neg (by simp [h])]

theorem alter?_of_none (h : entries.get? key = none)
    (hinner : Entries.alter? byDots change path (if byDots then .dotted else .implied) []
      = some inner') :
  Entries.alter? byDots change (key :: path) form entries
    = some (entries ++ [(key, .table (if byDots then .dotted else .implied) inner')])
  := by
  rw [Entries.alter?]
  simp only [h, hinner]
  rfl

theorem alter?_of_table (h : entries.get? key = some (.table form' inner))
    (hform : ¬ (form' = .inline ∨ byDots = true ∧ form' = .header))
    (hinner : Entries.alter? byDots change path form' inner = some inner') :
  Entries.alter? byDots change (key :: path) form entries
    = some (entries.replace key (.table form' inner'))
  := by
  rw [Entries.alter?]
  simp only [h, if_neg hform, hinner]
  rfl

end Change

section Run

variable {name : String}

theorem alter?_assign?_of_get? (h : entries.get? name = none) :
  Entries.alter? false (Entries.assign? [] name value) [] .header entries
    = some (entries ++ [(name, value)])
  := by
  have hadd : Entries.add? (!([] : List String).isEmpty) name value .header entries
      = some (entries ++ [(name, value)]) := add?_of_get? .header (by simp) h
  apply hadd

/-- A new key at the top. -/
theorem add?_assign_top (value : Value) (h : entries.get? name = none) :
  Draft.add? ⟨entries, []⟩ (.assign [] name value) = some ⟨entries ++ [(name, value)], []⟩
  := by
  simp only [Draft.add?, alter?_assign?_of_get? h]
  rfl

/-- A new key below a header. -/
theorem add?_assign_below (value : Value) (hkey : entries.get? key = some (.table .header inner))
    (h : inner.get? name = none) :
  Draft.add? ⟨entries, [key]⟩ (.assign [] name value)
    = some ⟨entries.replace key (.table .header (inner ++ [(name, value)])), [key]⟩
  := by
  have hadd : Entries.alter? false (Entries.assign? [] name value) [key] .header entries
      = some (entries.replace key (.table .header (inner ++ [(name, value)]))) := by
    apply alter?_of_table hkey (by simp) (alter?_assign?_of_get? h)
  simp only [Draft.add?, hadd]
  rfl

/-- A new key behind a dot: in a new table, or in one that dots have made. -/
theorem exists_add?_assign_dotted (hkey : entries.get? key = none ∧ inner = []
      ∨ entries.get? key = some (.table .dotted inner))
    (h : inner.get? name = none) :
  ∃ entries', Draft.add? ⟨entries, []⟩ (.assign [key] name value) = some ⟨entries', []⟩
    ∧ ∀ other, Entries.get? entries' other
      = if other = key then some (.table .dotted (inner ++ [(name, value)]))
        else entries.get? other
  := by
  have hinner : Entries.alter? true (Entries.add? true name value) [] .dotted inner
      = some (inner ++ [(name, value)]) := by
    apply add?_of_get? .dotted (by simp) h
  obtain ⟨hkey, rfl⟩ | hkey := hkey
  · have hassign : Entries.assign? [key] name value .header entries
        = some (entries ++ [(key, .table .dotted [(name, value)])]) := by
      apply alter?_of_none hkey hinner
    use entries ++ [(key, .table .dotted [(name, value)])]
    constructor
    · simp only [Draft.add?, Entries.alter?, hassign]
      rfl
    · intro other
      apply Entries.get?_append hkey
  · have hassign : Entries.assign? [key] name value .header entries
        = some (entries.replace key (.table .dotted (inner ++ [(name, value)]))) := by
      apply alter?_of_table hkey (by simp) hinner
    use entries.replace key (.table .dotted (inner ++ [(name, value)]))
    constructor
    · simp only [Draft.add?, Entries.alter?, hassign]
      rfl
    · intro other
      rw [Entries.get?_replace, hkey]
      rfl

/-- Keys that are new to entries and differ stay new when the first of them is added. -/
theorem get?_append_of_new {all : Entries} (hname : name ∉ all.map Prod.fst)
    (hnew : ∀ entry ∈ (name, value) :: all, entries.get? entry.1 = none) :
  ∀ entry ∈ all, Entries.get? (entries ++ [(name, value)]) entry.1 = none
  := by
  intro entry hentry
  rw [Entries.get?_append (hnew (name, value) List.mem_cons_self), if_neg]
  · apply hnew entry (List.mem_cons_of_mem _ hentry)
  · rintro rfl
    apply hname (List.mem_map_of_mem hentry)

/-- Assignments of new keys at the top add entries there. -/
theorem foldlM_assigns_top {all : Entries} (hnodup : (all.map Prod.fst).Nodup)
    (hnew : ∀ entry ∈ all, entries.get? entry.1 = none) :
  (assigns [] all).foldlM Draft.add? ⟨entries, []⟩ = some ⟨entries ++ all, []⟩
  := by
  induction all generalizing entries with
  | nil =>
      rw [List.append_nil]
      rfl
  | cons entry rest ih =>
      obtain ⟨name, value⟩ := entry
      obtain ⟨hname, hrest⟩ := List.nodup_cons.mp hnodup
      have hadd := add?_assign_top value (hnew (name, value) List.mem_cons_self)
      have hrun := ih hrest (get?_append_of_new hname hnew)
      rw [List.append_assoc, List.singleton_append] at hrun
      rw [assigns, List.map_cons, List.foldlM_cons, hadd]
      apply hrun

/-- Assignments of new keys below a header succeed. -/
theorem isSome_foldlM_assigns_below {all : Entries} (hnodup : (all.map Prod.fst).Nodup)
    (hkey : entries.get? key = some (.table .header inner))
    (hnew : ∀ entry ∈ all, inner.get? entry.1 = none) :
  ((assigns [] all).foldlM Draft.add? ⟨entries, [key]⟩).isSome
  := by
  induction all generalizing entries inner with
  | nil => rfl
  | cons entry rest ih =>
      obtain ⟨name, value⟩ := entry
      obtain ⟨hname, hrest⟩ := List.nodup_cons.mp hnodup
      have hadd := add?_assign_below value hkey (hnew (name, value) List.mem_cons_self)
      rw [assigns, List.map_cons, List.foldlM_cons, hadd]
      apply ih hrest
      · rw [Entries.get?_replace, if_pos rfl, hkey]
        rfl
      · apply get?_append_of_new hname hnew

/-- Assignments of new keys at the top and behind a dot succeed in any order. -/
theorem isSome_foldlM_dotted
    (hform : ∀ statement ∈ statements, (∃ name value, statement = .assign [] name value
      ∧ name ≠ key) ∨ ∃ name value, statement = .assign [key] name value)
    (hnodup : (statements.map Statement.target).Nodup)
    (htop : ∀ name value, .assign [] name value ∈ statements → entries.get? name = none)
    (hkey : entries.get? key = none ∧ inner = []
      ∨ entries.get? key = some (.table .dotted inner))
    (hinner : ∀ name value, .assign [key] name value ∈ statements → inner.get? name = none) :
  (statements.foldlM Draft.add? ⟨entries, []⟩).isSome
  := by
  induction statements generalizing entries inner with
  | nil => rfl
  | cons statement rest ih =>
      obtain ⟨hname, hrest⟩ := List.nodup_cons.mp hnodup
      have hlater : ∀ {path name value}, .assign path name value ∈ rest →
          .assign path name value ∈ statement :: rest := List.mem_cons_of_mem statement
      have hformRest := fun other hother => hform other (List.mem_cons_of_mem statement hother)
      rw [List.foldlM_cons]
      obtain ⟨name, value, rfl, hne⟩ | ⟨name, value, rfl⟩ := hform statement List.mem_cons_self
      · have hnew := htop name value List.mem_cons_self
        rw [add?_assign_top _ hnew]
        apply ih hformRest hrest _ _ fun other value hother => hinner other value (hlater hother)
        · intro other value' hother
          rw [Entries.get?_append hnew, if_neg]
          · apply htop other value' (hlater hother)
          · rintro rfl
            apply hname (List.mem_map.mpr ⟨_, hother, rfl⟩)
        · rw [Entries.get?_append hnew, if_neg hne.symm]
          apply hkey
      · obtain ⟨entries', hadd, hset⟩ :=
          exists_add?_assign_dotted hkey (hinner name value List.mem_cons_self)
        rw [hadd]
        apply ih hformRest hrest
        · intro other value' hother
          rw [hset, if_neg, htop other value' (hlater hother)]
          rintro rfl
          obtain ⟨other', value'', heq, hne⟩ | ⟨other', value'', heq⟩ := hformRest _ hother
          · obtain ⟨-, rfl, -⟩ := Statement.assign.inj heq
            exact hne rfl
          · cases heq
        · right
          rw [hset, if_pos rfl]
        · intro other value' hother
          rw [Entries.get?_append (hinner name value List.mem_cons_self), if_neg]
          · apply hinner other value' (hlater hother)
          · rintro rfl
            apply hname (List.mem_map.mpr ⟨_, hother, rfl⟩)

end Run

/-- Where keys differ at the top and behind the dots, statements are about different keys. -/
theorem nodup_target (htop : (top.map Prod.fst).Nodup) (hinner : (inner.map Prod.fst).Nodup)
    (hperm : statements.Perm (assigns [] top ++ assigns [key] inner)) :
  (statements.map Statement.target).Nodup
  := by
  have htargets : (statements.map Statement.target).Perm
      (top.map (fun entry => ([], entry.1)) ++ inner.map fun entry => ([key], entry.1)) := by
    have hmap := hperm.map Statement.target
    rw [assigns, assigns, List.map_append, List.map_map, List.map_map] at hmap
    apply hmap
  rw [htargets.nodup_iff, List.nodup_append]
  refine ⟨?_, ?_, ?_⟩
  · apply List.Nodup.of_map Prod.snd
    rw [List.map_map]
    apply htop
  · apply List.Nodup.of_map Prod.snd
    rw [List.map_map]
    apply hinner
  · rintro target hmem _ hmem' rfl
    obtain ⟨entry, -, rfl⟩ := List.mem_map.mp hmem
    obtain ⟨entry', -, heq⟩ := List.mem_map.mp hmem'
    cases heq

/-! The keys of a document that differ can be written in every way. -/

theorem Spells.isSome_build?_dotted (htop : (key :: top.map Prod.fst).Nodup)
    (hinner : (inner.map Prod.fst).Nodup)
    (hperm : statements.Perm (assigns [] top ++ assigns [key] inner)) :
  (build? statements).isSome
  := by
  obtain ⟨hkey, htop⟩ := List.nodup_cons.mp htop
  have hnodup := nodup_target htop hinner hperm
  have hform : ∀ statement ∈ statements, (∃ name value, statement = .assign [] name value
      ∧ name ≠ key) ∨ ∃ name value, statement = .assign [key] name value := by
    intro statement hstatement
    obtain hmem | hmem := List.mem_append.mp (hperm.mem_iff.mp hstatement)
    · obtain ⟨entry, hentry, rfl⟩ := List.mem_map.mp hmem
      left
      use entry.1, entry.2, rfl
      rintro rfl
      apply hkey (List.mem_map_of_mem hentry)
    · obtain ⟨entry, hentry, rfl⟩ := List.mem_map.mp hmem
      right
      use entry.1, entry.2
  rw [build?, Option.isSome_map]
  apply isSome_foldlM_dotted hform hnodup (fun _ _ _ => rfl) (.inl ⟨rfl, rfl⟩)
  intro name value _
  rfl

theorem Spells.isSome_build?_header {top' inner' : Entries}
    (htop : (key :: top'.map Prod.fst).Nodup) (hinner : (inner'.map Prod.fst).Nodup) :
  (build? (assigns [] top' ++ .header [] key :: assigns [] inner')).isSome
  := by
  obtain ⟨hkey, htop⟩ := List.nodup_cons.mp htop
  have hnew : ∀ entry ∈ top', Entries.get? [] entry.1 = none := fun _ _ => rfl
  have hnone : Entries.get? top' key = none := by
    apply List.lookup_eq_none_iff.mpr
    intro entry hentry
    rw [bne_iff_ne]
    rintro rfl
    apply hkey (List.mem_map_of_mem hentry)
  have hheader : Draft.add? ⟨top', []⟩ (.header [] key)
      = some ⟨top' ++ [(key, .table .header [])], [key]⟩ := by
    simp only [Draft.add?, Entries.alter?, Entries.open?, hnone]
    rfl
  rw [build?, Option.isSome_map, List.foldlM_append, Draft.empty, foldlM_assigns_top htop hnew]
  change (Option.bind (Draft.add? ⟨top', []⟩ (.header [] key)) _).isSome
  rw [hheader]
  apply isSome_foldlM_assigns_below hinner
  · rw [Entries.get?_append hnone, if_pos rfl]
  · intro entry hentry
    rfl

theorem isSome_build?_assigns {all : Entries} (hnodup : (all.map Prod.fst).Nodup) :
  (build? (assigns [] all)).isSome
  := by
  have hnew : ∀ entry ∈ all, Entries.get? [] entry.1 = none := fun _ _ => rfl
  rw [build?, Option.isSome_map, Draft.empty, foldlM_assigns_top hnodup hnew]
  rfl

theorem Spells.isSome_build? (h : Spells top key inner statements)
    (htop : (key :: top.map Prod.fst).Nodup) (hinner : (inner.map Prod.fst).Nodup) :
  (build? statements).isSome
  := by
  cases h with
  | dotted hperm => apply Spells.isSome_build?_dotted htop hinner hperm
  | header hperm hperm' =>
      apply Spells.isSome_build?_header
      · apply (((hperm.map Prod.fst).cons key).nodup_iff).mpr htop
      · apply ((hperm'.map Prod.fst).nodup_iff).mpr hinner
  | inline hperm hall =>
      apply isSome_build?_assigns
      rw [(hall.map Prod.fst).nodup_iff, List.map_append, List.map_singleton,
        List.nodup_append_comm]
      apply htop

end Provision.Toml
