import Mathlib
import Provision.Proofs.Resource.Path

/-!
# Children in the order of their appearance

The names of an archive may come in any order, and directories may have entries of their own or
not. The children of a directory are the first segments of the names behind it, each once and in the
order in which they appear first. So another order of the names gives the same children in another
order, and an entry of a directory that is known from a deeper name adds nothing.
-/

namespace Provision

/-! ### First appearances -/

/-- The second list has the elements of the first one, each of them once, in the order in which they
appear first. -/
structure ListsFirsts {α : Type} [BEq α] (l firsts : List α) : Prop where
  nodup : firsts.Nodup
  mem_iff (a : α) : a ∈ firsts ↔ a ∈ l
  ordered : firsts.Pairwise fun a b => l.idxOf a < l.idxOf b

section ListsFirsts

variable {α β : Type} [BEq α] [LawfulBEq α] {l firsts others : List α}

theorem listsFirsts_eraseDups (l : List α) :
  ListsFirsts l l.eraseDups
  := by
  constructor
  · apply Children.nodup_eraseDups
  · intro a
    apply List.mem_eraseDups
  · induction l using List.reverseRecOn with
    | nil => simp
    | append_singleton l a ih =>
        have hold : l.eraseDups.Pairwise fun b c => (l ++ [a]).idxOf b < (l ++ [a]).idxOf c := by
          apply ih.imp_of_mem
          intro b c hb hc hlt
          rwa [List.idxOf_append_of_mem (List.mem_eraseDups.mp hb),
            List.idxOf_append_of_mem (List.mem_eraseDups.mp hc)]
        rw [Children.eraseDups_concat]
        split_ifs with ha
        · apply hold
        · rw [List.pairwise_append]
          use hold, by simp
          intro b hb c hc
          obtain rfl := List.mem_singleton.mp hc
          have hmem := List.mem_eraseDups.mp hb
          rw [List.idxOf_append_of_mem hmem, List.idxOf_append_of_notMem ha]
          have hlt := List.idxOf_lt_length_of_mem hmem
          omega

omit [LawfulBEq α] in
/-- There is only one such list. -/
theorem ListsFirsts.unique (h : ListsFirsts l firsts) (h' : ListsFirsts l others) :
  firsts = others
  := by
  have hperm : firsts.Perm others := by
    rw [List.perm_ext_iff_of_nodup h.nodup h'.nodup]
    intro a
    rw [h.mem_iff, h'.mem_iff]
  apply hperm.eq_of_pairwise _ h.ordered h'.ordered
  intro a b _ _ hab hba
  omega

theorem listsFirsts_iff :
  ListsFirsts l firsts ↔ firsts = l.eraseDups
  := by
  constructor
  · intro h
    apply h.unique (listsFirsts_eraseDups l)
  · rintro rfl
    apply listsFirsts_eraseDups

/-- First appearances stay first under other names. -/
theorem eraseDups_map [BEq β] [LawfulBEq β] {f : α → β}
    (hf : Function.Injective f) (l : List α) :
  (l.map f).eraseDups = l.eraseDups.map f
  := by
  induction l using List.reverseRecOn with
  | nil => simp
  | append_singleton l a ih =>
      rw [List.map_append, List.map_singleton, Children.eraseDups_concat,
        Children.eraseDups_concat, ih]
      by_cases ha : a ∈ l
      · rw [if_pos ha, if_pos ((List.mem_map_of_injective hf).mpr ha)]
      · rw [if_neg ha, if_neg fun h => ha ((List.mem_map_of_injective hf).mp h), List.map_append,
          List.map_singleton]

end ListsFirsts

namespace Children

open ResourcePath (normalize)

variable {names names' : List String} {directory name child : String} {found : List String}

/-! ### Names behind a directory -/

/-- The name is that of the directory, or begins with it and a slash. -/
def IsAtOrBelow (directory name : String) : Prop :=
  name = directory ∨ (directory ++ "/").toList <+: name.toList

instance (directory name : String) : Decidable (IsAtOrBelow directory name) :=
  inferInstanceAs (Decidable (name = directory ∨ (directory ++ "/").toList <+: name.toList))

/-- What the names below a directory begin with. -/
def opening (directory : String) : List Char :=
  if directory = "" then [] else (directory ++ "/").toList

/-- The first segment of a name behind a directory, unless the name is that of the directory or the
segment is empty. -/
def segmentBelow? (directory name : String) : Option String :=
  if name ≠ directory ∧ opening directory <+: name.toList then
    (((name.toList.drop (opening directory).length).splitOn '/').head?.map String.ofList).filter
      (· ≠ "")
  else none

theorem below?_eq_some_iff_opening {rest : List Char} :
  below? directory.toList name.toList = some rest ↔ name.toList = opening directory ++ rest
  := by
  by_cases htop : directory = ""
  · subst htop
    simp [below?, opening]
  · have hne : directory.toList.isEmpty = false := by simpa using htop
    rw [below?, hne, if_neg Bool.false_ne_true, List.isPrefixOf?_eq_some_iff_append_eq, opening,
      if_neg htop, String.toList_append]
    apply eq_comm

/-- The name of a directory has nothing behind the directory. -/
theorem ne_opening_append {segment rest : List Char} (h : segment ≠ []) :
  directory.toList ≠ opening directory ++ (segment ++ rest)
  := by
  intro heq
  have hlength := congrArg List.length heq
  have hsegment := List.length_pos_iff.mpr h
  by_cases htop : directory = ""
  · subst htop
    simp [opening] at heq
    exact h heq.1
  · simp only [opening, if_neg htop, String.toList_append, List.length_append] at hlength
    omega

theorem head?_splitOn (s : List Char) :
  (s.splitOn '/').head? = some (s.takeWhile (· != '/'))
  := by
  have hsplit : ∃ more, Segments.split (· == '/') s = s.takeWhile (· != '/') :: more :=
    Segments.exists_split_eq_takeWhile_cons s
  obtain ⟨more, hmore⟩ := hsplit
  rw [← Segments.split_eq_splitOn, hmore, List.head?_cons]

/-- The child through which a name leads is its segment behind the directory. -/
theorem segmentBelow?_eq (directory name : String) :
  segmentBelow? directory name = (child? directory.toList name.toList).map String.ofList
  := by
  by_cases hname : name = directory
  · simp [segmentBelow?, child?, hname]
  · have hlist : name.toList ≠ directory.toList := fun h => hname (String.toList_injective h)
    rw [segmentBelow?, child?, if_neg hlist]
    cases hbelow : below? directory.toList name.toList with
    | none =>
        have hopening : ¬ opening directory <+: name.toList := by
          rintro ⟨rest, hrest⟩
          rw [below?_eq_some_iff_opening.mpr hrest.symm] at hbelow
          cases hbelow
        simp [hopening]
    | some rest =>
        have hrest := below?_eq_some_iff_opening.mp hbelow
        have hopening : opening directory <+: name.toList := by
          rw [hrest]
          apply List.prefix_append
        rw [if_pos ⟨hname, hopening⟩, hrest, List.drop_left, head?_splitOn, Option.map_some,
          Option.map_some, Option.filter_some, Option.filter_some]
        by_cases hempty : rest.takeWhile (· != '/') = []
        · simp [hempty]
        · simp [hempty]

/-- A name leads to a segment below the directory if the segment stands behind the directory and its
slash, up to the end of the name or to another slash. -/
theorem segmentBelow?_eq_some_iff :
  segmentBelow? directory name = some child
    ↔ child ≠ "" ∧ '/' ∉ child.toList
      ∧ ∃ rest, name.toList = opening directory ++ (child.toList ++ rest)
        ∧ ∀ c, rest.head? = some c → c = '/'
  := by
  constructor
  · intro h
    rw [segmentBelow?] at h
    split_ifs at h with hname
    obtain ⟨-, below, hbelow⟩ := hname
    rw [← hbelow, List.drop_left, head?_splitOn, Option.map_some] at h
    obtain ⟨hchild, hne⟩ := Option.filter_eq_some_iff.mp h
    obtain rfl := Option.some.inj hchild
    use by simpa using hne
    rw [String.toList_ofList]
    constructor
    · intro hmem
      have hslash := List.mem_takeWhile_imp hmem
      simp at hslash
    · use below.dropWhile (· != '/')
      rw [List.takeWhile_append_dropWhile, hbelow]
      use rfl
      intro c hc
      have hstop := List.head?_dropWhile_not (· != '/') below
      simpa [hc] using hstop
  · rintro ⟨hne, hslash, rest, hname, hrest⟩
    have hother : name ≠ directory := by
      rintro rfl
      apply ne_opening_append (by simpa using hne) hname
    have hopening : opening directory <+: name.toList := by
      rw [hname]
      apply List.prefix_append
    have hfirst : (child.toList ++ rest).takeWhile (· != '/') = child.toList := by
      apply Segments.takeWhile_append_of_head?
      · intro c hc
        rw [bne_iff_ne]
        rintro rfl
        exact hslash hc
      · intro c hc
        simp [hrest c hc]
    rw [segmentBelow?, if_pos ⟨hother, hopening⟩, hname, List.drop_left, head?_splitOn, hfirst,
      Option.map_some, String.ofList_toList, Option.filter_some, if_pos (by simpa using hne)]

/-- The segments behind a directory are the children through which the names lead. -/
theorem filterMap_segmentBelow? (names : List String) (directory : String) :
  names.filterMap (segmentBelow? directory)
    = ((names.map String.toList).filterMap (child? directory.toList)).map String.ofList
  := by
  rw [List.filterMap_map, List.map_filterMap]
  congr 1
  funext name
  apply segmentBelow?_eq

/-! ### The children of a directory -/

theorem shows_iff_isAtOrBelow (htop : directory ≠ "") :
  shows directory.toList name.toList = true ↔ IsAtOrBelow directory name
  := by
  have hopening : opening directory = (directory ++ "/").toList := if_neg htop
  rw [shows, Bool.or_eq_true, beq_iff_eq, String.toList_inj, Option.isSome_iff_exists, IsAtOrBelow,
    ← hopening]
  apply or_congr_right
  apply exists_congr
  intro rest
  rw [below?_eq_some_iff_opening]
  apply eq_comm

/-- The top is always there, and any other directory if a name is at or below it. -/
def IsThere (names : List String) (directory : String) : Prop :=
  directory = "" ∨ ∃ name ∈ names, IsAtOrBelow directory name

instance (names : List String) (directory : String) : Decidable (IsThere names directory) :=
  inferInstanceAs (Decidable (directory = "" ∨ ∃ name ∈ names, IsAtOrBelow directory name))

theorem isThere_iff :
  IsThere names directory
    ↔ directory = "" ∨ (names.map String.toList).any (shows directory.toList) = true
  := by
  rw [IsThere]
  by_cases htop : directory = ""
  · simp [htop]
  · simp [htop, shows_iff_isAtOrBelow htop]

/-- If a directory is there, its children are the segments behind it. -/
theorem children?_eq_segments (names : List String) (directory : String) :
  children? names directory
    = if IsThere names directory then some (names.filterMap (segmentBelow? directory)).eraseDups
      else none
  := by
  rw [children?_eq, filterMap_segmentBelow?, eraseDups_map fun _ _ => String.ofList_injective]
  simp only [← isThere_iff]

/-- There is no answer for a directory exactly if it is not there. -/
theorem children?_eq_none_iff :
  children? names directory = none ↔ ¬ IsThere names directory
  := by
  rw [children?_eq_segments]
  split_ifs with hthere
  · simp [hthere]
  · simp [hthere]

/-- The children of a directory that is there are the segments behind it, each once and in the order
of their first appearance. -/
theorem children?_eq_some_iff :
  children? names directory = some found
    ↔ IsThere names directory ∧ ListsFirsts (names.filterMap (segmentBelow? directory)) found
  := by
  rw [children?_eq_segments, listsFirsts_iff]
  split_ifs with hthere
  · simp [hthere, eq_comm]
  · simp [hthere]

/-! ### Other lists of names -/

/-- Names that show the same directory and lead to the same segments have the same children, if in
another order. -/
theorem perm_children? (hthere : IsThere names directory ↔ IsThere names' directory)
    (hsegments : ∀ child, child ∈ names.filterMap (segmentBelow? directory)
      ↔ child ∈ names'.filterMap (segmentBelow? directory)) :
  Option.Rel List.Perm (children? names directory) (children? names' directory)
  := by
  rw [children?_eq_segments, children?_eq_segments]
  by_cases h : IsThere names directory
  · rw [if_pos h, if_pos (hthere.mp h), Option.rel_some_some,
      List.perm_ext_iff_of_nodup (nodup_eraseDups _) (nodup_eraseDups _)]
    intro child
    rw [List.mem_eraseDups, List.mem_eraseDups, hsegments]
  · rw [if_neg h, if_neg fun h' => h (hthere.mpr h')]
    apply Option.Rel.none

/-- Another order of the names changes nothing but the order of the children. -/
theorem perm_children?_of_perm (h : names.Perm names') (directory : String) :
  Option.Rel List.Perm (children? names directory) (children? names' directory)
  := by
  apply perm_children?
  · simp only [IsThere, h.mem_iff]
  · intro child
    apply (h.filterMap _).mem_iff

/-! ### Entries of directories -/

variable {entry : String}

/-- The names that begin with the entry of a directory show every directory that the entry shows. -/
theorem isAtOrBelow_of_entry (hlast : directory.toList.getLast? ≠ some '/')
    (hentry : (entry ++ "/").toList <+: name.toList) (h : IsAtOrBelow directory (entry ++ "/")) :
  IsAtOrBelow directory name
  := by
  obtain rfl | hbelow := h
  · simp at hlast
  · right
    apply hbelow.trans hentry

/-- The entry of a directory leads to no segment other than that of the names that begin with it. -/
theorem segmentBelow?_of_entry (hentry : (entry ++ "/").toList <+: name.toList)
    (h : segmentBelow? directory (entry ++ "/") = some child) :
  segmentBelow? directory name = some child
  := by
  obtain ⟨hne, hslash, rest, hname, hrest⟩ := segmentBelow?_eq_some_iff.mp h
  obtain ⟨more, hmore⟩ := hentry
  apply segmentBelow?_eq_some_iff.mpr
  use hne, hslash, rest ++ more
  constructor
  · rw [← hmore, hname, List.append_assoc, List.append_assoc]
  · -- The entry ends in a slash, so the segment ends before that.
    have hrestne : rest ≠ [] := by
      rintro rfl
      have hend := congrArg List.getLast? hname
      rw [List.append_nil, List.getLast?_append_of_ne_nil _ (by simpa using hne)] at hend
      apply hslash
      apply List.mem_of_getLast? (hend.symm.trans (by simp))
    intro c hc
    rw [List.head?_append_of_ne_nil rest hrestne] at hc
    apply hrest c hc

/-- An entry of a directory that another name leads through changes nothing but the order of the
children. -/
theorem perm_children?_of_entry (hlast : directory.toList.getLast? ≠ some '/')
    {front back : List String} (hname : name ∈ front ++ back)
    (hentry : (entry ++ "/").toList <+: name.toList) :
  Option.Rel List.Perm (children? (front ++ (entry ++ "/") :: back) directory)
    (children? (front ++ back) directory)
  := by
  have hexists (P : String → Prop) (hP : P (entry ++ "/") → P name) :
      (∃ other ∈ front ++ (entry ++ "/") :: back, P other) ↔ ∃ other ∈ front ++ back, P other := by
    constructor
    · rintro ⟨other, hother, h⟩
      obtain rfl | hother : other = entry ++ "/" ∨ other ∈ front ++ back := by
        simp only [List.mem_append, List.mem_cons] at hother ⊢
        tauto
      · use name, hname, hP h
      · use other, hother, h
    · rintro ⟨other, hother, h⟩
      use other, List.Sublist.subset (by simp) hother, h
  apply perm_children?
  · rw [IsThere, IsThere, hexists _ (isAtOrBelow_of_entry hlast hentry)]
  · intro child
    rw [List.mem_filterMap, List.mem_filterMap, hexists _ (segmentBelow?_of_entry hentry)]

/-- Whatever the names of an archive and their order, a directory is missing exactly if it is not the
top and no name is that of the directory or begins with it and a slash. Otherwise its children are
the first segments of the names behind it, as far as they are not empty, each once and in the order
of their first appearance; none of them has a slash. In another order the names give the same
children in another order, and so they do with or without an entry for a directory that another name
leads through. -/
theorem children?_listsFirsts :
  (∀ (names : List String) (directory : String),
      (children? names directory = none
        ↔ directory ≠ "" ∧ ∀ name ∈ names,
          name ≠ directory ∧ ¬ (directory ++ "/").toList <+: name.toList)
      ∧ ∀ found, children? names directory = some found ↔
        (directory = "" ∨ ∃ name ∈ names,
            name = directory ∨ (directory ++ "/").toList <+: name.toList)
          ∧ ListsFirsts (names.filterMap (segmentBelow? directory)) found)
    ∧ (∀ (names : List String) (directory : String) (found : List String),
      children? names directory = some found → ∀ child ∈ found, child ≠ "" ∧ '/' ∉ child.toList)
    ∧ (∀ (names names' : List String) (directory : String), names.Perm names' →
      Option.Rel List.Perm (children? names directory) (children? names' directory))
    ∧ ∀ path directory : String, normalize path = .ok directory →
      ∀ (front back : List String) (entry name : String), name ∈ front ++ back →
        (entry ++ "/").toList <+: name.toList →
        Option.Rel List.Perm (children? (front ++ (entry ++ "/") :: back) directory)
          (children? (front ++ back) directory)
  := by
  constructor
  · intro names directory
    constructor
    · rw [children?_eq_none_iff, IsThere]
      simp only [IsAtOrBelow, not_or, not_exists, not_and]
    · intro found
      apply children?_eq_some_iff
  · constructor
    · intro names directory found h child hchild
      obtain ⟨-, hfirsts⟩ := children?_eq_some_iff.mp h
      obtain ⟨name, -, hname⟩ := List.mem_filterMap.mp ((hfirsts.mem_iff child).mp hchild)
      obtain ⟨hne, hslash, -⟩ := segmentBelow?_eq_some_iff.mp hname
      use hne, hslash
    · constructor
      · intro names names' directory h
        apply perm_children?_of_perm h
      · intro path directory h front back entry name hname hentry
        have hlast := (ResourcePath.hasSingleSlashes_of_normalize h).last
        apply perm_children?_of_entry hlast hname hentry

/-- Names that are mixed: one is that of the directory, one begins like it, and one has nothing
behind its slash. -/
theorem children?_listsFirsts_small :
  let names := ["sql/nested/c.sql", "sqlite/x", "sql//odd", "sql/a.sql", "sql", "sql/nested/d.sql"]
  let other := ["sql/a.sql", "sqlite/x", "sql//odd", "sql/nested/c.sql", "sql", "sql/nested/d.sql"]
  children? names "sql" = some ["nested", "a.sql"]
    ∧ ListsFirsts (names.filterMap (segmentBelow? "sql")) ["nested", "a.sql"]
    ∧ (∀ child ∈ ["nested", "a.sql"], child ≠ "" ∧ '/' ∉ child.toList)
    ∧ children? names "nested" = none
    ∧ (∀ name ∈ names, name ≠ "nested" ∧ ¬ ("nested" ++ "/").toList <+: name.toList)
    ∧ names.Perm other
    ∧ Option.Rel List.Perm (children? names "sql") (children? other "sql")
    ∧ normalize "./sql/" = .ok "sql"
    ∧ "sql/nested/c.sql" ∈ ["sql/a.sql"] ++ ["sql/nested/c.sql"]
    ∧ ("sql/nested" ++ "/").toList <+: "sql/nested/c.sql".toList
    ∧ Option.Rel List.Perm
      (children? (["sql/a.sql"] ++ ["sql/nested" ++ "/", "sql/nested/c.sql"]) "sql")
      (children? (["sql/a.sql"] ++ ["sql/nested/c.sql"]) "sql")
  := by
  intro names other
  obtain ⟨hfirsts, hsegments, hperm, hentry⟩ := children?_listsFirsts
  have hfound : children? names "sql" = some ["nested", "a.sql"] := by decide +kernel
  have hmissing : children? names "nested" = none := by decide +kernel
  have hother : names.Perm other := by decide +kernel
  have hnormal : normalize "./sql/" = .ok "sql" := by decide +kernel
  have hmem : "sql/nested/c.sql" ∈ ["sql/a.sql"] ++ ["sql/nested/c.sql"] := by decide
  have hbelow : ("sql/nested" ++ "/").toList <+: "sql/nested/c.sql".toList := by decide +kernel
  use hfound, (((hfirsts names "sql").2 _).mp hfound).2, hsegments names "sql" _ hfound, hmissing,
    ((hfirsts names "nested").1.mp hmissing).2, hother, hperm names other "sql" hother, hnormal,
    hmem, hbelow
  apply hentry "./sql/" "sql" hnormal ["sql/a.sql"] ["sql/nested/c.sql"] "sql/nested" _ hmem hbelow

end Children

end Provision
