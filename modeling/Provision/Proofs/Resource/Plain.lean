import Mathlib
import Provision.Proofs.Disk.Walk
import Provision.Proofs.Resource.Tree

/-!
# Trees on a disk

A tree that is laid out below a directory of a disk is found there name by name. A walk to a
place that the tree does not have ends at the first name that is missing, or in front of
a file that is taken for a directory.
-/

namespace Provision

open Segments (IsSegment)

/-! ### Names in a directory -/

theorem PathText.isSegment_of_mem_names {path name : String} (h : name ∈ PathText.names path) :
  IsSegment name.toList
  := by
  rw [PathText.names, List.mem_filter, List.mem_map] at h
  obtain ⟨⟨segment, hsegment, rfl⟩, -⟩ := h
  obtain ⟨hsplit, hne⟩ := List.mem_filter.mp hsegment
  rw [String.toList_ofList]
  constructor
  · simpa using hne
  · intro hslash
    have hsep := (Segments.of_mem_split hsplit '/' hslash).2
    simp at hsep

theorem Disk.nameBelow?_eq_some_iff {directory place : List String} {name : String} :
  Disk.nameBelow? directory place = some name ↔ place = directory ++ [name]
  := by
  rw [Disk.nameBelow?]
  constructor
  · intro h
    split at h
    · rename_i found hrest
      obtain rfl := Option.some.inj h
      symm
      apply List.isPrefixOf?_eq_some_iff_append_eq.mp hrest
    · cases h
  · rintro rfl
    have hrest : directory.isPrefixOf? (directory ++ [name]) = some [name] := by
      apply List.isPrefixOf?_eq_some_iff_append_eq.mpr rfl
    rw [hrest]

/-- The names in a directory are those of the places directly below it. -/
theorem Disk.mem_namesIn_iff {disk : Disk} {directory : List String} {name : String} :
  name ∈ disk.namesIn directory ↔ (disk.node? (directory ++ [name])).isSome
  := by
  rw [Disk.namesIn, List.mem_mergeSort, List.mem_filterMap, Disk.node?, if_neg (by simp),
    List.lookup_isSome_iff]
  constructor
  · rintro ⟨entry, hentry, hname⟩
    use entry, hentry
    rw [Disk.nameBelow?_eq_some_iff.mp hname]
    apply beq_self_eq_true
  · rintro ⟨entry, hentry, hplace⟩
    use entry, hentry
    rw [Disk.nameBelow?_eq_some_iff]
    symm
    apply eq_of_beq hplace

/-- On a disk with one thing at each place, the names in a directory are different. -/
theorem Disk.nodup_namesIn {disk : Disk} (h : (disk.nodes.map Prod.fst).Nodup)
    (directory : List String) :
  (disk.namesIn directory).Nodup
  := by
  rw [Disk.namesIn, (List.mergeSort_perm _ _).nodup_iff]
  have hmap : (disk.nodes.filterMap fun entry => Disk.nameBelow? directory entry.1)
      = (disk.nodes.map Prod.fst).filterMap (Disk.nameBelow? directory) := by
    rw [List.filterMap_map]
    rfl
  rw [hmap]
  apply h.filterMap
  intro place place' name hname hname'
  rw [Disk.nameBelow?_eq_some_iff.mp hname, Disk.nameBelow?_eq_some_iff.mp hname']

theorem Disk.find_of_node? {disk : Disk} {path : String} {place : List String} {node : DiskNode}
    (hpath : disk.place path = .ok place) (hnode : disk.node? place = some node) :
  disk.find path = .ok node
  := by
  rw [Disk.find, hpath]
  simp only [bind, Except.bind, hnode]
  rfl

/-! ### Paths that lead nowhere -/

section Fault

variable {disk : Disk} {path : String} {fault : AccessFault}

theorem Disk.readText_of_place (h : disk.place path = .error fault) :
  disk.readText path = .error fault
  := by
  rw [Disk.readText, Disk.readBytes, Disk.find, h]
  rfl

theorem Disk.list_of_place (h : disk.place path = .error fault) :
  disk.list path = .error fault
  := by
  rw [Disk.list, h]
  rfl

theorem Disk.contains_of_place (h : disk.place path = .error fault) :
  disk.contains path = false
  := by
  rw [Disk.contains, Disk.find, h]
  rfl

end Fault

namespace ResourceTree

variable {tree sub : ResourceTree} {disk : Disk} {home name : String}
  {base place : List String}

/-! ### Walking down -/

/-- The disk has the tree at a place. -/
def IsAt (tree : ResourceTree) (disk : Disk) (base : List String) : Prop :=
  ∀ place, disk.node? (base ++ place) = (tree.at? place).map node

/-- The reason why a walk down the tree does not arrive, if there is one. -/
def barrier? : ResourceTree → List String → Option AccessFault
  | _, [] => none
  | .file _, _ :: _ => some .notDirectory
  | .directory children, name :: rest =>
    if Disk.maxNameBytes < name.utf8ByteSize then some .nameTooLong
    else
      match children.lookup name with
      | none => some .notFound
      | some child => child.barrier? rest

theorem IsAt.child {children : List (String × ResourceTree)} {child : ResourceTree}
    (h : (directory children).IsAt disk base) (hchild : children.lookup name = some child) :
  child.IsAt disk (base ++ [name])
  := by
  intro place
  rw [List.append_assoc, List.singleton_append, h (name :: place), at?, hchild, Option.bind_some]

/-- Walking on the disk is walking down the tree. -/
theorem IsAt.foldlM_enter (h : tree.IsAt disk base)
    (hplace : ∀ name ∈ place, name ≠ "." ∧ name ≠ "..") :
  place.foldlM disk.enter base
    = match tree.barrier? place with
      | some fault => .error fault
      | none => .ok (base ++ place)
  := by
  induction place generalizing tree base with
  | nil =>
      rw [List.append_nil, barrier?]
      rfl
  | cons name rest ih =>
      have hnode := h []
      rw [List.append_nil, at?_nil, Option.map_some] at hnode
      obtain ⟨hdot, hdotDot⟩ := hplace name List.mem_cons_self
      rw [List.foldlM_cons, Disk.enter, hnode]
      cases tree with
      | file contents => rfl
      | directory children =>
          simp only [node, hdot, hdotDot, if_false, barrier?, gt_iff_lt]
          have hname := h [name]
          rw [at?] at hname
          split_ifs with hlong hnone
          · rfl
          · rw [hname] at hnone
            cases hchild : children.lookup name with
            | none => rfl
            | some child => simp [hchild] at hnone
          · rw [hname] at hnone
            cases hchild : children.lookup name with
            | none => simp [hchild] at hnone
            | some child =>
                change rest.foldlM disk.enter (base ++ [name]) = _
                rw [ih (h.child hchild) fun other hother =>
                  hplace other (List.mem_cons_of_mem name hother)]
                simp

/-- A walk arrives only at something. -/
theorem isSome_at?_of_barrier? (h : tree.barrier? place = none) :
  (tree.at? place).isSome
  := by
  induction place generalizing tree with
  | nil => simp
  | cons name rest ih =>
      cases tree with
      | file contents => cases h
      | directory children =>
          rw [barrier?] at h
          split_ifs at h
          rw [at?]
          cases hchild : children.lookup name with
          | none =>
              rw [hchild] at h
              cases h
          | some child =>
              rw [hchild] at h
              apply ih h

/-- A walk to something arrives there unless a name on the way is too long. -/
theorem barrier?_eq_none (h : (tree.at? place).isSome)
    (hshort : ∀ name ∈ place, name.utf8ByteSize ≤ Disk.maxNameBytes) :
  tree.barrier? place = none
  := by
  induction place generalizing tree with
  | nil => rw [barrier?]
  | cons name rest ih =>
      cases tree with
      | file contents => cases h
      | directory children =>
          rw [barrier?, if_neg (Nat.not_lt.mpr (hshort name List.mem_cons_self))]
          rw [at?] at h
          cases hchild : children.lookup name with
          | none =>
              rw [hchild] at h
              cases h
          | some child =>
              rw [hchild] at h
              apply ih h fun other hother => hshort other (List.mem_cons_of_mem name hother)

/-- The way to the place breaks off in a directory, which does not have the next name, and no
name up to that one is too long. -/
def BreaksOffInDirectory (tree : ResourceTree) (place : List String) : Prop :=
  ∃ front name rest, place = front ++ name :: rest
    ∧ (∃ children, tree.at? front = some (.directory children))
    ∧ tree.at? (front ++ [name]) = none
    ∧ ∀ other ∈ front ++ [name], other.utf8ByteSize ≤ Disk.maxNameBytes

theorem breaksOffInDirectory_cons {children : List (String × ResourceTree)}
    {child : ResourceTree} (hchild : children.lookup name = some child)
    (hshort : name.utf8ByteSize ≤ Disk.maxNameBytes) :
  (directory children).BreaksOffInDirectory (name :: place) ↔ child.BreaksOffInDirectory place
  := by
  have hat : ∀ way, (directory children).at? (name :: way) = child.at? way := by
    intro way
    rw [at?, hchild, Option.bind_some]
  constructor
  · rintro ⟨front, missing, rest, hplace, hfront, hmissing, hall⟩
    cases front with
    | nil =>
        obtain ⟨rfl, rfl⟩ := List.cons.inj hplace
        rw [List.nil_append, hat, at?_nil] at hmissing
        cases hmissing
    | cons first front =>
        rw [List.cons_append] at hplace hmissing
        obtain ⟨rfl, rfl⟩ := List.cons.inj hplace
        rw [hat] at hfront hmissing
        use front, missing, rest, rfl, hfront, hmissing
        intro other hother
        apply hall other (List.mem_cons_of_mem name hother)
  · rintro ⟨front, missing, rest, rfl, hfront, hmissing, hall⟩
    use name :: front, missing, rest, rfl
    rw [List.cons_append, hat, hat]
    refine ⟨hfront, hmissing, ?_⟩
    intro other hother
    obtain rfl | hother := List.mem_cons.mp hother
    · apply hshort
    · apply hall other hother

/-- What a walk misses is a name, and not a directory, exactly if its way breaks off in a
directory. -/
theorem barrier?_eq_notFound_iff :
  tree.barrier? place = some .notFound ↔ tree.BreaksOffInDirectory place
  := by
  induction place generalizing tree with
  | nil =>
      rw [barrier?]
      constructor
      · intro h
        cases h
      · rintro ⟨front, name, rest, hplace, -⟩
        simp at hplace
  | cons name rest ih =>
      cases tree with
      | file contents =>
          rw [barrier?]
          constructor
          · intro h
            cases h
          · rintro ⟨front, missing, rest, hplace, ⟨children, hfront⟩, -⟩
            cases front with
            | nil => cases hfront
            | cons first front => cases hfront
      | directory children =>
          rw [barrier?]
          split_ifs with hlong
          · constructor
            · intro h
              cases h
            · rintro ⟨front, missing, rest, hplace, -, -, hall⟩
              have hname : name ∈ front ++ [missing] := by
                cases front with
                | nil =>
                    obtain ⟨rfl, -⟩ := List.cons.inj hplace
                    apply List.mem_singleton_self
                | cons first front =>
                    obtain ⟨rfl, -⟩ := List.cons.inj hplace
                    apply List.mem_cons_self
              exact absurd (hall name hname) (Nat.not_le.mpr hlong)
          · have hshort := Nat.not_lt.mp hlong
            cases hchild : children.lookup name with
            | some child =>
                rw [breaksOffInDirectory_cons hchild hshort]
                apply ih
            | none =>
                simp only [true_iff]
                use [], name, rest, rfl
                constructor
                · use children
                  apply at?_nil
                · constructor
                  · rw [List.nil_append, at?, hchild, Option.bind_none]
                  · intro other hother
                    obtain rfl := List.mem_singleton.mp hother
                    apply hshort

/-! ### Trees below a directory -/

/-- The tree is what a disk has below a directory, and the names and paths in it are no longer
than the disk allows. -/
structure LaidOut (tree : ResourceTree) (disk : Disk) (home : String) (base : List String) :
    Prop where
  isAbsolute : PathText.isAbsolute home = true
  leads : disk.place (PathText.rooted (PathText.names home)) = .ok base
  isAt : tree.IsAt disk base
  nodup : (disk.nodes.map Prod.fst).Nodup
  isShort : ∀ {place}, (tree.at? place).isSome →
    (PathText.rooted (PathText.names home ++ place)).utf8ByteSize < Disk.maxPathBytes
      ∧ ∀ name ∈ place, name.utf8ByteSize ≤ Disk.maxNameBytes

theorem isSegment_of_mem_append (hplace : ResourcePath.IsPlace place) :
  ∀ name ∈ PathText.names home ++ place, IsSegment name.toList
  := by
  intro name hname
  obtain hname | hname := List.mem_append.mp hname
  · apply PathText.isSegment_of_mem_names hname
  · apply (hplace name hname).1

/-- The place to which a path below the directory of a tree leads. -/
theorem LaidOut.place_eq (h : tree.LaidOut disk home base) (hasSlash : Bool)
    (hplace : ResourcePath.IsPlace place) :
  disk.place (PathText.rootedAs hasSlash (PathText.names home ++ place))
    = if ∃ name ∈ place, '\x00' ∈ name.toList then .error .invalidName
      else if Disk.maxPathBytes
          ≤ (PathText.rootedAs hasSlash (PathText.names home ++ place)).utf8ByteSize then
        .error .nameTooLong
      else
        match tree.barrier? place with
        | some fault => .error fault
        | none => if hasSlash then disk.enter (base ++ place) "." else .ok (base ++ place)
  := by
  have hleads := h.leads
  rw [PathText.rooted,
    Disk.place_rootedAs disk false fun name => PathText.isSegment_of_mem_names] at hleads
  simp only [Bool.false_eq_true, if_false] at hleads
  split_ifs at hleads with hnul hlong
  have hhome : (PathText.names home).foldlM disk.enter [] = .ok base := by
    rw [← hleads]
    symm
    apply bind_pure
  have hnul' : (∃ name ∈ PathText.names home ++ place, '\x00' ∈ name.toList)
      ↔ ∃ name ∈ place, '\x00' ∈ name.toList := by
    simp only [List.mem_append]
    constructor
    · rintro ⟨name, hname | hname, hchar⟩
      · exact absurd ⟨name, hname, hchar⟩ hnul
      · use name, hname
    · rintro ⟨name, hname, hchar⟩
      use name, Or.inr hname
  rw [Disk.place_rootedAs disk hasSlash (isSegment_of_mem_append hplace), List.foldlM_append, hhome]
  simp only [hnul']
  congr 2
  change (place.foldlM disk.enter base >>= _) = _
  rw [h.isAt.foldlM_enter fun name hname => (hplace name hname).2]
  cases tree.barrier? place <;> rfl

/-- A path to something in the tree leads there. -/
theorem LaidOut.place_of_at? (h : tree.LaidOut disk home base) (hsound : tree.IsSound)
    (hplace : ResourcePath.IsPlace place) (hsub : tree.at? place = some sub) :
  disk.place (PathText.rooted (PathText.names home ++ place)) = .ok (base ++ place)
  := by
  have hsome : (tree.at? place).isSome := by rw [hsub]; rfl
  obtain ⟨hsize, hnames⟩ := h.isShort hsome
  have hnul : ¬ ∃ name ∈ place, '\x00' ∈ name.toList := by
    rintro ⟨name, hname, hchar⟩
    apply (hsound.isName_of_mem hsome name hname).hasNoNul hchar
  rw [PathText.rooted] at hsize ⊢
  rw [h.place_eq false hplace, if_neg hnul, if_neg (Nat.not_le.mpr hsize),
    barrier?_eq_none hsome hnames]
  rfl

/-- A path to something in the tree, also one with a slash at its end, leads nowhere else and
does not miss it. -/
theorem LaidOut.place_cases (h : tree.LaidOut disk home base) (hasSlash : Bool)
    (hplace : ResourcePath.IsPlace place) (hsub : tree.at? place = some sub) :
  disk.place (PathText.rootedAs hasSlash (PathText.names home ++ place)) = .ok (base ++ place)
    ∨ ∃ fault, fault ≠ .notFound
      ∧ disk.place (PathText.rootedAs hasSlash (PathText.names home ++ place)) = .error fault
  := by
  have hsome : (tree.at? place).isSome := by rw [hsub]; rfl
  rw [h.place_eq hasSlash hplace, barrier?_eq_none hsome (h.isShort hsome).2]
  split_ifs with hnul hlong hslash
  · right
    use .invalidName, by simp
  · right
    use .nameTooLong, by simp
  · rw [Disk.enter, h.isAt place, hsub, Option.map_some]
    cases sub with
    | file contents =>
        right
        use .notDirectory, by simp
        rfl
    | directory children =>
        left
        simp [node]
  · left
    rfl

/-- A path to nothing in the tree leads nowhere. The disk says that something is missing
exactly if the path is one that a disk can have and its way breaks off in a directory. -/
theorem LaidOut.exists_fault (h : tree.LaidOut disk home base) (hasSlash : Bool)
    (hplace : ResourcePath.IsPlace place) (hnone : tree.at? place = none) :
  ∃ fault, disk.place (PathText.rootedAs hasSlash (PathText.names home ++ place)) = .error fault
    ∧ (fault = .notFound ↔ (∀ name ∈ place, '\x00' ∉ name.toList)
      ∧ (PathText.rootedAs hasSlash (PathText.names home ++ place)).utf8ByteSize
        < Disk.maxPathBytes
      ∧ tree.BreaksOffInDirectory place)
  := by
  rw [h.place_eq hasSlash hplace]
  cases hbarrier : tree.barrier? place with
  | none =>
      have hsome := isSome_at?_of_barrier? hbarrier
      rw [hnone] at hsome
      cases hsome
  | some fault =>
      rw [← barrier?_eq_notFound_iff, hbarrier]
      simp only [Option.some.injEq]
      split_ifs with hnul hlong
      · use .invalidName, rfl
        obtain ⟨name, hname, hchar⟩ := hnul
        constructor
        · intro hfault
          cases hfault
        · rintro ⟨hall, -⟩
          exact absurd hchar (hall name hname)
      · use .nameTooLong, rfl
        constructor
        · intro hfault
          cases hfault
        · rintro ⟨-, hshort, -⟩
          exact absurd hlong (Nat.not_le.mpr hshort)
      · use fault, rfl
        have hall : ∀ name ∈ place, '\x00' ∉ name.toList :=
          fun name hname hchar => hnul ⟨name, hname, hchar⟩
        constructor
        · intro hfault
          use hall, Nat.not_le.mp hlong
        · rintro ⟨-, -, hfault⟩
          apply hfault

/-! ### Reading, listing, looking -/

/-- What stands at a place of the tree is found there. -/
theorem LaidOut.node?_eq (h : tree.LaidOut disk home base) (hsub : tree.at? place = some sub) :
  disk.node? (base ++ place) = some sub.node
  := by
  rw [h.isAt place, hsub, Option.map_some]

variable {path : String}

theorem LaidOut.contains_eq (h : tree.LaidOut disk home base)
    (hsub : tree.at? place = some sub) (hpath : disk.place path = .ok (base ++ place)) :
  disk.contains path = true
  := by
  rw [Disk.contains, Disk.find_of_node? hpath (h.node?_eq hsub)]
  rfl

/-- The texts of a laid out tree are those of its files. -/
theorem LaidOut.readText_eq (h : tree.LaidOut disk home base)
    (hsub : tree.at? place = some sub) (hpath : disk.place path = .ok (base ++ place)) :
  disk.readText path
    = match sub with
      | .directory _ => .error .isDirectory
      | .file contents =>
        match Utf8.decode? contents with
        | some text => .ok (String.ofList text)
        | none => .error .invalidData
  := by
  rw [Disk.readText, Disk.readBytes, Disk.find_of_node? hpath (h.node?_eq hsub)]
  cases sub with
  | directory children => rfl
  | file contents => rfl

/-- The names that a laid out tree has below a place are listed there, each once. -/
theorem LaidOut.exists_list_eq (h : tree.LaidOut disk home base)
    (hsub : tree.at? place = some sub) (hpath : disk.place path = .ok (base ++ place)) :
  ∃ found, disk.list path = .ok found ∧ (found.getD []).Nodup
    ∧ ∀ name, name ∈ found.getD [] ↔ name ∈ sub.names
  := by
  rw [Disk.list, hpath]
  simp only [bind, Except.bind, h.node?_eq hsub]
  cases sub with
  | file contents =>
      use none, rfl
      simp [names]
  | directory children =>
      use some (disk.namesIn (base ++ place)), rfl, Disk.nodup_namesIn h.nodup _
      intro name
      rw [Option.getD_some, Disk.mem_namesIn_iff, List.append_assoc, h.isAt, Option.isSome_map,
        mem_names_iff hsub]

end ResourceTree

end Provision
