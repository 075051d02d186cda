import Mathlib
import Provision.Disk.Basic
import Provision.Proofs.Resource.Children

/-!
# Trees of resources

What a bundle holds is a tree of files and directories, however it is stored. A place in it
is the list of the names on the way from its root.
-/

namespace Provision

/-- A file, or a directory of trees by their names. -/
inductive ResourceTree where
  | file (contents : List UInt8)
  | directory (children : List (String × ResourceTree))

namespace ResourcePath

/-- The names are those of a path that leads down only. -/
def IsPlace (place : List String) : Prop :=
  ∀ name ∈ place, Segments.IsSegment name.toList ∧ name ≠ "." ∧ name ≠ ".."

end ResourcePath

namespace ResourceTree

/-- What stands at a place. -/
def at? : ResourceTree → List String → Option ResourceTree
  | tree, [] => some tree
  | .file _, _ :: _ => none
  | .directory children, name :: rest => (children.lookup name).bind fun child => child.at? rest

/-- The tree without what is below its root. -/
def node : ResourceTree → DiskNode
  | .file contents => .file contents
  | .directory _ => .directory

/-- The names directly below the root. -/
def names : ResourceTree → List String
  | .file _ => []
  | .directory children => children.map Prod.fst

/-- Nothing stands below the root. -/
def IsLeaf (tree : ResourceTree) : Prop :=
  tree.names = []

/-- The name can be one of a file or a directory. -/
structure IsName (name : String) : Prop where
  isSegment : Segments.IsSegment name.toList
  hasNoNul : '\x00' ∉ name.toList
  ne_dot : name ≠ "."
  ne_dotDot : name ≠ ".."

/-- The tree is a directory, whose names all are proper ones and stand for one thing each. -/
structure IsSound (tree : ResourceTree) : Prop where
  root : ∃ children, tree = .directory children
  isName : ∀ {place sub}, tree.at? place = some sub → ∀ name ∈ sub.names, IsName name
  nodup : ∀ {place sub}, tree.at? place = some sub → sub.names.Nodup

variable {tree sub : ResourceTree} {place : List String} {name : String}

@[simp]
theorem at?_nil :
  tree.at? [] = some tree
  := by
  cases tree <;> rfl

/-- What stands at a place below another stands there in what stands at the other. -/
theorem at?_append (tree : ResourceTree) (front back : List String) :
  tree.at? (front ++ back) = (tree.at? front).bind fun sub => sub.at? back
  := by
  induction front generalizing tree with
  | nil => simp
  | cons name front ih =>
      cases tree with
      | file contents => rfl
      | directory children =>
          rw [List.cons_append, at?, at?]
          cases children.lookup name with
          | none => rfl
          | some child => apply ih

theorem mem_names_iff_isSome_lookup {children : List (String × ResourceTree)} :
  name ∈ (directory children).names ↔ (children.lookup name).isSome
  := by
  rw [List.lookup_isSome_iff, names, List.mem_map]
  constructor
  · rintro ⟨entry, hentry, rfl⟩
    use entry, hentry
    apply beq_self_eq_true
  · rintro ⟨entry, hentry, hname⟩
    use entry, hentry
    symm
    apply eq_of_beq hname

/-- The names directly below a place are those that lead on from it. -/
theorem mem_names_iff (h : tree.at? place = some sub) :
  name ∈ sub.names ↔ (tree.at? (place ++ [name])).isSome
  := by
  rw [at?_append, h, Option.bind_some]
  cases sub with
  | file contents => simp [names, at?]
  | directory children =>
      rw [mem_names_iff_isSome_lookup, at?]
      cases children.lookup name with
      | none => rfl
      | some child => simp

theorem isSome_at?_of_append {front : List String} (back : List String)
    (h : (tree.at? (front ++ back)).isSome) :
  (tree.at? front).isSome
  := by
  rw [at?_append] at h
  cases hfront : tree.at? front with
  | none => simp [hfront] at h
  | some sub => rfl

/-- The names on the way to anything in a sound tree are proper ones. -/
theorem IsSound.isName_of_mem (hsound : tree.IsSound) (h : (tree.at? place).isSome) :
  ∀ name ∈ place, IsName name
  := by
  intro name hname
  obtain ⟨front, rest, rfl⟩ := List.append_of_mem hname
  rw [← List.singleton_append, ← List.append_assoc] at h
  have hchild := isSome_at?_of_append rest h
  obtain ⟨sub, hsub⟩ := Option.isSome_iff_exists.mp (isSome_at?_of_append [name] hchild)
  apply hsound.isName hsub
  rwa [mem_names_iff hsub]

/-- The root of a sound tree is no file. -/
theorem IsSound.isEmpty_of_file (hsound : tree.IsSound) {contents : List UInt8}
    (h : tree.at? place = some (.file contents)) :
  place.isEmpty = false
  := by
  obtain ⟨children, rfl⟩ := hsound.root
  cases place with
  | nil => cases h
  | cons name rest => rfl

/-- In every tree there is a way down to something with nothing below it. -/
theorem exists_leaf (tree : ResourceTree) :
  ∃ place leaf, tree.at? place = some leaf ∧ leaf.IsLeaf
  := by
  match tree with
  | .file contents =>
      use [], .file contents, rfl
      rfl
  | .directory [] =>
      use [], .directory [], rfl
      rfl
  | .directory ((name, child) :: others) =>
      obtain ⟨place, leaf, hleaf, hends⟩ := exists_leaf child
      use name :: place, leaf
      rw [at?, List.lookup_cons_self, Option.bind_some]
      use hleaf, hends
termination_by sizeOf tree

end ResourceTree

end Provision
