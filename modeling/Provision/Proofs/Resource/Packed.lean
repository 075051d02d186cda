import Mathlib
import Provision.Proofs.Resource.Location
import Provision.Resource.Storage

/-!
# Trees in an archive

An archive that holds a tree has an entry for each of its files, and for each directory
that is empty. Other directories may have entries of their own; whether they have, the
archive does not show.
-/

namespace Provision

open ResourcePath
open Segments (IsSegment)

namespace ResourceStorage

/-- The file at the path is there and holds the archive. -/
def Opens (disk : Disk) (archivePath : String) (archive : Zip.Archive) : Prop :=
  ∃ bytes, disk.readBytes archivePath = .ok bytes ∧ Zip.Archive.read bytes = .ok archive

theorem Opens.openArchive_eq {disk : Disk} {archivePath : String} {archive : Zip.Archive}
    (h : Opens disk archivePath archive) (entry : String) :
  openArchive disk archivePath entry = .ok archive
  := by
  obtain ⟨bytes, hbytes, hread⟩ := h
  rw [openArchive, hbytes]
  change (Zip.Archive.read bytes).mapError _ = _
  rw [hread]
  rfl

end ResourceStorage

namespace Zip.Archive

variable {archive : Archive} {name : String} {entry : Entry} {contents : List UInt8}

/-- The contents of the entry of a name. -/
def readEntry (archive : Archive) (name : String) : Except Fault (List UInt8) := do
  (← archive.openEntry name).contents

theorem exists_openEntry (h : archive.readEntry name = .ok contents) :
  ∃ entry, archive.openEntry name = .ok entry ∧ entry.contents = .ok contents
  := by
  rw [readEntry] at h
  cases hopen : archive.openEntry name with
  | error fault =>
      rw [hopen] at h
      cases h
  | ok entry =>
      rw [hopen] at h
      use entry, rfl, h

theorem record_of_openRecord {record : Record} (h : archive.openRecord record = .ok entry) :
  entry.record = record
  := by
  rw [openRecord] at h
  split_ifs at h
  · cases h
  · cases hpacked : archive.packed record with
    | error fault =>
        rw [hpacked] at h
        cases h
    | ok data =>
        rw [hpacked] at h
        cases hmethod : Method.ofNumber? record.method with
        | none =>
            simp only [hmethod] at h
            cases h
        | some method =>
            simp only [hmethod] at h
            cases h
            rfl

/-- The entry of a name has the name. -/
theorem of_openEntry (h : archive.openEntry name = .ok entry) :
  entry.record ∈ archive.records ∧ entry.record.name = name.toList
  := by
  rw [openEntry] at h
  cases hfind : archive.find? name with
  | none =>
      rw [hfind] at h
      cases h
  | some record =>
      rw [hfind] at h
      rw [find?] at hfind
      rw [record_of_openRecord h]
      use List.mem_of_find?_eq_some hfind
      simpa using List.find?_some hfind

theorem mem_names_of_openEntry (h : archive.openEntry name = .ok entry) :
  name ∈ archive.names
  := by
  obtain ⟨hmem, hname⟩ := of_openEntry h
  rw [names, List.mem_map]
  use entry.record, hmem
  rw [hname, String.ofList_toList]

theorem openEntry_of_notMem (h : name ∉ archive.names) :
  archive.openEntry name = .error .noSuchEntry
  := by
  have hfind : archive.find? name = none := by
    rw [find?, List.find?_eq_none]
    intro record hrecord hname
    apply h
    rw [names, List.mem_map]
    use record, hrecord
    rw [eq_of_beq hname, String.ofList_toList]
  rw [openEntry, hfind]

end Zip.Archive

namespace Children

/-- A place other than the top is there exactly if its names begin one of the archive. -/
theorem isSome_textOf_iff {names place : List String} (hplace : IsPlace place) :
  (children? names (textOf place)).isSome
    ↔ place = [] ∨ ∃ name ∈ names, ∃ more, segments name.toList = place.map String.toList ++ more
  := by
  rw [textOf, isSome_children?_iff
    (PathText.isSegment_of_mem_map fun name hname => (hplace name hname).1), List.map_eq_nil_iff]

end Children

namespace ResourceTree

variable {tree sub : ResourceTree} {disk : Disk} {archive : Zip.Archive}
  {place : List String} {name archivePath : String} {contents : List UInt8}

/-- The name of the entry of a place, in which a directory has a slash at its end. -/
def entryOf (place : List String) : ResourceTree → String
  | .file _ => textOf place
  | .directory _ => textOf place ++ "/"

/-- The archive holds the tree: an entry for each file, one for each directory with nothing
below it, and any others only for further directories. -/
structure Packs (tree : ResourceTree) (archive : Zip.Archive) : Prop where
  readEntry : ∀ {place contents}, tree.at? place = some (.file contents) →
    archive.readEntry (textOf place) = .ok contents
  leaf : ∀ {place}, place ≠ [] → tree.at? place = some (.directory []) →
    entryOf place (.directory []) ∈ archive.names
  exists_at? : ∀ name ∈ archive.names,
    ∃ place sub, place ≠ [] ∧ tree.at? place = some sub ∧ name = entryOf place sub

/-! ### Names of entries -/

theorem segments_textOf (hne : place ≠ []) (h : ∀ name ∈ place, IsSegment name.toList) :
  segments (textOf place).toList = place.map String.toList
  := by
  rw [toList_textOf]
  apply Segments.split_join_of_isSegment (by simpa using hne)
  apply PathText.isSegment_of_mem_map h

/-- The segments of the name of an entry are the names of its place, and an empty one after
them for a directory. -/
theorem segments_entryOf (hne : place ≠ []) (h : ∀ name ∈ place, IsSegment name.toList)
    (sub : ResourceTree) :
  ∃ tail, segments (entryOf place sub).toList = place.map String.toList ++ tail
    ∧ (tail = [] ∧ (∃ contents, sub = .file contents)
      ∨ tail = [[]] ∧ ∃ children, sub = .directory children)
  := by
  cases sub with
  | file contents =>
      use []
      rw [entryOf, segments_textOf hne h, List.append_nil]
      simp
  | directory children =>
      use [[]]
      have htext : (textOf place ++ "/").toList = (textOf place).toList ++ '/' :: [] := by
        simp
      rw [entryOf, htext, segments_append, segments_textOf hne h]
      simp [segments, Segments.split]

theorem isSegment_of_at? (hsound : tree.IsSound) (h : tree.at? place = some sub) :
  ∀ name ∈ place, IsSegment name.toList
  := by
  intro name hname
  apply (hsound.isName_of_mem (by rw [h]; rfl) name hname).isSegment

/-- Names that begin the name of an entry begin its place. -/
theorem exists_eq_append {way : List String} {more : List (List Char)} (hne : place ≠ [])
    (h : ∀ name ∈ place, IsSegment name.toList) (hway : ∀ name ∈ way, name ≠ "")
    (hsegments : segments (entryOf place sub).toList = way.map String.toList ++ more) :
  ∃ rest, place = way ++ rest
  := by
  obtain ⟨tail, htail, hcases⟩ := segments_entryOf hne h sub
  rw [htail] at hsegments
  have hbegins : way.map String.toList <+: place.map String.toList := by
    have hwhole : way.map String.toList <+: place.map String.toList ++ tail := by
      rw [hsegments]
      apply List.prefix_append
    obtain ⟨rfl, -⟩ | ⟨rfl, -⟩ := hcases
    · rwa [List.append_nil] at hwhole
    · obtain heq | hbegins := List.prefix_concat_iff.mp hwhole
      · have hempty : [] ∈ way.map String.toList := by simp [heq]
        obtain ⟨name, hname, hnil⟩ := List.mem_map.mp hempty
        exact absurd (String.toList_eq_nil_iff.mp hnil) (hway name hname)
      · apply hbegins
  obtain ⟨rest, hrest⟩ := hbegins
  use rest.map String.ofList
  have hmap : ∀ names : List String, (names.map String.toList).map String.ofList = names := by
    intro names
    rw [List.map_map]
    simp
  rw [← hmap place, ← hrest, List.map_append, hmap]

/-- A name in the archive begins with the names of a place exactly if something stands there in
the tree. -/
theorem Packs.exists_segments_iff (hpacks : tree.Packs archive) (hsound : tree.IsSound)
    (hne : place ≠ []) (hplace : ∀ name ∈ place, name ≠ "") :
  (∃ name ∈ archive.names, ∃ more, segments name.toList = place.map String.toList ++ more)
    ↔ (tree.at? place).isSome
  := by
  constructor
  · rintro ⟨_, hname, more, hmore⟩
    obtain ⟨way, sub, hwayNe, hsub, rfl⟩ := hpacks.exists_at? _ hname
    obtain ⟨rest, rfl⟩ := exists_eq_append hwayNe (isSegment_of_at? hsound hsub) hplace hmore
    apply isSome_at?_of_append rest
    rw [hsub]
    rfl
  · intro hsome
    obtain ⟨sub, hsub⟩ := Option.isSome_iff_exists.mp hsome
    obtain ⟨rest, leaf, hleaf, hends⟩ := exists_leaf sub
    have hat : tree.at? (place ++ rest) = some leaf := by
      rw [at?_append, hsub, Option.bind_some, hleaf]
    have hwayNe : place ++ rest ≠ [] := by simp [hne]
    have hmem : entryOf (place ++ rest) leaf ∈ archive.names := by
      cases leaf with
      | file contents =>
          obtain ⟨entry, hopen, -⟩ := Zip.Archive.exists_openEntry (hpacks.readEntry hat)
          apply Zip.Archive.mem_names_of_openEntry hopen
      | directory children =>
          obtain rfl : children = [] := List.map_eq_nil_iff.mp hends
          apply hpacks.leaf hwayNe hat
    obtain ⟨tail, htail, -⟩ := segments_entryOf hwayNe (isSegment_of_at? hsound hat) leaf
    use entryOf (place ++ rest) leaf, hmem, rest.map String.toList ++ tail
    rw [htail, List.map_append, List.append_assoc]

/-! ### Listing and reading -/

/-- The archive has exactly the directories and files of the tree. -/
theorem Packs.isSome_children?_iff (hpacks : tree.Packs archive) (hsound : tree.IsSound)
    (hplace : IsPlace place) :
  (Children.children? archive.names (textOf place)).isSome ↔ (tree.at? place).isSome
  := by
  rw [Children.isSome_textOf_iff hplace]
  by_cases hne : place = []
  · simp [hne]
  · have hnames : ∀ name ∈ place, name ≠ "" := fun name hname =>
      mt String.toList_eq_nil_iff.mpr (hplace name hname).1.1
    rw [hpacks.exists_segments_iff hsound hne hnames]
    simp [hne]

/-- The children of a place in the archive are its names in the tree, each once. -/
theorem Packs.of_children? (hpacks : tree.Packs archive) (hsound : tree.IsSound)
    (hplace : IsPlace place) (hsub : tree.at? place = some sub) {found : List String}
    (h : Children.children? archive.names (textOf place) = some found) :
  found.Nodup ∧ ∀ name, name ∈ found ↔ name ∈ sub.names
  := by
  have hsegments := PathText.isSegment_of_mem_map fun name hname => (hplace name hname).1
  obtain ⟨hnodup, hmem⟩ := Children.of_children? hsegments h
  use hnodup
  intro name
  rw [hmem, mem_names_iff hsub]
  have hnames : name ≠ "" → ∀ other ∈ place ++ [name], other ≠ "" := by
    intro hname other hother
    obtain hother | hother := List.mem_append.mp hother
    · apply mt String.toList_eq_nil_iff.mpr (hplace other hother).1.1
    · obtain rfl := List.mem_singleton.mp hother
      apply hname
  have happend : ∀ more, place.map String.toList ++ name.toList :: more
      = (place ++ [name]).map String.toList ++ more := by
    intro more
    simp
  simp only [happend]
  constructor
  · rintro ⟨hname, hexists⟩
    apply (hpacks.exists_segments_iff hsound (by simp) (hnames hname)).mp hexists
  · intro hsome
    have hname : name ≠ "" := by
      rintro rfl
      apply (hsound.isName_of_mem hsome "" (by simp)).isSegment.1 rfl
    use hname
    apply (hpacks.exists_segments_iff hsound (by simp) (hnames hname)).mpr hsome

/-- Only files have entries with the names of their places. -/
theorem Packs.openEntry_of_not_file (hpacks : tree.Packs archive) (hsound : tree.IsSound)
    (hplace : IsPlace place) (hne : place ≠ [])
    (hfile : ∀ contents, tree.at? place ≠ some (.file contents)) :
  archive.openEntry (textOf place) = .error .noSuchEntry
  := by
  apply Zip.Archive.openEntry_of_notMem
  intro hmem
  obtain ⟨way, sub, hwayNe, hsub, hname⟩ := hpacks.exists_at? _ hmem
  obtain ⟨tail, htail, hcases⟩ := segments_entryOf hwayNe (isSegment_of_at? hsound hsub) sub
  rw [← hname, segments_textOf hne fun name hname => (hplace name hname).1] at htail
  obtain ⟨rfl, contents, rfl⟩ | ⟨rfl, -⟩ := hcases
  · rw [List.append_nil] at htail
    have hway : place = way := List.map_injective_iff.mpr (fun _ _ => String.toList_inj.mp) htail
    subst hway
    exact hfile contents hsub
  · have hempty : [] ∈ place.map String.toList := by simp [htail]
    obtain ⟨name, hname, hnil⟩ := List.mem_map.mp hempty
    exact (hplace name hname).1.1 hnil

/-- The name of a place is not that of a directory. -/
theorem isDirectory_eq_false {path : String} (hread : Reads path place) {entry : Zip.Entry}
    (hname : entry.record.name = (textOf place).toList) :
  entry.isDirectory = false
  := by
  have hslash := Segments.getLast?_join_ne
    (PathText.isSegment_of_mem_map fun name hname => (hread.isPlace name hname).1)
  rw [Zip.Entry.isDirectory, hname, toList_textOf]
  cases hlast : (Segments.join ['/'] (place.map String.toList)).getLast? with
  | none => rfl
  | some c =>
      have hbackslash : c ≠ '\\' := by
        rintro rfl
        obtain hslash | ⟨segment, hsegment, hmem⟩ :=
          Segments.of_mem_join (List.mem_of_getLast? hlast)
        · cases hslash
        · obtain ⟨name, hname, rfl⟩ := List.mem_map.mp hsegment
          apply (hread.isInner name hname).hasNoBackslash hmem
      rw [hlast] at hslash
      simpa [hbackslash] using hslash

/-- The texts of a packed tree are those of its files. -/
theorem Packs.readArchive_eq (hpacks : tree.Packs archive) (hsound : tree.IsSound) {path : String}
    (hread : Reads path place) (hne : place ≠ []) :
  ResourceStorage.readArchive (textOf place) archive
    = match tree.at? place with
      | some (.file contents) =>
        match Utf8.decode? contents with
        | some text => .ok (String.ofList text)
        | none => .error (.unreadable (textOf place))
      | _ => .error (.notFound (textOf place))
  := by
  rw [ResourceStorage.readArchive]
  split
  · rename_i contents hsub
    obtain ⟨entry, hopen, hcontents⟩ := Zip.Archive.exists_openEntry (hpacks.readEntry hsub)
    have hfile := isDirectory_eq_false hread (Zip.Archive.of_openEntry hopen).2
    rw [hopen]
    change (if entry.isDirectory = true then _ else _) = _
    rw [hfile, if_neg Bool.false_ne_true, hcontents]
    change (match Utf8.decode? contents with | some text => _ | none => _) = _
    cases Utf8.decode? contents <;> rfl
  · rename_i hfile
    rw [hpacks.openEntry_of_not_file hsound hread.isPlace hne hfile]
    rfl

/-! ### Archives on a disk -/

/-- The archive at an absolute path of the disk holds the tree. -/
structure PackedAt (tree : ResourceTree) (disk : Disk) (archivePath : String)
    (archive : Zip.Archive) : Prop where
  isAbsolute : PathText.isAbsolute archivePath = true
  opens : ∃ bytes, disk.readBytes archivePath = .ok bytes
    ∧ Zip.Archive.read bytes = .ok archive
  packs : tree.Packs archive

theorem PackedAt.openArchive_eq (h : tree.PackedAt disk archivePath archive)
    (entry : String) :
  ResourceStorage.openArchive disk archivePath entry = .ok archive
  := ResourceStorage.Opens.openArchive_eq h.opens entry

end ResourceTree

end Provision
