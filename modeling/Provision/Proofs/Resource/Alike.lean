import Mathlib
import Provision.Proofs.Resource.Bundle
import Provision.Proofs.Resource.Packed
import Provision.Proofs.Resource.Plain

/-!
# One tree, stored in two ways

A directory and an archive that hold the same tree serve the same resources: the files that
have a text, the names below each place, and nothing else. Which directories have entries of
their own in the archive, and in which order its entries stand, makes no difference.
-/

namespace Provision.Bundle

open ResourcePath

variable {tree sub : ResourceTree} {disk : Disk} {archive : Zip.Archive}
  {path home archivePath : String} {base place : List String}

/-! ### What is served -/

section

variable [DomainNames]

/-- The bundle serves at a path what a tree has at a place: the text of a file that has one,
whether anything is there, and the names below it, each once. -/
structure Serves (bundle : Bundle) (disk : Disk) (path : String)
    (found : Option ResourceTree) : Prop where
  readText : ∀ text, (bundle.readText disk path).result = .ok text
    ↔ ∃ contents, found = some (.file contents) ∧ Utf8.decode? contents = some text.toList
  probe : (bundle.probe disk path).result = .ok found.isSome
  list : (∃ names, (bundle.list disk path).result = .ok names) ↔ found.isSome
  names : ∀ names sub, (bundle.list disk path).result = .ok names → found = some sub →
    names.Nodup ∧ ∀ name, name ∈ names ↔ name ∈ sub.names

/-! ### The same resources -/

theorem serves_plain (hsound : tree.IsSound) (hplain : tree.LaidOut disk home base)
    (hread : Reads path place) {location : ResourceLocation}
    (hresolve : (Bundle.mk (.directory home)).resolve path = .ok location)
    (hfile : location.filePath = .ok (PathText.rooted (PathText.names home ++ place))) :
  (Bundle.mk (.directory home)).Serves disk path (tree.at? place)
  := by
  have hplace := hread.isPlace
  obtain ⟨location', hasSlash, hresolve', htext, hserving, hfile'⟩ :=
    exists_resolve_directory hread hplain.isAbsolute
  rw [hresolve] at hresolve'
  obtain rfl := Except.ok.inj hresolve'
  have hreadText := result_readText_plain disk hresolve hserving hfile
  have hlist := result_list_plain disk hresolve hserving hfile
  have hprobe := result_probe_plain disk hresolve hserving hfile
  rw [htext, isEmpty_textOf hplace] at hreadText
  cases hsub : tree.at? place with
  | none =>
      rw [hfile] at hfile'
      obtain rfl := PathText.eq_false_of_rootedAs_eq (Except.ok.inj hfile').symm
      obtain ⟨fault, hfault, -⟩ := hplain.exists_fault false hplace hsub
      constructor
      · intro text
        rw [hreadText, PathText.rooted, Disk.readText_of_place hfault]
        constructor
        · intro h
          split_ifs at h
          cases h
        · rintro ⟨contents, hcontents, -⟩
          cases hcontents
      · rw [hprobe, PathText.rooted, Disk.contains_of_place hfault]
        rfl
      · rw [hlist, PathText.rooted, Disk.list_of_place hfault]
        constructor
        · rintro ⟨names, hnames⟩
          cases hnames
        · intro h
          cases h
      · intro names sub hnames hsome
        cases hsome
  | some sub =>
      have hleads := hplain.place_of_at? hsound hplace hsub
      obtain ⟨found, hfound, hnodup, hmem⟩ := hplain.exists_list_eq hsub hleads
      constructor
      · intro text
        rw [hreadText, hplain.readText_eq hsub hleads]
        cases sub with
        | directory children =>
            constructor
            · intro h
              split_ifs at h
              cases h
            · rintro ⟨contents, hcontents, -⟩
              cases hcontents
        | file contents =>
            rw [hsound.isEmpty_of_file hsub, if_neg Bool.false_ne_true]
            simp only [Option.some.injEq, ResourceTree.file.injEq, exists_eq_left']
            cases Utf8.decode? contents with
            | none => simp [Except.mapError]
            | some found => simp [Except.mapError, ← String.toList_inj]
      · rw [hprobe, hplain.contains_eq hsub hleads]
        rfl
      · rw [hlist, hfound]
        constructor
        · intro h
          rfl
        · intro h
          use found.getD []
          rfl
      · intro names sub' hnames hsome
        obtain rfl := Option.some.inj hsome
        rw [hlist, hfound] at hnames
        obtain rfl := Except.ok.inj hnames
        use hnodup, hmem

theorem serves_packed (hsound : tree.IsSound) (hpacked : tree.PackedAt disk archivePath archive)
    (hread : Reads path place) :
  (Bundle.mk (.archive archivePath)).Serves disk path (tree.at? place)
  := by
  have hplace := hread.isPlace
  obtain ⟨location, hresolve, htext, hserving, hentry⟩ :=
    exists_resolve_archive hread hpacked.isAbsolute
  have hopen := hpacked.openArchive_eq (textOf place)
  have hreadText := result_readText_packed hresolve hserving hentry hopen
  have hlist := result_list_packed hresolve hserving hentry hopen
  have hprobe := result_probe_packed hresolve hserving hentry hopen
  have hsome := hpacked.packs.isSome_children?_iff hsound hplace
  rw [htext, isEmpty_textOf hplace] at hreadText
  constructor
  · intro text
    rw [hreadText]
    by_cases hempty : place = []
    · subst hempty
      obtain ⟨children, rfl⟩ := hsound.root
      simp [ResourceTree.at?_nil]
    · rw [if_neg (by simpa using hempty), hpacked.packs.readArchive_eq hsound hread hempty]
      split
      · rename_i contents hsub
        rw [hsub]
        simp only [Option.some.injEq, ResourceTree.file.injEq, exists_eq_left']
        cases Utf8.decode? contents with
        | none => simp
        | some found => simp [← String.toList_inj]
      · rename_i hfile
        constructor
        · intro h
          cases h
        · rintro ⟨contents, hcontents, -⟩
          exact absurd hcontents (hfile contents)
  · rw [hprobe, Bool.eq_iff_iff.mpr hsome]
  · rw [hlist, ← hsome]
    cases Children.children? archive.names (textOf place) <;> simp
  · intro names sub hnames hsub
    rw [hlist] at hnames
    cases hchildren : Children.children? archive.names (textOf place) with
    | none =>
        rw [hchildren] at hnames
        cases hnames
    | some found =>
        rw [hchildren] at hnames
        obtain rfl := Except.ok.inj hnames
        apply hpacked.packs.of_children? hsound hplace hsub hchildren

end

/-! ### A small tree -/

/-- A tree with a file in a directory. -/
def small : ResourceTree :=
  .directory [("d", .directory [("b", .file [0x79])])]

/-- An archive of the small tree, without an entry for the directory. -/
def smallFile : List UInt8 :=
  [0x50, 0x4B, 0x03, 0x04, 0x14, 0x00, 0x00, 0x00, 0x00, 0x00, 0x00, 0x00, 0x21, 0x00, 0x15,
    0x26, 0xDB, 0xFB, 0x01, 0x00, 0x00, 0x00, 0x01, 0x00, 0x00, 0x00, 0x03, 0x00, 0x00, 0x00,
    0x64, 0x2F, 0x62, 0x79, 0x50, 0x4B, 0x01, 0x02, 0x14, 0x00, 0x14, 0x00, 0x00, 0x00, 0x00,
    0x00, 0x00, 0x00, 0x21, 0x00, 0x15, 0x26, 0xDB, 0xFB, 0x01, 0x00, 0x00, 0x00, 0x01, 0x00,
    0x00, 0x00, 0x03, 0x00, 0x00, 0x00, 0x00, 0x00, 0x00, 0x00, 0x00, 0x00, 0x00, 0x00, 0x80,
    0x01, 0x00, 0x00, 0x00, 0x00, 0x64, 0x2F, 0x62, 0x50, 0x4B, 0x05, 0x06, 0x00, 0x00, 0x00,
    0x00, 0x01, 0x00, 0x01, 0x00, 0x31, 0x00, 0x00, 0x00, 0x22, 0x00, 0x00, 0x00, 0x00, 0x00]

/-- A disk with the small tree and its archive. -/
def smallDisk : Disk where
  nodes := [(["r"], .directory), (["r", "d"], .directory), (["r", "d", "b"], .file [0x79]),
    (["r.zip"], .file smallFile)]
  current := []

def smallArchive : Zip.Archive :=
  (Zip.Archive.read smallFile).toOption.getD ⟨[], []⟩

theorem of_isSome_at?_small (h : (small.at? place).isSome) :
  place = [] ∨ place = ["d"] ∨ place = ["d", "b"]
  := by
  have hdown : ∀ (front : List String) {sub : ResourceTree} {name : String} {rest : List String},
      small.at? front = some sub → place = front ++ name :: rest → name ∈ sub.names := by
    intro front sub name rest hsub hplace
    rw [ResourceTree.mem_names_iff hsub]
    apply ResourceTree.isSome_at?_of_append rest
    rw [List.append_assoc, List.singleton_append, ← hplace]
    apply h
  rcases place with _ | ⟨name, _ | ⟨name', _ | ⟨name'', rest⟩⟩⟩
  · simp
  · obtain rfl := List.mem_singleton.mp (hdown [] ResourceTree.at?_nil rfl)
    simp
  · obtain rfl := List.mem_singleton.mp (hdown [] ResourceTree.at?_nil rfl)
    obtain rfl := List.mem_singleton.mp (hdown ["d"] rfl rfl)
    simp
  · obtain rfl := List.mem_singleton.mp (hdown [] ResourceTree.at?_nil rfl)
    obtain rfl := List.mem_singleton.mp (hdown ["d"] rfl rfl)
    cases hdown ["d", "b"] rfl rfl

theorem of_at?_small (h : small.at? place = some sub) :
  place = [] ∧ sub = small ∨ place = ["d"] ∧ sub = .directory [("b", .file [0x79])]
    ∨ place = ["d", "b"] ∧ sub = .file [0x79]
  := by
  obtain rfl | rfl | rfl := of_isSome_at?_small (by rw [h]; rfl)
  all_goals
    obtain rfl := Option.some.inj h
    simp [small]

theorem isSound_small :
  small.IsSound
  := by
  constructor
  · exact ⟨_, rfl⟩
  · intro place sub hsub name hname
    obtain ⟨-, rfl⟩ | ⟨-, rfl⟩ | ⟨-, rfl⟩ := of_at?_small hsub
    · obtain rfl := List.mem_singleton.mp hname
      exact ⟨⟨by decide, by decide⟩, by decide, by decide, by decide⟩
    · obtain rfl := List.mem_singleton.mp hname
      exact ⟨⟨by decide, by decide⟩, by decide, by decide, by decide⟩
    · cases hname
  · intro place sub hsub
    obtain ⟨-, rfl⟩ | ⟨-, rfl⟩ | ⟨-, rfl⟩ := of_at?_small hsub
    all_goals simp [small, ResourceTree.names]

theorem isAt_small :
  small.IsAt smallDisk ["r"]
  := by
  intro place
  by_cases hplace : place = [] ∨ place = ["d"] ∨ place = ["d", "b"]
  · obtain rfl | rfl | rfl := hplace <;> rfl
  · have hnone : small.at? place = none := by
      rw [← Option.not_isSome_iff_eq_none]
      apply mt of_isSome_at?_small hplace
    rw [hnone, Disk.node?, if_neg (by simp), Option.map_none, List.lookup_eq_none_iff]
    simp only [not_or] at hplace
    simp [smallDisk, hplace]

theorem laidOut_small :
  small.LaidOut smallDisk "/r" ["r"]
  := by
  refine ⟨rfl, by decide +kernel, isAt_small, by decide, ?_⟩
  intro place hsome
  obtain rfl | rfl | rfl := of_isSome_at?_small hsome <;> decide +kernel

theorem packedAt_small :
  small.PackedAt smallDisk "/r.zip" smallArchive
  := by
  refine ⟨rfl, ⟨smallFile, by decide +kernel, ?_⟩, ?_, ?_, ?_⟩
  · have hopens : (Zip.Archive.read smallFile).toOption.isSome := by decide +kernel
    rw [smallArchive]
    cases hread : Zip.Archive.read smallFile with
    | ok archive => rfl
    | error fault =>
        rw [hread] at hopens
        cases hopens
  · intro place contents hsub
    obtain ⟨-, h⟩ | ⟨-, h⟩ | ⟨rfl, h⟩ := of_at?_small hsub
    · cases h
    · cases h
    · obtain rfl := ResourceTree.file.inj h
      decide +kernel
  · intro place hne hsub
    obtain ⟨-, h⟩ | ⟨-, h⟩ | ⟨-, h⟩ := of_at?_small hsub <;> cases h
  · have hnames : smallArchive.names = ["d/b"] := by decide +kernel
    intro name hname
    rw [hnames] at hname
    use ["d", "b"], .file [0x79], by simp, rfl
    apply List.mem_singleton.mp hname

/-! ### The same resources, stored in both ways -/

/-- A directory and an archive that hold the same tree serve the same resources at every path,
as long as the path of the file below the directory is the one of its names. -/
theorem serves_directory_and_archive [DomainNames] (hsound : tree.IsSound)
    (hplain : tree.LaidOut disk home base) (hpacked : tree.PackedAt disk archivePath archive)
    (hread : Reads path place)
    (hfile : ∃ location, (Bundle.mk (.directory home)).resolve path = .ok location
      ∧ location.filePath = .ok (PathText.rooted (PathText.names home ++ place))) :
  (Bundle.mk (.directory home)).Serves disk path (tree.at? place)
    ∧ (Bundle.mk (.archive archivePath)).Serves disk path (tree.at? place)
  := by
  obtain ⟨location, hresolve, hlocation⟩ := hfile
  constructor
  · apply serves_plain hsound hplain hread hresolve hlocation
  · apply serves_packed hsound hpacked hread

attribute [local instance] DomainNames.asciiOnly in
/-- A file is served by a path of any spelling, also from an archive without its directory. -/
theorem serves_directory_and_archive_small :
  (Bundle.mk (.directory "/r")).Serves smallDisk "./d//b" (some (.file [0x79]))
    ∧ (Bundle.mk (.archive "/r.zip")).Serves smallDisk "./d//b" (some (.file [0x79]))
  := by
  have hread : Reads "./d//b" ["d", "b"] := by decide +kernel
  apply serves_directory_and_archive isSound_small laidOut_small packedAt_small hread
  · use { url := ResourceLocation.urlOf ["r", "d", "b"], resourcePath := "d/b", archive := none }
    constructor <;> decide +kernel

end Provision.Bundle
