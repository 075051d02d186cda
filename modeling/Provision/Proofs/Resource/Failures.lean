import Mathlib
import Provision.Proofs.Resource.Alike

/-!
# Failures of one tree, stored in two ways

A directory and an archive that hold the same tree do not fail for the same reasons. What the
tree does not have is always missing in an archive. A disk says so only if the walk to the
place ends at a missing name, and not if it runs into a file that is taken for a directory.
And a directory cannot be read from either, but in an archive it counts as missing.
-/

namespace Provision.Bundle

open ResourcePath

variable {tree sub : ResourceTree} {disk : Disk} {archive : Zip.Archive}
  {path home archivePath : String} {base place : List String}

/-! ### Kinds of failures -/

theorem ofAccess_of_ne {text : String} {fault : AccessFault} (h : fault ≠ .notFound) :
  ResourceError.ofAccess text fault = .unreadable text
  := by
  cases fault <;> first | rfl | exact absurd rfl h

/-- What stands in a tree is never missing below a directory, also if it cannot be read. -/
theorem ne_notFound_of_readText (hplain : tree.LaidOut disk home base)
    (hplace : IsPlace place) (hsub : tree.at? place = some sub) {hasSlash : Bool}
    {fault : AccessFault}
    (h : disk.readText (PathText.rootedAs hasSlash (PathText.names home ++ place))
      = .error fault) :
  fault ≠ .notFound
  := by
  obtain hleads | ⟨fault', hne, hfault'⟩ := hplain.place_cases hasSlash hplace hsub
  · rw [hplain.readText_eq hsub hleads] at h
    rintro rfl
    cases sub with
    | directory children => cases h
    | file contents =>
        simp only at h
        split at h
        · cases h
        · cases h
  · rw [Disk.readText_of_place hfault'] at h
    obtain rfl := Except.error.inj h
    apply hne

/-- The disk says of the path of a file that it is missing: the path is one that a disk can
have, and the way to the place breaks off in a directory. -/
def IsMissingFile (tree : ResourceTree) (file : String) (place : List String) : Prop :=
  (∀ name ∈ place, '\x00' ∉ name.toList) ∧ file.utf8ByteSize < Disk.maxPathBytes
    ∧ tree.BreaksOffInDirectory place

theorem code_eq_iff_of_missing {missing : Prop} {text : String} {e : ResourceError}
    (h : e = .notFound text ∧ missing ∨ e = .unreadable text ∧ ¬ missing) :
  e.code = (ResourceError.notFound text).code ↔ missing
  := by
  obtain ⟨rfl, hmissing⟩ | ⟨rfl, hmissing⟩ := h
  · simp [hmissing]
  · simp [hmissing, ResourceError.code]

section

variable [DomainNames]

/-- What a tree does not have is missing in an archive. -/
theorem missing_packed (hsound : tree.IsSound)
    (hpacked : tree.PackedAt disk archivePath archive) (hread : Reads path place)
    (hnone : tree.at? place = none) :
  let packed := Bundle.mk (.archive archivePath)
  (packed.readText disk path).result = .error (.notFound (textOf place))
    ∧ (packed.list disk path).result = .error (.notFound (textOf place))
    ∧ (packed.probe disk path).result = .ok false
  := by
  intro packed
  have hplace := hread.isPlace
  obtain ⟨location, hresolve, htext, hserving, hentry⟩ :=
    exists_resolve_archive hread hpacked.isAbsolute
  have hopen := hpacked.openArchive_eq (textOf place)
  have hne : place ≠ [] := by
    rintro rfl
    simp at hnone
  have hchildren : Children.children? archive.names (textOf place) = none := by
    rw [← Option.not_isSome_iff_eq_none, hpacked.packs.isSome_children?_iff hsound hplace, hnone]
    simp
  constructor
  · rw [result_readText_packed hresolve hserving hentry hopen, htext, isEmpty_textOf hplace,
      if_neg (by simpa using hne), hpacked.packs.readArchive_eq hsound hread hne, hnone]
  · constructor
    · rw [result_list_packed hresolve hserving hentry hopen, hchildren]
    · rw [result_probe_packed hresolve hserving hentry hopen, hchildren]
      rfl

/-- What a tree does not have cannot be reached below a directory, but it counts as missing
only if it is a missing file. -/
theorem missing_plain (hplain : tree.LaidOut disk home base) (hread : Reads path place)
    (hnone : tree.at? place = none) {location : ResourceLocation} {hasSlash : Bool}
    (hresolve : (Bundle.mk (.directory home)).resolve path = .ok location)
    (htext : location.resourcePath = textOf place)
    (hserving : ResourceStorage.serving location = .ok .plain)
    (hfile : location.filePath
      = .ok (PathText.rootedAs hasSlash (PathText.names home ++ place))) :
  let plain := Bundle.mk (.directory home)
  let file := PathText.rootedAs hasSlash (PathText.names home ++ place)
  (plain.probe disk path).result = .ok false
    ∧ ∃ e, (plain.readText disk path).result = .error e ∧ (plain.list disk path).result = .error e
      ∧ (e = .notFound (textOf place) ∧ IsMissingFile tree file place
        ∨ e = .unreadable (textOf place) ∧ ¬ IsMissingFile tree file place)
  := by
  intro plain file
  have hplace := hread.isPlace
  have hne : place ≠ [] := by
    rintro rfl
    simp at hnone
  obtain ⟨fault, hfault, hmissing⟩ := hplain.exists_fault hasSlash hplace hnone
  constructor
  · rw [result_probe_plain disk hresolve hserving hfile, Disk.contains_of_place hfault]
  · use .ofAccess (textOf place) fault
    constructor
    · rw [result_readText_plain disk hresolve hserving hfile, htext, isEmpty_textOf hplace,
        if_neg (by simpa using hne), Disk.readText_of_place hfault]
      rfl
    · constructor
      · rw [result_list_plain disk hresolve hserving hfile, htext, Disk.list_of_place hfault]
        rfl
      · by_cases hfaultEq : fault = .notFound
        · left
          subst hfaultEq
          exact ⟨rfl, hmissing.mp rfl⟩
        · right
          use ofAccess_of_ne hfaultEq, mt hmissing.mpr hfaultEq

/-- What a tree has fails to be read from both only at the root, at a directory, or at a file
without a text, and the causes differ at a directory. -/
theorem code_eq_iff_of_at? (hsound : tree.IsSound) (hplain : tree.LaidOut disk home base)
    (hpacked : tree.PackedAt disk archivePath archive) (hread : Reads path place)
    (hne : place ≠ []) (hsub : tree.at? place = some sub) {e e' : ResourceError}
    (he : ((Bundle.mk (.directory home)).readText disk path).result = .error e)
    (he' : ((Bundle.mk (.archive archivePath)).readText disk path).result = .error e') :
  e.code = e'.code ↔ ∀ children, sub ≠ .directory children
  := by
  have hplace := hread.isPlace
  obtain ⟨location, hasSlash, hresolve, htext, hserving, hfile⟩ :=
    exists_resolve_directory hread hplain.isAbsolute
  obtain ⟨location', hresolve', htext', hserving', hentry⟩ :=
    exists_resolve_archive hread hpacked.isAbsolute
  have hempty : place.isEmpty ≠ true := by simpa using hne
  have hcode : e = .unreadable (textOf place) := by
    rw [result_readText_plain disk hresolve hserving hfile, htext, isEmpty_textOf hplace,
      if_neg hempty] at he
    cases hdisk : disk.readText (PathText.rootedAs hasSlash (PathText.names home ++ place)) with
    | ok text =>
        rw [hdisk] at he
        cases he
    | error fault =>
        rw [hdisk] at he
        obtain rfl := Except.error.inj he
        apply ofAccess_of_ne (ne_notFound_of_readText hplain hplace hsub hdisk)
  rw [result_readText_packed hresolve' hserving' hentry (hpacked.openArchive_eq _), htext',
    isEmpty_textOf hplace, if_neg hempty, hpacked.packs.readArchive_eq hsound hread hne,
    hsub] at he'
  subst hcode
  cases sub with
  | directory children =>
      obtain rfl := Except.error.inj he'
      simp [ResourceError.code]
  | file contents =>
      simp only at he'
      cases hdecode : Utf8.decode? contents with
      | some text =>
          rw [hdecode] at he'
          cases he'
      | none =>
          rw [hdecode] at he'
          obtain rfl := Except.error.inj he'
          simp

/-- Where a tree has nothing, an archive always says that it is missing, and a directory finds
nothing either, but says so exactly for a missing file. So the kinds of failures are the same
exactly if what is missing is a missing file and what is read is no directory, apart from
the root, which neither reads. -/
theorem failures_directory_and_archive (hsound : tree.IsSound)
    (hplain : tree.LaidOut disk home base) (hpacked : tree.PackedAt disk archivePath archive)
    (hread : Reads path place) :
  let plain := Bundle.mk (.directory home)
  let packed := Bundle.mk (.archive archivePath)
  ∃ location file, plain.resolve path = .ok location ∧ location.filePath = .ok file
    ∧ (tree.at? place = none →
        (packed.readText disk path).result = .error (.notFound (textOf place))
          ∧ (packed.list disk path).result = .error (.notFound (textOf place))
          ∧ (packed.probe disk path).result = .ok false
          ∧ (plain.probe disk path).result = .ok false
          ∧ ∃ e, (plain.readText disk path).result = .error e
            ∧ (plain.list disk path).result = .error e
            ∧ (e = .notFound (textOf place) ∧ IsMissingFile tree file place
              ∨ e = .unreadable (textOf place) ∧ ¬ IsMissingFile tree file place))
    ∧ (∀ e e', (plain.readText disk path).result = .error e →
        (packed.readText disk path).result = .error e' →
        (e.code = e'.code ↔ (tree.at? place = none → IsMissingFile tree file place)
          ∧ (place ≠ [] → ∀ children, tree.at? place ≠ some (.directory children))))
    ∧ ∀ e e', (plain.list disk path).result = .error e →
        (packed.list disk path).result = .error e' →
        (e.code = e'.code ↔ IsMissingFile tree file place)
  := by
  intro plain packed
  have hplace := hread.isPlace
  obtain ⟨location, hasSlash, hresolve, htext, hserving, hfile⟩ :=
    exists_resolve_directory hread hplain.isAbsolute
  refine ⟨location, _, hresolve, hfile, ?_, ?_, ?_⟩
  · intro hnone
    obtain ⟨hreadText, hlist, hprobe⟩ := missing_packed hsound hpacked hread hnone
    use hreadText, hlist, hprobe
    apply missing_plain hplain hread hnone hresolve htext hserving hfile
  · intro e e' he he'
    by_cases hne : place = []
    · subst hne
      obtain ⟨location', hresolve', htext', hserving', hentry⟩ :=
        exists_resolve_archive hread hpacked.isAbsolute
      rw [result_readText_plain disk hresolve hserving hfile, htext, isEmpty_textOf hplace] at he
      rw [result_readText_packed hresolve' hserving' hentry (hpacked.openArchive_eq _), htext',
        isEmpty_textOf hplace] at he'
      obtain rfl := Except.error.inj he
      obtain rfl := Except.error.inj he'
      simp
    · cases hsub : tree.at? place with
      | some sub =>
          rw [code_eq_iff_of_at? hsound hplain hpacked hread hne hsub he he']
          simp [hne]
      | none =>
          obtain ⟨hreadText, -⟩ := missing_packed hsound hpacked hread hsub
          obtain ⟨-, found, hfound, -, hcases⟩ :=
            missing_plain hplain hread hsub hresolve htext hserving hfile
          obtain rfl := Except.error.inj (hreadText.symm.trans he')
          obtain rfl := Except.error.inj (hfound.symm.trans he)
          rw [code_eq_iff_of_missing hcases]
          simp
  · intro e e' he he'
    cases hsub : tree.at? place with
    | some sub =>
        have hserves := serves_packed hsound hpacked hread
        obtain ⟨names, hnames⟩ := hserves.list.mpr (by rw [hsub]; rfl)
        cases hnames.symm.trans he'
    | none =>
        obtain ⟨-, hlist, -⟩ := missing_packed hsound hpacked hread hsub
        obtain ⟨-, found, -, hfound, hcases⟩ :=
          missing_plain hplain hread hsub hresolve htext hserving hfile
        obtain rfl := Except.error.inj (hlist.symm.trans he')
        obtain rfl := Except.error.inj (hfound.symm.trans he)
        apply code_eq_iff_of_missing hcases

end

attribute [local instance] DomainNames.asciiOnly in
/-- A path that leads through a file is missing in the archive, but unreadable on the disk. -/
theorem failures_directory_and_archive_small :
  ((Bundle.mk (.archive "/r.zip")).list smallDisk "d/b/c").result = .error (.notFound "d/b/c")
    ∧ ((Bundle.mk (.directory "/r")).list smallDisk "d/b/c").result
      = .error (.unreadable "d/b/c")
  := by
  have hread : Reads "d/b/c" ["d", "b", "c"] := by decide +kernel
  obtain ⟨location, file, -, -, hmissing, -, -⟩ :=
    failures_directory_and_archive isSound_small laidOut_small packedAt_small hread
  obtain ⟨-, hpacked, -, -, e, -, hplain, hcases⟩ := hmissing rfl
  use hpacked
  obtain ⟨-, -, -, hbreaks⟩ | ⟨rfl, -⟩ := hcases
  · have hbarrier := ResourceTree.barrier?_eq_notFound_iff.mpr hbreaks
    revert hbarrier
    decide
  · apply hplain

end Provision.Bundle
