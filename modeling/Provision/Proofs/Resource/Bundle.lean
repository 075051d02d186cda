import Mathlib
import Provision.Proofs.Resource.Location

/-!
# What a bundle does at a place

A path that names a place is always resolved, below a directory to the path of a file, in
an archive to the name of an entry. What a bundle then answers is what the disk says about
that file, or what the archive says about that entry.
-/

namespace Provision.Bundle

open ResourcePath

variable [DomainNames] {bundle : Bundle} {disk : Disk} {location : ResourceLocation}
  {archive : Zip.Archive} {path home archivePath file entry : String} {place : List String}

/-! ### Resolving -/

/-- Below an absolute directory every place has the path of a file, in which a slash follows what
ends in the name of a drive. -/
theorem resolve_directory (hread : Reads path place)
    (hhome : PathText.isAbsolute home = true) :
  let names := PathText.names home ++ place
  ∃ location, (Bundle.mk (.directory home)).resolve path = .ok location
    ∧ location.resourcePath = textOf place
    ∧ ResourceStorage.serving location = .ok .plain
    ∧ location.filePath
      = .ok (PathText.rootedAs (Url.endsInDrive (PathText.rooted names).toList) names)
  := by
  intro names
  have hplace := hread.isPlace
  obtain ⟨target, htarget, habsolute, hnames⟩ : ∃ target,
      (if (textOf place).isEmpty then home else PathText.join home (textOf place)) = target
        ∧ PathText.isAbsolute target = true
        ∧ PathText.names target = names := by
    rw [isEmpty_textOf hplace]
    split_ifs with hempty
    · use home, rfl, hhome
      simp only [names, List.isEmpty_iff.mp hempty, List.append_nil]
    · use PathText.join home (textOf place), rfl
      use ResourceLocation.isAbsolute_join hhome
      apply ResourceLocation.names_join hplace hhome
  have hpath := ResourceLocation.filePath?_urlOf names
  have hlocation := ResourceLocation.ofFilePath?_eq habsolute
  rw [hnames] at hlocation
  use { url := ResourceLocation.urlOf names
        resourcePath := textOf place
        archive := none }
  refine ⟨?_, rfl, ?_, ?_⟩
  · rw [resolve, ResourceLocation.resolve, hread.normalize_eq]
    change (ResourceLocation.inDirectory home (textOf place)).mapError _ = _
    rw [ResourceLocation.inDirectory, htarget, hlocation]
    rfl
  · rfl
  · have hscheme : String.ofList (ResourceLocation.urlOf names).scheme
        = ResourceLocation.fileScheme := rfl
    simp only [ResourceLocation.filePath, ResourceLocation.scheme, hscheme, hpath, ne_eq,
      not_true_eq_false, if_false]
    rw [String.ofList_toList]

/-- Below an absolute directory every place has the path of a file. -/
theorem exists_resolve_directory (hread : Reads path place)
    (hhome : PathText.isAbsolute home = true) :
  ∃ location hasSlash, (Bundle.mk (.directory home)).resolve path = .ok location
    ∧ location.resourcePath = textOf place
    ∧ ResourceStorage.serving location = .ok .plain
    ∧ location.filePath = .ok (PathText.rootedAs hasSlash (PathText.names home ++ place))
  := by
  obtain ⟨location, hlocation⟩ := resolve_directory hread hhome
  exact ⟨location, _, hlocation⟩

/-- In an archive with an absolute path every place has the name of an entry. -/
theorem exists_resolve_archive (hread : Reads path place)
    (harchive : PathText.isAbsolute archivePath = true) :
  ∃ location, (Bundle.mk (.archive archivePath)).resolve path = .ok location
    ∧ location.resourcePath = textOf place
    ∧ ResourceStorage.serving location = .ok .packed
    ∧ location.archiveEntry = .ok (archivePath, textOf place)
  := by
  obtain ⟨url, hparse, hscheme⟩ := ResourceLocation.exists_parse_archive
    (PathText.names archivePath) (ResourceLocation.entryMark.toList ++ (textOf place).toList)
  rw [← List.append_assoc] at hparse
  use { url, resourcePath := textOf place, archive := some archivePath }
  have hschemeText : String.ofList url.scheme = ResourceLocation.archiveScheme := by
    rw [hscheme, String.ofList_toList]
  refine ⟨?_, rfl, ?_, ?_⟩
  · rw [resolve, ResourceLocation.resolve, hread.normalize_eq]
    change (ResourceLocation.inArchive archivePath (textOf place)).mapError _ = _
    rw [ResourceLocation.inArchive, ResourceLocation.ofFilePath?_eq harchive]
    simp only [hparse]
    rfl
  · rw [ResourceStorage.serving, ResourceLocation.kind, ResourceLocation.scheme, hschemeText,
      if_neg (by decide), if_pos rfl]
    rfl
  · rw [ResourceLocation.archiveEntry]
    simp only [ResourceLocation.scheme, hschemeText, if_true]

/-! ### Answers from a directory -/

section Plain

variable (disk : Disk) (hresolve : bundle.resolve path = .ok location)
  (hserving : ResourceStorage.serving location = .ok .plain)
  (hfile : location.filePath = .ok file)

include hresolve hserving hfile

theorem result_readText_plain :
  (bundle.readText disk path).result
    = if location.resourcePath.isEmpty then .error (.invalidPath path .rootIsNoFile)
      else (disk.readText file).mapError (ResourceError.ofAccess location.resourcePath)
  := by
  rw [readText, hresolve, Attempt.result_bind]
  change Attempt.result (if location.resourcePath.isEmpty = true then _ else _) = _
  split_ifs
  · rfl
  · rw [Attempt.result_bind, hserving]
    change (ResourceStorage.readPlain disk location).result = _
    rw [ResourceStorage.readPlain, hfile]
    rfl

theorem result_list_plain :
  (bundle.list disk path).result
    = ((disk.list file).map (·.getD [])).mapError
      (ResourceError.ofAccess location.resourcePath)
  := by
  rw [list, hresolve, Attempt.result_bind]
  change Attempt.result (Attempt.record _ >>= _) = _
  rw [Attempt.result_bind, hserving]
  change (ResourceStorage.listPlain disk location).result = _
  rw [ResourceStorage.listPlain, hfile, Attempt.result_bind]
  change Attempt.result (_ >>= _) = _
  rw [Attempt.result_bind, ResourceStorage.access]
  cases disk.list file with
  | error fault => rfl
  | ok found => cases found <;> rfl

theorem result_probe_plain :
  (bundle.probe disk path).result = .ok (disk.contains file)
  := by
  rw [probe, hresolve, Attempt.result_bind]
  change Attempt.result (_ >>= _) = _
  rw [hserving]
  change (ResourceStorage.existsPlain disk location).result = _
  rw [ResourceStorage.existsPlain, hfile]
  rfl

end Plain

/-! ### Answers from an archive -/

section Packed

variable (hresolve : bundle.resolve path = .ok location)
  (hserving : ResourceStorage.serving location = .ok .packed)
  (hentry : location.archiveEntry = .ok (archivePath, entry))
  (hopen : ResourceStorage.openArchive disk archivePath entry = .ok archive)

include hresolve hserving hentry hopen

theorem result_readText_packed :
  (bundle.readText disk path).result
    = if location.resourcePath.isEmpty then .error (.invalidPath path .rootIsNoFile)
      else ResourceStorage.readArchive entry archive
  := by
  rw [readText, hresolve, Attempt.result_bind]
  change Attempt.result (if location.resourcePath.isEmpty = true then _ else _) = _
  split_ifs
  · rfl
  · rw [Attempt.result_bind, hserving]
    change (ResourceStorage.readPacked disk location).result = _
    rw [ResourceStorage.readPacked, hentry, Attempt.result_bind]
    change Attempt.result (_ >>= _) = _
    rw [hopen]
    rfl

theorem result_list_packed :
  (bundle.list disk path).result
    = match Children.children? archive.names entry with
      | none => .error (.notFound entry)
      | some names => .ok names
  := by
  rw [list, hresolve, Attempt.result_bind]
  change Attempt.result (Attempt.record _ >>= _) = _
  rw [Attempt.result_bind, hserving]
  change (ResourceStorage.listPacked disk location).result = _
  rw [ResourceStorage.listPacked, hentry, Attempt.result_bind]
  change Attempt.result (_ >>= _) = _
  rw [hopen, Attempt.result_bind]
  change (ResourceStorage.listArchive archivePath entry archive).result = _
  rw [ResourceStorage.listArchive]
  cases Children.children? archive.names entry <;> rfl

theorem result_probe_packed :
  (bundle.probe disk path).result = .ok (Children.children? archive.names entry).isSome
  := by
  rw [probe, hresolve, Attempt.result_bind]
  change Attempt.result (_ >>= _) = _
  rw [hserving]
  change (ResourceStorage.existsPacked disk location).result = _
  rw [ResourceStorage.existsPacked, hentry, Attempt.result_bind]
  simp only [Attempt.ofExcept, Except.bind, hopen]
  rfl

end Packed

end Provision.Bundle
