import Mathlib
import Provision.Proofs.Resource.Bundle
import Provision.Proofs.Resource.Packed
import Provision.Proofs.Resource.Plain

/-!
# Confinement to the root

No resource path leads out of its root. What a path is resolved to is of the kind of the root:
below a directory it has the path of a file, whose names are those of the directory and then
the segments of the path; in an archive it has the name of an entry. So a bundle never asks for
a file or an entry where there is none.
-/

namespace Provision

open Segments (IsSegment)

/-! ### Faults -/

/-- The fault is to have asked a location for what it is not. -/
def PathFault.isMisdirection : PathFault → Bool
  | .unknownScheme _ | .noFileLocation | .noLocalPath | .noArchiveLocation => true
  | _ => false

/-- The error comes from asking a location for what it is not. -/
def ResourceError.IsMisdirection (e : ResourceError) : Prop :=
  ∃ path fault, e = .invalidPath path fault ∧ fault.isMisdirection = true

namespace ResourceError

variable {path : String}

theorem not_isMisdirection_invalidPath {fault : PathFault} (h : fault.isMisdirection = false) :
  ¬ (invalidPath path fault).IsMisdirection
  := by
  rintro ⟨path', fault', heq, hfault⟩
  obtain ⟨-, rfl⟩ := ResourceError.invalidPath.inj heq
  rw [h] at hfault
  cases hfault

theorem not_isMisdirection_notFound :
  ¬ (notFound path).IsMisdirection
  := by
  rintro ⟨_, _, h, -⟩
  cases h

theorem not_isMisdirection_unreadable :
  ¬ (unreadable path).IsMisdirection
  := by
  rintro ⟨_, _, h, -⟩
  cases h

theorem not_isMisdirection_ofAccess (fault : AccessFault) :
  ¬ (ofAccess path fault).IsMisdirection
  := by
  cases fault
  case notFound => apply not_isMisdirection_notFound
  all_goals apply not_isMisdirection_unreadable

theorem not_isMisdirection_ofArchive (fault : Zip.Fault) :
  ¬ (ofArchive path fault).IsMisdirection
  := by
  cases fault with
  | noSuchEntry => apply not_isMisdirection_notFound
  | access fault => apply not_isMisdirection_ofAccess
  | invalid | unsupported => apply not_isMisdirection_unreadable

end ResourceError

/-! ### Segments of paths -/

namespace ResourcePath

/-- The segments of a path in normal form. -/
def parts (text : String) : List String :=
  if text.isEmpty then [] else (segments text.toList).map String.ofList

variable {path : String} {place : List String}

theorem parts_textOf (h : IsPlace place) :
  parts (textOf place) = place
  := by
  rw [parts, isEmpty_textOf h]
  split_ifs with hempty
  · rw [List.isEmpty_iff.mp hempty]
  · have hne : place ≠ [] := fun hnil => hempty (List.isEmpty_iff.mpr hnil)
    rw [ResourceTree.segments_textOf hne fun name hname => (h name hname).1, List.map_map]
    simp

/-- A path without a normal form is at fault itself. -/
theorem exists_of_normalize_eq_error {e : ResourceError}
    (h : ResourcePath.normalize path = .error e) :
  ∃ fault, e = .invalidPath path fault ∧ fault.isMisdirection = false
  := by
  rw [ResourcePath.normalize, read] at h
  split_ifs at h with hbackslash hparent
  · use .backslash, (Except.error.inj h).symm
    rfl
  · use .parentSegment, (Except.error.inj h).symm
    rfl

end ResourcePath

namespace ResourceLocation

open ResourcePath

variable {location : ResourceLocation} {home archive path text : String} {place : List String}

/-- The location belongs to a path in normal form under the root, and is of use in the storage
of the root only. -/
def IsWithin (location : ResourceLocation) (text : String) : ResourceRoot → Prop
  | .directory home =>
    location.kind = .ok .file
      ∧ ResourceStorage.serving location = .ok .plain
      ∧ (∃ file, location.filePath = .ok file
        ∧ PathText.isAbsolute file = true
        ∧ PathText.names file = PathText.names home ++ parts text)
      ∧ location.archiveEntry = .error (.invalidPath location.text .noArchiveLocation)
  | .archive archive =>
    location.kind = .ok .archive
      ∧ ResourceStorage.serving location = .ok .packed
      ∧ location.archiveEntry = .ok (archive, text)
      ∧ location.filePath = .error (.invalidPath location.text .noFileLocation)

/-! ### The kind of a location -/

theorem scheme_of_serving_plain (h : ResourceStorage.serving location = .ok .plain) :
  location.scheme = fileScheme
  := by
  rw [ResourceStorage.serving, kind] at h
  split_ifs at h with hfile harchive
  · apply hfile
  · cases h
  · cases h

theorem scheme_of_serving_packed (h : ResourceStorage.serving location = .ok .packed) :
  location.scheme = archiveScheme
  := by
  rw [ResourceStorage.serving, kind] at h
  split_ifs at h with hfile harchive
  · cases h
  · apply harchive
  · cases h

/-! ### Below a directory -/

theorem names_rootedAs {names : List String} (hasSlash : Bool)
    (hsegment : ∀ name ∈ names, IsSegment name.toList) (hdot : ∀ name ∈ names, name ≠ ".") :
  PathText.names (PathText.rootedAs hasSlash names) = names
  := by
  rw [PathText.names, PathText.split_rootedAs hsegment, List.map_map]
  simpa using hdot

theorem ofFilePath?_of_not_isAbsolute (h : PathText.isAbsolute path = false) :
  Url.ofFilePath? path.toList = none
  := by
  rw [PathText.isAbsolute, beq_eq_false_iff_ne] at h
  unfold Url.ofFilePath?
  split
  · rename_i rest hrest
    rw [hrest] at h
    exact absurd rfl h
  · rfl

/-- What is below a path that is not absolute is not absolute. -/
theorem isAbsolute_join_textOf (hplace : IsPlace place) (h : PathText.isAbsolute home = false) :
  PathText.isAbsolute (PathText.join home (textOf place)) = false
  := by
  have htext : PathText.isAbsolute (textOf place) = false := by
    rw [PathText.isAbsolute, toList_textOf, beq_eq_false_iff_ne]
    apply Segments.head?_join_ne
    apply PathText.isSegment_of_mem_map fun name hname => (hplace name hname).1
  rw [PathText.join]
  by_cases hempty : home.isEmpty
  · rw [if_pos hempty]
    apply htext
  · rw [if_neg hempty]
    have hne : home.toList ≠ [] := by simpa [String.isEmpty_iff] using hempty
    have hhead : ∀ rest, (home.toList ++ rest).head? = home.toList.head? := by
      intro rest
      apply List.head?_append_of_ne_nil _ hne
    rw [PathText.isAbsolute] at h ⊢
    split_ifs
    · rw [String.toList_append, hhead, h]
    · rw [String.toList_append, String.toList_append, List.append_assoc, hhead, h]

variable [DomainNames]

theorem isWithin_directory (hread : Reads path place) (hhome : PathText.isAbsolute home = true) :
  ∃ location, resolve (.directory home) path = .ok location
    ∧ location.IsWithin (textOf place) (.directory home)
  := by
  obtain ⟨location, hasSlash, hresolve, -, hserving, hfile⟩ :=
    Bundle.exists_resolve_directory hread hhome
  have hscheme := scheme_of_serving_plain hserving
  use location, hresolve
  refine ⟨?_, hserving, ?_, ?_⟩
  · rw [kind, hscheme, if_pos rfl]
  · use PathText.rootedAs hasSlash (PathText.names home ++ place), hfile
    constructor
    · simp [PathText.isAbsolute, PathText.rootedAs]
    · rw [parts_textOf hread.isPlace]
      apply names_rootedAs
      · apply ResourceTree.isSegment_of_mem_append hread.isPlace
      · intro name hname
        obtain hname | hname := List.mem_append.mp hname
        · simpa using (List.mem_filter.mp hname).2
        · apply (hread.isPlace name hname).2.1
  · rw [archiveEntry, hscheme]
    split <;> rfl

/-! ### In an archive -/

theorem isWithin_archive (hread : Reads path place)
    (harchive : PathText.isAbsolute archive = true) :
  ∃ location, resolve (.archive archive) path = .ok location
    ∧ location.IsWithin (textOf place) (.archive archive)
  := by
  obtain ⟨location, hresolve, -, hserving, hentry⟩ :=
    Bundle.exists_resolve_archive hread harchive
  have hscheme := scheme_of_serving_packed hserving
  use location, hresolve
  refine ⟨?_, hserving, hentry, ?_⟩
  · rw [kind, hscheme, if_neg (by decide), if_pos rfl]
  · rw [filePath, hscheme, if_pos (by decide)]
    rfl

/-! ### Any root -/

variable {root : ResourceRoot}

/-- A path without a normal form has no location, for the same reason. -/
theorem resolve_of_error {e : ResourceError} (h : normalize path = .error e) :
  resolve root path = .error e
  := by
  rw [resolve, h]
  rfl

/-- Under an absolute root, every path with a normal form has a location, and none leads out. -/
theorem isWithin_resolve (hroot : PathText.isAbsolute root.path = true)
    (h : normalize path = .ok text) :
  ∃ location, resolve root path = .ok location
    ∧ location.IsWithin text root
    ∧ ∀ name ∈ parts text, IsInner name
  := by
  obtain ⟨place, hread, rfl⟩ := exists_reads_of_normalize h
  obtain ⟨location, hresolve, hwithin⟩ : ∃ location, resolve root path = .ok location
      ∧ location.IsWithin (textOf place) root := by
    cases root with
    | directory home => apply isWithin_directory hread hroot
    | archive archive => apply isWithin_archive hread hroot
  use location, hresolve, hwithin
  rw [parts_textOf hread.isPlace]
  apply hread.isInner

/-- Under a root that is not absolute, no path has a location. -/
theorem exists_resolve_eq_error (hroot : PathText.isAbsolute root.path = false) (path : String) :
  ∃ fault, resolve root path = .error (.invalidPath path fault) ∧ fault.isMisdirection = false
  := by
  cases hnormalize : normalize path with
  | error e =>
      obtain ⟨fault, rfl, hfault⟩ := exists_of_normalize_eq_error hnormalize
      use fault, resolve_of_error hnormalize
  | ok text =>
      obtain ⟨place, hread, rfl⟩ := exists_reads_of_normalize hnormalize
      rw [resolve, hnormalize]
      cases root with
      | directory home =>
          have htarget : PathText.isAbsolute (if (textOf place).isEmpty then home
              else PathText.join home (textOf place)) = false := by
            split_ifs
            · apply hroot
            · apply isAbsolute_join_textOf hread.isPlace hroot
          use .relativeDirectory
          change (inDirectory home (textOf place)).mapError _ = _ ∧ _
          simp only [inDirectory, ofFilePath?_of_not_isAbsolute htarget]
          constructor <;> rfl
      | archive archive =>
          have harchive : PathText.isAbsolute archive = false := hroot
          use .relativeArchive
          change (inArchive archive (textOf place)).mapError _ = _ ∧ _
          simp only [inArchive, ofFilePath?_of_not_isAbsolute harchive]
          constructor <;> rfl

end ResourceLocation

/-! ### Requests -/

/-- The outcome is no error from asking a location for what it is not. -/
def IsDirected {α : Type} (result : Except ResourceError α) : Prop :=
  ∀ e, result = .error e → ¬ e.IsMisdirection

section

variable {α β : Type}

theorem isDirected_ok (a : α) :
  IsDirected (.ok a)
  := nofun

theorem isDirected_error {e : ResourceError} (h : ¬ e.IsMisdirection) :
  IsDirected (.error e : Except ResourceError α)
  := by
  intro e' he'
  obtain rfl := Except.error.inj he'
  apply h

theorem IsDirected.bind {x : Except ResourceError α} {f : α → Except ResourceError β}
    (hx : IsDirected x) (hf : ∀ a, x = .ok a → IsDirected (f a)) :
  IsDirected (x.bind f)
  := by
  cases x with
  | error e => apply isDirected_error (hx e rfl)
  | ok a => apply hf a rfl

theorem isDirected_bind {x : Attempt ResourceError α} {f : α → Attempt ResourceError β}
    (hx : IsDirected x.result) (hf : ∀ a, x.result = .ok a → IsDirected (f a).result) :
  IsDirected (x >>= f).result
  := by
  rw [Attempt.result_bind]
  apply hx.bind hf

theorem isDirected_mapError {ε : Type} (x : Except ε α) {g : ε → ResourceError}
    (hg : ∀ e, ¬ (g e).IsMisdirection) :
  IsDirected (x.mapError g)
  := by
  cases x with
  | error e => apply isDirected_error (hg e)
  | ok a => apply isDirected_ok

end

namespace ResourceStorage

open ResourceError

variable {location : ResourceLocation}

theorem isDirected_access {α : Type} (result : Except AccessFault α) :
  IsDirected (access location result)
  := isDirected_mapError result not_isMisdirection_ofAccess

theorem isDirected_openArchive (disk : Disk) (path entry : String) :
  IsDirected (openArchive disk path entry)
  := by
  apply IsDirected.bind
  · apply isDirected_mapError _ not_isMisdirection_ofAccess
  · intro file _
    apply isDirected_mapError _ not_isMisdirection_ofArchive

theorem isDirected_readArchive (entry : String) (archive : Zip.Archive) :
  IsDirected (readArchive entry archive)
  := by
  apply IsDirected.bind (isDirected_mapError _ not_isMisdirection_ofArchive)
  intro found _
  split_ifs
  · apply isDirected_error not_isMisdirection_notFound
  · apply IsDirected.bind (isDirected_mapError _ fun _ => not_isMisdirection_unreadable)
    intro contents _
    cases Utf8.decode? contents with
    | none => apply isDirected_error not_isMisdirection_unreadable
    | some text => apply isDirected_ok

theorem isDirected_whileOpen {α : Type} (path : String) {act : Attempt ResourceError α}
    (h : IsDirected act.result) :
  IsDirected (whileOpen path act).result
  := by
  apply isDirected_bind
  · apply isDirected_ok
  · intro _ _
    apply h

variable (disk : Disk)

/-- With the path of a file a directory can be asked. -/
theorem isDirected_plain {file : String} (h : location.filePath = .ok file) :
  IsDirected (list disk location plain).result
    ∧ IsDirected (read disk location plain).result
    ∧ IsDirected (probe disk location plain).result
  := by
  constructor
  · rw [list, listPlain, h]
    apply isDirected_bind (isDirected_ok file)
    intro path _
    apply isDirected_bind (isDirected_access _)
    intro names _
    cases names with
    | none => apply isDirected_ok
    | some names =>
        apply isDirected_bind (isDirected_ok ())
        intro _ _
        apply isDirected_ok
  · constructor
    · rw [read, readPlain, h]
      apply IsDirected.bind (isDirected_ok file)
      intro path _
      apply isDirected_access
    · rw [probe, existsPlain, h]
      apply isDirected_ok

/-- With the name of an entry an archive can be asked. -/
theorem isDirected_packed {entry : String × String} (h : location.archiveEntry = .ok entry) :
  IsDirected (list disk location packed).result
    ∧ IsDirected (read disk location packed).result
    ∧ IsDirected (probe disk location packed).result
  := by
  constructor
  · rw [list, listPacked, h]
    apply isDirected_bind (isDirected_ok entry)
    rintro ⟨path, name⟩ _
    apply isDirected_bind (isDirected_openArchive disk path name)
    intro archive _
    apply isDirected_whileOpen
    rw [listArchive]
    cases Children.children? archive.names name with
    | none => apply isDirected_error not_isMisdirection_notFound
    | some names =>
        apply isDirected_bind (isDirected_ok ())
        intro _ _
        apply isDirected_ok
  · constructor
    · rw [read, readPacked, h]
      apply isDirected_bind (isDirected_ok entry)
      rintro ⟨path, name⟩ _
      apply isDirected_bind (isDirected_openArchive disk path name)
      intro archive _
      apply isDirected_whileOpen
      apply isDirected_readArchive
    · rw [probe, existsPacked, h]
      apply isDirected_bind (isDirected_ok entry)
      rintro ⟨path, name⟩ _
      cases hopen : openArchive disk path name with
      | ok archive =>
          simp only [hopen]
          apply isDirected_whileOpen
          apply isDirected_ok
      | error e =>
          simp only [hopen]
          split_ifs
          · apply isDirected_ok
          · apply isDirected_error (isDirected_openArchive disk path name e hopen)

/-- A location within a root can be asked for all there is. -/
theorem isDirected_of_isWithin {root : ResourceRoot} {text : String}
    (h : location.IsWithin text root) :
  ∃ storage, serving location = .ok storage
    ∧ IsDirected (list disk location storage).result
    ∧ IsDirected (read disk location storage).result
    ∧ IsDirected (probe disk location storage).result
  := by
  cases root with
  | directory home =>
      obtain ⟨-, hserving, ⟨file, hfile, -⟩, -⟩ := h
      use plain, hserving
      apply isDirected_plain disk hfile
  | archive archive =>
      obtain ⟨-, hserving, hentry, -⟩ := h
      use packed, hserving
      apply isDirected_packed disk hentry

end ResourceStorage

namespace Bundle

open ResourceLocation ResourceError

variable [DomainNames] (disk : Disk) (bundle : Bundle) (path : String)

/-- A path that cannot be resolved asks nothing of a location, and any other leads to a location
within the root. -/
theorem resolve_cases :
  (∃ e, bundle.resolve path = .error e ∧ ¬ e.IsMisdirection)
    ∨ ∃ location text, bundle.resolve path = .ok location ∧ location.IsWithin text bundle.root
  := by
  cases hroot : PathText.isAbsolute bundle.root.path with
  | false =>
      left
      obtain ⟨fault, hresolve, hfault⟩ := exists_resolve_eq_error hroot path
      use .invalidPath path fault, hresolve, not_isMisdirection_invalidPath hfault
  | true =>
      cases hnormalize : ResourcePath.normalize path with
      | error e =>
          left
          obtain ⟨fault, rfl, hfault⟩ := ResourcePath.exists_of_normalize_eq_error hnormalize
          use .invalidPath path fault, resolve_of_error hnormalize
          apply not_isMisdirection_invalidPath hfault
      | ok text =>
          right
          obtain ⟨location, hlocation, hwithin, -⟩ := isWithin_resolve hroot hnormalize
          use location, text, hlocation

theorem isDirected_readText :
  IsDirected (bundle.readText disk path).result
  := by
  rw [readText]
  obtain ⟨e, he, hdirected⟩ | ⟨location, text, hlocation, hwithin⟩ := resolve_cases bundle path
  · rw [he]
    apply isDirected_error hdirected
  · obtain ⟨storage, hserving, -, hread, -⟩ := ResourceStorage.isDirected_of_isWithin disk hwithin
    rw [hlocation]
    apply isDirected_bind (isDirected_ok location)
    rintro _ ⟨⟩
    rw [hserving]
    split_ifs
    · apply isDirected_error
      apply not_isMisdirection_invalidPath rfl
    · apply isDirected_bind (isDirected_ok ())
      intro _ _
      apply isDirected_bind (isDirected_ok storage)
      rintro _ ⟨⟩
      apply hread

theorem isDirected_readTextIn (space : String) :
  IsDirected (bundle.readTextIn disk space path).result
  := by
  apply isDirected_bind
  · intro e he
    obtain ⟨fault, rfl, hfault⟩ := ResourcePath.exists_of_normalize_eq_error he
    apply not_isMisdirection_invalidPath hfault
  · intro joined _
    apply isDirected_readText

theorem isDirected_list :
  IsDirected (bundle.list disk path).result
  := by
  rw [list]
  obtain ⟨e, he, hdirected⟩ | ⟨location, text, hlocation, hwithin⟩ := resolve_cases bundle path
  · rw [he]
    apply isDirected_error hdirected
  · obtain ⟨storage, hserving, hlist, -, -⟩ := ResourceStorage.isDirected_of_isWithin disk hwithin
    rw [hlocation]
    apply isDirected_bind (isDirected_ok location)
    rintro _ ⟨⟩
    rw [hserving]
    apply isDirected_bind (isDirected_ok ())
    intro _ _
    apply isDirected_bind (isDirected_ok storage)
    rintro _ ⟨⟩
    apply hlist

theorem isDirected_probe :
  IsDirected (bundle.probe disk path).result
  := by
  rw [probe]
  obtain ⟨e, he, hdirected⟩ | ⟨location, text, hlocation, hwithin⟩ := resolve_cases bundle path
  · rw [he]
    apply isDirected_error hdirected
  · obtain ⟨storage, hserving, -, -, hprobe⟩ := ResourceStorage.isDirected_of_isWithin disk hwithin
    rw [hlocation]
    apply isDirected_bind (isDirected_ok location)
    rintro _ ⟨⟩
    rw [hserving]
    apply isDirected_bind (isDirected_ok storage)
    rintro _ ⟨⟩
    apply hprobe

end Bundle

namespace ResourceLocation

open ResourcePath

/-- Under a root with an absolute path exactly the paths with a normal form have a location,
which is within the root: below a directory it is a file, reached by the names of the directory
and then by the segments of the path, of which none leads up or stands for nothing; in an
archive it is the entry with the name of the path. Under any other root no path has a location.
So no request to a bundle ends with a location that is asked for what it is not. -/
theorem resolve_isConfined [DomainNames] (root : ResourceRoot) (path : String) :
  (PathText.isAbsolute root.path = true →
      (∀ e, resolve root path = .error e ↔ normalize path = .error e)
        ∧ ∀ text, normalize path = .ok text →
          ∃ location, resolve root path = .ok location
            ∧ location.IsWithin text root
            ∧ ∀ name ∈ parts text, IsInner name)
    ∧ (PathText.isAbsolute root.path = false →
      ∃ fault, resolve root path = .error (.invalidPath path fault))
    ∧ ∀ (disk : Disk) (space : String),
      IsDirected ((Bundle.mk root).readText disk path).result
        ∧ IsDirected ((Bundle.mk root).readTextIn disk space path).result
        ∧ IsDirected ((Bundle.mk root).list disk path).result
        ∧ IsDirected ((Bundle.mk root).probe disk path).result
  := by
  constructor
  · intro hroot
    constructor
    · intro e
      constructor
      · intro hresolve
        cases hnormalize : normalize path with
        | error e' =>
            rw [resolve_of_error hnormalize] at hresolve
            rw [Except.error.inj hresolve]
        | ok text =>
            obtain ⟨location, hlocation, -⟩ := isWithin_resolve hroot hnormalize
            rw [hlocation] at hresolve
            cases hresolve
      · apply resolve_of_error
    · intro text
      apply isWithin_resolve hroot
  · constructor
    · intro hroot
      obtain ⟨fault, hresolve, -⟩ := exists_resolve_eq_error hroot path
      use fault
    · intro disk space
      use Bundle.isDirected_readText disk _ path, Bundle.isDirected_readTextIn disk _ path space,
        Bundle.isDirected_list disk _ path
      apply Bundle.isDirected_probe

attribute [local instance] DomainNames.asciiOnly in
/-- Neither escapes nor marks in a path or in the path of a root are read as what they stand for
elsewhere. -/
theorem resolve_isConfined_small :
  let path := "/%2e%2e//x?y#z!/./é "
  let text := "%2e%2e/x?y#z!/é "
  let directory := ResourceRoot.directory "/srv/a#b?/%2F !/"
  let archive := ResourceRoot.archive "/srv/a!/b .zip "
  let relative := ResourceRoot.directory " /srv"
  PathText.isAbsolute directory.path = true
    ∧ PathText.isAbsolute archive.path = true
    ∧ normalize path = .ok text
    ∧ parts text = ["%2e%2e", "x?y#z!", "é "]
    ∧ (∃ location, resolve directory path = .ok location ∧ location.IsWithin text directory)
    ∧ (∃ location, resolve archive path = .ok location ∧ location.IsWithin text archive)
    ∧ normalize "a/../b" = .error (.invalidPath "a/../b" .parentSegment)
    ∧ resolve directory "a/../b" = .error (.invalidPath "a/../b" .parentSegment)
    ∧ PathText.isAbsolute relative.path = false
    ∧ ∃ fault, resolve relative path = .error (.invalidPath path fault)
  := by
  intro path text directory archive relative
  have hdirectory : PathText.isAbsolute directory.path = true := by decide +kernel
  have harchive : PathText.isAbsolute archive.path = true := by decide +kernel
  have hrelative : PathText.isAbsolute relative.path = false := by decide +kernel
  have hnormalize : normalize path = .ok text := by decide +kernel
  have hup : normalize "a/../b" = .error (.invalidPath "a/../b" .parentSegment) := by decide +kernel
  obtain ⟨file, hfile, hfileWithin, -⟩ :=
    ((resolve_isConfined directory path).1 hdirectory).2 text hnormalize
  obtain ⟨entry, hentry, hentryWithin, -⟩ :=
    ((resolve_isConfined archive path).1 harchive).2 text hnormalize
  use hdirectory, harchive, hnormalize, by decide +kernel, ⟨file, hfile, hfileWithin⟩,
    ⟨entry, hentry, hentryWithin⟩, hup
  use (((resolve_isConfined directory "a/../b").1 hdirectory).1 _).mpr hup, hrelative
  apply (resolve_isConfined relative path).2.1 hrelative

end ResourceLocation

end Provision
