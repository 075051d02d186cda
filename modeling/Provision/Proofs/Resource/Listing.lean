import Mathlib
import Provision.Proofs.Resource.Confinement
import Provision.Proofs.Resource.Failures

/-!
# Walking through an archive

An archive is only a list of names, and each request asks the list in its own way. Still a
place has a listing exactly if it is there, and the listing has exactly the names that are
there one step further down. So a walk along the listings from the root reaches everything
that is there, and in particular everything that can be read.
-/

namespace Provision

open ResourcePath
open Segments (IsSegment)

namespace ResourcePath

variable {path : String} {place front back : List String} {child : String}

theorem IsInner.isPlace (h : ∀ name ∈ place, IsInner name) :
  IsPlace place
  := by
  intro name hname
  use (h name hname).isSegment, (h name hname).ne_dot, (h name hname).ne_dotDot

/-- A segment that stands for a file or directory inside of another one is kept. -/
theorem not_isIdle_of_isInner (h : IsInner child) :
  isIdle child.toList = false
  := by
  rw [isIdle, Bool.or_eq_false_iff, List.isEmpty_eq_false_iff, beq_eq_false_iff_ne]
  use h.isSegment.1
  intro hdot
  apply h.ne_dot
  rw [← String.toList_inj, hdot]
  rfl

theorem filter_map_toList (h : ∀ name ∈ place, IsInner name) :
  (place.map String.toList).filter (!isIdle ·) = place.map String.toList
  := by
  rw [List.filter_eq_self]
  intro segment hsegment
  obtain ⟨name, hname, rfl⟩ := List.mem_map.mp hsegment
  rw [not_isIdle_of_isInner (h name hname)]
  rfl

/-- The normal form of a path is read as what it is the normal form of. -/
theorem reads_textOf (h : ∀ name ∈ place, IsInner name) :
  Reads (textOf place) place
  := by
  by_cases hne : place = []
  · subst hne
    decide
  have hsegments := ResourceTree.segments_textOf hne fun name hname => (h name hname).isSegment
  rw [Reads, read, if_neg, if_neg, hsegments, filter_map_toList h]
  · rw [hsegments, List.contains_iff_mem, List.mem_map]
    rintro ⟨name, hname, hdots⟩
    apply (h name hname).ne_dotDot
    rw [← String.toList_inj, hdots]
    rfl
  · rw [List.contains_iff_mem, toList_textOf]
    intro hmem
    obtain ⟨segment, hsegment, hbackslash⟩ := (Segments.mem_join_iff (by decide)).mp hmem
    obtain ⟨name, hname, rfl⟩ := List.mem_map.mp hsegment
    apply (h name hname).hasNoBackslash hbackslash

/-- A segment behind a path names what stands inside of the place of the path. -/
theorem Reads.append_inner (h : Reads path place) (hchild : IsInner child) :
  Reads (path ++ "/" ++ child) (place ++ [child])
  := by
  have htext : (path ++ "/" ++ child).toList = path.toList ++ '/' :: child.toList := by simp
  have hsegment : segments child.toList = [child.toList] := by
    apply segments_join (List.cons_ne_nil child.toList [])
    simpa using hchild.isSegment.2
  rw [Reads, read] at h ⊢
  split_ifs at h with hbackslash hparent
  rw [htext, segments_append, hsegment, if_neg, if_neg, List.filter_append,
    Except.ok.inj h, List.map_append]
  · simp [not_isIdle_of_isInner hchild]
  · rw [List.contains_iff_mem, List.mem_append, List.mem_singleton]
    rw [List.contains_iff_mem] at hparent
    rintro (hmem | hdots)
    · apply hparent hmem
    · apply hchild.ne_dotDot
      rw [← String.toList_inj, ← hdots]
      rfl
  · rw [List.contains_iff_mem] at hbackslash ⊢
    simp [hbackslash, hchild.hasNoBackslash]

end ResourcePath

namespace Children

variable {names found : List String} {place : List String} {child : String}

/-- What is listed below a place are the names that are there one step further down. -/
theorem mem_iff_isSome_children? (hplace : IsPlace place) (hchild : IsSegment child.toList)
    (h : children? names (textOf place) = some found) :
  child ∈ found ↔ (children? names (textOf (place ++ [child]))).isSome
  := by
  have hsegments := PathText.isSegment_of_mem_map fun name hname => (hplace name hname).1
  have hdeeper : ∀ segment ∈ (place ++ [child]).map String.toList, IsSegment segment := by
    rw [List.map_append]
    intro segment hsegment
    obtain hsegment | hsegment := List.mem_append.mp hsegment
    · apply hsegments segment hsegment
    · obtain rfl := List.mem_singleton.mp hsegment
      apply hchild
  have hne : child ≠ "" := mt String.toList_eq_nil_iff.mpr hchild.1
  rw [(of_children? hsegments h).2, textOf, isSome_children?_iff hdeeper]
  simp [hne]

end Children

/-- What is no archive is invalid, and that is all that is said about it. -/
theorem Zip.Archive.eq_invalid_of_read {bytes : List UInt8} {fault : Zip.Fault}
    (h : Zip.Archive.read bytes = .error fault) :
  fault = .invalid
  := by
  rw [Zip.Archive.read, Zip.Directory.read] at h
  split at h
  · cases h
  · apply (Except.error.inj h).symm

namespace ResourceStorage

variable {disk : Disk} {archivePath : String}

theorem openArchive_of_missing (h : disk.readBytes archivePath = .error .notFound)
    (text : String) :
  openArchive disk archivePath text = .error (.notFound text)
  := by
  rw [openArchive, h]
  rfl

/-- A file that cannot be opened or is no archive cannot be read. -/
theorem openArchive_of_unreadable
    (h : (∃ fault ≠ .notFound, disk.readBytes archivePath = .error fault)
      ∨ (∃ bytes fault, disk.readBytes archivePath = .ok bytes
        ∧ Zip.Archive.read bytes = .error fault))
    (text : String) :
  openArchive disk archivePath text = .error (.unreadable text)
  := by
  obtain ⟨fault, hfault, hbytes⟩ | ⟨bytes, fault, hbytes, hfault⟩ := h
  · rw [openArchive, hbytes, ← Bundle.ofAccess_of_ne hfault]
    rfl
  · obtain rfl := Zip.Archive.eq_invalid_of_read hfault
    rw [openArchive, hbytes]
    change (Zip.Archive.read bytes).mapError _ = _
    rw [hfault]
    rfl

end ResourceStorage

namespace Bundle

section

variable [DomainNames] {disk : Disk} {archive : Zip.Archive} {bundle : Bundle}
  {location : ResourceLocation} {path deeper text archivePath entry : String}
  {place front back : List String} {child : String}

/-! ### An archive that cannot be opened -/

section Closed

variable {e : ResourceError} (hresolve : bundle.resolve path = .ok location)
  (hserving : ResourceStorage.serving location = .ok .packed)
  (hentry : location.archiveEntry = .ok (archivePath, entry))
  (hopen : ResourceStorage.openArchive disk archivePath entry = .error e)

include hresolve hserving hentry hopen

theorem result_readText_closed (hne : location.resourcePath ≠ "") :
  (bundle.readText disk path).result = .error e
  := by
  rw [readText, hresolve, Attempt.result_bind]
  change Attempt.result (if location.resourcePath.isEmpty = true then _ else _) = _
  rw [if_neg (by simpa using hne), Attempt.result_bind, hserving]
  change (ResourceStorage.readPacked disk location).result = _
  rw [ResourceStorage.readPacked, hentry, Attempt.result_bind]
  change Attempt.result (_ >>= _) = _
  rw [hopen]
  rfl

theorem result_list_closed :
  (bundle.list disk path).result = .error e
  := by
  rw [list, hresolve, Attempt.result_bind]
  change Attempt.result (Attempt.record _ >>= _) = _
  rw [Attempt.result_bind, hserving]
  change (ResourceStorage.listPacked disk location).result = _
  rw [ResourceStorage.listPacked, hentry, Attempt.result_bind]
  change Attempt.result (_ >>= _) = _
  rw [hopen]
  rfl

theorem result_probe_closed :
  (bundle.probe disk path).result = if e.isNotFound then .ok false else .error e
  := by
  rw [probe, hresolve, Attempt.result_bind]
  change Attempt.result (_ >>= _) = _
  rw [hserving]
  change (ResourceStorage.existsPacked disk location).result = _
  rw [ResourceStorage.existsPacked, hentry, Attempt.result_bind]
  simp only [Attempt.ofExcept, Except.bind, hopen]
  split_ifs <;> rfl

end Closed

/-- What an archive that cannot be opened answers. Only a missing one has no places. -/
theorem answers_of_closed (hroot : PathText.isAbsolute archivePath = true)
    (hread : Reads path place) {e : ResourceError}
    (hopen : ResourceStorage.openArchive disk archivePath (textOf place) = .error e) :
  let bundle := Bundle.mk (.archive archivePath)
  (bundle.probe disk path).result = (if e.isNotFound then .ok false else .error e)
    ∧ (bundle.list disk path).result = .error e
    ∧ (textOf place ≠ "" → (bundle.readText disk path).result = .error e)
  := by
  intro bundle
  obtain ⟨location, hresolve, htext, hserving, hentry⟩ := exists_resolve_archive hread hroot
  use result_probe_closed hresolve hserving hentry hopen,
    result_list_closed hresolve hserving hentry hopen
  intro hne
  apply result_readText_closed hresolve hserving hentry hopen
  rwa [htext]

/-- A path without a location fails every request. -/
theorem answers_of_resolve_eq_error {e : ResourceError} (h : bundle.resolve path = .error e) :
  (bundle.probe disk path).result = .error e
    ∧ (bundle.list disk path).result = .error e
    ∧ (bundle.readText disk path).result = .error e
  := by
  simp only [probe, list, readText, h, Attempt.result_bind]
  refine ⟨rfl, rfl, rfl⟩

/-! ### An archive that opens -/

/-- The place can be reached from the root along the listings. -/
inductive IsListed (bundle : Bundle) (disk : Disk) : List String → Prop where
  | root : IsListed bundle disk []
  | child {place : List String} {names : List String} {child : String} :
    IsListed bundle disk place → (bundle.list disk (textOf place)).result = .ok names →
      child ∈ names → IsInner child → IsListed bundle disk (place ++ [child])

section Opened

variable (hroot : PathText.isAbsolute archivePath = true)
  (hopens : ResourceStorage.Opens disk archivePath archive)

include hroot hopens

/-- An opened archive is asked for the names below the place of a path, and for an entry. -/
theorem answers_of_opens (hread : Reads path place) :
  let bundle := Bundle.mk (.archive archivePath)
  let children := Children.children? archive.names (textOf place)
  (bundle.probe disk path).result = .ok children.isSome
    ∧ (bundle.list disk path).result
      = (match children with
        | none => .error (.notFound (textOf place))
        | some names => .ok names)
    ∧ (place ≠ [] → (bundle.readText disk path).result
      = ResourceStorage.readArchive (textOf place) archive)
  := by
  intro bundle children
  obtain ⟨location, hresolve, htext, hserving, hentry⟩ := exists_resolve_archive hread hroot
  have hopen := hopens.openArchive_eq (textOf place)
  use result_probe_packed hresolve hserving hentry hopen,
    result_list_packed hresolve hserving hentry hopen
  intro hne
  rw [result_readText_packed hresolve hserving hentry hopen, htext, isEmpty_textOf hread.isPlace,
    if_neg (by simpa using hne)]

/-- Something is at a place exactly if there is a listing, and nothing is there exactly if a
listing is missing. -/
theorem list_iff_probe (hread : Reads path place) :
  let bundle := Bundle.mk (.archive archivePath)
  ∃ there, (bundle.probe disk path).result = .ok there
    ∧ ((∃ names, (bundle.list disk path).result = .ok names) ↔ there = true)
    ∧ ((bundle.list disk path).result = .error (.notFound (textOf place)) ↔ there = false)
  := by
  intro bundle
  obtain ⟨hprobe, hlist, -⟩ := answers_of_opens hroot hopens hread
  use (Children.children? archive.names (textOf place)).isSome, hprobe
  rw [hlist]
  cases Children.children? archive.names (textOf place) <;> simp

/-- One step: a listing has a name exactly if something is there one step further down. -/
theorem mem_iff_probe (hread : Reads path place) {names : List String}
    (hlist : ((Bundle.mk (.archive archivePath)).list disk path).result = .ok names)
    (hchild : IsSegment child.toList) {deeper : String}
    (hdeeper : Reads deeper (place ++ [child])) :
  child ∈ names
    ↔ ((Bundle.mk (.archive archivePath)).probe disk deeper).result = .ok true
  := by
  obtain ⟨-, hchildren, -⟩ := answers_of_opens hroot hopens hread
  obtain ⟨hprobe, -⟩ := answers_of_opens hroot hopens hdeeper
  rw [hlist] at hchildren
  cases hfound : Children.children? archive.names (textOf place) with
  | none =>
      rw [hfound] at hchildren
      cases hchildren
  | some found =>
      rw [hfound] at hchildren
      obtain rfl := Except.ok.inj hchildren
      rw [Children.mem_iff_isSome_children? hread.isPlace hchild hfound, hprobe, Except.ok.injEq]

/-- Something is at each place on the way to one at which something is. -/
theorem probe_of_append (hdeeper : Reads deeper (place ++ back)) (hread : Reads path place)
    (h : ((Bundle.mk (.archive archivePath)).probe disk deeper).result = .ok true) :
  ((Bundle.mk (.archive archivePath)).probe disk path).result = .ok true
  := by
  obtain ⟨hdeep, -⟩ := answers_of_opens hroot hopens hdeeper
  obtain ⟨hprobe, -⟩ := answers_of_opens hroot hopens hread
  rw [hdeep, Except.ok.injEq, Children.isSome_textOf_iff hdeeper.isPlace] at h
  rw [hprobe, Except.ok.injEq, Children.isSome_textOf_iff hread.isPlace]
  obtain hnil | ⟨name, hname, more, hmore⟩ := h
  · left
    apply List.append_eq_nil_iff.mp hnil |>.1
  · right
    use name, hname, back.map String.toList ++ more
    rw [hmore, List.map_append, List.append_assoc]

/-- What can be read is there. -/
theorem probe_of_readText (hread : Reads path place) (hne : place ≠ []) {found : String}
    (h : ((Bundle.mk (.archive archivePath)).readText disk path).result = .ok found) :
  ((Bundle.mk (.archive archivePath)).probe disk path).result = .ok true
  := by
  obtain ⟨hprobe, -, hreadText⟩ := answers_of_opens hroot hopens hread
  rw [hreadText hne, ResourceStorage.readArchive] at h
  cases hentry : archive.openEntry (textOf place) with
  | error fault =>
      rw [hentry] at h
      cases h
  | ok entry =>
      rw [hprobe, Except.ok.injEq, Children.isSome_textOf_iff hread.isPlace]
      right
      use textOf place, Zip.Archive.mem_names_of_openEntry hentry, []
      rw [List.append_nil]
      apply ResourceTree.segments_textOf hne fun name hname => (hread.isPlace name hname).1

/-- Each place on the way to one at which something is lists the next name of the way. -/
theorem exists_list_of_probe (hread : Reads path (front ++ child :: back))
    (h : ((Bundle.mk (.archive archivePath)).probe disk path).result = .ok true) :
  ∃ names, ((Bundle.mk (.archive archivePath)).list disk (textOf front)).result = .ok names
    ∧ child ∈ names
  := by
  have hinner := hread.isInner
  have hwhole : front ++ child :: back = front ++ [child] ++ back := by simp
  rw [hwhole] at hread hinner
  have hdeeper : Reads (textOf (front ++ [child])) (front ++ [child]) := by
    apply reads_textOf
    intro name hname
    apply hinner name (List.mem_append_left back hname)
  have hfront : Reads (textOf front) front := by
    apply reads_textOf
    intro name hname
    apply hinner name (List.mem_append_left back (List.mem_append_left [child] hname))
  have hchild : IsSegment child.toList := (hdeeper.isInner child (by simp)).isSegment
  have hprobe := probe_of_append hroot hopens hread hdeeper h
  obtain ⟨there, hthere, hlist, -⟩ := list_iff_probe hroot hopens hfront
  rw [probe_of_append hroot hopens hdeeper hfront hprobe] at hthere
  obtain ⟨names, hnames⟩ := hlist.mpr (Except.ok.inj hthere).symm
  use names, hnames
  apply (mem_iff_probe hroot hopens hfront hnames hchild hdeeper).mpr hprobe

/-- Something is at each place to which a walk along the listings leads. -/
theorem probe_of_isListed (hinner : ∀ name ∈ place, IsInner name)
    (h : IsListed (Bundle.mk (.archive archivePath)) disk place) :
  ((Bundle.mk (.archive archivePath)).probe disk (textOf place)).result = .ok true
  := by
  cases h with
  | root =>
      obtain ⟨hprobe, -⟩ := answers_of_opens hroot hopens (reads_textOf hinner)
      rw [hprobe, Except.ok.injEq, Children.isSome_textOf_iff (IsInner.isPlace hinner)]
      left
      rfl
  | @child front names child _ hlist hmem hchild =>
      have hfront : Reads (textOf front) front := by
        apply reads_textOf
        intro name hname
        apply hinner name (List.mem_append_left [child] hname)
      apply (mem_iff_probe hroot hopens hfront hlist hchild.isSegment
        (reads_textOf hinner)).mp hmem

/-- A walk along the listings leads to each place at which something is. The induction takes the
last name off the place, as the walk adds it. -/
theorem isListed_of_probe (hinner : ∀ name ∈ place, IsInner name)
    (h : ((Bundle.mk (.archive archivePath)).probe disk (textOf place)).result = .ok true) :
  IsListed (Bundle.mk (.archive archivePath)) disk place
  := by
  induction place using List.reverseRecOn with
  | nil => apply IsListed.root
  | append_singleton front child ih =>
      have hfront : ∀ name ∈ front, IsInner name := fun name hname =>
        hinner name (List.mem_append_left [child] hname)
      have hread := reads_textOf hinner
      obtain ⟨names, hnames, hmem⟩ := exists_list_of_probe hroot hopens hread h
      apply IsListed.child _ hnames hmem (hinner child (by simp))
      apply ih hfront
      apply probe_of_append hroot hopens hread (reads_textOf hfront) h

end Opened

/-! ### One story -/

/-- Listing, probing and reading an archive tell one story. If the archive opens, a path has a
listing exactly if something is there, the listing has exactly the names at which something
is one step further down, and a walk along the listings from the root leads to everything
that is there, and so to everything that can be read. A file that is missing is an archive
with nothing in it, whose root is missing too, and a file that cannot be opened for any
other reason fails every request in the same way. -/
theorem packed_tells_one_story (disk : Disk) (archivePath : String)
    (htext : normalize path = .ok text) :
  let bundle := Bundle.mk (.archive archivePath)
  (PathText.isAbsolute archivePath = true →
    (∀ archive, ResourceStorage.Opens disk archivePath archive →
      (∃ there, (bundle.probe disk path).result = .ok there
        ∧ ((∃ names, (bundle.list disk path).result = .ok names) ↔ there = true)
        ∧ ((bundle.list disk path).result = .error (.notFound text) ↔ there = false)
        ∧ (IsListed bundle disk (parts text) ↔ there = true))
      ∧ (∀ names child, (bundle.list disk path).result = .ok names → IsInner child →
        (child ∈ names ↔ (bundle.probe disk (path ++ "/" ++ child)).result = .ok true))
      ∧ ∀ found, text ≠ "" → (bundle.readText disk path).result = .ok found →
        (bundle.probe disk path).result = .ok true
          ∧ IsListed bundle disk (parts text)
          ∧ ∀ front child back, parts text = front ++ child :: back →
            ∃ names, (bundle.list disk (textOf front)).result = .ok names ∧ child ∈ names)
    ∧ (disk.readBytes archivePath = .error .notFound →
      (bundle.probe disk path).result = .ok false
        ∧ (bundle.list disk path).result = .error (.notFound text)
        ∧ (text ≠ "" → (bundle.readText disk path).result = .error (.notFound text)))
    ∧ ((∃ fault ≠ .notFound, disk.readBytes archivePath = .error fault)
        ∨ (∃ bytes fault, disk.readBytes archivePath = .ok bytes
          ∧ Zip.Archive.read bytes = .error fault) →
      (bundle.probe disk path).result = .error (.unreadable text)
        ∧ (bundle.list disk path).result = .error (.unreadable text)
        ∧ (text ≠ "" → (bundle.readText disk path).result = .error (.unreadable text))))
  ∧ (PathText.isAbsolute archivePath = false →
    ∃ fault, (bundle.probe disk path).result = .error (.invalidPath path fault)
      ∧ (bundle.list disk path).result = .error (.invalidPath path fault)
      ∧ (bundle.readText disk path).result = .error (.invalidPath path fault))
  := by
  intro bundle
  obtain ⟨place, hread, rfl⟩ := exists_reads_of_normalize htext
  have hplace := hread.isPlace
  have hne : textOf place ≠ "" → place ≠ [] := by
    rintro hne rfl
    exact hne rfl
  rw [parts_textOf hplace]
  constructor
  · intro hroot
    refine ⟨?_, ?_, ?_⟩
    · intro archive hopens
      have htext := reads_textOf hread.isInner
      obtain ⟨there, hprobe, hlist, hmissing⟩ := list_iff_probe hroot hopens hread
      have hlisted : IsListed bundle disk place ↔ there = true := by
        have hplaceProbe : (bundle.probe disk (textOf place)).result = .ok there := by
          rw [(answers_of_opens hroot hopens htext).1, ← (answers_of_opens hroot hopens hread).1,
            hprobe]
        constructor
        · intro h
          have hthere := probe_of_isListed hroot hopens hread.isInner h
          apply Except.ok.inj (hplaceProbe.symm.trans hthere)
        · rintro rfl
          apply isListed_of_probe hroot hopens hread.isInner hplaceProbe
      refine ⟨⟨there, hprobe, hlist, hmissing, hlisted⟩, ?_, ?_⟩
      · intro names child hnames hchild
        apply mem_iff_probe hroot hopens hread hnames hchild.isSegment (hread.append_inner hchild)
      · intro found hsome hfound
        have hthere := probe_of_readText hroot hopens hread (hne hsome) hfound
        use hthere
        constructor
        · rw [hlisted]
          apply Except.ok.inj (hprobe.symm.trans hthere)
        · rintro front child back rfl
          apply exists_list_of_probe hroot hopens hread hthere
    · intro hmissing
      apply answers_of_closed hroot hread (ResourceStorage.openArchive_of_missing hmissing _)
    · intro hclosed
      apply answers_of_closed hroot hread (ResourceStorage.openArchive_of_unreadable hclosed _)
  · intro hroot
    have hpath : PathText.isAbsolute (ResourceRoot.archive archivePath).path = false := hroot
    obtain ⟨fault, hresolve, -⟩ := ResourceLocation.exists_resolve_eq_error hpath path
    use fault
    apply answers_of_resolve_eq_error hresolve

end

attribute [local instance] DomainNames.asciiOnly in
/-- A directory without an entry of its own is listed, and so is the file below it. Another file
is missing, one is no archive, and one has no absolute path. -/
theorem packed_tells_one_story_small :
  let packed := Bundle.mk (.archive "/r.zip")
  normalize "./d//" = .ok "d"
    ∧ (packed.list smallDisk "./d//").result = .ok ["b"]
    ∧ (packed.probe smallDisk "./d///b").result = .ok true
    ∧ IsListed packed smallDisk ["d"]
    ∧ ((Bundle.mk (.archive "/s.zip")).probe smallDisk "./d//").result = .ok false
    ∧ ((Bundle.mk (.archive "/r/d/b")).probe smallDisk "./d//").result
      = .error (.unreadable "d")
    ∧ ∃ fault, ((Bundle.mk (.archive "r.zip")).probe smallDisk "./d//").result
      = .error (.invalidPath "./d//" fault)
  := by
  intro packed
  have htext : normalize "./d//" = .ok "d" := by decide +kernel
  have hlist : (packed.list smallDisk "./d//").result = .ok ["b"] := by decide +kernel
  have hparts : parts "d" = ["d"] := by decide +kernel
  have hinner : IsInner "b" :=
    ⟨⟨by decide, by decide⟩, by decide, by decide, by decide⟩
  obtain ⟨hopened, -⟩ :=
    (packed_tells_one_story smallDisk "/r.zip" htext).1 (by decide +kernel)
  obtain ⟨⟨there, -, hthere, -, hlisted⟩, hchildren, -⟩ :=
    hopened smallArchive packedAt_small.opens
  obtain ⟨-, hmissing, -⟩ :=
    (packed_tells_one_story smallDisk "/s.zip" htext).1 (by decide +kernel)
  obtain ⟨-, -, hclosed⟩ :=
    (packed_tells_one_story smallDisk "/r/d/b" htext).1 (by decide +kernel)
  obtain ⟨fault, hrelative, -⟩ :=
    (packed_tells_one_story smallDisk "r.zip" htext).2 (by decide +kernel)
  refine ⟨htext, hlist, ?_, ?_, ?_, ?_, fault, hrelative⟩
  · apply (hchildren ["b"] "b" hlist hinner).mp (by simp)
  · rw [← hparts]
    apply hlisted.mpr (hthere.mp ⟨_, hlist⟩)
  · apply (hmissing (by decide +kernel)).1
  · apply (hclosed (.inr ⟨[0x79], .invalid, by decide +kernel, ?_⟩)).1
    cases hread : Zip.Archive.read [0x79] with
    | ok archive =>
        have hfails : (Zip.Archive.read [0x79]).toOption.isNone := by decide +kernel
        rw [hread] at hfails
        cases hfails
    | error fault => rw [Zip.Archive.eq_invalid_of_read hread]

end Bundle
end Provision
