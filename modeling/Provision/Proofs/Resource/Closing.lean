import Mathlib
import Provision.Proofs.Resource.Listing
import Provision.Resource.Request

/-!
# Closing what was opened

A request opens an archive once and closes it at its end, or it opens none. Which of the two it
does depends on the file of the archive and on whether the request comes to asking for it, and not
on what is then found inside. So there is never more than one archive open, and none between
requests.
-/

namespace Provision

/-! ### Open archives -/

/-- The event is the opening or the closing of an archive. -/
def Event.isHandling : Event → Bool
  | .archiveOpened _ | .archiveClosed _ => true
  | _ => false

/-- The archives that are open after an event. -/
def Event.track (opened : List String) : Event → List String
  | .archiveOpened path => path :: opened
  | .archiveClosed path => opened.erase path
  | _ => opened

/-- The archives that are open after events, if none was before. -/
def openAfter (events : List Event) : List String :=
  events.foldl Event.track []

/-- At most one archive is open at any time, and in the end none is. -/
structure IsBalanced (events : List Event) : Prop where
  sane : ∀ front, front <+: events → (openAfter front).length ≤ 1
  settled : openAfter events = []

variable {events others : List Event}

theorem track_of_not_isHandling {event : Event} (h : event.isHandling = false)
    (opened : List String) :
  event.track opened = opened
  := by
  cases event with
  | archiveOpened path | archiveClosed path => cases h
  | _ => rfl

/-- Only openings and closings count. -/
theorem openAfter_filter (events : List Event) :
  openAfter (events.filter Event.isHandling) = openAfter events
  := by
  have hfrom (opened : List String) :
      (events.filter Event.isHandling).foldl Event.track opened
        = events.foldl Event.track opened := by
    induction events generalizing opened with
    | nil => rfl
    | cons event events ih =>
        cases hevent : event.isHandling with
        | true =>
            rw [List.filter_cons_of_pos hevent, List.foldl_cons, List.foldl_cons, ih]
        | false =>
            rw [List.filter_cons_of_neg (by simp [hevent]), List.foldl_cons, ih,
              track_of_not_isHandling hevent]
  apply hfrom

theorem openAfter_append (h : openAfter events = []) (others : List Event) :
  openAfter (events ++ others) = openAfter others
  := by
  rw [openAfter, List.foldl_append, ← openAfter, h]
  rfl

namespace IsBalanced

theorem nil :
  IsBalanced []
  := by
  constructor
  · intro front hfront
    rw [List.prefix_nil.mp hfront]
    simp [openAfter]
  · rfl

theorem append (h : IsBalanced events) (hothers : IsBalanced others) :
  IsBalanced (events ++ others)
  := by
  constructor
  · intro front hfront
    obtain hfront | ⟨more, rfl⟩ :=
      List.prefix_or_prefix_of_prefix hfront (List.prefix_append events others)
    · apply h.sane front hfront
    · rw [openAfter_append h.settled]
      apply hothers.sane more ((List.prefix_append_right_inj events).mp hfront)
  · rw [openAfter_append h.settled, hothers.settled]

theorem of_filter (h : IsBalanced (events.filter Event.isHandling)) :
  IsBalanced events
  := by
  constructor
  · intro front hfront
    rw [← openAfter_filter]
    apply h.sane _ (hfront.filter Event.isHandling)
  · rw [← openAfter_filter, h.settled]

theorem pair (path : String) :
  IsBalanced [.archiveOpened path, .archiveClosed path]
  := by
  have hsettled : openAfter [.archiveOpened path, .archiveClosed path] = [] := by
    simp [openAfter, Event.track]
  constructor
  · intro front hfront
    have hcases : front = [] ∨ front = [.archiveOpened path]
        ∨ front = [.archiveOpened path, .archiveClosed path] := by
      rw [← List.mem_inits] at hfront
      simpa using hfront
    obtain rfl | rfl | rfl := hcases
    · simp [openAfter]
    · simp [openAfter, Event.track]
    · simp [hsettled]
  · apply hsettled

end IsBalanced

/-! ### One request -/

namespace ResourceStorage

variable {disk : Disk} {path entry : String} {archive : Zip.Archive} {e : ResourceError}

theorem openArchive_eq_of_readBytes {bytes : List UInt8} (h : disk.readBytes path = .ok bytes)
    (entry : String) :
  openArchive disk path entry
    = (Zip.Archive.read bytes).mapError (ResourceError.ofArchive entry)
  := by
  rw [openArchive, h]
  rfl

/-- Nothing else is opened than what the file holds. -/
theorem opens_of_openArchive (h : openArchive disk path entry = .ok archive) :
  Opens disk path archive
  := by
  cases hbytes : disk.readBytes path with
  | error fault =>
      rw [openArchive, hbytes] at h
      cases h
  | ok bytes =>
      rw [openArchive_eq_of_readBytes hbytes] at h
      use bytes, hbytes
      cases hread : Zip.Archive.read bytes with
      | error fault =>
          rw [hread] at h
          cases h
      | ok found =>
          rw [hread] at h
          obtain rfl := Except.ok.inj h
          rfl

theorem not_opens_of_openArchive (h : openArchive disk path entry = .error e)
    (archive : Zip.Archive) :
  ¬ Opens disk path archive
  := by
  intro hopens
  rw [hopens.openArchive_eq] at h
  cases h

/-- An archive counts as missing exactly if its file does. -/
theorem isNotFound_iff_of_openArchive (h : openArchive disk path entry = .error e) :
  e.isNotFound ↔ disk.readBytes path = .error .notFound
  := by
  cases hbytes : disk.readBytes path with
  | error fault =>
      by_cases hfault : fault = .notFound
      · subst hfault
        rw [openArchive_of_missing hbytes] at h
        obtain rfl := Except.error.inj h
        simp [ResourceError.isNotFound]
      · rw [openArchive_of_unreadable (.inl ⟨fault, hfault, hbytes⟩)] at h
        obtain rfl := Except.error.inj h
        simp [ResourceError.isNotFound, hfault]
  | ok bytes =>
      cases hread : Zip.Archive.read bytes with
      | error fault =>
          rw [openArchive_of_unreadable (.inr ⟨bytes, fault, hbytes, hread⟩)] at h
          obtain rfl := Except.error.inj h
          simp [ResourceError.isNotFound]
      | ok archive => exact absurd ⟨bytes, hbytes, hread⟩ (not_opens_of_openArchive h archive)

end ResourceStorage

open ResourceStorage (Opens openArchive)

variable {α β : Type} {disk : Disk} {absent : Option α} {wanted : Option String}
  {x : Attempt ResourceError α} {path entry : String}

/-- What an attempt does with an archive, if it comes to asking for one. If the archive opens, it
is opened and, last of all, closed. Otherwise there is no answer, except that it may be answer
enough that the file is missing. -/
inductive Handles (disk : Disk) (absent : Option α) (wanted : Option String)
    (x : Attempt ResourceError α) : Prop where
  | opened {path : String} {archive : Zip.Archive}
      (hpath : wanted = some path) (hopens : Opens disk path archive)
      (hevents : x.events.filter Event.isHandling = [.archiveOpened path, .archiveClosed path])
      (hlast : x.events.getLast? = some (.archiveClosed path)) :
    Handles disk absent wanted x
  | unopened (hnone : ∀ path archive, wanted = some path → ¬ Opens disk path archive)
      (hevents : x.events.filter Event.isHandling = [])
      (hresult : ∀ a, x.result = .ok a ↔ absent = some a
        ∧ ∃ path, wanted = some path ∧ disk.readBytes path = .error .notFound) :
    Handles disk absent wanted x

namespace Handles

/-- What fails before there is an archive to ask for opens none. -/
theorem fail (e : ResourceError) :
  Handles disk absent none (Attempt.fail e)
  := by
  apply unopened
  · simp
  · rfl
  · simp [Attempt.fail]

theorem record (h : Handles disk absent wanted x) {event : Event}
    (hevent : event.isHandling = false) :
  Handles disk absent wanted ⟨x.result, event :: x.events⟩
  := by
  have hfilter : (event :: x.events).filter Event.isHandling = x.events.filter Event.isHandling :=
    List.filter_cons_of_neg (by simp [hevent])
  cases h with
  | opened hpath hopens hevents hlast =>
      apply opened hpath hopens
      · rw [hfilter, hevents]
      · rw [List.getLast?_cons, hlast]
        rfl
  | unopened hnone hevents hresult =>
      apply unopened hnone
      · rw [hfilter, hevents]
      · apply hresult

theorem map (h : Handles disk absent wanted x) (g : α → β) :
  Handles disk (absent.map g) wanted (x.map g)
  := by
  cases h with
  | opened hpath hopens hevents hlast =>
      apply opened hpath hopens
      · rw [Attempt.events_map, hevents]
      · rw [Attempt.events_map, hlast]
  | unopened hnone hevents hresult =>
      apply unopened hnone
      · rw [Attempt.events_map, hevents]
      · intro b
        have hok : (x.map g).result = .ok b ↔ ∃ a, x.result = .ok a ∧ g a = b := by
          rw [Attempt.result_map]
          cases x.result <;> simp [Except.map]
        rw [hok, Option.map_eq_some_iff]
        simp only [hresult]
        grind

/-- An archive that opens is closed after whatever is done while it is open. -/
theorem whileOpen {archive : Zip.Archive} {act : Attempt ResourceError α}
    (hopens : Opens disk path archive) (hact : act.events.filter Event.isHandling = []) :
  Handles disk absent (some path) (ResourceStorage.whileOpen path act)
  := by
  have hevents : (ResourceStorage.whileOpen path act).events
      = .archiveOpened path :: (act.events ++ [.archiveClosed path]) := rfl
  apply opened rfl hopens
  · rw [hevents, List.filter_cons_of_pos rfl, List.filter_append, hact]
    rfl
  · rw [hevents, ← List.cons_append, List.getLast?_concat]

/-- Without an archive to open, what is to be done with one fails. -/
theorem opening {act : Zip.Archive → Attempt ResourceError α}
    (hact : ∀ archive, (act archive).events.filter Event.isHandling = []) :
  Handles disk none (some path) (Attempt.ofExcept (openArchive disk path entry) >>= fun archive =>
    ResourceStorage.whileOpen path (act archive))
  := by
  cases hopen : openArchive disk path entry with
  | ok archive => apply whileOpen (ResourceStorage.opens_of_openArchive hopen) (hact archive)
  | error e =>
      apply unopened
      · rintro other archive ⟨⟩
        apply ResourceStorage.not_opens_of_openArchive hopen
      · rfl
      · simp [Attempt.fail]

end Handles

/-! ### Each kind of request -/

/-- The archive of a location. -/
def ResourceLocation.archivePath? (location : ResourceLocation) : Option String :=
  location.archiveEntry.toOption.map Prod.fst

namespace ResourceStorage

variable (disk : Disk) (location : ResourceLocation)

theorem handles_listPacked :
  Handles disk none location.archivePath? (listPacked disk location)
  := by
  rw [listPacked, ResourceLocation.archivePath?]
  cases location.archiveEntry with
  | error e => apply Handles.fail
  | ok found =>
      obtain ⟨path, entry⟩ := found
      rw [Attempt.ofExcept_ok_bind]
      apply Handles.opening
      intro archive
      rw [listArchive]
      cases Children.children? archive.names entry <;> rfl

theorem handles_readPacked :
  Handles disk none location.archivePath? (readPacked disk location)
  := by
  rw [readPacked, ResourceLocation.archivePath?]
  cases location.archiveEntry with
  | error e => apply Handles.fail
  | ok found =>
      obtain ⟨path, entry⟩ := found
      rw [Attempt.ofExcept_ok_bind]
      apply Handles.opening
      intro archive
      rfl

/-- For a missing file the answer is that nothing is there. -/
theorem handles_existsPacked :
  Handles disk (some false) location.archivePath? (existsPacked disk location)
  := by
  rw [existsPacked, ResourceLocation.archivePath?]
  cases location.archiveEntry with
  | error e => apply Handles.fail
  | ok found =>
      obtain ⟨path, entry⟩ := found
      rw [Attempt.ofExcept_ok_bind]
      change Handles disk (some false) (some path) _
      cases hopen : openArchive disk path entry with
      | ok archive =>
          simp only [hopen]
          apply Handles.whileOpen (opens_of_openArchive hopen) rfl
      | error e =>
          simp only [hopen]
          have hmissing := isNotFound_iff_of_openArchive hopen
          apply Handles.unopened
          · rintro other archive ⟨⟩
            apply not_opens_of_openArchive hopen
          · split_ifs <;> rfl
          · intro there
            split_ifs with he
            · have hbytes := hmissing.mp he
              simp [hbytes, eq_comm]
            · have hbytes := mt hmissing.mpr he
              simp [hbytes, Attempt.fail]

end ResourceStorage

namespace Bundle

variable [DomainNames] {archivePath : String} {location : ResourceLocation}

/-- What is found below an archive is found in that archive. -/
theorem of_resolve_archive
    (h : (Bundle.mk (.archive archivePath)).resolve path = .ok location) :
  ResourceStorage.serving location = .ok .packed ∧ location.archivePath? = some archivePath
  := by
  rw [resolve] at h
  have habsolute : PathText.isAbsolute (ResourceRoot.archive archivePath).path = true := by
    rw [← Bool.not_eq_false]
    intro hrelative
    obtain ⟨fault, hresolve, -⟩ := ResourceLocation.exists_resolve_eq_error hrelative path
    rw [hresolve] at h
    cases h
  cases hnormalize : ResourcePath.normalize path with
  | error e =>
      rw [ResourceLocation.resolve_of_error hnormalize] at h
      cases h
  | ok text =>
      obtain ⟨found, hfound, hwithin, -⟩ :=
        ResourceLocation.isWithin_resolve habsolute hnormalize
      rw [hfound] at h
      obtain rfl := Except.ok.inj h
      obtain ⟨-, hserving, hentry, -⟩ := hwithin
      use hserving
      rw [ResourceLocation.archivePath?, hentry]
      rfl

end Bundle

namespace ResourceRequest

/-- The archive that a request asks for, if it comes to that. -/
def archive? [DomainNames] (bundle : Bundle) : ResourceRequest → Option String
  | list path | probe path => (bundle.resolve path).toOption.map fun _ => bundle.root.path
  | read path => readArchive? path
  | readIn space path => (ResourcePath.join space path).toOption.bind readArchive?
  | direct _ location => location.archivePath?
where
  /-- The root of a bundle is not read. -/
  readArchive? (path : String) : Option String :=
    ((bundle.resolve path).toOption.filter (!·.resourcePath.isEmpty)).map fun _ => bundle.root.path

/-- The request asks whether something is there. -/
def isProbe : ResourceRequest → Bool
  | probe _ | direct .probe _ => true
  | _ => false

/-- The answer of a request for which it is enough that a file is missing. -/
def absent? (request : ResourceRequest) : Option Answer :=
  if request.isProbe then some (.truth false) else none

theorem absent?_eq_some_iff {request : ResourceRequest} {answer : Answer} :
  request.absent? = some answer ↔ answer = .truth false ∧ request.isProbe
  := by
  rw [absent?]
  split_ifs with hprobe <;> simp [hprobe, eq_comm]

end ResourceRequest

namespace Bundle

variable [DomainNames] (disk : Disk) (archivePath path space : String)

theorem handles_list :
  Handles disk none (ResourceRequest.archive? ⟨.archive archivePath⟩ (.list path))
    ((Bundle.mk (.archive archivePath)).list disk path)
  := by
  rw [list, ResourceRequest.archive?]
  cases hresolve : (Bundle.mk (.archive archivePath)).resolve path with
  | error e => apply Handles.fail
  | ok location =>
      obtain ⟨hserving, harchive⟩ := of_resolve_archive hresolve
      have hhandles := ResourceStorage.handles_listPacked disk location
      rw [harchive] at hhandles
      simp only [Attempt.ofExcept_ok_bind, Attempt.record_bind, hserving]
      apply hhandles.record rfl

theorem handles_probe :
  Handles disk (some false) (ResourceRequest.archive? ⟨.archive archivePath⟩ (.probe path))
    ((Bundle.mk (.archive archivePath)).probe disk path)
  := by
  rw [probe, ResourceRequest.archive?]
  cases hresolve : (Bundle.mk (.archive archivePath)).resolve path with
  | error e => apply Handles.fail
  | ok location =>
      obtain ⟨hserving, harchive⟩ := of_resolve_archive hresolve
      have hhandles := ResourceStorage.handles_existsPacked disk location
      rw [harchive] at hhandles
      simp only [Attempt.ofExcept_ok_bind, hserving]
      apply hhandles

theorem handles_readText :
  Handles disk none (ResourceRequest.archive? ⟨.archive archivePath⟩ (.read path))
    ((Bundle.mk (.archive archivePath)).readText disk path)
  := by
  rw [readText, ResourceRequest.archive?, ResourceRequest.archive?.readArchive?]
  cases hresolve : (Bundle.mk (.archive archivePath)).resolve path with
  | error e => apply Handles.fail
  | ok location =>
      obtain ⟨hserving, harchive⟩ := of_resolve_archive hresolve
      have hhandles := ResourceStorage.handles_readPacked disk location
      rw [harchive] at hhandles
      simp only [Attempt.ofExcept_ok_bind, Attempt.record_bind, hserving, Except.toOption,
        Option.filter]
      by_cases hempty : location.resourcePath.isEmpty = true
      · rw [if_pos hempty, if_neg (by simp [hempty])]
        apply Handles.fail
      · rw [if_neg hempty, if_pos (by simp [hempty])]
        apply hhandles.record rfl

theorem handles_readTextIn :
  Handles disk none (ResourceRequest.archive? ⟨.archive archivePath⟩ (.readIn space path))
    ((Bundle.mk (.archive archivePath)).readTextIn disk space path)
  := by
  rw [readTextIn, ResourceRequest.archive?]
  cases ResourcePath.join space path with
  | error e => apply Handles.fail
  | ok joined => apply handles_readText

end Bundle

namespace ResourceRequest

/-- Whatever is requested of an archive is handled in the same way. -/
theorem handles_attempt [DomainNames] (disk : Disk) (archivePath : String)
    (request : ResourceRequest) :
  Handles disk request.absent? (request.archive? ⟨.archive archivePath⟩)
    (request.attempt disk ⟨.archive archivePath⟩)
  := by
  cases request with
  | list path => apply (Bundle.handles_list disk archivePath path).map
  | read path => apply (Bundle.handles_readText disk archivePath path).map
  | readIn space path => apply (Bundle.handles_readTextIn disk archivePath path space).map
  | probe path => apply (Bundle.handles_probe disk archivePath path).map
  | direct inquiry location =>
      cases inquiry with
      | list => apply (ResourceStorage.handles_listPacked disk location).map
      | read => apply (ResourceStorage.handles_readPacked disk location).map
      | probe => apply (ResourceStorage.handles_existsPacked disk location).map

/-! ### Any number of requests -/

theorem isBalanced_of_handles (h : Handles disk absent wanted x) :
  IsBalanced x.events
  := by
  apply IsBalanced.of_filter
  cases h with
  | opened hpath hopens hevents hlast =>
      rw [hevents]
      apply IsBalanced.pair
  | unopened hnone hevents hresult =>
      rw [hevents]
      apply IsBalanced.nil

/-- Never is more than one archive open in the course of requests, and none after them. -/
theorem isBalanced_log [DomainNames] (archivePath : String)
    (calls : List (Disk × ResourceRequest)) :
  IsBalanced (log ⟨.archive archivePath⟩ calls)
  := by
  induction calls with
  | nil => apply IsBalanced.nil
  | cons call calls ih =>
      rw [log, List.flatMap_cons]
      apply (isBalanced_of_handles (handles_attempt call.1 archivePath call.2)).append ih

/-- A request comes to asking for the archive at the path, and the archive opens. -/
def Opens [DomainNames] (disk : Disk) (bundle : Bundle) (request : ResourceRequest)
    (path : String) : Prop :=
  request.archive? bundle = some path ∧ ∃ archive, ResourceStorage.Opens disk path archive

/-- Each request of an archive opens it once and closes it at the end, whether it fails or not, or
opens none. It opens none exactly if it does not come to asking for the archive or the file holds
none, and then it fails, except that nothing is there if the file is missing. So, whatever becomes
of the files between requests, at most one archive is open at any time, and none between
requests. -/
theorem closes_archives [DomainNames] (archivePath : String)
    (calls : List (Disk × ResourceRequest)) :
  let bundle := Bundle.mk (.archive archivePath)
  (∀ (disk : Disk) (request : ResourceRequest),
    let made := request.attempt disk bundle
    let handling := made.events.filter Event.isHandling
    (∀ path, request.Opens disk bundle path →
      handling = [.archiveOpened path, .archiveClosed path]
        ∧ made.events.getLast? = some (.archiveClosed path))
      ∧ (handling = [] ↔ ∀ path, ¬ request.Opens disk bundle path)
      ∧ ((∀ path, ¬ request.Opens disk bundle path) →
        ∀ answer, made.result = .ok answer
          ↔ answer = .truth false ∧ request.isProbe
            ∧ ∃ path, request.archive? bundle = some path
              ∧ disk.readBytes path = .error .notFound))
    ∧ IsBalanced (log bundle calls)
  := by
  intro bundle
  constructor
  · intro disk request made handling
    cases handles_attempt disk archivePath request with
    | @opened path archive hpath hopens hevents hlast =>
        have hopened : request.Opens disk bundle path := ⟨hpath, archive, hopens⟩
        have hhandling : handling = [.archiveOpened path, .archiveClosed path] := hevents
        refine ⟨?_, ?_, ?_⟩
        · rintro other ⟨hother, -⟩
          obtain rfl := Option.some.inj (hpath.symm.trans hother)
          use hhandling, hlast
        · rw [hhandling]
          apply iff_of_false (List.cons_ne_nil _ _)
          intro hnone
          apply hnone path hopened
        · intro hnone
          exact absurd hopened (hnone path)
    | unopened hnone hevents hresult =>
        have hunopened : ∀ path, ¬ request.Opens disk bundle path := by
          rintro path ⟨hpath, archive, hopens⟩
          apply hnone path archive hpath hopens
        refine ⟨?_, ?_, ?_⟩
        · intro path hopened
          exact absurd hopened (hunopened path)
        · apply iff_of_true hevents hunopened
        · intro _ answer
          rw [← and_assoc, ← absent?_eq_some_iff]
          apply hresult
  · apply isBalanced_log

attribute [local instance] DomainNames.asciiOnly in
/-- A directory cannot be read, but the archive has been opened and is closed. Another archive is
missing, so that none is opened and nothing is there. -/
theorem closes_archives_small :
  let bundle := Bundle.mk (.archive "/r.zip")
  let read := (ResourceRequest.read "d").attempt Bundle.smallDisk bundle
  let gone := Bundle.mk (.archive "/s.zip")
  let probe := (ResourceRequest.probe "d").attempt Bundle.smallDisk gone
  (ResourceRequest.read "d").Opens Bundle.smallDisk bundle "/r.zip"
    ∧ read.result = .error (.notFound "d")
    ∧ read.events.filter Event.isHandling = [.archiveOpened "/r.zip", .archiveClosed "/r.zip"]
    ∧ read.events.getLast? = some (.archiveClosed "/r.zip")
    ∧ (∀ path, ¬ (ResourceRequest.probe "d").Opens Bundle.smallDisk gone path)
    ∧ probe.result = .ok (.truth false)
    ∧ IsBalanced (log bundle [(Bundle.smallDisk, .read "d"), (⟨[], []⟩, .list "d")])
  := by
  intro bundle read gone probe
  obtain ⟨hrequests, hrun⟩ :=
    closes_archives "/r.zip" [(Bundle.smallDisk, .read "d"), (⟨[], []⟩, .list "d")]
  obtain ⟨hopened, -, -⟩ := hrequests Bundle.smallDisk (.read "d")
  obtain ⟨-, hnone, hmissing⟩ := (closes_archives "/s.zip" []).1 Bundle.smallDisk (.probe "d")
  have hopens : (ResourceRequest.read "d").Opens Bundle.smallDisk bundle "/r.zip" :=
    ⟨by decide +kernel, Bundle.smallArchive, Bundle.packedAt_small.opens⟩
  obtain ⟨hhandling, hlast⟩ := hopened "/r.zip" hopens
  have hunopened := hnone.mp (by decide +kernel)
  refine ⟨hopens, by decide +kernel, hhandling, hlast, hunopened, ?_, hrun⟩
  apply (hmissing hunopened (.truth false)).mpr
  use rfl, rfl, "/s.zip"
  decide +kernel

attribute [local instance] DomainNames.asciiOnly in
/-- To ask whether something is in an archive that is missing is no failure, though no archive is
opened. -/
theorem not_fails_unopened :
  ¬ ∀ (disk : Disk) (archivePath : String) (request : ResourceRequest),
    let made := request.attempt disk (Bundle.mk (.archive archivePath))
    made.events.filter Event.isHandling = []
      ↔ (∃ e, made.result = .error e)
        ∧ ∀ path, ¬ request.Opens disk (Bundle.mk (.archive archivePath)) path
  := by
  intro h
  have hanswer :
      ((ResourceRequest.probe "a").attempt Bundle.smallDisk (Bundle.mk (.archive "/s.zip"))).result
        = .ok (.truth false) := by decide +kernel
  obtain ⟨⟨e, he⟩, -⟩ := (h Bundle.smallDisk "/s.zip" (.probe "a")).mp (by decide +kernel)
  rw [hanswer] at he
  cases he

end ResourceRequest

end Provision
