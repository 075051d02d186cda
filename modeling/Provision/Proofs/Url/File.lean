import Mathlib
import Provision.Proofs.Url.Parser

/-!
# File URLs that read as themselves

The URL of a file is in normal form too, but its text need not read as itself. A segment
that is no drive on account of a tab may become a drive or a dot segment once the tab is
gone, a drive with a bar for its mark is written with a colon, and a drive takes the host
away. `IsSettled` says that none of this happens, and then, and only then, the text is read
as what was written.
-/

namespace Provision.Url

variable {host : Option Host} {part segment : List Char}
  {walked parts segments : List (List Char)} {query : Option (List Char)}

/-! ### The scheme of files -/

theorem kind_file :
  Scheme.kind "file".toList = .file
  := rfl

theorem isNormal_file :
  Scheme.IsNormal "file".toList
  := by
  constructor
  · constructor
    · use 'f', "ile".toList
      constructor <;> rfl
    · simp [Scheme.isPart]
  · rfl

/-! ### Parts of a path -/

theorem mem_of_mem_visible {s : List Char} {c : Char} (h : c ∈ visible s) :
  c ∈ s
  := (List.mem_filter.mp h).1

/-- A part between two slashes gives clean segments. -/
theorem isClean_of_mem_filePart {isFirst : Bool} (h : ∀ c ∈ part, isSlash .file c = false)
    (hsegment : segment ∈ filePart isFirst part) :
  Path.IsClean .file segment
  := by
  have hwhole : Path.IsClean .file (Percent.encode Percent.path (visible part)) :=
    Path.isClean_encode fun c hc => h c (mem_of_mem_visible hc)
  rw [filePart] at hsegment
  split_ifs at hsegment
  · obtain rfl | hsegment := List.mem_cons.mp hsegment
    · apply hwhole.of_subset (List.take_subset 2 _)
    · obtain rfl := List.mem_singleton.mp hsegment
      apply hwhole.of_subset (List.drop_subset 2 _)
  · obtain rfl := List.mem_singleton.mp hsegment
    apply hwhole

theorem isClean_plainDrive (h : Path.IsClean .file segment) :
  Path.IsClean .file (Path.plainDrive segment)
  := by
  cases segment with
  | nil => apply Path.isClean_nil
  | cons letter rest =>
      constructor
      · intro c hc
        obtain rfl | hc := List.mem_cons.mp hc
        · apply h.isPlain c List.mem_cons_self
        · obtain rfl := List.mem_singleton.mp hc
          decide
      · intro c hc
        obtain rfl | hc := List.mem_cons.mp hc
        · apply h.not_isSlash c List.mem_cons_self
        · obtain rfl := List.mem_singleton.mp hc
          decide

/-- What a segment becomes that stands first in a path. -/
def driveOf (segment : List Char) : List Char :=
  if Path.isDrive segment then Path.plainDrive segment else segment

/-- A clean part is a segment by itself. -/
theorem filePart_of_isClean {isFirst : Bool} (h : Path.IsClean .file part) :
  filePart isFirst part = [part]
  := by
  have hvisible : IsVisible part := fun c hc => (of_isPlain_path h.isPlain c hc).1
  have hcut : isCutDrive part = false := by
    rw [isCutDrive, Bool.and_eq_false_iff]
    right
    rw [Option.any_eq_false]
    intro c hc
    have hmem : c ∈ part := by
      apply (List.dropWhile_suffix isIgnored).subset
      apply List.mem_of_mem_drop
      apply (List.dropWhile_suffix isIgnored).subset
      apply List.mem_of_mem_drop
      apply List.mem_of_mem_head? hc
    simp [isIgnored_eq_false (hvisible c hmem)]
  rw [filePart, hcut, visible_of_isVisible hvisible, Percent.encode_of_isPlain h.isPlain]
  simp

/-! ### Walking -/

theorem isClean_of_mem_enterFile (hpart : ∀ c ∈ part, isSlash .file c = false)
    (hwalked : ∀ segment ∈ walked, Path.IsClean .file segment) :
  ∀ segment ∈ enterFile walked part, Path.IsClean .file segment
  := by
  have hpieces : ∀ piece ∈ filePart walked.isEmpty part, Path.IsClean .file piece :=
    fun piece => isClean_of_mem_filePart hpart
  intro segment hsegment
  rw [enterFile] at hsegment
  split at hsegment
  · rename_i piece hpiece
    rw [hpiece] at hpieces
    have hclean := hpieces piece List.mem_cons_self
    split_ifs at hsegment
    · obtain rfl := List.mem_singleton.mp hsegment
      apply isClean_plainDrive hclean
    · obtain hsegment | ⟨rfl, -⟩ := Path.of_mem_enter hsegment
      · apply hwalked segment hsegment
      · apply hclean
  · obtain hsegment | hsegment := List.mem_append.mp hsegment
    · apply hpieces segment (List.mem_reverse.mp hsegment)
    · apply hwalked segment hsegment

theorem isClean_of_mem_arriveFile (hpart : ∀ c ∈ part, isSlash .file c = false)
    (hwalked : ∀ segment ∈ walked, Path.IsClean .file segment) :
  ∀ segment ∈ arriveFile walked part, Path.IsClean .file segment
  := by
  have hpieces : ∀ piece ∈ filePart walked.isEmpty part, Path.IsClean .file piece :=
    fun piece => isClean_of_mem_filePart hpart
  intro segment hsegment
  rw [arriveFile] at hsegment
  split at hsegment
  · rename_i piece hpiece
    rw [hpiece] at hpieces
    have hclean := hpieces piece List.mem_cons_self
    split_ifs at hsegment
    · obtain rfl := List.mem_singleton.mp hsegment
      apply isClean_plainDrive hclean
    · obtain hsegment | rfl | ⟨rfl, -⟩ := Path.of_mem_arrive hsegment
      · apply hwalked segment hsegment
      · apply Path.isClean_nil
      · apply hclean
  · obtain hsegment | hsegment := List.mem_append.mp hsegment
    · apply hpieces segment (List.mem_reverse.mp hsegment)
    · apply hwalked segment hsegment

/-- A walk through parts without slashes leads through clean segments. -/
theorem isClean_of_mem_walkFile (hparts : ∀ part ∈ parts, ∀ c ∈ part, isSlash .file c = false)
    (hwalked : ∀ segment ∈ walked, Path.IsClean .file segment) :
  ∀ segment ∈ (walkFile walked parts).1, Path.IsClean .file segment
  := by
  fun_induction walkFile walked parts with
  | case1 walked => apply hwalked
  | case2 walked part =>
      apply isClean_of_mem_arriveFile (hparts part List.mem_cons_self) hwalked
  | case3 walked part rest hrest result ih =>
      apply ih fun next hnext => hparts next (List.mem_cons_of_mem part hnext)
      apply isClean_of_mem_enterFile (hparts part List.mem_cons_self) hwalked

theorem exists_of_isDrive (h : Path.isDrive segment = true) :
  ∃ letter mark, segment = [letter, mark] ∧ letter.isAlpha = true
  := by
  unfold Path.isDrive at h
  split at h
  · rename_i letter mark
    use letter, mark, rfl
    apply (Bool.and_eq_true_iff.mp h).1
  · cases h

theorem isName_plainDrive (h : Path.isDrive segment = true) :
  Path.IsName (Path.plainDrive segment)
  := by
  obtain ⟨letter, mark, rfl, -⟩ := exists_of_isDrive h
  constructor
  · simp [Path.plainDrive, Path.isDot, Path.withDots]
  · simp [Path.plainDrive, Path.isDotDot, Path.withDots]

/-- A drive stays as it is exactly if it has a colon for its mark. -/
theorem plainDrive_eq_iff (h : Path.isDrive segment = true) :
  Path.plainDrive segment = segment ↔ Path.isPlainDrive segment = true
  := by
  obtain ⟨letter, mark, rfl, hletter⟩ := exists_of_isDrive h
  rw [Path.plainDrive, Path.isPlainDrive, hletter, Bool.true_and, beq_iff_eq, List.cons.injEq,
    List.cons.injEq]
  constructor
  · rintro ⟨-, hmark, -⟩
    apply hmark.symm
  · rintro rfl
    use rfl, rfl

theorem enterFile_of_isClean (h : Path.IsClean .file part) :
  enterFile walked part
    = if walked.isEmpty && Path.isDrive part then [Path.plainDrive part]
      else Path.enter walked part
  := by
  rw [enterFile, filePart_of_isClean h]

theorem arriveFile_of_isClean (h : Path.IsClean .file part) :
  arriveFile walked part
    = if walked.isEmpty && Path.isDrive part then [Path.plainDrive part]
      else Path.arrive walked part
  := by
  rw [arriveFile, filePart_of_isClean h]

theorem namesDrive_of_isClean (h : Path.IsClean .file part) :
  namesDrive walked part = (walked.isEmpty && Path.isDrive part)
  := by
  rw [namesDrive, filePart_of_isClean h]

/-- A walk through clean parts leads through names only. -/
theorem isName_of_mem_walkFile (hparts : ∀ part ∈ parts, Path.IsClean .file part)
    (hwalked : ∀ segment ∈ walked, Path.IsName segment) :
  ∀ segment ∈ (walkFile walked parts).1, Path.IsName segment
  := by
  fun_induction walkFile walked parts with
  | case1 walked => apply hwalked
  | case2 walked part =>
      intro segment hsegment
      rw [arriveFile_of_isClean (hparts part List.mem_cons_self)] at hsegment
      split_ifs at hsegment with hdrive
      · obtain rfl := List.mem_singleton.mp hsegment
        apply isName_plainDrive (Bool.and_eq_true_iff.mp hdrive).2
      · obtain hsegment | rfl | ⟨rfl, hname⟩ := Path.of_mem_arrive hsegment
        · apply hwalked segment hsegment
        · apply Path.isName_nil
        · apply hname
  | case3 walked part rest hrest result ih =>
      apply ih fun next hnext => hparts next (List.mem_cons_of_mem part hnext)
      intro segment hsegment
      rw [enterFile_of_isClean (hparts part List.mem_cons_self)] at hsegment
      split_ifs at hsegment with hdrive
      · obtain rfl := List.mem_singleton.mp hsegment
        apply isName_plainDrive (Bool.and_eq_true_iff.mp hdrive).2
      · obtain hsegment | ⟨rfl, hname⟩ := Path.of_mem_enter hsegment
        · apply hwalked segment hsegment
        · apply hname

/-- Behind its first segment, a walk through clean names leads through all of them. -/
theorem walkFile_of_ne_nil (hwalked : walked ≠ [])
    (hparts : ∀ part ∈ parts, Path.IsClean .file part ∧ Path.IsName part) :
  walkFile walked parts = (parts.reverse ++ walked, false)
  := by
  have hempty : ∀ others : List (List Char), others ≠ [] → others.isEmpty = false := by simp
  fun_induction walkFile walked parts with
  | case1 walked => rfl
  | case2 walked part =>
      obtain ⟨hclean, hname⟩ := hparts part List.mem_cons_self
      rw [arriveFile_of_isClean hclean, namesDrive_of_isClean hclean, hempty walked hwalked,
        Path.arrive_of_isName hname]
      rfl
  | case3 walked part rest hrest result ih =>
      obtain ⟨hclean, hname⟩ := hparts part List.mem_cons_self
      have henter : enterFile walked part = part :: walked := by
        rw [enterFile_of_isClean hclean, hempty walked hwalked, Path.enter_of_isName hname]
        rfl
      have hresult : result = (rest.reverse ++ part :: walked, false) := by
        change walkFile (enterFile walked part) rest = _
        rw [henter] at ih ⊢
        apply ih (List.cons_ne_nil _ _)
        intro next hnext
        apply hparts next (List.mem_cons_of_mem part hnext)
      rw [hresult, namesDrive_of_isClean hclean, hempty walked hwalked, List.reverse_cons,
        List.append_assoc]
      rfl

/-- A walk through clean names leads through all of them, but a drive in the first place
gets a colon for its mark. -/
theorem walkFile_nil (hpart : Path.IsClean .file part ∧ Path.IsName part)
    (hparts : ∀ part ∈ parts, Path.IsClean .file part ∧ Path.IsName part) :
  walkFile [] (part :: parts) = ((driveOf part :: parts).reverse, Path.isDrive part)
  := by
  obtain ⟨hclean, hname⟩ := hpart
  have harrive : arriveFile [] part = [driveOf part] := by
    rw [arriveFile_of_isClean hclean, Path.arrive_of_isName hname, driveOf,
      List.isEmpty_nil, Bool.true_and]
    split_ifs <;> rfl
  have henter : enterFile [] part = [driveOf part] := by
    rw [enterFile_of_isClean hclean, Path.enter_of_isName hname, driveOf,
      List.isEmpty_nil, Bool.true_and]
    split_ifs <;> rfl
  cases parts with
  | nil =>
      rw [walkFile, harrive, namesDrive_of_isClean hclean]
      rfl
  | cons next others =>
      rw [walkFile, henter, walkFile_of_ne_nil (List.cons_ne_nil _ _) hparts,
        namesDrive_of_isClean hclean, List.reverse_cons]
      · simp
      · simp

/-! ### Segments in normal form -/

/-- The segments have no empty one in front, or are a single empty one. -/
def IsLed (segments : List (List Char)) : Prop :=
  segments = [[]] ∨ ∃ first rest, segments = first :: rest ∧ first ≠ []

theorem IsLed.ne_nil (h : IsLed segments) :
  segments ≠ []
  := by
  obtain rfl | ⟨first, rest, rfl, -⟩ := h
  · apply List.cons_ne_nil
  · apply List.cons_ne_nil

theorem isLed_withoutLeadingEmpty (segments : List (List Char)) :
  IsLed (withoutLeadingEmpty segments)
  := by
  rw [withoutLeadingEmpty]
  cases hrest : segments.dropWhile List.isEmpty with
  | nil =>
      left
      rfl
  | cons first rest =>
      right
      use first, rest, rfl
      have hhead := List.head?_dropWhile_not List.isEmpty segments
      rw [hrest] at hhead
      simpa using hhead

theorem withoutLeadingEmpty_of_isLed (h : IsLed segments) :
  withoutLeadingEmpty segments = segments
  := by
  obtain rfl | ⟨first, rest, rfl, hfirst⟩ := h
  · rfl
  · rw [withoutLeadingEmpty, List.dropWhile_cons_of_neg (by simpa using hfirst)]

theorem of_mem_withoutLeadingEmpty (h : segment ∈ withoutLeadingEmpty segments) :
  segment = [] ∨ segment ∈ segments
  := by
  rw [withoutLeadingEmpty] at h
  split at h
  · left
    apply List.mem_singleton.mp h
  · right
    apply (List.dropWhile_suffix List.isEmpty).subset h

/-! ### The text of a path -/

/-- The text of a path without its first slash, and of a query. -/
def innerText (segments : List (List Char)) (query : Option (List Char)) : List Char :=
  Segments.join ['/'] segments ++ optionalPart '?' query

/-- The URL of a host, of the parts of a path and of a query, as a file URL is read. -/
def fileUrl (host : Option Host) (parts : List (List Char)) (query : Option (List Char)) : Url :=
  plainUrl "file".toList (if (walkFile [] parts).2 then none else host) none
    (withoutLeadingEmpty (walkFile [] parts).1.reverse) query

theorem pathAndQuery_eq_cons (hne : segments ≠ []) :
  pathAndQuery segments query = '/' :: innerText segments query
  := by
  rw [pathAndQuery, text_rooted hne, List.cons_append, ← innerText]

/-- The text of a path of a file goes on with no further slash. -/
theorem head?_innerText (hled : IsLed segments)
    (hclean : ∀ segment ∈ segments, Path.IsClean .file segment) {c : Char}
    (hc : (innerText segments query).head? = some c) :
  0x20 < c.toNat ∧ isSlash .file c = false
  := by
  obtain rfl | ⟨first, rest, rfl, hfirst⟩ := hled
  · obtain rfl := head?_optionalPart hc
    decide
  · obtain ⟨d, others, rfl⟩ := List.exists_cons_of_ne_nil hfirst
    have hfirst := hclean _ List.mem_cons_self
    have hd : d = c := by
      cases rest with
      | nil => apply Option.some.inj hc
      | cons next rest => apply Option.some.inj hc
    subst hd
    use (of_isPlain_path hfirst.isPlain d List.mem_cons_self).1
    apply hfirst.not_isSlash d List.mem_cons_self

theorem afterSlash?_cons (rest : List Char) :
  afterSlash? ('/' :: rest) = some rest
  := rfl

theorem afterSlash?_of_head? {s : List Char}
    (h : ∀ c, s.head? = some c → 0x20 < c.toNat ∧ isSlash .file c = false) :
  afterSlash? s = none
  := by
  cases s with
  | nil => rfl
  | cons c rest =>
      obtain ⟨hlt, hslash⟩ := h c rfl
      rw [afterSlash?, List.dropWhile_cons_of_neg (by simp [isIgnored_eq_false hlt])]
      simp [hslash]

/-- Clean segments with a query after them are the parts and the query of a file URL. -/
theorem assembleFile_innerText (hne : segments ≠ [])
    (hclean : ∀ segment ∈ segments, Path.IsClean .file segment) (hquery : IsQuery .file query) :
  assembleFile host (innerText segments query) = fileUrl host segments query
  := by
  obtain ⟨hown, hrest⟩ := takeWhile_pathAndQuery query hclean
  rw [pathAndQuery_eq_cons hne, text_rooted hne] at hown
  rw [pathAndQuery_eq_cons hne] at hrest
  have hown' : (innerText segments query).takeWhile (!startsQuery ·)
      = Segments.join ['/'] segments := by
    apply (List.cons.inj _).2
    · exact '/'
    · exact '/'
    · rw [← hown, List.takeWhile_cons_of_pos (by decide)]
  have hrest' : (innerText segments query).dropWhile (!startsQuery ·)
      = optionalPart '?' query := by
    rw [← hrest, List.dropWhile_cons_of_pos (by decide)]
  have hvisible : visible (optionalPart '?' query) = optionalPart '?' query := by
    apply visible_of_isVisible
    intro c hc
    apply (of_mem_optionalPart hquery hc).1
  rw [assembleFile, filePathOf, hown', hrest', Path.split_join_of_isClean hne hclean, hvisible]
  simp only [assemble, kind_file, tailOf_optionalPart hquery]
  rfl

/-- No two slashes stand in front of a path of a file. -/
theorem isPrefixOf_text_eq_false (hled : IsLed segments)
    (hclean : ∀ segment ∈ segments, Path.IsClean .file segment) :
  ['/', '/'].isPrefixOf (Path.rooted segments).text = false
  := by
  rw [text_rooted hled.ne_nil]
  cases hjoin : Segments.join ['/'] segments with
  | nil => rfl
  | cons c others =>
      have hc : (innerText segments none).head? = some c := by
        rw [innerText, hjoin]
        rfl
      have hslash := (head?_innerText hled hclean hc).2
      have hne : c ≠ '/' := by
        rintro rfl
        cases hslash
      simp [List.isPrefixOf, hne.symm]

/-! ### Settled paths -/

/-- The segments, behind a host, are read as themselves: none of them is a dot segment, and
a drive in the first place has a colon for its mark and no host in front of it. -/
structure IsSettled (host : Option Host) (segments : List (List Char)) : Prop where
  names : ∀ segment ∈ segments, Path.IsName segment
  drive : ∀ first, segments.head? = some first → Path.isDrive first = true →
    Path.isPlainDrive first = true ∧ host = none

/-- The parts of a file URL are read as themselves exactly if they are settled. -/
theorem fileUrl_eq_iff (query : Option (List Char)) (hled : IsLed segments)
    (hclean : ∀ segment ∈ segments, Path.IsClean .file segment) :
  (fileUrl host segments query).host = host ∧ (fileUrl host segments query).path = .rooted segments
    ↔ IsSettled host segments
  := by
  obtain ⟨first, rest, rfl⟩ := List.exists_cons_of_ne_nil hled.ne_nil
  have hhost : (fileUrl host (first :: rest) query).host
      = if (walkFile [] (first :: rest)).2 then none else host := rfl
  have hpath : (fileUrl host (first :: rest) query).path
      = .rooted (withoutLeadingEmpty (walkFile [] (first :: rest)).1.reverse) := rfl
  have hwalk : (∀ segment ∈ first :: rest, Path.IsName segment) →
      walkFile [] (first :: rest) = ((driveOf first :: rest).reverse, Path.isDrive first) := by
    intro hnames
    apply walkFile_nil
    · use hclean first List.mem_cons_self
      apply hnames first List.mem_cons_self
    · intro part hpart
      use hclean part (List.mem_cons_of_mem first hpart)
      apply hnames part (List.mem_cons_of_mem first hpart)
  rw [hhost, hpath, Path.rooted.injEq]
  constructor
  · rintro ⟨hhost, hpath⟩
    have hnames : ∀ segment ∈ first :: rest, Path.IsName segment := by
      intro segment hsegment
      rw [← hpath] at hsegment
      obtain rfl | hsegment := of_mem_withoutLeadingEmpty hsegment
      · apply Path.isName_nil
      · apply isName_of_mem_walkFile hclean _ segment (List.mem_reverse.mp hsegment)
        simp
    rw [hwalk hnames] at hhost hpath
    use hnames
    rintro _ hfirst hdrive
    obtain rfl := Option.some.inj hfirst
    have hdriveNe : Path.plainDrive first ≠ [] := by
      obtain ⟨letter, mark, rfl, -⟩ := exists_of_isDrive hdrive
      apply List.cons_ne_nil
    have hledDrive : IsLed (Path.plainDrive first :: rest) := by
      right
      use Path.plainDrive first, rest
    rw [List.reverse_reverse, driveOf, if_pos hdrive, withoutLeadingEmpty_of_isLed hledDrive]
      at hpath
    rw [if_pos hdrive] at hhost
    use (plainDrive_eq_iff hdrive).mp (List.cons.inj hpath).1, hhost.symm
  · rintro ⟨hnames, hsettled⟩
    have hfirst : driveOf first = first := by
      rw [driveOf]
      split_ifs with hdrive
      · apply (plainDrive_eq_iff hdrive).mpr (hsettled first rfl hdrive).1
      · rfl
    rw [hwalk hnames, List.reverse_reverse, hfirst, withoutLeadingEmpty_of_isLed hled]
    constructor
    · split_ifs with hdrive
      · apply (hsettled first rfl hdrive).2.symm
      · rfl
    · rfl

/-! ### Normal form -/

variable [DomainNames]

/-- The host is in normal form and is not the name that stands for no host. -/
def IsFileHost (host : Option Host) : Prop :=
  ∀ h, host = some h → h.IsNormal .file ∧ h ≠ .name "localhost".toList

/-- The URL is in normal form and is that of a file. -/
structure IsLocal (url : Url) : Prop extends IsNormal url where
  scheme_eq : url.scheme = "file".toList
  place : ∃ host, url.authority = some { username := [], password := none, host, port := none }
    ∧ IsFileHost host
  led : ∃ segments, url.path = .rooted segments ∧ IsLed segments

theorem isFileHost_none :
  IsFileHost none
  := by
  rintro _ hhost
  cases hhost

theorem isLocal_assembleFile (hhost : IsFileHost host) (s : List Char) :
  IsLocal (assembleFile host s)
  := by
  have hparts : ∀ part ∈ Segments.split (isSlash .file) (s.takeWhile (!startsQuery ·)),
      ∀ c ∈ part, isSlash .file c = false :=
    fun part hpart c hc => (Segments.of_mem_split hpart c hc).2
  have hclean := isClean_of_mem_walkFile hparts (List.forall_mem_nil (Path.IsClean .file))
  constructor
  · constructor
    · apply isNormal_file
    · rintro segments hpath segment hsegment
      obtain rfl := Path.rooted.inj hpath
      obtain rfl | hsegment := of_mem_withoutLeadingEmpty hsegment
      · apply Path.isClean_nil
      · apply hclean segment (List.mem_reverse.mp hsegment)
    · apply isQuery_tailOf
  · rfl
  · rw [assembleFile]
    simp only [assemble]
    use if (filePathOf s).2.2 then none else host
    use rfl
    split_ifs
    · apply isFileHost_none
    · apply hhost
  · use withoutLeadingEmpty
      (walkFile [] (Segments.split (isSlash .file) (s.takeWhile (!startsQuery ·)))).1.reverse
    use rfl
    apply isLed_withoutLeadingEmpty

/-- The URL of a file of a name in the place of a host and of what follows the name. -/
def ofFileHost (s name rest : List Char) : Except Fault Url :=
  if Path.isDrive name then .ok (assembleFile none s)
  else if name.isEmpty then .ok (assembleFile none rest)
  else
    (Host.ofDomain name).map fun host =>
      if host = .name "localhost".toList then assembleFile none rest
      else assembleFile (some host) ((afterSlash? rest).getD rest)

/-- The reading of what follows two slashes, in the order in which it may fail. -/
theorem withFileHost_eq (s : List Char) :
  withFileHost s
    = ofFileHost s (visible (s.takeWhile (!endsAuthority .file ·)))
        (s.dropWhile (!endsAuthority .file ·))
  := by
  unfold withFileHost
  simp only [endsAuthority]
  generalize visible (s.takeWhile fun c => !(isSlash .file c || startsQuery c)) = name
  generalize s.dropWhile (fun c => !(isSlash .file c || startsQuery c)) = rest
  rw [ofFileHost]
  split_ifs
  · rfl
  · rfl
  · cases Host.ofDomain name with
    | error fault => rfl
    | ok host =>
        cases host with
        | name text =>
            simp only [Except.map, Host.name.injEq, bind, Except.bind]
            split_ifs <;> rfl
        | v4 address => rfl
        | v6 groups => rfl

/-- The host is a domain that has been read, and is not the name that stands for no host. -/
def IsReadHost (host : Option Host) : Prop :=
  ∀ h, host = some h → (∃ name, Host.ofDomain name = .ok h) ∧ h ≠ .name "localhost".toList

theorem isReadHost_none :
  IsReadHost none
  := by
  rintro _ hhost
  cases hhost

theorem isFileHost_of_isReadHost [LawfulDomainNames] (hhost : IsReadHost host) :
  IsFileHost host
  := by
  intro h hh
  obtain ⟨⟨name, hread⟩, hne⟩ := hhost h hh
  use Host.isNormal_of_ofDomain rfl hread, hne

theorem exists_of_withFileHost {s : List Char} {url : Url} (h : withFileHost s = .ok url) :
  ∃ host text, IsReadHost host ∧ url = assembleFile host text
  := by
  rw [withFileHost_eq, ofFileHost] at h
  split_ifs at h
  · use none, s, isReadHost_none, (Except.ok.inj h).symm
  · use none, s.dropWhile (!endsAuthority .file ·), isReadHost_none, (Except.ok.inj h).symm
  · cases hread : Host.ofDomain (visible (s.takeWhile (!endsAuthority .file ·))) with
    | error fault =>
        rw [hread] at h
        cases h
    | ok host =>
        rw [hread, Except.map] at h
        obtain rfl := Except.ok.inj h
        split_ifs with hlocal
        · use none, s.dropWhile (!endsAuthority .file ·), isReadHost_none
        · refine ⟨some host, _, ?_, rfl⟩
          intro found hfound
          obtain rfl := Option.some.inj hfound
          use ⟨_, hread⟩, hlocal

/-- Whatever the text is, the URL of a file is put together in the same way. -/
theorem exists_of_ofFile {s : List Char} {url : Url} (h : ofFile s = .ok url) :
  ∃ host text, IsReadHost host ∧ url = assembleFile host text
  := by
  rw [ofFile] at h
  split at h
  · use none, s, isReadHost_none, (Except.ok.inj h).symm
  · rename_i rest _
    split at h
    · use none, rest, isReadHost_none, (Except.ok.inj h).symm
    · apply exists_of_withFileHost h

theorem scheme_of_ofFile {s : List Char} {url : Url} (h : ofFile s = .ok url) :
  url.scheme = "file".toList
  := by
  obtain ⟨host, text, -, rfl⟩ := exists_of_ofFile h
  rfl

theorem isLocal_of_ofFile [LawfulDomainNames] {s : List Char} {url : Url}
    (h : ofFile s = .ok url) :
  IsLocal url
  := by
  obtain ⟨host, text, hhost, rfl⟩ := exists_of_ofFile h
  apply isLocal_assembleFile (isFileHost_of_isReadHost hhost)

/-- What is read of any text is in normal form. -/
theorem isRemote_or_isLocal_of_parse [LawfulDomainNames] {s : List Char} {url : Url}
    (h : parse s = .ok url) :
  IsRemote url ∨ IsLocal url
  := by
  rw [parse_eq] at h
  split at h
  · cases h
  · rename_i scheme rest hread
    split_ifs at h with hfile
    · right
      apply isLocal_of_ofFile h
    · left
      apply isRemote_of_remoteOf (Scheme.isNormal_of_read? hread) hfile h

/-! ### Reading the text again -/

/-- What follows the scheme of a file URL in normal form is read as the URL of its host, of
the parts of its path and of its query. -/
theorem ofFile_plainText (hhost : IsFileHost host) (hled : IsLed segments)
    (hclean : ∀ segment ∈ segments, Path.IsClean .file segment) (hquery : IsQuery .file query) :
  ofFile (plainText host none segments query) = .ok (fileUrl host segments query)
  := by
  have hne := hled.ne_nil
  have hinner : afterSlash? (innerText segments query) = none :=
    afterSlash?_of_head? fun c => head?_innerText hled hclean
  rw [plainText, hasSlashes, isPrefixOf_text_eq_false hled hclean, Bool.or_false,
    pathAndQuery_eq_cons hne]
  cases host with
  | none =>
      simp only [Option.isSome_none, Bool.false_eq_true, if_false, ofFile, afterSlash?_cons,
        hinner]
      rw [assembleFile_innerText hne hclean hquery]
  | some host =>
      obtain ⟨⟨hread, hplace⟩, hlocal⟩ := hhost host rfl
      have hvisible : visible host.text = host.text := visible_of_isVisible hplace.lt_toNat
      have hown : ∀ c ∈ host.text, (!endsAuthority .file c) = true := by
        intro c hc
        rw [endsAuthority_of_notMem (hplace.notMem c hc)]
        rfl
      have hrest : ∀ c, ('/' :: innerText segments query).head? = some c →
          (!endsAuthority .file c) = false := by
        rintro c hc
        obtain rfl := Option.some.inj hc
        rfl
      have hname : host.text.isEmpty = false := by simpa using hplace.ne_nil
      have hread : Host.ofDomain host.text = .ok host := hread
      simp only [Option.isSome_some, if_true, ofFile, afterSlash?_cons, placeText,
        Option.elim_some, portText, Option.elim_none, List.append_nil]
      rw [withFileHost_eq, Segments.takeWhile_append_of_head? hown hrest,
        Segments.dropWhile_append_of_head? hown hrest, hvisible, ofFileHost, hplace.isDrive_eq,
        hname, hread]
      simp only [Bool.false_eq_true, if_false, Except.map, hlocal, afterSlash?_cons,
        Option.getD_some]
      rw [assembleFile_innerText hne hclean hquery]

theorem parse_plainText_file (hhost : IsFileHost host) (hled : IsLed segments)
    (hclean : ∀ segment ∈ segments, Path.IsClean .file segment) (hquery : IsQuery .file query) :
  parse ("file".toList ++ ':' :: plainText host none segments query)
    = .ok (fileUrl host segments query)
  := by
  have hplace : IsVisible (placeText host none) := by
    cases host with
    | none => intro c hc; cases hc
    | some host =>
        rw [placeText, Option.elim_some, portText, Option.elim_none, List.append_nil]
        apply (hhost host rfl).1.isPlace.lt_toNat
  rw [parse_append isNormal_file (isVisible_plainText hplace hclean hquery), if_pos kind_file,
    ofFile_plainText hhost hled hclean hquery]

end Provision.Url
