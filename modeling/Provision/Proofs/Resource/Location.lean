import Mathlib
import Provision.Proofs.Disk.Walk
import Provision.Proofs.Resource.Tree
import Provision.Proofs.Url.Parser
import Provision.Resource.Bundle

/-!
# Resource paths and their locations

A resource path names a place, whatever root it belongs to. Below a directory, the file of a
place is reached by the names of the directory and those of the place; in an archive, its
entry has the joined names of the place for a name.
-/

namespace Provision

open Segments (IsSegment)

namespace ResourcePath

variable {path : String} {place : List String}

/-- The path is read as the names of a place. -/
def Reads (path : String) (place : List String) : Prop :=
  read path.toList = .ok (place.map String.toList)

instance (path : String) (place : List String) : Decidable (Reads path place) :=
  inferInstanceAs (Decidable (read path.toList = .ok (place.map String.toList)))

/-- The normal form of the paths to a place. -/
def textOf (place : List String) : String :=
  String.ofList (Segments.join ['/'] (place.map String.toList))

theorem Reads.normalize_eq (h : Reads path place) :
  normalize path = .ok (textOf place)
  := by
  rw [normalize, h]
  rfl

/-- Every path that has a normal form names a place. -/
theorem exists_reads_of_normalize {text : String} (h : normalize path = .ok text) :
  ∃ place, Reads path place ∧ textOf place = text
  := by
  rw [normalize] at h
  cases hread : read path.toList with
  | error fault =>
      rw [hread] at h
      cases h
  | ok segments =>
      rw [hread] at h
      obtain rfl := Except.ok.inj h
      have hmap : (segments.map String.ofList).map String.toList = segments := by
        rw [List.map_map]
        simp
      use segments.map String.ofList
      rw [Reads, textOf, hmap]
      use hread

theorem Reads.isPlace (h : Reads path place) :
  IsPlace place
  := by
  rw [Reads, read] at h
  split_ifs at h with hbackslash hparent
  have hfilter := Except.ok.inj h
  intro name hname
  have hmem := List.mem_map_of_mem (f := String.toList) hname
  rw [← hfilter, List.mem_filter] at hmem
  obtain ⟨hsegment, hidle⟩ := hmem
  rw [Bool.not_eq_true', isIdle, Bool.or_eq_false_iff] at hidle
  constructor
  · constructor
    · simpa using hidle.1
    · apply notMem_of_mem_segments hsegment
  · constructor
    · rintro rfl
      simp at hidle
    · rintro rfl
      apply hparent
      rw [List.contains_iff_mem]
      apply hsegment

/-- The name stands for a file or directory inside of another one, on any system. -/
structure IsInner (name : String) : Prop where
  isSegment : IsSegment name.toList
  ne_dot : name ≠ "."
  ne_dotDot : name ≠ ".."
  hasNoBackslash : '\\' ∉ name.toList

/-- What a path names stands inside, step by step. -/
theorem Reads.isInner (h : Reads path place) :
  ∀ name ∈ place, IsInner name
  := by
  intro name hname
  obtain ⟨hsegment, hdot, hdotDot⟩ := h.isPlace name hname
  use hsegment, hdot, hdotDot
  intro hmem
  rw [Reads, read] at h
  split_ifs at h with hbackslash
  have hname' := List.mem_map_of_mem (f := String.toList) hname
  rw [← Except.ok.inj h] at hname'
  apply hbackslash
  rw [List.contains_iff_mem]
  apply (Segments.of_mem_split (List.mem_filter.mp hname').1 '\\' hmem).1

theorem toList_textOf :
  (textOf place).toList = Segments.join ['/'] (place.map String.toList)
  := by
  rw [textOf, String.toList_ofList]

theorem isEmpty_textOf (h : IsPlace place) :
  (textOf place).isEmpty = place.isEmpty
  := by
  have hnil := Segments.join_eq_nil_iff
    (PathText.isSegment_of_mem_map fun name hname => (h name hname).1)
  rw [List.map_eq_nil_iff, ← toList_textOf, String.toList_eq_nil_iff] at hnil
  rw [Bool.eq_iff_iff, String.isEmpty_iff, List.isEmpty_iff, hnil]

end ResourcePath

namespace ResourceLocation

open ResourcePath

variable {home : String} {place : List String}

/-! ### Files -/

theorem names_append_slash (front back : List Char) :
  PathText.names (String.ofList (front ++ '/' :: back))
    = PathText.names (String.ofList front) ++ PathText.names (String.ofList back)
  := by
  simp only [PathText.names, String.toList_ofList]
  rw [Segments.split_append_separator (by simp), List.filter_append, List.map_append,
    List.filter_append]

theorem names_textOf (h : IsPlace place) :
  PathText.names (textOf place) = place
  := by
  have hmap : (place.map String.toList).map String.ofList = place := by
    rw [List.map_map]
    simp
  rw [PathText.names, toList_textOf, Segments.filter_split_join
    (PathText.isSegment_of_mem_map fun name hname => (h name hname).1), hmap, List.filter_eq_self]
  intro name hname
  simpa using (h name hname).2.1

/-- The names of a path below a directory are those of the directory and then those of the
place. -/
theorem names_join (h : IsPlace place) (hhome : PathText.isAbsolute home = true) :
  PathText.names (PathText.join home (textOf place)) = PathText.names home ++ place
  := by
  have hne : home.isEmpty = false := by
    rw [← Bool.not_eq_true, String.isEmpty_iff]
    rintro rfl
    cases hhome
  rw [PathText.join, hne, if_neg Bool.false_ne_true]
  split_ifs with hslash
  · rw [PathText.endsInSlash, beq_iff_eq, List.getLast?_eq_some_iff] at hslash
    obtain ⟨front, hfront⟩ := hslash
    have hhomeText : home = String.ofList (front ++ ['/']) := by
      rw [← hfront, String.ofList_toList]
    have hwhole : home ++ textOf place = String.ofList (front ++ '/' :: (textOf place).toList) := by
      rw [hhomeText]
      simp [← String.toList_inj]
    have hnil : PathText.names (String.ofList []) = [] := rfl
    rw [hwhole, names_append_slash, String.ofList_toList, names_textOf h, hhomeText,
      names_append_slash, hnil, List.append_nil]
  · have hwhole : home ++ "/" ++ textOf place
        = String.ofList (home.toList ++ '/' :: (textOf place).toList) := by
      simp [← String.toList_inj]
    rw [hwhole, names_append_slash, String.ofList_toList, String.ofList_toList, names_textOf h]

theorem isAbsolute_join {name : String} (hhome : PathText.isAbsolute home = true) :
  PathText.isAbsolute (PathText.join home name) = true
  := by
  obtain ⟨rest, hrest⟩ : ∃ rest, home.toList = '/' :: rest := by
    rw [PathText.isAbsolute, beq_iff_eq, List.head?_eq_some_iff] at hhome
    apply hhome
  have hne : home.isEmpty = false := by
    rw [← Bool.not_eq_true, String.isEmpty_iff]
    rintro rfl
    cases hhome
  rw [PathText.join, hne, if_neg Bool.false_ne_true, PathText.isAbsolute]
  split_ifs <;> simp [hrest]

/-- The URL of the absolute path of names. -/
def urlOf (names : List String) : Url where
  scheme := "file".toList
  authority := some { username := [], password := none, host := none, port := none }
  path := .rooted (Url.fileSegments (names.map String.toList))
  query := none
  fragment := none

/-- The URL of an absolute path has the names of the path for segments. -/
theorem ofFilePath?_eq (h : PathText.isAbsolute home = true) :
  Url.ofFilePath? home.toList = some (urlOf (PathText.names home))
  := by
  obtain ⟨rest, hrest⟩ : ∃ rest, home.toList = '/' :: rest := by
    rw [PathText.isAbsolute, beq_iff_eq, List.head?_eq_some_iff] at h
    apply h
  have hnames : (PathText.names home).map String.toList
      = (Segments.split (· == '/') rest).filter fun name => !name.isEmpty && name != ['.'] := by
    rw [PathText.names, hrest, Segments.split, if_pos (by simp), List.filter_cons_of_neg (by simp),
      List.filter_map, List.map_map, List.filter_filter]
    have hid : String.toList ∘ String.ofList = id := by
      funext name
      simp
    rw [hid, List.map_id]
    congr 1
    funext name
    have hdot : (String.ofList name != ".") = (name != ['.']) := by
      rw [Bool.eq_iff_iff, bne_iff_ne, bne_iff_ne, ne_eq, ne_eq, ← String.toList_inj,
        String.toList_ofList]
      rfl
    rw [Function.comp_apply, hdot, Bool.and_comm]
  rw [hrest, Url.ofFilePath?, urlOf, hnames]

/-- The path of a URL that was made of names has these names, and a slash at its end if it
ends in the name of a drive. -/
theorem filePath?_urlOf (names : List String) :
  (urlOf names).filePath?
    = some (PathText.rootedAs (Url.endsInDrive (PathText.rooted names).toList) names).toList
  := by
  have hsegment : ∀ name : List Char,
      Utf8.encode ['/'] ++ Url.Percent.decodeBytes Url.Percent.pair?
          (Utf8.encode (Url.Percent.encode Url.Percent.segment name))
        = Utf8.encode ('/' :: name) := by
    intro name
    have hpercent : Url.Percent.segment '%'.toUInt8 = true := by decide
    have hdecode := Url.Percent.decodeBytes_encode Url.Percent.readsDigits_pair? hpercent
      Url.Percent.segment_of_le name []
    have hnil : Url.Percent.decodeBytes Url.Percent.pair? [] = [] := rfl
    rw [List.append_nil, hnil, List.append_nil] at hdecode
    rw [hdecode, ← Utf8.encode_append, List.singleton_append]
  have hbytes : (Url.fileSegments (names.map String.toList)).flatMap (fun segment =>
      Utf8.encode ['/'] ++ Url.Percent.decodeBytes Url.Percent.pair? (Utf8.encode segment))
        = Utf8.encode ('/' :: Segments.join ['/'] (names.map String.toList)) := by
    rw [Url.fileSegments]
    cases names with
    | nil => rfl
    | cons first others =>
        rw [if_neg (by simp), List.flatMap_map]
        simp only [hsegment]
        rw [← Segments.joinLed_eq_cons_join (by simp), Segments.joinLed]
        induction List.map String.toList (first :: others) with
        | nil => rfl
        | cons name rest ih => rw [List.flatMap_cons, List.flatMap_cons, ih, Utf8.encode_append]
  have hrooted : (PathText.rooted names).toList
      = '/' :: Segments.join ['/'] (names.map String.toList) := by
    simp [PathText.rooted, PathText.rootedAs]
  have hhost : (urlOf names).host = none := rfl
  rw [Url.filePath?, hhost, urlOf]
  simp only [hbytes, Utf8.decodeLossy_encode, hrooted]
  rw [PathText.rootedAs, String.toList_ofList]
  split_ifs
  · rfl
  · rw [List.append_nil]

/-- The URL of an entry of an archive is always readable. -/
theorem exists_parse_archive [DomainNames] (names : List String) (rest : List Char) :
  ∃ url, Url.parse (archiveScheme.toList ++ ':' :: (urlOf names).text ++ rest) = .ok url
    ∧ url.scheme = archiveScheme.toList
  := by
  obtain ⟨tail, htail⟩ : ∃ tail, archiveScheme.toList ++ ':' :: (urlOf names).text ++ rest
      = "jar:file:".toList ++ '/' :: tail := by
    use '/' :: (urlOf names).path.text ++ rest
    simp [archiveScheme, urlOf, Url.text, Url.authorityText, Url.Authority.text,
      Url.Authority.userinfo, Url.optionalPart]
  obtain ⟨path, hpath⟩ := Url.exists_visible_trim (s := "jar:file:".toList) rfl (by decide) tail
  have hjar : Url.Scheme.IsText archiveScheme.toList :=
    { head := ⟨'j', "ar".toList, rfl, rfl⟩
      parts := List.all_eq_true.mp (by decide) }
  have hsplit : Url.visible "jar:file:".toList ++ '/' :: path
      = archiveScheme.toList ++ ':' :: ("file:".toList ++ '/' :: path) := by
    rfl
  rw [Url.parse_eq, htail, hpath, hsplit, Url.Scheme.read?_append hjar]
  use Url.withoutAuthority archiveScheme.toList ("file:".toList ++ '/' :: path)
  constructor
  · rfl
  · rw [Url.withoutAuthority]
    split <;> rfl

end ResourceLocation

end Provision
