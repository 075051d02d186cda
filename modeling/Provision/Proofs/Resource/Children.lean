import Mathlib
import Provision.Proofs.Text.Segments
import Provision.Resource.Children
import Provision.Resource.Path

/-!
# Children by segments

What the names of an archive say about a directory is said in terms of the segments of the
names: a name shows a directory if its segments begin with those of the directory, and the
next segment is the child through which it leads.
-/

namespace Provision

namespace ResourcePath

theorem segments_join {place : List (List Char)} (hne : place ≠ [])
    (h : ∀ name ∈ place, '/' ∉ name) :
  segments (Segments.join ['/'] place) = place
  := by
  apply Segments.split_join (by simp) hne
  intro name hname c hc
  rw [beq_eq_false_iff_ne]
  rintro rfl
  apply h name hname hc

theorem join_segments (s : List Char) :
  Segments.join ['/'] (segments s) = s
  := Segments.join_split '/' s

theorem notMem_of_mem_segments {s segment : List Char} (h : segment ∈ segments s) :
  '/' ∉ segment
  := by
  intro hc
  have hsep := (Segments.of_mem_split h '/' hc).2
  simp at hsep

theorem segments_append (s rest : List Char) :
  segments (s ++ '/' :: rest) = segments s ++ segments rest
  := Segments.split_append_separator (by simp) s rest

theorem segments_injective {s t : List Char} (h : segments s = segments t) :
  s = t
  := by
  rw [← join_segments s, h, join_segments]

end ResourcePath

namespace Children

open ResourcePath
open Segments (IsSegment)

variable {place : List (List Char)} {directory name rest child : List Char}

/-- The name shows that the directory is there. -/
def shows (directory name : List Char) : Bool :=
  name == directory || (below? directory name).isSome

/-- The child of a directory through which a name leads. -/
def child? (directory name : List Char) : Option (List Char) :=
  if name = directory then none
  else ((below? directory name).map (·.takeWhile (· != '/'))).filter fun child => !child.isEmpty

theorem shows_of_child? (h : child? directory name = some child) :
  shows directory name = true
  := by
  rw [child?] at h
  split_ifs at h with hname
  obtain ⟨rest, hrest, -⟩ := Option.map_eq_some_iff.mp (Option.filter_eq_some_iff.mp h).1
  rw [shows, hrest, Option.isSome_some, Bool.or_true]

/-! ### First appearances -/

/-- An element at the end counts unless it has appeared before. -/
theorem eraseDups_concat {α : Type} [BEq α] [LawfulBEq α] (l : List α) (a : α) :
  (l ++ [a]).eraseDups = if a ∈ l then l.eraseDups else l.eraseDups ++ [a]
  := by
  rw [List.eraseDups_append]
  split_ifs with ha
  · simp [List.removeAll, ha]
  · simp [List.removeAll, ha, List.eraseDups_cons]

/-- Each first appearance counts once. -/
theorem nodup_eraseDups {α : Type} [BEq α] [LawfulBEq α] (l : List α) :
  l.eraseDups.Nodup
  := by
  induction l using List.reverseRecOn with
  | nil => simp
  | append_singleton l a ih =>
      rw [eraseDups_concat]
      split_ifs with ha
      · apply ih
      · rw [← List.mem_eraseDups] at ha
        rw [← List.concat_eq_append]
        apply ih.concat ha

/-! ### Going through the names -/

namespace Scan

variable {names : List (List Char)} {scan : Scan}

/-- The scan knows what the names say: whether any of them shows the directory, and through which
children they lead, each of which is in the set too. -/
structure Reflects (scan : Scan) (directory : List Char) (names : List (List Char)) : Prop where
  found : scan.found = (directory.isEmpty || names.any (shows directory))
  seen : ∀ child, child ∈ scan.seen ↔ child ∈ scan.children
  children : scan.children = (names.filterMap (child? directory)).eraseDups

theorem reflects_start (directory : List Char) :
  (start directory).Reflects directory []
  := by
  constructor
  · simp [start]
  · simp [start]
  · rfl

/-- Of all that is known, one more name changes what it says itself. -/
theorem step_eq (directory : List Char) (scan : Scan) (name : List Char) :
  scan.step directory name
    = match child? directory name with
      | none => { scan with found := scan.found || shows directory name }
      | some child =>
        if child ∈ scan.seen then { scan with found := true }
        else
          { found := true
            seen := scan.seen.insert child
            children := scan.children ++ [child] }
  := by
  by_cases hname : name = directory
  · simp [step, child?, shows, hname]
  · have hshows : shows directory name = (below? directory name).isSome := by
      rw [shows, beq_eq_false_iff_ne.mpr hname, Bool.false_or]
    rw [step, child?, if_neg hname, if_neg hname, hshows]
    cases below? directory name with
    | none => simp
    | some rest =>
        rw [Option.map_some, Option.filter_some]
        by_cases hempty : (rest.takeWhile (· != '/')).isEmpty = true
        · simp [hempty]
        · simp [hempty]

/-- What the names say is still known after one more. -/
theorem Reflects.step (h : scan.Reflects directory names) (name : List Char) :
  (scan.step directory name).Reflects directory (names ++ [name])
  := by
  have hfound : (directory.isEmpty || (names ++ [name]).any (shows directory))
      = (scan.found || shows directory name) := by
    rw [h.found, List.any_append, List.any_cons, List.any_nil, Bool.or_false, Bool.or_assoc]
  rw [step_eq]
  cases hchild : child? directory name with
  | none =>
      constructor
      · rw [hfound]
      · apply h.seen
      · rw [List.filterMap_append, List.filterMap_cons_none hchild, List.filterMap_nil,
          List.append_nil]
        apply h.children
  | some child =>
      have hchildren : (names ++ [name]).filterMap (child? directory)
          = names.filterMap (child? directory) ++ [child] := by
        rw [List.filterMap_append, List.filterMap_cons_some hchild, List.filterMap_nil]
      have hmem : child ∈ scan.seen ↔ child ∈ names.filterMap (child? directory) := by
        rw [h.seen, h.children, List.mem_eraseDups]
      have hshown : (directory.isEmpty || (names ++ [name]).any (shows directory)) = true := by
        rw [hfound, shows_of_child? hchild, Bool.or_true]
      simp only
      by_cases hseen : child ∈ scan.seen
      · rw [if_pos hseen]
        constructor
        · rw [hshown]
        · apply h.seen
        · rw [hchildren, eraseDups_concat, if_pos (hmem.mp hseen)]
          apply h.children
      · rw [if_neg hseen]
        constructor
        · rw [hshown]
        · intro other
          rw [List.mem_insert_iff, List.mem_append, List.mem_singleton, h.seen, or_comm]
        · rw [hchildren, eraseDups_concat, if_neg fun hmem' => hseen (hmem.mpr hmem'), h.children]

/-- All that the names say is known in the end. -/
theorem reflects_run (directory : List Char) (names : List (List Char)) :
  (run directory names).Reflects directory names
  := by
  induction names using List.reverseRecOn with
  | nil => apply reflects_start
  | append_singleton names name ih =>
      rw [run, List.foldl_concat]
      apply ih.step

end Scan

/-- What stands below a directory in a name are the segments after those of the
directory. -/
theorem below?_eq_some_iff (hplace : ∀ name ∈ place, IsSegment name) :
  below? (Segments.join ['/'] place) name = some rest ↔ segments name = place ++ segments rest
  := by
  by_cases hne : place = []
  · subst hne
    rw [below?, if_pos (by rfl), Option.some.injEq, List.nil_append]
    constructor
    · rintro rfl
      rfl
    · apply segments_injective
  have hdirectory : (Segments.join ['/'] place).isEmpty = false := by
    rw [List.isEmpty_eq_false_iff, ne_eq, Segments.join_eq_nil_iff hplace]
    apply hne
  rw [below?, hdirectory, if_neg Bool.false_ne_true, List.isPrefixOf?_eq_some_iff_append_eq,
    List.append_assoc, List.singleton_append]
  have hsegments : segments (Segments.join ['/'] place ++ '/' :: rest) = place ++ segments rest := by
    rw [segments_append, segments_join hne fun name hname => (hplace name hname).2]
  rw [← hsegments]
  constructor
  · rintro rfl
    rfl
  · intro h
    rw [segments_injective h]

/-- A name shows the directories at the beginnings of its segments. -/
theorem shows_iff (hplace : ∀ name ∈ place, IsSegment name) (hne : place ≠ []) :
  shows (Segments.join ['/'] place) name = true ↔ ∃ more, segments name = place ++ more
  := by
  rw [shows, Bool.or_eq_true, beq_iff_eq, Option.isSome_iff_exists]
  constructor
  · rintro (rfl | ⟨rest, hrest⟩)
    · use []
      rw [List.append_nil, segments_join hne fun name hname => (hplace name hname).2]
    · use segments rest
      apply (below?_eq_some_iff hplace).mp hrest
  · rintro ⟨more, hmore⟩
    by_cases hend : more = []
    · left
      rw [← join_segments name, hmore, hend, List.append_nil]
    · right
      use Segments.join ['/'] more
      rw [below?_eq_some_iff hplace, segments_join hend, hmore]
      intro segment hsegment
      apply notMem_of_mem_segments (s := name)
      rw [hmore]
      apply List.mem_append_right place hsegment

/-- A name leads through the segment after those of the directory, unless that is empty. -/
theorem child?_eq_some_iff (hplace : ∀ name ∈ place, IsSegment name) :
  child? (Segments.join ['/'] place) name = some child
    ↔ child ≠ [] ∧ ∃ more, segments name = place ++ child :: more
  := by
  have hfirst : ∀ s, ∃ more, segments s = s.takeWhile (· != '/') :: more :=
    fun s => Segments.exists_split_eq_takeWhile_cons s
  constructor
  · intro h
    rw [child?] at h
    split_ifs at h with hname
    obtain ⟨hmap, hchild⟩ := Option.filter_eq_some_iff.mp h
    obtain ⟨rest, hrest, rfl⟩ := Option.map_eq_some_iff.mp hmap
    constructor
    · simpa using hchild
    · obtain ⟨more, hmore⟩ := hfirst rest
      use more
      rw [(below?_eq_some_iff hplace).mp hrest, hmore]
  · rintro ⟨hchild, more, hmore⟩
    have hmem : ∀ segment ∈ child :: more, '/' ∉ segment := by
      intro segment hsegment
      apply notMem_of_mem_segments (s := name)
      rw [hmore]
      apply List.mem_append_right place hsegment
    have hrest := segments_join (List.cons_ne_nil child more) hmem
    have hbelow : below? (Segments.join ['/'] place) name
        = some (Segments.join ['/'] (child :: more)) := by
      rw [below?_eq_some_iff hplace, hrest, hmore]
    have hdirectory : name ≠ Segments.join ['/'] place := by
      rintro rfl
      by_cases hne : place = []
      · subst hne
        obtain ⟨rfl, -⟩ := List.cons.inj hmore
        exact hchild rfl
      · rw [segments_join hne fun name hname => (hplace name hname).2] at hmore
        simp at hmore
    obtain ⟨more', hmore'⟩ := hfirst (Segments.join ['/'] (child :: more))
    rw [hrest] at hmore'
    obtain ⟨hhead, -⟩ := List.cons.inj hmore'
    rw [child?, if_neg hdirectory, hbelow, Option.map_some, ← hhead, Option.filter_some,
      if_pos (by simpa using hchild)]

/-! ### All names of an archive -/

variable {names : List String}

/-- If the directory is there, its children are those through which the names lead, in the order of
their first appearance. -/
theorem children?_eq (names : List String) (directory : String) :
  children? names directory
    = if directory = "" ∨ (names.map String.toList).any (shows directory.toList) then
        some (((names.map String.toList).filterMap (child? directory.toList)).eraseDups.map
          String.ofList)
      else none
  := by
  have hscan := Scan.reflects_run directory.toList (names.map String.toList)
  simp only [children?, hscan.found, hscan.children, Bool.or_eq_true, List.isEmpty_iff,
    String.toList_eq_nil_iff]

/-- A directory other than the top is there exactly if a name shows it. -/
theorem isSome_children?_iff (hplace : ∀ name ∈ place, IsSegment name) :
  (children? names (String.ofList (Segments.join ['/'] place))).isSome
    ↔ place = [] ∨ ∃ name ∈ names, ∃ more, segments name.toList = place ++ more
  := by
  simp only [children?_eq, String.toList_ofList, String.ofList_eq_empty_iff,
    Segments.join_eq_nil_iff hplace]
  by_cases hne : place = []
  · simp [hne]
  · have hshows : (names.map String.toList).any (shows (Segments.join ['/'] place)) = true
        ↔ ∃ name ∈ names, ∃ more, segments name.toList = place ++ more := by
      rw [List.any_eq_true]
      constructor
      · rintro ⟨_, hmem, hshow⟩
        obtain ⟨name, hname, rfl⟩ := List.mem_map.mp hmem
        use name, hname
        apply (shows_iff hplace hne).mp hshow
      · rintro ⟨name, hname, hmore⟩
        use name.toList, List.mem_map_of_mem hname
        apply (shows_iff hplace hne).mpr hmore
    rw [← hshows]
    split_ifs with hcond
    · simpa [hne] using hcond
    · simpa [hne] using hcond

/-- The children of a directory are the segments through which names lead below it, each
once. -/
theorem of_children? (hplace : ∀ name ∈ place, IsSegment name) {found : List String}
    (h : children? names (String.ofList (Segments.join ['/'] place)) = some found) :
  found.Nodup ∧ ∀ child, child ∈ found ↔ child ≠ ""
    ∧ ∃ name ∈ names, ∃ more, segments name.toList = place ++ child.toList :: more
  := by
  rw [children?_eq, String.toList_ofList] at h
  split_ifs at h
  obtain rfl := Option.some.inj h
  constructor
  · apply (nodup_eraseDups _).map
    intro s t hst
    apply String.ofList_injective hst
  · intro child
    simp only [List.mem_map, List.mem_eraseDups, List.mem_filterMap]
    constructor
    · rintro ⟨s, ⟨_, ⟨name, hname, rfl⟩, hchild⟩, rfl⟩
      obtain ⟨hs, more, hmore⟩ := (child?_eq_some_iff hplace).mp hchild
      constructor
      · rw [ne_eq, String.ofList_eq_empty_iff]
        apply hs
      · use name, hname, more
        rw [hmore, String.toList_ofList]
    · rintro ⟨hchild, name, hname, more, hmore⟩
      use child.toList
      constructor
      · use name.toList
        constructor
        · use name, hname
        · rw [child?_eq_some_iff hplace]
          constructor
          · rw [ne_eq, String.toList_eq_nil_iff]
            apply hchild
          · use more
      · apply String.ofList_toList

end Children

end Provision
