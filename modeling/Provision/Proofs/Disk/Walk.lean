import Mathlib
import Provision.Disk.Basic
import Provision.Proofs.Text.Segments

/-!
# Walking a path of names

The path of a list of names leads where its names lead, one after the other, unless it has
a character or a length that no path has. A slash at its end asks for a directory there.
-/

namespace Provision

open Segments (IsSegment)

namespace PathText

/-- The absolute path of the names, with a slash at its end or without. -/
def rootedAs (hasSlash : Bool) (names : List String) : String :=
  String.ofList ('/' :: Segments.join ['/'] (names.map String.toList)
    ++ if hasSlash then ['/'] else [])

/-- The absolute path of the names. -/
def rooted (names : List String) : String :=
  rootedAs false names

variable {names : List String} {hasSlash : Bool}

theorem eq_false_of_rootedAs_eq (h : rootedAs hasSlash names = rooted names) :
  hasSlash = false
  := by
  cases hasSlash with
  | false => rfl
  | true => simp [rooted, rootedAs, ← String.toList_inj] at h

theorem isSegment_of_mem_map (h : ∀ name ∈ names, IsSegment name.toList) :
  ∀ segment ∈ names.map String.toList, IsSegment segment
  := by
  intro segment hsegment
  obtain ⟨name, hname, rfl⟩ := List.mem_map.mp hsegment
  apply h name hname

theorem split_rootedAs (h : ∀ name ∈ names, IsSegment name.toList) :
  (Segments.split (· == '/') (rootedAs hasSlash names).toList).filter (fun name => !name.isEmpty)
    = names.map String.toList
  := by
  have hsplit : Segments.split (· == '/') ('/' :: Segments.join ['/'] (names.map String.toList))
      = [] :: Segments.split (· == '/') (Segments.join ['/'] (names.map String.toList)) := by
    rw [Segments.split, if_pos (by simp)]
  have hfilter := Segments.filter_split_join (isSegment_of_mem_map h)
  rw [rootedAs, String.toList_ofList]
  cases hasSlash with
  | false => simp [hsplit, hfilter]
  | true =>
      simp only [if_true, Segments.split_append_separator, beq_self_eq_true, hsplit]
      simp [hfilter, Segments.split]

theorem endsInSlash_rootedAs (h : ∀ name ∈ names, IsSegment name.toList) :
  endsInSlash (rootedAs hasSlash names) = (hasSlash || names.isEmpty)
  := by
  rw [endsInSlash, rootedAs, String.toList_ofList]
  cases hasSlash with
  | true =>
      rw [if_pos rfl, List.getLast?_concat]
      rfl
  | false =>
      have hlast := Segments.getLast?_join_ne (isSegment_of_mem_map h)
      have hnil := Segments.join_eq_nil_iff (isSegment_of_mem_map h)
      rw [List.map_eq_nil_iff] at hnil
      rw [if_neg Bool.false_ne_true, List.append_nil, List.getLast?_cons, Bool.false_or]
      cases hjoin : (Segments.join ['/'] (names.map String.toList)).getLast? with
      | none =>
          rw [List.getLast?_eq_none_iff, hnil] at hjoin
          subst hjoin
          rfl
      | some c =>
          rw [hjoin] at hlast
          have hne : names ≠ [] := by
            rintro rfl
            cases hjoin
          rw [List.isEmpty_eq_false_iff.mpr hne]
          simpa using hlast

/-- A character other than a slash is in a path if it is in one of the names. -/
theorem mem_toList_rootedAs_iff {c : Char} (hc : c ≠ '/') :
  c ∈ (rootedAs hasSlash names).toList ↔ ∃ name ∈ names, c ∈ name.toList
  := by
  rw [rootedAs, String.toList_ofList]
  cases hasSlash <;> simp [hc, Segments.mem_join_iff hc]

end PathText

namespace Disk

/-- The place to which a path of names leads. -/
theorem place_rootedAs (disk : Disk) (hasSlash : Bool) {names : List String}
    (h : ∀ name ∈ names, IsSegment name.toList) :
  disk.place (PathText.rootedAs hasSlash names)
    = if ∃ name ∈ names, '\x00' ∈ name.toList then .error .invalidName
      else if maxPathBytes ≤ (PathText.rootedAs hasSlash names).utf8ByteSize then
        .error .nameTooLong
      else
        names.foldlM disk.enter [] >>= fun place =>
          if hasSlash then disk.enter place "." else .ok place
  := by
  have hnul : (PathText.rootedAs hasSlash names).toList.contains '\x00' = true
      ↔ ∃ name ∈ names, '\x00' ∈ name.toList := by
    rw [List.contains_iff_mem, PathText.mem_toList_rootedAs_iff (by decide)]
  have hempty : (PathText.rootedAs hasSlash names).isEmpty = false := by
    rw [← Bool.not_eq_true, String.isEmpty_iff, ← String.toList_eq_nil_iff, PathText.rootedAs,
      String.toList_ofList]
    simp
  have habsolute : PathText.isAbsolute (PathText.rootedAs hasSlash names) = true := by
    rw [PathText.isAbsolute, PathText.rootedAs, String.toList_ofList]
    rfl
  have hmap : (names.map String.toList).map String.ofList = names := by
    rw [List.map_map]
    simp
  rw [place]
  simp only [hnul, hempty, habsolute, PathText.split_rootedAs h, PathText.endsInSlash_rootedAs h,
    Bool.false_eq_true, if_false, if_true, ge_iff_le]
  congr 2
  cases hasSlash with
  | true => simp [hmap]
  | false =>
      cases names with
      | nil => rfl
      | cons first others =>
          simp only [Bool.false_or, List.isEmpty_cons, Bool.false_eq_true, if_false, hmap]
          symm
          apply bind_pure

end Disk

end Provision
