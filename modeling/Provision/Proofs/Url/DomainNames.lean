import Mathlib
import Provision.Proofs.Text.Segments
import Provision.Proofs.Url.Scheme
import Provision.Url.DomainNames

/-!
# Lawful ways of bringing names into ASCII

A name of digits and dots needs no table, and so comes through as it stands. The names of a table
are brought into ASCII by the laws that hold of any tables.
-/

namespace Provision

open Url (toLower_toLower toLower_of_isDigit)
open Url.Host (isForbiddenInDomain)

namespace DomainNames

variable {name : List Char}

theorem map_toLower_map_toLower (name : List Char) :
  (name.map Char.toLower).map Char.toLower = name.map Char.toLower
  := by
  rw [List.map_map]
  congr 1
  funext c
  apply toLower_toLower

theorem isPlain_map_toLower (name : List Char) :
  isPlain (name.map Char.toLower) = isPlain name
  := by
  rw [isPlain, isPlain, map_toLower_map_toLower]

/-- A name of digits and dots is plain, and in lower case. -/
theorem isPlain_of_isDigit (h : ∀ c ∈ name, c = '.' ∨ c.isDigit = true) :
  isPlain name = true ∧ name.map Char.toLower = name
  := by
  have hlower : name.map Char.toLower = name := by
    apply Eq.trans _ (List.map_id _)
    apply List.map_congr_left
    intro c hc
    obtain rfl | hdigit := h c hc
    · rfl
    · apply toLower_of_isDigit hdigit
  constructor
  · rw [isPlain, hlower, Bool.and_eq_true, List.all_eq_true, List.all_eq_true]
    constructor
    · intro c hc
      obtain rfl | hdigit := h c hc
      · rfl
      · obtain ⟨-, hle⟩ := (Digits.isDigit_iff c).mp hdigit
        rw [decide_eq_true_eq]
        omega
    · intro label hlabel
      cases label with
      | nil => rfl
      | cons c rest =>
          have hx : 'x' ≠ c := by
            rintro rfl
            have hmem := (Segments.of_mem_split hlabel 'x' List.mem_cons_self).1
            obtain hdot | hdigit := h 'x' hmem
            · cases hdot
            · cases hdigit
          simp [List.isPrefixOf, hx]
  · apply hlower

/-! ### Tables -/

variable {table : List International} {ascii : List Char}

theorem toAscii?_ofTable (table : List International) (name : List Char) :
  (ofTable table).toAscii? name
    = if isPlain name then
        if (name.map Char.toLower).any isForbiddenInDomain then none
        else some (name.map Char.toLower)
      else if table.any (·.ascii == name.map Char.toLower) then some (name.map Char.toLower)
      else (table.find? (·.name == name.map Char.toLower)).map (·.ascii)
  := rfl

/-- What comes out of a table is a plain name in lower case, or the form of an entry. -/
theorem of_toAscii?_ofTable (h : (ofTable table).toAscii? name = some ascii) :
  isPlain name = true ∧ ascii = name.map Char.toLower
      ∧ (∀ c ∈ ascii, isForbiddenInDomain c = false)
    ∨ isPlain name = false ∧ (∃ entry ∈ table, entry.ascii = ascii)
      ∧ ∃ entry ∈ table, name.map Char.toLower = entry.ascii ∨ name.map Char.toLower = entry.name
  := by
  rw [toAscii?_ofTable] at h
  split_ifs at h with hplain hany hform
  · left
    obtain rfl := Option.some.inj h
    use hplain, rfl
    simpa using hany
  · right
    obtain rfl := Option.some.inj h
    obtain ⟨entry, hmem, hascii⟩ := List.any_eq_true.mp hform
    have hascii : entry.ascii = name.map Char.toLower := by simpa using hascii
    use by simpa using hplain, ⟨entry, hmem, hascii⟩, entry, hmem, .inl hascii.symm
  · right
    obtain ⟨entry, hfind, rfl⟩ := Option.map_eq_some_iff.mp h
    have hmem := List.mem_of_find?_eq_some hfind
    have hname : entry.name = name.map Char.toLower := by simpa using List.find?_some hfind
    use by simpa using hplain, ⟨entry, hmem, rfl⟩, entry, hmem, .inr hname.symm

/-- Every table obeys the laws. -/
instance (table : List International) : @LawfulDomainNames (ofTable table) := by
  apply @LawfulDomainNames.mk (ofTable table)
  case toAscii?_of_isPlain =>
    intro name h
    rw [toAscii?_ofTable, if_pos h]
  case isForbiddenInDomain_eq_false =>
    intro name ascii h
    obtain ⟨-, -, hallowed⟩ | ⟨-, ⟨entry, -, rfl⟩, -⟩ := of_toAscii?_ofTable h
    · apply hallowed
    · simpa using entry.allowed
  case toAscii?_ascii =>
    intro name ascii h
    obtain ⟨hplain, rfl, hallowed⟩ | ⟨-, ⟨entry, hmem, rfl⟩, -⟩ := of_toAscii?_ofTable h
    · have hany : (name.map Char.toLower).any isForbiddenInDomain = false := by simpa using hallowed
      rw [toAscii?_ofTable, isPlain_map_toLower, if_pos hplain, map_toLower_map_toLower, hany,
        if_neg Bool.false_ne_true]
    · have hform : table.any (·.ascii == entry.ascii) = true :=
        List.any_eq_true.mpr ⟨entry, hmem, beq_self_eq_true entry.ascii⟩
      rw [toAscii?_ofTable, entry.encoded, if_neg Bool.false_ne_true, entry.lower, if_pos hform]
  case toAscii?_of_mem =>
    intro name hat
    have hlower : '@' ∈ name.map Char.toLower := List.mem_map.mpr ⟨'@', hat, rfl⟩
    rw [Option.eq_none_iff_forall_ne_some]
    intro ascii h
    obtain ⟨-, rfl, hallowed⟩ | ⟨-, -, entry, -, hascii | hname⟩ := of_toAscii?_ofTable h
    · have hnot := hallowed '@' hlower
      cases hnot
    · rw [hascii] at hlower
      have hnot := List.any_eq_false.mp entry.allowed '@' hlower
      contradiction
    · rw [hname] at hlower
      exact entry.notMem hlower

end DomainNames

end Provision
