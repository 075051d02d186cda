import Mathlib
import Provision.Proofs.Text.Digits
import Provision.Url.Scheme

/-!
# Schemes in normal form

The scheme that is read in front of a text is in lower case, and a scheme in lower case
with a colon after it is read as itself.
-/

namespace Provision.Url

/-! ### Letters and digits -/

theorem isUpper_iff (c : Char) :
  c.isUpper = true ↔ 65 ≤ c.toNat ∧ c.toNat ≤ 90
  := by
  simp only [Char.isUpper, ge_iff_le, UInt32.le_iff_toNat_le, decide_eq_true_eq]
  rfl

theorem isLower_iff (c : Char) :
  c.isLower = true ↔ 97 ≤ c.toNat ∧ c.toNat ≤ 122
  := by
  simp only [Char.isLower, ge_iff_le, UInt32.le_iff_toNat_le, Bool.and_eq_true,
    decide_eq_true_eq]
  rfl

theorem isAlpha_iff (c : Char) :
  c.isAlpha = true ↔ 65 ≤ c.toNat ∧ c.toNat ≤ 90 ∨ 97 ≤ c.toNat ∧ c.toNat ≤ 122
  := by
  rw [Char.isAlpha, Bool.or_eq_true, isUpper_iff, isLower_iff]

theorem toNat_toLower_of_isUpper {c : Char} (h : c.isUpper = true) :
  c.toLower.toNat = c.toNat + 32
  := by
  obtain ⟨hle, hge⟩ := (isUpper_iff c).mp h
  have hcond : c.val ≥ 'A'.val ∧ c.val ≤ 'Z'.val := by
    rw [ge_iff_le, UInt32.le_iff_toNat_le, UInt32.le_iff_toNat_le]
    use hle, hge
  rw [Char.toLower, dif_pos hcond]
  change (c.val + ('a'.val - 'A'.val)).toNat = c.val.toNat + 32
  rw [UInt32.toNat_add]
  apply Nat.mod_eq_of_lt
  change c.toNat + 32 < 2 ^ 32
  omega

theorem toLower_of_not_isUpper {c : Char} (h : c.isUpper = false) :
  c.toLower = c
  := by
  rw [Char.toLower, dif_neg]
  intro hcond
  rw [ge_iff_le, UInt32.le_iff_toNat_le, UInt32.le_iff_toNat_le] at hcond
  rw [(isUpper_iff c).mpr hcond] at h
  cases h

@[simp]
theorem toLower_toLower (c : Char) :
  c.toLower.toLower = c.toLower
  := by
  cases h : c.isUpper with
  | false => rw [toLower_of_not_isUpper h, toLower_of_not_isUpper h]
  | true =>
      obtain ⟨hle, hge⟩ := (isUpper_iff c).mp h
      apply toLower_of_not_isUpper
      rw [← Bool.not_eq_true, isUpper_iff, toNat_toLower_of_isUpper h]
      omega

theorem isAlpha_toLower {c : Char} (h : c.isAlpha = true) :
  c.toLower.isAlpha = true
  := by
  cases hupper : c.isUpper with
  | false => rwa [toLower_of_not_isUpper hupper]
  | true =>
      obtain ⟨hle, hge⟩ := (isUpper_iff c).mp hupper
      rw [isAlpha_iff, toNat_toLower_of_isUpper hupper]
      omega

theorem isAlpha_of_toLower {c : Char} (h : c.toLower.isAlpha = true) :
  c.isAlpha = true
  := by
  cases hupper : c.isUpper with
  | true => rw [Char.isAlpha, hupper, Bool.true_or]
  | false => rwa [toLower_of_not_isUpper hupper] at h

theorem toLower_of_isDigit {c : Char} (h : c.isDigit = true) :
  c.toLower = c
  := by
  obtain ⟨hle, hge⟩ := (Digits.isDigit_iff c).mp h
  apply toLower_of_not_isUpper
  rw [← Bool.not_eq_true, isUpper_iff]
  omega

namespace Scheme

/-! ### Reading -/

/-- The text is one of a scheme. -/
structure IsText (scheme : List Char) : Prop where
  head : ∃ c rest, scheme = c :: rest ∧ c.isAlpha = true
  parts : ∀ c ∈ scheme, isPart c = true

/-- The scheme is one that is read as itself. -/
structure IsNormal (scheme : List Char) : Prop extends IsText scheme where
  lower : scheme.map Char.toLower = scheme

theorem isPart_of_isAlpha {c : Char} (h : c.isAlpha = true) :
  isPart c = true
  := by
  simp [isPart, Char.isAlphanum, h]

theorem isPart_toLower {c : Char} (h : isPart c = true) :
  isPart c.toLower = true
  := by
  cases halpha : c.isAlpha with
  | true => apply isPart_of_isAlpha (isAlpha_toLower halpha)
  | false =>
      rw [Char.isAlpha, Bool.or_eq_false_iff] at halpha
      rwa [toLower_of_not_isUpper halpha.1]

theorem lt_toNat_of_isPart {c : Char} (h : isPart c = true) :
  0x20 < c.toNat
  := by
  simp only [isPart, Char.isAlphanum, Bool.or_eq_true, isAlpha_iff, Digits.isDigit_iff,
    beq_iff_eq] at h
  obtain (((h | h) | rfl) | rfl) | rfl := h
  · omega
  · omega
  all_goals decide

theorem isPart_colon :
  isPart ':' = false
  := by
  decide

/-- What is read is in normal form. -/
theorem isNormal_of_read? {s scheme rest : List Char} (h : read? s = some (scheme, rest)) :
  IsNormal scheme
  := by
  cases s with
  | nil => cases h
  | cons c s =>
      rw [read?] at h
      split_ifs at h with halpha
      split at h
      · obtain ⟨rfl, -⟩ := Prod.mk.inj (Option.some.inj h)
        constructor
        · constructor
          · use c.toLower, (s.takeWhile isPart).map Char.toLower
            constructor
            · rw [List.takeWhile_cons_of_pos (isPart_of_isAlpha halpha), List.map_cons]
            · apply isAlpha_toLower halpha
          · intro d hd
            obtain ⟨e, he, rfl⟩ := List.mem_map.mp hd
            apply isPart_toLower (List.mem_takeWhile_imp he)
        · rw [List.map_map]
          congr 1
          funext d
          apply toLower_toLower
      · cases h

/-- The text of a scheme is read in lower case. -/
theorem read?_append {scheme : List Char} (h : IsText scheme) (rest : List Char) :
  read? (scheme ++ ':' :: rest) = some (scheme.map Char.toLower, rest)
  := by
  obtain ⟨c, others, rfl, halpha⟩ := h.head
  have hparts : ∀ d ∈ c :: others, isPart d = true := h.parts
  have hcolon := isPart_colon
  rw [List.cons_append, read?, if_pos halpha, ← List.cons_append,
    List.dropWhile_append_of_pos hparts, List.takeWhile_append_of_pos hparts,
    List.dropWhile_cons_of_neg (by simp [hcolon]), List.takeWhile_cons_of_neg (by simp [hcolon]),
    List.append_nil]
  rfl

theorem IsText.colon_notMem {scheme : List Char} (h : IsText scheme) :
  ':' ∉ scheme
  := by
  intro hmem
  have hpart := h.parts ':' hmem
  rw [isPart_colon] at hpart
  cases hpart

/-- What stands in front of the first colon is the text of a scheme, or nothing is read. -/
theorem read?_colon {scheme : List Char} (h : ':' ∉ scheme) :
  (∀ rest, read? (scheme ++ ':' :: rest) = none)
    ∨ IsText scheme
  := by
  cases scheme with
  | nil =>
      left
      intro rest
      rfl
  | cons c others =>
      by_cases halpha : c.isAlpha
      · by_cases hparts : ∀ d ∈ c :: others, isPart d = true
        · right
          exact ⟨⟨c, others, rfl, halpha⟩, hparts⟩
        · left
          intro rest
          obtain ⟨d, others', hdrop⟩ : ∃ d others',
              (c :: others).dropWhile isPart = d :: others' := by
            apply List.exists_cons_of_ne_nil
            rw [ne_eq, List.dropWhile_eq_nil_iff]
            apply hparts
          have hd : d ≠ ':' := by
            rintro rfl
            apply h
            apply (List.dropWhile_sublist isPart).mem
            rw [hdrop]
            apply List.mem_cons_self
          rw [List.cons_append, read?, if_pos halpha, ← List.cons_append,
            List.dropWhile_append, hdrop]
          simp only [List.isEmpty_cons, Bool.false_eq_true, if_false, List.cons_append]
          split
          · rename_i hcolon
            exact absurd (List.cons.inj hcolon).1 hd
          · rfl
      · left
        intro rest
        rw [List.cons_append, read?, if_neg halpha]

/-- What is read is what stands in front of the first colon, in lower case, and what follows it. -/
theorem exists_of_read? {s scheme rest : List Char} (h : read? s = some (scheme, rest)) :
  ∃ text, s = text ++ ':' :: rest ∧ ':' ∉ text ∧ scheme = text.map Char.toLower
  := by
  cases s with
  | nil => cases h
  | cons c s =>
      rw [read?] at h
      split_ifs at h with halpha
      split at h
      · rename_i hdrop
        obtain ⟨rfl, rfl⟩ := Prod.mk.inj (Option.some.inj h)
        use (c :: s).takeWhile isPart
        rw [← hdrop, List.takeWhile_append_dropWhile]
        use rfl
        constructor
        · intro hmem
          have hpart := List.mem_takeWhile_imp hmem
          rw [isPart_colon] at hpart
          cases hpart
        · rfl
      · cases h

theorem eq_file_of_kind {scheme : List Char} (h : kind scheme = .file) :
  scheme = "file".toList
  := by
  rw [kind] at h
  split_ifs at h with hfile
  apply hfile

/-- Only a special scheme has a port when none is given. -/
theorem defaultPort?_of_kind {scheme : List Char} (h : kind scheme = .other) :
  defaultPort? scheme = none
  := by
  rw [defaultPort?]
  split_ifs with hplain hsecure hfiles
  · obtain rfl | rfl := hplain <;> cases h
  · obtain rfl | rfl := hsecure <;> cases h
  · subst hfiles
    cases h
  · rfl

end Scheme

end Provision.Url
