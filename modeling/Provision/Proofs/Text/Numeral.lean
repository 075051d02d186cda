import Mathlib
import Provision.Proofs.Text.Digits
import Provision.Proofs.Text.Segments
import Provision.Text.Numeral

/-!
# Numbers that a text writes

A text writes a number if it has the decimal digits of it, perhaps with a plus sign in front and
with white space at the ends. It is read as that number exactly if the number is below the bound,
however many digits it has: the numbers that the digits write from the left only grow, so one that
stays below the bound in the end has been below it all the time.
-/

namespace Provision

namespace Unicode

/-! ### Removing white space -/

variable {front core back s : List Char}

/-- White space at the ends of a text that has none there itself is removed. -/
theorem trim_append (hfront : ∀ c ∈ front, isBlank c = true) (hback : ∀ c ∈ back, isBlank c = true)
    (hhead : ∀ c, core.head? = some c → isBlank c = false)
    (hlast : ∀ c, core.getLast? = some c → isBlank c = false) :
  trim (front ++ core ++ back) = core
  := by
  by_cases hne : core = []
  · subst hne
    have hall : ∀ c ∈ front ++ [] ++ back, isBlank c = true := by
      intro c hc
      rw [List.append_nil, List.mem_append] at hc
      obtain hc | hc := hc
      · apply hfront c hc
      · apply hback c hc
    rw [trim, List.dropWhile_eq_nil_iff.mpr hall]
    rfl
  · have hstart : ∀ c, (core ++ back).head? = some c → isBlank c = false := by
      intro c hc
      rw [List.head?_append_of_ne_nil core hne] at hc
      apply hhead c hc
    rw [trim, List.append_assoc, Segments.dropWhile_append_of_head? hfront hstart,
      List.reverse_append, Segments.dropWhile_append_of_head?, List.reverse_reverse]
    · intro c hc
      apply hback c (List.mem_reverse.mp hc)
    · intro c hc
      rw [List.head?_reverse] at hc
      apply hlast c hc

/-- Only white space is removed. -/
theorem exists_eq_append_trim (s : List Char) :
  ∃ front back, s = front ++ trim s ++ back ∧ (∀ c ∈ front, isBlank c = true)
    ∧ ∀ c ∈ back, isBlank c = true
  := by
  use s.takeWhile isBlank, ((s.dropWhile isBlank).reverse.takeWhile isBlank).reverse
  constructor
  · rw [trim, List.append_assoc, ← List.reverse_append, List.takeWhile_append_dropWhile,
      List.reverse_reverse, List.takeWhile_append_dropWhile]
  · constructor
    · intro c hc
      apply List.mem_takeWhile_imp hc
    · intro c hc
      apply List.mem_takeWhile_imp (List.mem_reverse.mp hc)

theorem isBlank_of_isDigit {c : Char} (h : c.isDigit = true) :
  isBlank c = false
  := by
  obtain ⟨hle, hge⟩ := (Digits.isDigit_iff c).mp h
  simp only [isBlank, CharRanges.contains, blankRanges, List.any_cons, List.any_nil,
    Bool.or_eq_false_iff, Bool.and_eq_false_iff, decide_eq_false_iff_not, Bool.or_false]
  omega

end Unicode

namespace Numeral

open Unicode

/-! ### Digits -/

variable {bound n m : Nat} {digits : List Char}

/-- More digits write no smaller number. -/
theorem le_ofDigitChars (n : Nat) (digits : List Char) :
  n ≤ Nat.ofDigitChars 10 digits n
  := by
  rw [Nat.ofDigitChars_eq_ofDigitChars_zero]
  have hpow : 1 ≤ 10 ^ digits.length := Nat.one_le_pow' _ _
  calc n
    _ = 1 * n := (Nat.one_mul n).symm
    _ ≤ 10 ^ digits.length * n := Nat.mul_le_mul_right n hpow
    _ ≤ 10 ^ digits.length * n + Nat.ofDigitChars 10 digits 0 := Nat.le_add_right _ _

/-- Digits go on to write the number that they write all together, unless that reaches the
bound. -/
theorem accumulate?_eq_some_iff (hn : digits = [] → n < bound) :
  accumulate? bound n digits = some m
    ↔ (∀ c ∈ digits, c.isDigit = true) ∧ Nat.ofDigitChars 10 digits n = m ∧ m < bound
  := by
  induction digits generalizing n with
  | nil =>
      simp only [accumulate?, Nat.ofDigitChars_nil, Option.some.injEq]
      constructor
      · rintro rfl
        use by simp, rfl, hn rfl
      · rintro ⟨-, rfl, -⟩
        rfl
  | cons c rest ih =>
      rw [accumulate?, List.forall_mem_cons, Nat.ofDigitChars_cons, Nat.mul_comm 10 n]
      cases hdigit : Digits.digit? 10 c with
      | none =>
          have hnot : ¬ c.isDigit = true := by
            intro hc
            rw [Digits.digit?_ten_eq_some_iff.mpr ⟨hc, rfl⟩] at hdigit
            cases hdigit
          simp [hnot]
      | some d =>
          obtain ⟨hc, rfl⟩ := Digits.digit?_ten_eq_some_iff.mp hdigit
          simp only [hc, true_and]
          split_ifs with hbelow
          · apply ih fun _ => hbelow
          · -- The number has reached the bound, and further digits do not lower it.
            have hle := le_ofDigitChars (n * 10 + (c.toNat - '0'.toNat)) rest
            constructor
            · rintro ⟨⟩
            · rintro ⟨-, rfl, hm⟩
              omega

/-! ### Written numbers -/

/-- The text writes the number: it has decimal digits, of which the first ones may be zeros, perhaps
with a plus sign right in front of them, and otherwise white space at its ends only. -/
inductive Writes : List Char → Nat → Prop where
  | intro {front sign digits back : List Char} (hfront : ∀ c ∈ front, isBlank c = true)
    (hback : ∀ c ∈ back, isBlank c = true) (hsign : sign = [] ∨ sign = ['+']) (hne : digits ≠ [])
    (hdigits : ∀ c ∈ digits, c.isDigit = true) :
    Writes (front ++ (sign ++ digits) ++ back) (Nat.ofDigitChars 10 digits 0)

/-- A number has no white space in it. -/
theorem isBlank_of_mem_signed {sign : List Char} (hsign : sign = [] ∨ sign = ['+'])
    (hdigits : ∀ c ∈ digits, c.isDigit = true) {c : Char} (hc : c ∈ sign ++ digits) :
  isBlank c = false
  := by
  obtain hc | hc := List.mem_append.mp hc
  · obtain rfl | rfl := hsign
    · cases hc
    · obtain rfl := List.mem_singleton.mp hc
      rfl
  · apply isBlank_of_isDigit (hdigits c hc)

/-- White space around a number is removed, and nothing else. -/
theorem trim_signed {front sign back : List Char} (hfront : ∀ c ∈ front, isBlank c = true)
    (hback : ∀ c ∈ back, isBlank c = true) (hsign : sign = [] ∨ sign = ['+'])
    (hdigits : ∀ c ∈ digits, c.isDigit = true) :
  trim (front ++ (sign ++ digits) ++ back) = sign ++ digits
  := by
  apply trim_append hfront hback
  · intro c hc
    apply isBlank_of_mem_signed hsign hdigits (List.mem_of_mem_head? hc)
  · intro c hc
    apply isBlank_of_mem_signed hsign hdigits (List.mem_of_getLast? hc)

/-- A number is read exactly if it is written and below the bound. -/
theorem unsigned?_eq_some_iff {s : List Char} :
  unsigned? bound s = some n ↔ Writes s n ∧ n < bound
  := by
  constructor
  · intro h
    obtain ⟨front, back, hs, hfront, hback⟩ := exists_eq_append_trim s
    obtain ⟨sign, digits, htrim, hsign, hread⟩ : ∃ sign digits, trim s = sign ++ digits
        ∧ (sign = [] ∨ sign = ['+'])
        ∧ (if digits.isEmpty then none else accumulate? bound 0 digits) = some n := by
      rw [unsigned?] at h
      split at h
      · rename_i digits htrim
        use ['+'], digits, htrim, .inr rfl, h
      · use [], trim s, rfl, .inl rfl, h
    split_ifs at hread with hempty
    have hne : digits ≠ [] := by simpa using hempty
    obtain ⟨hdigits, rfl, hn⟩ := (accumulate?_eq_some_iff fun h => absurd h hne).mp hread
    rw [hs, htrim]
    use .intro hfront hback hsign hne hdigits, hn
  · rintro ⟨h, hn⟩
    cases h with
    | @intro front sign digits back hfront hback hsign hne hdigits =>
        have hread := (accumulate?_eq_some_iff fun h => absurd h hne).mpr ⟨hdigits, rfl, hn⟩
        rw [unsigned?, trim_signed hfront hback hsign hdigits]
        obtain rfl | rfl := hsign
        · split
          · rename_i rest hplus
            rw [List.nil_append] at hplus
            have hdigit := hdigits '+' (by simp [hplus])
            cases hdigit
          · simpa [hne] using hread
        · simpa [hne] using hread

example :
    unsigned? (2 ^ 32) "\u3000+0004294967295\n".toList = some 4294967295
      ∧ unsigned? (2 ^ 32) "4294967296".toList = none
      ∧ unsigned? (2 ^ 32) "+ 1".toList = none := by
  decide +kernel

/-- A number is written by its decimal text. -/
theorem writes_toString (n : Nat) :
  Writes (toString n).toList n
  := by
  have htext : (toString n).toList = [] ++ ([] ++ Nat.toDigits 10 n) ++ [] := by
    rw [List.append_nil]
    apply String.toList_ofList
  have hwrites : Writes ([] ++ ([] ++ Nat.toDigits 10 n) ++ []) _ :=
    .intro (by simp) (by simp) (.inl rfl) Nat.toDigits_ne_nil
      fun c => Nat.isDigit_of_mem_toDigits (by decide) (by decide)
  rw [Nat.ofDigitChars_toDigits (by decide) (by decide)] at hwrites
  rwa [htext]

end Numeral

end Provision
