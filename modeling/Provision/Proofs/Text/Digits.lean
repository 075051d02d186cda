import Mathlib
import Provision.Text.Digits

/-!
# Reading written numbers

A number written in a base up to sixteen is read back as itself, and its length tells how
large it is at most.
-/

namespace Provision

/-- A partial map along a list succeeds when it does so everywhere. -/
theorem mapM_eq_some_iff {α β : Type} {f : α → Option β} {l : List α} {r : List β} :
  l.mapM f = some r ↔ l.map f = r.map some
  := by
  induction l generalizing r with
  | nil =>
      rw [List.mapM_nil, List.map_nil]
      cases r <;> simp
  | cons a l ih =>
      rw [List.mapM_cons, List.map_cons]
      cases r with
      | nil => cases f a <;> cases l.mapM f <;> simp
      | cons b r =>
          rw [List.map_cons, List.cons.injEq, ← ih]
          cases f a <;> cases l.mapM f <;> simp

namespace Digits

theorem digit?_digitChar {base d : Nat} (h : d < base) (hbase : base ≤ 16) :
  digit? base (Nat.digitChar d) = some d
  := by
  have hvalue : value? (Nat.digitChar d) = some d := by
    have hd : d < 16 := by omega
    interval_cases d <;> rfl
  rw [digit?, hvalue]
  simp [h]

theorem isDigit_iff (c : Char) :
  c.isDigit = true ↔ 48 ≤ c.toNat ∧ c.toNat ≤ 57
  := by
  simp only [Char.isDigit, ge_iff_le, UInt32.le_iff_toNat_le, Bool.and_eq_true,
    decide_eq_true_eq]
  rfl

/-- The digits of numbers in base ten are the decimal ones. -/
theorem digit?_ten_eq_some_iff {c : Char} {d : Nat} :
  digit? 10 c = some d ↔ c.isDigit = true ∧ c.toNat - '0'.toNat = d
  := by
  have hdecimal : ('0' ≤ c ∧ c ≤ '9') ↔ c.isDigit = true := by
    rw [isDigit_iff, Char.le_def, Char.le_def, UInt32.le_iff_toNat_le, UInt32.le_iff_toNat_le]
    rfl
  rw [digit?, Option.filter_eq_some_iff, decide_eq_true_eq, value?, ← hdecimal]
  split_ifs with hdigit hlower hupper
  · have hlast : c.toNat ≤ '9'.toNat := hdigit.2
    simp only [Option.some.injEq, hdigit, true_and]
    constructor
    · rintro ⟨rfl, -⟩
      rfl
    · rintro rfl
      use rfl
      simp only [Char.reduceToNat] at hlast ⊢
      omega
  · simp only [hdigit, false_and, iff_false, Option.some.injEq]
    omega
  · simp only [hdigit, false_and, iff_false, Option.some.injEq]
    omega
  · simp [hdigit]

theorem ofValues_append (base d : Nat) (values : List Nat) :
  ofValues base (values ++ [d]) = ofValues base values * base + d
  := by
  simp [ofValues]

/-- The digits of a number have values, from which the number can be computed. -/
theorem exists_values_toDigits {base : Nat} (hone : 1 < base) (hbase : base ≤ 16) (n : Nat) :
  ∃ values, (Nat.toDigits base n).mapM (digit? base) = some values ∧ ofValues base values = n
  := by
  induction n using Nat.strongRecOn with
  | _ n ih =>
      by_cases hlt : n < base
      · use [n]
        rw [Nat.toDigits_of_lt_base hlt]
        simp [digit?_digitChar hlt hbase, ofValues]
      · obtain ⟨values, hvalues, hn⟩ := ih (n / base) (Nat.div_lt_self (by omega) hone)
        have hmod : n % base < base := Nat.mod_lt _ (by omega)
        use values ++ [n % base]
        rw [Nat.toDigits_of_base_le hone (by omega)]
        constructor
        · simp [hvalues, digit?_digitChar hmod hbase]
        · rw [ofValues_append, hn, Nat.mul_comm]
          apply Nat.div_add_mod

theorem read?_toDigits {base : Nat} (hone : 1 < base) (hbase : base ≤ 16) (n : Nat) :
  read? base (Nat.toDigits base n) = some n
  := by
  obtain ⟨values, hvalues, hn⟩ := exists_values_toDigits hone hbase n
  rw [read?, if_neg (by simp), hvalues, Option.map_some, hn]

@[simp]
theorem read?_decimal (n : Nat) :
  read? 10 (decimal n) = some n
  := read?_toDigits (by decide) (by decide) n

@[simp]
theorem read?_hex (n : Nat) :
  read? 16 (hex n) = some n
  := read?_toDigits (by decide) (by decide) n

theorem decimal_ne_nil (n : Nat) :
  decimal n ≠ []
  := Nat.toDigits_ne_nil

theorem hex_ne_nil (n : Nat) :
  hex n ≠ []
  := Nat.toDigits_ne_nil

theorem isDigit_of_mem_decimal {n : Nat} {c : Char} (h : c ∈ decimal n) :
  c.isDigit = true
  := Nat.isDigit_of_mem_toDigits (by decide) (by decide) h

theorem ofValues_lt {base : Nat} {values : List Nat} (h : ∀ d ∈ values, d < base) :
  ofValues base values < base ^ values.length
  := by
  induction values using List.reverseRecOn with
  | nil => simp [ofValues]
  | append_singleton values d ih =>
      have hd : d < base := h d (by simp)
      have hvalues := ih fun e he => h e (by simp [he])
      rw [ofValues_append, List.length_append, List.length_singleton, pow_succ]
      calc ofValues base values * base + d
        _ < ofValues base values * base + base := by omega
        _ = (ofValues base values + 1) * base := by ring
        _ ≤ base ^ values.length * base := Nat.mul_le_mul_right base hvalues

/-- What is read has a digit for every character. -/
theorem exists_values_of_read? {base n : Nat} {s : List Char} (h : read? base s = some n) :
  ∃ values, s.map (digit? base) = values.map some ∧ ofValues base values = n
  := by
  rw [read?] at h
  split_ifs at h
  obtain ⟨values, hvalues, hn⟩ := Option.map_eq_some_iff.mp h
  use values, mapM_eq_some_iff.mp hvalues, hn

/-- A number is below the power of the base that its number of digits gives. -/
theorem lt_of_read? {base n : Nat} {s : List Char} (h : read? base s = some n) :
  n < base ^ s.length
  := by
  obtain ⟨values, hvalues, rfl⟩ := exists_values_of_read? h
  have hlength : s.length = values.length := by simpa using congrArg List.length hvalues
  rw [hlength]
  apply ofValues_lt
  intro d hd
  have hmem : some d ∈ s.map (digit? base) := by
    rw [hvalues]
    apply List.mem_map_of_mem hd
  obtain ⟨c, -, hc⟩ := List.mem_map.mp hmem
  simpa using (Option.filter_eq_some_iff.mp hc).2

/-- A character of a number has a value. -/
theorem isSome_value?_of_mem {base n : Nat} {s : List Char} (h : read? base s = some n)
    {c : Char} (hc : c ∈ s) :
  (value? c).isSome
  := by
  obtain ⟨values, hvalues, -⟩ := exists_values_of_read? h
  have hmem : digit? base c ∈ values.map some := by
    rw [← hvalues]
    apply List.mem_map_of_mem hc
  obtain ⟨d, -, hd⟩ := List.mem_map.mp hmem
  rw [(Option.filter_eq_some_iff.mp hd.symm).1]
  rfl

theorem isSome_value?_of_mem_hex {n : Nat} {c : Char} (hc : c ∈ hex n) :
  (value? c).isSome
  := isSome_value?_of_mem (read?_hex n) hc

end Digits

end Provision
