import Mathlib
import Provision.Text.Utf8

/-!
# Decoding what was encoded

The machine that reads UTF-8 gives back every character from its own bytes, without a fault
and in its first state again. So decoding an encoded text gives the text, whether faults are
refused or replaced.
-/

namespace Provision.Utf8

/-- The byte that continues a sequence with the last six bits of a number. -/
def tailByte (v : Nat) : UInt8 :=
  UInt8.ofNat (v % 64 + 0x80)

theorem toNat_tailByte (v : Nat) :
  (tailByte v).toNat = v % 64 + 0x80
  := by
  simp only [tailByte, UInt8.toNat_ofNat']
  omega

/-- A byte within the bounds of a sequence adds its last six bits to it. -/
theorem step_tailByte {bits missing v : Nat} {low high : UInt8}
    (hlow : low.toNat ≤ v % 64 + 0x80) (hhigh : v % 64 + 0x80 ≤ high.toNat) :
  step (some ⟨bits, missing, low, high⟩) (tailByte v)
    = match missing with
      | 0 => ([some (Char.ofNat (bits * 64 + v % 64))], none)
      | missing + 1 => ([], some ⟨bits * 64 + v % 64, missing, 0x80, 0xBF⟩)
  := by
  have hbounds : low ≤ tailByte v ∧ tailByte v ≤ high := by
    rw [UInt8.le_iff_toNat_le, UInt8.le_iff_toNat_le, toNat_tailByte]
    omega
  have hbits : (tailByte v).toNat % 64 = v % 64 := by
    rw [toNat_tailByte]
    omega
  cases missing <;> simp only [step, hbounds, hbits, and_self, if_true]

/-! ### The first byte of a sequence -/

theorem lead_of_lt {b : UInt8} (h : b.toNat < 0x80) :
  lead b = .whole (Char.ofNat b.toNat)
  := by
  apply if_pos
  rw [UInt8.lt_iff_toNat_lt]
  apply h

theorem lead_two {n : Nat} (h : 2 ≤ n) (h' : n < 32) :
  lead (UInt8.ofNat (n + 0xC0)) = .begins ⟨n, 0, 0x80, 0xBF⟩
  := by
  interval_cases n <;> rfl

theorem lead_three {n : Nat} (h : n < 16) :
  lead (UInt8.ofNat (n + 0xE0))
    = .begins ⟨n, 1, if n = 0 then 0xA0 else 0x80, if n = 13 then 0x9F else 0xBF⟩
  := by
  interval_cases n <;> rfl

theorem lead_four {n : Nat} (h : n < 5) :
  lead (UInt8.ofNat (n + 0xF0))
    = .begins ⟨n, 2, if n = 0 then 0x90 else 0x80, if n = 4 then 0x8F else 0xBF⟩
  := by
  interval_cases n <;> rfl

/-! ### Sequences -/

theorem scanFrom_one {b : UInt8} (h : b.toNat < 0x80) (rest : List UInt8) :
  scanFrom none (b :: rest) = some (Char.ofNat b.toNat) :: scanFrom none rest
  := by
  simp only [scanFrom, step, start, lead_of_lt h]
  rfl

theorem scanFrom_two {v : Nat} (h : 0x80 ≤ v) (h' : v < 0x800) (rest : List UInt8) :
  scanFrom none (UInt8.ofNat (v / 64 + 0xC0) :: tailByte v :: rest)
    = some (Char.ofNat v) :: scanFrom none rest
  := by
  have hlead : lead (UInt8.ofNat (v / 64 + 0xC0)) = .begins ⟨v / 64, 0, 0x80, 0xBF⟩ := by
    apply lead_two <;> omega
  have hlow : (0x80 : UInt8).toNat ≤ v % 64 + 0x80 := by simp
  have hhigh : v % 64 + 0x80 ≤ (0xBF : UInt8).toNat := by simp; omega
  have hbits : v / 64 * 64 + v % 64 = v := by omega
  simp only [scanFrom, step_tailByte hlow hhigh, step.eq_1, start, hlead, hbits]
  rfl

theorem scanFrom_three {v : Nat} (h : 0x800 ≤ v) (h' : v < 0x10000)
    (hsurrogate : v < 0xD800 ∨ 0xDFFF < v) (rest : List UInt8) :
  scanFrom none (UInt8.ofNat (v / 4096 + 0xE0) :: tailByte (v / 64) :: tailByte v :: rest)
    = some (Char.ofNat v) :: scanFrom none rest
  := by
  have hlead := lead_three (n := v / 4096) (by omega)
  have hlow : (if v / 4096 = 0 then 0xA0 else 0x80 : UInt8).toNat ≤ v / 64 % 64 + 0x80 := by
    split
    · simp
      omega
    · simp
  have hhigh : v / 64 % 64 + 0x80 ≤ (if v / 4096 = 13 then 0x9F else 0xBF : UInt8).toNat := by
    split <;> (simp; omega)
  have hlow' : (0x80 : UInt8).toNat ≤ v % 64 + 0x80 := by simp
  have hhigh' : v % 64 + 0x80 ≤ (0xBF : UInt8).toNat := by simp; omega
  have hbits : (v / 4096 * 64 + v / 64 % 64) * 64 + v % 64 = v := by omega
  simp only [scanFrom, step_tailByte hlow hhigh, step_tailByte hlow' hhigh', step.eq_1, start,
    hlead, hbits]
  rfl

theorem scanFrom_four {v : Nat} (h : 0x10000 ≤ v) (h' : v < 0x110000) (rest : List UInt8) :
  scanFrom none (UInt8.ofNat (v / 262144 + 0xF0) :: tailByte (v / 4096) :: tailByte (v / 64)
      :: tailByte v :: rest)
    = some (Char.ofNat v) :: scanFrom none rest
  := by
  have hlead := lead_four (n := v / 262144) (by omega)
  have hlow : (if v / 262144 = 0 then 0x90 else 0x80 : UInt8).toNat
      ≤ v / 4096 % 64 + 0x80 := by
    split
    · simp
      omega
    · simp
  have hhigh : v / 4096 % 64 + 0x80
      ≤ (if v / 262144 = 4 then 0x8F else 0xBF : UInt8).toNat := by
    split <;> (simp; omega)
  have hlow' (n : Nat) : (0x80 : UInt8).toNat ≤ n % 64 + 0x80 := by simp
  have hhigh' (n : Nat) : n % 64 + 0x80 ≤ (0xBF : UInt8).toNat := by simp; omega
  have hbits : ((v / 262144 * 64 + v / 4096 % 64) * 64 + v / 64 % 64) * 64 + v % 64 = v := by
    omega
  simp only [scanFrom, step_tailByte hlow hhigh, step_tailByte (hlow' _) (hhigh' _), step.eq_1,
    start, hlead, hbits]
  rfl

/-- The bytes of a character are read as that character. -/
theorem scanFrom_encodeChar (c : Char) (rest : List UInt8) :
  scanFrom none (String.utf8EncodeChar c ++ rest) = some c :: scanFrom none rest
  := by
  have hofNat : Char.ofNat c.val.toNat = c := Char.ofNat_toNat c
  have hvalid : c.val.toNat < 0xD800 ∨ 0xDFFF < c.val.toNat ∧ c.val.toNat < 0x110000 := c.valid
  simp only [String.utf8EncodeChar]
  split_ifs with h1 h2 h3
  · have hb : (UInt8.ofNat c.val.toNat).toNat = c.val.toNat := by
      simp only [UInt8.toNat_ofNat']
      omega
    have h := scanFrom_one (b := UInt8.ofNat c.val.toNat) (by omega) rest
    rw [hb, hofNat] at h
    apply h
  · have h := scanFrom_two (v := c.val.toNat) (by omega) (by omega) rest
    rw [hofNat] at h
    rw [Nat.mod_eq_of_lt (by omega : c.val.toNat / 64 < 0x20)]
    apply h
  · have h := scanFrom_three (v := c.val.toNat) (by omega) (by omega) (by omega) rest
    rw [hofNat] at h
    rw [Nat.mod_eq_of_lt (by omega : c.val.toNat / 4096 < 0x10)]
    apply h
  · have h := scanFrom_four (v := c.val.toNat) (by omega) (by omega) rest
    rw [hofNat] at h
    rw [Nat.mod_eq_of_lt (by omega : c.val.toNat / 262144 < 0x08)]
    apply h

/-- An encoded text is read without a fault. -/
theorem scan_encode (s : List Char) :
  scan (encode s) = s.map some
  := by
  induction s with
  | nil => rfl
  | cons c rest ih =>
      rw [List.map_cons, ← ih]
      apply scanFrom_encodeChar

@[simp]
theorem decodeLossy_encode (s : List Char) :
  decodeLossy (encode s) = s
  := by
  rw [decodeLossy, scan_encode, List.map_map]
  apply List.map_id

/-! ### Encoding part by part -/

@[simp]
theorem encode_nil :
  encode [] = []
  := rfl

theorem encode_cons (c : Char) (s : List Char) :
  encode (c :: s) = String.utf8EncodeChar c ++ encode s
  := rfl

@[simp]
theorem encode_append (s t : List Char) :
  encode (s ++ t) = encode s ++ encode t
  := List.flatMap_append

/-- An ASCII character is encoded as the byte of its number. -/
theorem encode_cons_of_lt {c : Char} (h : c.toNat < 0x80) (s : List Char) :
  encode (c :: s) = UInt8.ofNat c.toNat :: encode s
  := by
  have h' : c.val.toNat ≤ 0x7F := Nat.le_of_lt_succ h
  rw [encode_cons, String.utf8EncodeChar, if_pos h']
  rfl

theorem encode_ne_nil {s : List Char} (h : s ≠ []) :
  encode s ≠ []
  := by
  obtain ⟨c, rest, rfl⟩ := List.exists_cons_of_ne_nil h
  rw [encode_cons]
  simp [String.utf8EncodeChar_ne_nil]

/-- A byte of an encoded character is that of an ASCII character or not of ASCII at all. -/
theorem of_mem_encodeChar {c : Char} {b : UInt8} (h : b ∈ String.utf8EncodeChar c) :
  b = UInt8.ofNat c.toNat ∧ c.toNat < 0x80 ∨ 0x80 ≤ b.toNat
  := by
  have hc : c.toNat = c.val.toNat := rfl
  simp only [String.utf8EncodeChar, ← hc] at h
  split_ifs at h <;> simp only [List.mem_cons, List.not_mem_nil, or_false] at h
  · left
    use h
    omega
  · right
    obtain rfl | rfl := h <;> simp only [UInt8.toNat_ofNat'] <;> omega
  · right
    obtain rfl | rfl | rfl := h <;> simp only [UInt8.toNat_ofNat'] <;> omega
  · right
    obtain rfl | rfl | rfl | rfl := h <;> simp only [UInt8.toNat_ofNat'] <;> omega

/-- A byte of ASCII in an encoded text is that of a character of the text. -/
theorem exists_of_mem_encode {s : List Char} {b : UInt8} (h : b ∈ encode s)
    (hb : b.toNat < 0x80) :
  ∃ c ∈ s, c.toNat < 0x80 ∧ b = UInt8.ofNat c.toNat
  := by
  obtain ⟨c, hc, hmem⟩ := List.mem_flatMap.mp h
  obtain ⟨rfl, hlt⟩ | hge := of_mem_encodeChar hmem
  · use c, hc, hlt
  · omega

/-- A member that is not in the first of two lists is in the second. -/
theorem exists_eq_append_of_notMem {s t front back : List UInt8} {b : UInt8} (hb : b ∉ s)
    (h : s ++ t = front ++ b :: back) :
  ∃ more, front = s ++ more ∧ t = more ++ b :: back
  := by
  obtain hmore | ⟨inner, hinner, hback⟩ := List.append_eq_append_iff.mp h
  · apply hmore
  · cases inner with
    | nil =>
        use []
        rw [List.append_nil] at hinner ⊢
        use hinner.symm, hback.symm
    | cons first inner =>
        obtain ⟨rfl, -⟩ := List.cons.inj hback
        exact absurd (by simp [hinner]) hb

/-- Where an ASCII byte stands in an encoded text, its character stands in the text. The
induction is on the text, with the bytes in front of the ASCII byte general. -/
theorem exists_of_encode_eq {s : List Char} {front back : List UInt8} {b : UInt8}
    (hb : b.toNat < 0x80) (h : encode s = front ++ b :: back) :
  ∃ s₁ s₂, s = s₁ ++ Char.ofNat b.toNat :: s₂ ∧ encode s₁ = front ∧ encode s₂ = back
  := by
  induction s generalizing front with
  | nil => simp at h
  | cons c rest ih =>
      by_cases hlt : c.toNat < 0x80
      · rw [encode_cons_of_lt hlt] at h
        cases front with
        | nil =>
            obtain ⟨rfl, rfl⟩ := List.cons.inj h
            have hmod : c.toNat % 2 ^ 8 = c.toNat := Nat.mod_eq_of_lt (by omega)
            use [], rest
            rw [UInt8.toNat_ofNat', hmod, Char.ofNat_toNat]
            use rfl, rfl
        | cons first front =>
            obtain ⟨rfl, hrest⟩ := List.cons.inj h
            obtain ⟨s₁, s₂, rfl, rfl, hs₂⟩ := ih hrest
            use c :: s₁, s₂, rfl, encode_cons_of_lt hlt s₁
      · rw [encode_cons] at h
        have hnot : b ∉ String.utf8EncodeChar c := by
          intro hmem
          obtain ⟨-, hc⟩ | hge := of_mem_encodeChar hmem <;> omega
        obtain ⟨more, rfl, hrest⟩ := exists_eq_append_of_notMem hnot h
        obtain ⟨s₁, s₂, rfl, rfl, hs₂⟩ := ih hrest
        use c :: s₁, s₂, rfl, encode_cons c s₁

/-! ### ASCII bytes -/

/-- No ASCII byte continues a sequence that a byte has begun or continued. -/
theorem low_of_step {state : Option Begun} {b : UInt8} {s : Begun} (h : (step state b).2 = some s) :
  0x80 ≤ s.low
  := by
  have hlead : (start b).2 = some s → 0x80 ≤ s.low := by
    intro hstart
    rw [start, lead] at hstart
    split_ifs at hstart
    all_goals
      cases hstart
    all_goals simp
  cases state with
  | none => apply hlead h
  | some begun =>
      rw [step] at h
      split_ifs at h
      · split at h
        · cases h
        · obtain rfl := Option.some.inj h
          apply UInt8.le_refl
      · apply hlead h

/-- An ASCII byte ends a sequence that was begun, and is read as its character. -/
theorem step_of_lt {b : UInt8} (hb : b.toNat < 0x80) {state : Option Begun}
    (hstate : ∀ s, state = some s → 0x80 ≤ s.low) :
  step state b = ((if state.isSome then [none] else []) ++ [some (Char.ofNat b.toNat)], none)
  := by
  have hstart : start b = ([some (Char.ofNat b.toNat)], none) := by
    rw [start, lead_of_lt hb]
  cases state with
  | none => simp [step, hstart]
  | some s =>
      have hlow : ¬(s.low ≤ b ∧ b ≤ s.high) := by
        have hs := hstate s rfl
        rw [UInt8.le_iff_toNat_le] at hs ⊢
        have hlimit : (0x80 : UInt8).toNat = 0x80 := rfl
        omega
      simp [step, hlow, hstart]

/-- An ASCII byte is always read as its character, even in the middle of a sequence. -/
theorem mem_scanFrom {b : UInt8} (hb : b.toNat < 0x80) {bytes : List UInt8} (h : b ∈ bytes)
    {state : Option Begun} (hstate : ∀ s, state = some s → 0x80 ≤ s.low) :
  some (Char.ofNat b.toNat) ∈ scanFrom state bytes
  := by
  induction bytes generalizing state with
  | nil => cases h
  | cons first rest ih =>
      rw [scanFrom, List.mem_append]
      obtain rfl | h := List.mem_cons.mp h
      · left
        rw [step_of_lt hb hstate]
        simp
      · right
        apply ih h
        intro s
        apply low_of_step

theorem mem_decodeLossy {b : UInt8} (hb : b.toNat < 0x80) {bytes : List UInt8} (h : b ∈ bytes) :
  Char.ofNat b.toNat ∈ decodeLossy bytes
  := by
  apply List.mem_map.mpr
  use some (Char.ofNat b.toNat), mem_scanFrom hb h nofun
  rfl

theorem mem_encode {c : Char} (hc : c.toNat < 0x80) {s : List Char} (h : c ∈ s) :
  UInt8.ofNat c.toNat ∈ encode s
  := by
  obtain ⟨front, back, rfl⟩ := List.append_of_mem h
  rw [encode_append, encode_cons_of_lt hc]
  simp

end Provision.Utf8
