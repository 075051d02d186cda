import Mathlib
import Provision.Proofs.Url.Percent

/-!
# Escapes in a text

The rule by which escapes are resolved, from left to right: an escape becomes the byte that it
stands for, and every other byte stays. What counts as an escape is a parameter of the rule. A
percent sign and two hexadecimal digits are one; a percent sign, a plus sign and one digit are
one only where signs are read as well, and every such escape makes a difference.
-/

namespace Provision.Url.Percent

/-! ### Digits -/

/-- The hexadecimal digits from zero on. -/
def lowerDigits : List Char :=
  ['0', '1', '2', '3', '4', '5', '6', '7', '8', '9', 'a', 'b', 'c', 'd', 'e', 'f']

/-- The character is the hexadecimal digit of a number, in either case. -/
def IsHexDigit (c : Char) (d : Nat) : Prop :=
  lowerDigits[d]? = some c ∨ (lowerDigits.map Char.toUpper)[d]? = some c

instance (c : Char) (d : Nat) : Decidable (IsHexDigit c d) :=
  inferInstanceAs (Decidable (_ ∨ _))

theorem lt_sixteen_of_isHexDigit {c : Char} {d : Nat} (h : IsHexDigit c d) :
  d < 16
  := by
  obtain h | h := h <;> exact (List.getElem?_eq_some_iff.mp h).1

theorem isHexDigit_iff {c : Char} {d : Nat} :
  IsHexDigit c d ↔ Digits.value? c = some d
  := by
  constructor
  · have hdigits : ∀ d < 16, (lowerDigits[d]?.bind Digits.value?) = some d
        ∧ ((lowerDigits.map Char.toUpper)[d]?.bind Digits.value?) = some d := by decide +kernel
    intro h
    obtain ⟨hlower, hupper⟩ := hdigits d (lt_sixteen_of_isHexDigit h)
    obtain h | h := h
    · rwa [h] at hlower
    · rwa [h] at hupper
  · have hchars : ∀ n < 0x80, ∀ d ∈ (Digits.value? (Char.ofNat n)).toList,
        IsHexDigit (Char.ofNat n) d := by decide +kernel
    intro h
    apply of_value? (p := fun c => ∀ d ∈ (Digits.value? c).toList, IsHexDigit c d) hchars h
    simp [h]

theorem lt_of_isHexDigit {c : Char} {d : Nat} (h : IsHexDigit c d) :
  c.toNat < 0x80
  := (userinfo_of_value? (isHexDigit_iff.mp h)).1

/-- Neither a percent sign nor a plus sign is a digit. -/
theorem not_isHexDigit {c : Char} (h : c = '%' ∨ c = '+') (d : Nat) :
  ¬ IsHexDigit c d
  := by
  rw [isHexDigit_iff]
  obtain rfl | rfl := h <;> simp [Digits.value?]

/-! ### What an escape stands for -/

/-- The bytes are two hexadecimal digits, which write a byte. -/
def IsPair (high low b : UInt8) : Prop :=
  ∃ a d, IsHexDigit (Char.ofNat high.toNat) a ∧ IsHexDigit (Char.ofNat low.toNat) d
    ∧ b = UInt8.ofNat (a * 16 + d)

/-- The bytes are a plus sign and a hexadecimal digit, which writes a byte. -/
def IsSigned (high low b : UInt8) : Prop :=
  high = '+'.toUInt8 ∧ ∃ d, IsHexDigit (Char.ofNat low.toNat) d ∧ b = UInt8.ofNat d

/-- The bytes are two hexadecimal digits, or a plus sign and one. -/
def IsPairOrSigned (high low b : UInt8) : Prop :=
  IsPair high low b ∨ IsSigned high low b

variable {stands : UInt8 → UInt8 → UInt8 → Prop} {read? : UInt8 → UInt8 → Option UInt8}
  {high low b : UInt8} {bytes resolved rest : List UInt8}

theorem pair?_eq_some_iff (high low b : UInt8) :
  pair? high low = some b ↔ IsPair high low b
  := by
  simp only [pair?, IsPair, isHexDigit_iff]
  cases Digits.value? (Char.ofNat high.toNat) <;> cases Digits.value? (Char.ofNat low.toNat)
    <;> simp [eq_comm]

theorem signedPair?_eq_some_iff (high low b : UInt8) :
  signedPair? high low = some b ↔ IsPairOrSigned high low b
  := by
  rw [signedPair?, IsPairOrSigned]
  split_ifs with hplus
  · subst hplus
    have hpair : ¬ IsPair '+'.toUInt8 low b := by
      rintro ⟨a, d, ha, -⟩
      apply not_isHexDigit (.inr rfl) a ha
    simp only [hpair, false_or, IsSigned, true_and, isHexDigit_iff]
    cases Digits.value? (Char.ofNat low.toNat) <;> simp [eq_comm]
  · rw [pair?_eq_some_iff]
    simp [IsSigned, hplus]

/-- An escape stands at the front of the bytes. -/
def BeginsEscape (stands : UInt8 → UInt8 → UInt8 → Prop) (bytes : List UInt8) : Prop :=
  ∃ high low b rest, bytes = '%'.toUInt8 :: high :: low :: rest ∧ stands high low b

/-- The bytes are resolved from left to right: an escape becomes the byte that it stands for, and
a byte at which no escape begins stays. -/
inductive Resolves (stands : UInt8 → UInt8 → UInt8 → Prop) :
    List UInt8 → List UInt8 → Prop where
  | nil : Resolves stands [] []
  | escape {high low b : UInt8} {rest resolved : List UInt8} (h : stands high low b)
      (hrest : Resolves stands rest resolved) :
    Resolves stands ('%'.toUInt8 :: high :: low :: rest) (b :: resolved)
  | keep {b : UInt8} {rest resolved : List UInt8} (h : ¬ BeginsEscape stands (b :: rest))
      (hrest : Resolves stands rest resolved) :
    Resolves stands (b :: rest) (b :: resolved)

theorem decodeBytes_escape (hread : ∀ high low b, read? high low = some b ↔ stands high low b)
    (h : stands high low b) (rest : List UInt8) :
  decodeBytes read? ('%'.toUInt8 :: high :: low :: rest) = b :: decodeBytes read? rest
  := by
  rw [decodeBytes, if_pos rfl, (hread _ _ _).mpr h]

theorem decodeBytes_keep (hread : ∀ high low b, read? high low = some b ↔ stands high low b)
    (h : ¬ BeginsEscape stands (b :: rest)) :
  decodeBytes read? (b :: rest) = b :: decodeBytes read? rest
  := by
  by_cases hb : b = '%'.toUInt8
  · subst hb
    match rest with
    | [] => rfl
    | [_] => rfl
    | high :: low :: rest =>
        have hnone : read? high low = none := by
          rw [Option.eq_none_iff_forall_ne_some]
          intro b hb
          apply h
          use high, low, b, rest, rfl
          apply (hread _ _ _).mp hb
        rw [decodeBytes, if_pos rfl, hnone]
  · apply decodeBytes_cons_of_ne hb

/-- Every text has one resolved form. -/
theorem resolves_iff (hread : ∀ high low b, read? high low = some b ↔ stands high low b) :
  Resolves stands bytes resolved ↔ resolved = decodeBytes read? bytes
  := by
  constructor
  · intro h
    induction h with
    | nil => rfl
    | escape h hrest ih =>
        rw [decodeBytes_escape hread h, ← ih]
    | keep h hrest ih => rw [decodeBytes_keep hread h, ← ih]
  · rintro rfl
    induction hlength : bytes.length using Nat.strong_induction_on generalizing bytes with
    | h n ih =>
        cases bytes with
        | nil => apply Resolves.nil
        | cons b rest =>
            subst hlength
            by_cases h : BeginsEscape stands (b :: rest)
            · obtain ⟨high, low, c, more, heq, hstands⟩ := h
              rw [heq] at ih ⊢
              rw [decodeBytes_escape hread hstands]
              apply Resolves.escape hstands
              apply ih more.length _ rfl
              simp only [List.length_cons]
              omega
            · rw [decodeBytes_keep hread h]
              apply Resolves.keep h
              apply ih rest.length _ rfl
              simp

/-! ### Signs -/

/-- A plus sign and a digit follow a percent sign somewhere in the bytes. -/
def HasSign (bytes : List UInt8) : Prop :=
  ∃ front low rest, bytes = front ++ '%'.toUInt8 :: '+'.toUInt8 :: low :: rest
    ∧ ∃ d, IsHexDigit (Char.ofNat low.toNat) d

theorem hasSign_cons_iff (hfront : ¬ BeginsEscape IsSigned (b :: bytes)) :
  HasSign (b :: bytes) ↔ HasSign bytes
  := by
  constructor
  · rintro ⟨front, low, rest, heq, d, hd⟩
    cases front with
    | nil => exact absurd ⟨_, low, UInt8.ofNat d, rest, heq, rfl, d, hd, rfl⟩ hfront
    | cons first front =>
        obtain ⟨-, rfl⟩ := List.cons.inj heq
        use front, low, rest, rfl, d
  · rintro ⟨front, low, rest, rfl, hlow⟩
    use b :: front, low, rest, rfl

theorem toNat_toChar_byte (b : UInt8) :
  (Char.ofNat b.toNat).toNat = b.toNat
  := by
  have hvalid : b.toNat.isValidChar := by
    left
    have hb := b.toNat_lt
    omega
  rw [Char.toNat_ofNat, if_pos hvalid]

theorem lt_of_isHexDigit_byte {d : Nat} (h : IsHexDigit (Char.ofNat b.toNat) d) :
  b.toNat < 0x80
  := by
  rw [← toNat_toChar_byte]
  apply lt_of_isHexDigit h

theorem ne_of_isHexDigit_byte {c : Char} (hc : c = '%' ∨ c = '+') {d : Nat}
    (h : IsHexDigit (Char.ofNat b.toNat) d) :
  b ≠ c.toUInt8
  := by
  rintro rfl
  apply not_isHexDigit (c := Char.ofNat c.toUInt8.toNat) _ d h
  obtain rfl | rfl := hc
  · left
    rfl
  · right
    rfl

/-- A sign does not stand in digits. -/
theorem hasSign_pair_iff (h : IsPair high low b) :
  HasSign ('%'.toUInt8 :: high :: low :: rest) ↔ HasSign rest
  := by
  obtain ⟨a, d, ha, hd, -⟩ := h
  rw [hasSign_cons_iff, hasSign_cons_iff, hasSign_cons_iff]
  · rintro ⟨_, _, _, _, heq, -⟩
    apply ne_of_isHexDigit_byte (.inl rfl) hd (List.cons.inj heq).1
  · rintro ⟨_, _, _, _, heq, -⟩
    apply ne_of_isHexDigit_byte (.inl rfl) ha (List.cons.inj heq).1
  · rintro ⟨_, _, _, _, heq, rfl, -⟩
    apply ne_of_isHexDigit_byte (.inr rfl) ha (List.cons.inj (List.cons.inj heq).2).1

/-- A sign is no digit, so where only digits are read the three bytes stay. -/
theorem decodeBytes_pair?_sign {d : Nat} (h : IsHexDigit (Char.ofNat low.toNat) d)
    (rest : List UInt8) :
  decodeBytes pair? ('%'.toUInt8 :: '+'.toUInt8 :: low :: rest)
    = '%'.toUInt8 :: '+'.toUInt8 :: low :: decodeBytes pair? rest
  := by
  have hnot : ¬ BeginsEscape IsPair ('%'.toUInt8 :: '+'.toUInt8 :: low :: rest) := by
    rintro ⟨high, low, b, more, heq, a, d, ha, -⟩
    obtain ⟨rfl, -⟩ := List.cons.inj (List.cons.inj heq).2
    apply ne_of_isHexDigit_byte (.inr rfl) ha rfl
  rw [decodeBytes_keep pair?_eq_some_iff hnot, decodeBytes_cons_of_ne (by decide),
    decodeBytes_cons_of_ne (ne_of_isHexDigit_byte (.inl rfl) h)]

/-- The second list is the first with some ASCII bytes, as many as the number says, widened to a
percent sign, a plus sign and an ASCII byte. -/
inductive Widened : Nat → List UInt8 → List UInt8 → Prop where
  | nil : Widened 0 [] []
  | same {n : Nat} {s t : List UInt8} (b : UInt8) (h : Widened n s t) :
    Widened n (b :: s) (b :: t)
  | sign {n : Nat} {s t : List UInt8} {b low : UInt8} (hb : b.toNat < 0x80)
      (hlow : low.toNat < 0x80) (h : Widened n s t) :
    Widened (n + 1) (b :: s) ('%'.toUInt8 :: '+'.toUInt8 :: low :: t)

theorem Widened.eq_of_zero {s t : List UInt8} (h : Widened 0 s t) :
  s = t
  := by
  generalize hn : 0 = n at h
  induction h with
  | nil => rfl
  | same b h ih => rw [ih hn]
  | sign hb hlow h ih => cases hn

open Utf8 in
/-- An ASCII byte is read as one character, whatever sequence has begun in front of it. -/
theorem Widened.length_scanFrom {n : Nat} {s t : List UInt8} (h : Widened n s t)
    {state : Option Begun} (hstate : ∀ s, state = some s → 0x80 ≤ s.low) :
  (scanFrom state t).length = (scanFrom state s).length + 2 * n
  := by
  induction h generalizing state with
  | nil => simp
  | same b h ih =>
      rw [scanFrom, scanFrom, List.length_append, List.length_append, ih fun s => low_of_step]
      omega
  | sign hb hlow h ih =>
      have hnone : ∀ s : Begun, none = some s → 0x80 ≤ s.low := by
        intro s hs
        cases hs
      simp only [scanFrom, step_of_lt hb hstate, step_of_lt (b := '%'.toUInt8) (by decide) hstate,
        step_of_lt (b := '+'.toUInt8) (by decide) hnone, step_of_lt hlow hnone,
        List.length_append, List.length_singleton, Option.isSome_none, Bool.false_eq_true, if_false,
        List.nil_append, ih hnone]
      omega

/-- Where signs are not read, every sign is left as it is. The induction is on the rule by which
they are read. -/
theorem exists_widened (h : Resolves IsPairOrSigned bytes resolved) :
  ∃ n, Widened n resolved (decodeBytes pair? bytes) ∧ (HasSign bytes ↔ 0 < n)
  := by
  induction h with
  | nil =>
      use 0, Widened.nil
      simp [HasSign]
  | @escape high low b rest resolved hstands hrest ih =>
      obtain ⟨n, hwidened, hn⟩ := ih
      obtain hpair | ⟨rfl, d, hd, rfl⟩ := hstands
      · use n
        rw [decodeBytes_escape pair?_eq_some_iff hpair, hasSign_pair_iff hpair]
        use Widened.same b hwidened
      · have hlt : (UInt8.ofNat d).toNat < 0x80 := by
          rw [UInt8.toNat_ofNat']
          have hd := lt_sixteen_of_isHexDigit hd
          omega
        use n + 1
        rw [decodeBytes_pair?_sign hd]
        use Widened.sign hlt (lt_of_isHexDigit_byte hd) hwidened
        simp only [Nat.zero_lt_succ, iff_true]
        use [], low, rest, rfl, d
  | @keep b rest resolved hkeep hrest ih =>
      obtain ⟨n, hwidened, hn⟩ := ih
      have hpair : ¬ BeginsEscape IsPair (b :: rest) := by
        rintro ⟨high, low, c, more, heq, hstands⟩
        apply hkeep ⟨high, low, c, more, heq, .inl hstands⟩
      have hsign : ¬ BeginsEscape IsSigned (b :: rest) := by
        rintro ⟨high, low, c, more, heq, hstands⟩
        apply hkeep ⟨high, low, c, more, heq, .inr hstands⟩
      use n
      rw [decodeBytes_keep pair?_eq_some_iff hpair, hasSign_cons_iff hsign]
      use Widened.same b hwidened

/-! ### Escapes in a text -/

/-- Somewhere in the text a percent sign stands in front of two characters of the given kind. -/
def HasEscape (kind : Char → Char → Prop) (s : List Char) : Prop :=
  ∃ front high low back, s = front ++ '%' :: high :: low :: back ∧ kind high low

/-- The characters are hexadecimal digits. -/
def AreDigits (high low : Char) : Prop :=
  (∃ a, IsHexDigit high a) ∧ ∃ d, IsHexDigit low d

/-- The characters are a plus sign and a hexadecimal digit. -/
def AreSigned (high low : Char) : Prop :=
  high = '+' ∧ ∃ d, IsHexDigit low d

variable {s : List Char} {front : List UInt8}

/-- ASCII bytes behind a percent sign are characters behind one. -/
theorem exists_of_encode_eq_escape (hhigh : high.toNat < 0x80) (hlow : low.toNat < 0x80)
    (h : Utf8.encode s = front ++ '%'.toUInt8 :: high :: low :: rest) :
  ∃ s₁ s₂, s = s₁ ++ '%' :: Char.ofNat high.toNat :: Char.ofNat low.toNat :: s₂
  := by
  have hnil {t : List Char} (ht : Utf8.encode t = []) : t = [] := by
    by_contra hne
    apply Utf8.encode_ne_nil hne ht
  have hfirst {t : List Char} {c : UInt8} {bytes : List UInt8} (hc : c.toNat < 0x80)
      (ht : Utf8.encode t = c :: bytes) :
      ∃ t', t = Char.ofNat c.toNat :: t' ∧ Utf8.encode t' = bytes := by
    rw [← List.nil_append (c :: bytes)] at ht
    obtain ⟨t₁, t', rfl, ht₁, hbytes⟩ := Utf8.exists_of_encode_eq hc ht
    rw [hnil ht₁]
    use t', rfl
  obtain ⟨s₁, after, rfl, -, hafter⟩ := Utf8.exists_of_encode_eq (by decide) h
  obtain ⟨after', rfl, hafter'⟩ := hfirst hhigh hafter
  obtain ⟨s₂, rfl, -⟩ := hfirst hlow hafter'
  use s₁, s₂
  rfl

theorem hasSign_encode_iff :
  HasSign (Utf8.encode s) ↔ HasEscape AreSigned s
  := by
  constructor
  · rintro ⟨front, low, rest, heq, hlow⟩
    have hlt := lt_of_isHexDigit_byte hlow.choose_spec
    obtain ⟨s₁, s₂, rfl⟩ := exists_of_encode_eq_escape (by decide) hlt heq
    use s₁, '+', Char.ofNat low.toNat, s₂, rfl, rfl
  · rintro ⟨front, high, low, back, rfl, rfl, d, hd⟩
    have hlt := lt_of_isHexDigit hd
    use Utf8.encode front, UInt8.ofNat low.toNat, Utf8.encode back
    rw [Utf8.encode_append, Utf8.encode_cons_of_lt (by decide), Utf8.encode_cons_of_lt (by decide),
      Utf8.encode_cons_of_lt hlt]
    use rfl, d
    rwa [toNat_toChar hlt]

theorem resolves_self (h : ∀ front rest, bytes = front ++ rest → ¬ BeginsEscape stands rest) :
  Resolves stands bytes bytes
  := by
  induction bytes with
  | nil => apply Resolves.nil
  | cons b bytes ih =>
      apply Resolves.keep (h [] _ rfl)
      apply ih
      rintro front rest rfl
      apply h (b :: front) rest rfl

/-- A text without escapes of either kind is left as it is. -/
theorem resolves_self_of_not_hasEscape (hdigits : ¬ HasEscape AreDigits s)
    (hsigned : ¬ HasEscape AreSigned s) :
  Resolves IsPairOrSigned (Utf8.encode s) (Utf8.encode s)
  := by
  apply resolves_self
  rintro front _ heq ⟨high, low, b, rest, rfl, ⟨a, d, ha, hd, -⟩ | ⟨rfl, d, hd, -⟩⟩
  · obtain ⟨s₁, s₂, rfl⟩ := exists_of_encode_eq_escape (lt_of_isHexDigit_byte ha)
      (lt_of_isHexDigit_byte hd) heq
    apply hdigits ⟨s₁, _, _, s₂, rfl, ⟨a, ha⟩, d, hd⟩
  · obtain ⟨s₁, s₂, rfl⟩ := exists_of_encode_eq_escape (by decide) (lt_of_isHexDigit_byte hd) heq
    apply hsigned ⟨s₁, _, _, s₂, rfl, rfl, d, hd⟩

/-- Reading signs as well gives another text exactly if there are any. -/
theorem decode_signedPair?_eq_iff :
  decode signedPair? s = decode pair? s ↔ ¬ HasEscape AreSigned s
  := by
  have hresolves : Resolves IsPairOrSigned (Utf8.encode s)
      (decodeBytes signedPair? (Utf8.encode s)) := (resolves_iff signedPair?_eq_some_iff).mpr rfl
  obtain ⟨n, hwidened, hn⟩ := exists_widened hresolves
  rw [← hasSign_encode_iff, hn, Nat.not_lt, Nat.le_zero]
  constructor
  · intro h
    have hnone : ∀ s : Utf8.Begun, none = some s → 0x80 ≤ s.low := nofun
    have hlength := congrArg List.length h
    rw [decode, decode, Utf8.decodeLossy, Utf8.decodeLossy, List.length_map, List.length_map,
      Utf8.scan, Utf8.scan, hwidened.length_scanFrom hnone] at hlength
    omega
  · rintro rfl
    rw [decode, decode, hwidened.eq_of_zero]

end Provision.Url.Percent
