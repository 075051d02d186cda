import Mathlib
import Provision.Proofs.Text.Utf8
import Provision.Url.Percent

/-!
# Escaped text

Text that has only characters which a part of a URL does not escape is its own escaped
form, and the escaped form of any text is of that kind. So escaping a second time changes
nothing.
-/

namespace Provision.Url.Percent

/-! ### Plain text -/

/-- The characters that escapes are written with. -/
def escapeChars : List Char :=
  ['%', '0', '1', '2', '3', '4', '5', '6', '7', '8', '9', 'A', 'B', 'C', 'D', 'E', 'F']

/-- A property can be checked for the characters of escapes one at a time. -/
theorem forall_mem_escapeChars {p : Char → Prop} [DecidablePred p]
    (h : escapeChars.all (fun c => decide (p c)) = true) :
  ∀ c ∈ escapeChars, p c
  := by
  intro c hc
  simpa using List.all_eq_true.mp h c hc

/-- The set leaves escapes alone and has all bytes that are not ASCII. -/
structure Escaped.IsStable (escaped : Escaped) : Prop where
  of_le : ∀ b, 0x80 ≤ b.toNat → escaped b = true
  of_mem : ∀ c ∈ escapeChars, escaped (UInt8.ofNat c.toNat) = false

/-- The text has only ASCII characters that are not escaped. -/
def IsPlain (escaped : Escaped) (s : List Char) : Prop :=
  ∀ c ∈ s, c.toNat < 0x80 ∧ escaped (UInt8.ofNat c.toNat) = false

variable {escaped : Escaped}

theorem controls_isStable :
  controls.IsStable
  := by
  constructor
  · intro b hb
    have hlt : (0x7E : UInt8) < b := by
      rw [UInt8.lt_iff_toNat_lt]
      apply Nat.lt_of_lt_of_le _ hb
      decide
    simp [controls, hlt]
  · apply forall_mem_escapeChars
    decide

/-- Further characters keep a set stable unless escapes are written with them. -/
theorem Escaped.IsStable.also (h : escaped.IsStable) {chars : List Char}
    (hchars : ∀ c ∈ escapeChars, c ∉ chars) :
  (escaped.also chars).IsStable
  := by
  constructor
  · intro b hb
    rw [Escaped.also, h.of_le b hb, Bool.true_or]
  · intro c hc
    have hchar : Char.ofNat (UInt8.ofNat c.toNat).toNat = c := by
      revert c
      apply forall_mem_escapeChars
      decide
    rw [Escaped.also, h.of_mem c hc, hchar]
    simpa using hchars c hc

theorem fragment_isStable :
  fragment.IsStable
  := controls_isStable.also (forall_mem_escapeChars (by decide))

theorem query_isStable :
  query.IsStable
  := controls_isStable.also (forall_mem_escapeChars (by decide))

theorem specialQuery_isStable :
  specialQuery.IsStable
  := query_isStable.also (forall_mem_escapeChars (by decide))

theorem path_isStable :
  path.IsStable
  := fragment_isStable.also (forall_mem_escapeChars (by decide))

/-- The bytes escaped in a segment of a file are those of a path and more. -/
theorem segment_of_le (b : UInt8) (h : 0x80 ≤ b.toNat) :
  segment b = true
  := by
  rw [segment, Escaped.also, path_isStable.of_le b h, Bool.true_or]

/-- No control is plain. -/
theorem le_toNat_of_controls {c : Char} (hlt : c.toNat < 0x80)
    (h : controls (UInt8.ofNat c.toNat) = false) :
  0x20 ≤ c.toNat
  := by
  rw [controls, Bool.or_eq_false_iff, decide_eq_false_iff_not, UInt8.lt_iff_toNat_lt,
    UInt8.toNat_ofNat'] at h
  have hmod : c.toNat % 2 ^ 8 = c.toNat := Nat.mod_eq_of_lt (by omega)
  rw [hmod] at h
  apply Nat.le_of_not_lt h.1

theorem toNat_toChar {c : Char} (h : c.toNat < 0x80) :
  Char.ofNat (UInt8.ofNat c.toNat).toNat = c
  := by
  have hmod : c.toNat % 2 ^ 8 = c.toNat := Nat.mod_eq_of_lt (by omega)
  rw [UInt8.toNat_ofNat', hmod, Char.ofNat_toNat]

/-- A character of a set that has been added to is plain for the smaller set, and not one
of those that were added. -/
theorem of_also_eq_false {chars : List Char} {c : Char} (hlt : c.toNat < 0x80)
    (h : escaped.also chars (UInt8.ofNat c.toNat) = false) :
  escaped (UInt8.ofNat c.toNat) = false ∧ c ∉ chars
  := by
  rw [Escaped.also, Bool.or_eq_false_iff, toNat_toChar hlt] at h
  simpa using h

/-! ### Escaping -/

@[simp]
theorem encode_nil :
  encode escaped [] = []
  := rfl

theorem encode_append (s t : List Char) :
  encode escaped (s ++ t) = encode escaped s ++ encode escaped t
  := by
  rw [encode, Utf8.encode_append, List.flatMap_append, ← encode, ← encode]

/-- Plain text is its own escaped form. -/
theorem encode_of_isPlain {s : List Char} (h : IsPlain escaped s) :
  encode escaped s = s
  := by
  induction s with
  | nil => rfl
  | cons c rest ih =>
      obtain ⟨hlt, hc⟩ := h c List.mem_cons_self
      have hrest := ih fun d hd => h d (List.mem_cons_of_mem c hd)
      rw [encode, Utf8.encode_cons_of_lt hlt, List.flatMap_cons, hc, ← encode, hrest,
        toNat_toChar hlt]
      rfl

theorem mem_escapeChars_of_mem_encodeByte {b : UInt8} {c : Char} (h : c ∈ encodeByte b) :
  c ∈ escapeChars
  := by
  have hdigit : ∀ d < 16, Digits.upperHex d ∈ escapeChars := by decide
  have hb := b.toNat_lt
  obtain rfl | rfl | rfl : c = '%' ∨ c = Digits.upperHex (b.toNat / 16)
      ∨ c = Digits.upperHex (b.toNat % 16) := by simpa [encodeByte] using h
  · decide
  · apply hdigit
    omega
  · apply hdigit
    omega

/-- An escaped text has the characters of the text that are not escaped, and those that
escapes are written with. -/
theorem of_mem_encode (hstable : escaped.IsStable) {s : List Char} {c : Char}
    (h : c ∈ encode escaped s) :
  c ∈ escapeChars ∨ c ∈ s ∧ c.toNat < 0x80 ∧ escaped (UInt8.ofNat c.toNat) = false
  := by
  obtain ⟨b, hb, hc⟩ := List.mem_flatMap.mp h
  split_ifs at hc with hescaped
  · left
    apply mem_escapeChars_of_mem_encodeByte hc
  · right
    have hlt : b.toNat < 0x80 := by
      by_contra hle
      apply hescaped
      apply hstable.of_le b (by omega)
    obtain ⟨d, hd, hdlt, rfl⟩ := Utf8.exists_of_mem_encode hb hlt
    rw [toNat_toChar hdlt, List.mem_singleton] at hc
    subst hc
    use hd, hdlt
    simpa using hescaped

/-- An escaped text is plain. -/
theorem isPlain_encode (hstable : escaped.IsStable) (s : List Char) :
  IsPlain escaped (encode escaped s)
  := by
  intro c hc
  obtain hc | ⟨-, hlt, hc⟩ := of_mem_encode hstable hc
  · have hlt : ∀ d ∈ escapeChars, d.toNat < 0x80 := forall_mem_escapeChars (by decide)
    use hlt c hc, hstable.of_mem c hc
  · use hlt, hc

/-- Escaping a second time changes nothing. -/
theorem encode_encode (hstable : escaped.IsStable) (s : List Char) :
  encode escaped (encode escaped s) = encode escaped s
  := encode_of_isPlain (isPlain_encode hstable s)

theorem encode_ne_nil {s : List Char} (h : s ≠ []) :
  encode escaped s ≠ []
  := by
  obtain ⟨b, rest, hs⟩ := List.exists_cons_of_ne_nil (Utf8.encode_ne_nil h)
  rw [encode, hs, List.flatMap_cons]
  split_ifs
  · simp [encodeByte]
  · simp

/-! ### Resolving -/

variable {read? : UInt8 → UInt8 → Option UInt8}

/-- Bytes without a percent sign have no escapes. -/
theorem decodeBytes_of_forall {bytes : List UInt8} (h : ∀ b ∈ bytes, b ≠ '%'.toUInt8) :
  decodeBytes read? bytes = bytes
  := by
  fun_induction decodeBytes read? bytes with
  | case1 high low rest decoded hread ih =>
      exact absurd rfl (h _ List.mem_cons_self)
  | case2 high low rest hread ih =>
      exact absurd rfl (h _ List.mem_cons_self)
  | case3 b high low rest hb ih => rw [ih fun c hc => h c (List.mem_cons_of_mem b hc)]
  | case4 => rfl

/-- Text without a percent sign has no escapes. -/
theorem decode_of_notMem {s : List Char} (h : '%' ∉ s) :
  decode read? s = s
  := by
  rw [decode, decodeBytes_of_forall, Utf8.decodeLossy_encode]
  rintro b hb rfl
  obtain ⟨c, hc, hlt, hb⟩ := Utf8.exists_of_mem_encode hb (by decide)
  have hchar : c = '%' := by
    rw [← toNat_toChar hlt, ← hb]
    rfl
  apply h
  rwa [← hchar]

/-! ### Spelled bytes -/

/-- The text spells the bytes, each by an allowed character that stands for itself or by an
escape. -/
inductive Spells (allowed : Char → Bool) : List Char → List UInt8 → Prop where
  | nil : Spells allowed [] []
  | char {c : Char} {s : List Char} {bytes : List UInt8} (hc : allowed c = true)
      (h : Spells allowed s bytes) :
    Spells allowed (c :: s) (UInt8.ofNat c.toNat :: bytes)
  | escape {high low : Char} {a b : Nat} {s : List Char} {bytes : List UInt8}
      (hhigh : Digits.value? high = some a) (hlow : Digits.value? low = some b)
      (h : Spells allowed s bytes) :
    Spells allowed ('%' :: high :: low :: s) (UInt8.ofNat (a * 16 + b) :: bytes)

/-- What holds of all ASCII characters holds of a digit. -/
theorem of_value? {p : Char → Prop} (h : ∀ n < 0x80, p (Char.ofNat n)) {c : Char} {d : Nat}
    (hc : Digits.value? c = some d) :
  p c
  := by
  have hlt : c.toNat < 0x80 := by
    by_contra hge
    have hnot : ∀ low high : Char, high.toNat < 0x80 → ¬(low ≤ c ∧ c ≤ high) := by
      rintro low high hhigh ⟨-, hle⟩
      apply hge
      apply Nat.lt_of_le_of_lt (UInt32.le_iff_toNat_le.mp hle) hhigh
    rw [Digits.value?, if_neg (hnot _ _ (by decide)), if_neg (hnot _ _ (by decide)),
      if_neg (hnot _ _ (by decide))] at hc
    cases hc
  rw [← Char.ofNat_toNat c]
  apply h c.toNat hlt

/-- The digits of escapes are not escaped themselves. -/
theorem userinfo_of_value? {c : Char} {d : Nat} (h : Digits.value? c = some d) :
  c.toNat < 0x80 ∧ userinfo (UInt8.ofNat c.toNat) = false
  := by
  have hdigit : ∀ n < 0x80, (Digits.value? (Char.ofNat n)).isSome →
      (Char.ofNat n).toNat < 0x80
        ∧ userinfo (UInt8.ofNat (Char.ofNat n).toNat) = false := by decide +kernel
  apply of_value? (p := fun c => (Digits.value? c).isSome →
    c.toNat < 0x80 ∧ userinfo (UInt8.ofNat c.toNat) = false) hdigit h
  rw [h]
  rfl

theorem encode_cons_of_lt {c : Char} (h : c.toNat < 0x80) (s : List Char) :
  encode escaped (c :: s)
    = (if escaped (UInt8.ofNat c.toNat) then encodeByte (UInt8.ofNat c.toNat) else [c])
      ++ encode escaped s
  := by
  rw [encode, Utf8.encode_cons_of_lt h, List.flatMap_cons, ← encode, toNat_toChar h]

theorem decodeBytes_cons_of_ne {b : UInt8} (h : b ≠ '%'.toUInt8) (bytes : List UInt8) :
  decodeBytes read? (b :: bytes) = b :: decodeBytes read? bytes
  := by
  match bytes with
  | [] => rfl
  | [_] => rfl
  | _ :: _ :: _ => rw [decodeBytes, if_neg h]

/-- Two digits are read as the byte of the number that they write. -/
def ReadsDigits (read? : UInt8 → UInt8 → Option UInt8) : Prop :=
  ∀ {high low : Char} {a b : Nat}, Digits.value? high = some a → Digits.value? low = some b →
    read? (UInt8.ofNat high.toNat) (UInt8.ofNat low.toNat) = some (UInt8.ofNat (a * 16 + b))

theorem toChar_of_value? {c : Char} {d : Nat} (h : Digits.value? c = some d) :
  Char.ofNat (UInt8.ofNat c.toNat).toNat = c
  := toNat_toChar (userinfo_of_value? h).1

theorem readsDigits_pair? :
  ReadsDigits pair?
  := by
  intro high low a b hhigh hlow
  rw [pair?, toChar_of_value? hhigh, toChar_of_value? hlow, hhigh, hlow]

theorem readsDigits_signedPair? :
  ReadsDigits signedPair?
  := by
  intro high low a b hhigh hlow
  have hplus : UInt8.ofNat high.toNat ≠ '+'.toUInt8 := by
    intro heq
    have hhighChar := toChar_of_value? hhigh
    rw [heq] at hhighChar
    rw [← hhighChar] at hhigh
    cases hhigh
  rw [signedPair?, if_neg hplus, readsDigits_pair? hhigh hlow]

/-- The digits that escapes are written with have their values. -/
theorem value?_upperHex :
  ∀ d < 16, Digits.value? (Digits.upperHex d) = some d ∧ (Digits.upperHex d).toNat < 0x80
  := by
  decide +kernel

/-- The digits of a byte make it up. -/
theorem ofNat_div_add_mod (b : UInt8) :
  UInt8.ofNat (b.toNat / 16 * 16 + b.toNat % 16) = b
  := by
  have hsum : b.toNat / 16 * 16 + b.toNat % 16 = b.toNat := by omega
  rw [hsum, UInt8.ofNat_toNat]

/-- The escape of a byte is resolved to that byte. -/
theorem decodeBytes_encodeByte (hread : ReadsDigits read?) (b : UInt8) (bytes : List UInt8) :
  decodeBytes read? (Utf8.encode (encodeByte b) ++ bytes) = b :: decodeBytes read? bytes
  := by
  have hb := b.toNat_lt
  obtain ⟨hhigh, hhighLt⟩ := value?_upperHex (b.toNat / 16) (by omega)
  obtain ⟨hlow, hlowLt⟩ := value?_upperHex (b.toNat % 16) (by omega)
  rw [encodeByte, Utf8.encode_cons_of_lt (by decide), Utf8.encode_cons_of_lt hhighLt,
    Utf8.encode_cons_of_lt hlowLt, Utf8.encode_nil]
  simp only [List.cons_append, List.nil_append]
  rw [decodeBytes, if_pos (by decide), hread hhigh hlow, ofNat_div_add_mod]

/-- Where the percent sign and all bytes beyond ASCII are escaped, resolving the escapes gives
the bytes of the text back. -/
theorem decodeBytes_encode (hread : ReadsDigits read?) (hpercent : escaped '%'.toUInt8 = true)
    (hbeyond : ∀ b : UInt8, 0x80 ≤ b.toNat → escaped b = true) (s : List Char)
    (rest : List UInt8) :
  decodeBytes read? (Utf8.encode (encode escaped s) ++ rest) = Utf8.encode s ++ decodeBytes read? rest
  := by
  rw [encode]
  induction Utf8.encode s with
  | nil => rfl
  | cons b bytes ih =>
      rw [List.flatMap_cons, Utf8.encode_append, List.append_assoc]
      split_ifs with hescaped
      · rw [decodeBytes_encodeByte hread, ih, List.cons_append]
      · have hlt : b.toNat < 0x80 := by
          by_contra hge
          exact hescaped (hbeyond b (by omega))
        have hchar : (Char.ofNat b.toNat).toNat = b.toNat := by
          interval_cases b.toNat <;> rfl
        have hne : b ≠ '%'.toUInt8 := by
          rintro rfl
          exact hescaped hpercent
        rw [Utf8.encode_cons_of_lt (by omega), Utf8.encode_nil, hchar, UInt8.ofNat_toNat,
          List.singleton_append, decodeBytes_cons_of_ne hne, ih, List.cons_append]

variable {allowed : Char → Bool} {s : List Char} {bytes : List UInt8}

/-- A property of allowed characters, of the percent sign and of digits is one of spelled
text. -/
theorem Spells.forall_mem {p : Char → Prop} (h : Spells allowed s bytes)
    (hallowed : ∀ c, allowed c = true → p c) (hpercent : p '%')
    (hdigit : ∀ c, (Digits.value? c).isSome → p c) :
  ∀ c ∈ s, p c
  := by
  induction h with
  | nil => simp
  | char hc h ih =>
      intro c hmem
      obtain rfl | hmem := List.mem_cons.mp hmem
      · apply hallowed c hc
      · apply ih c hmem
  | escape hhigh hlow h ih =>
      intro c hmem
      simp only [List.mem_cons] at hmem
      obtain rfl | rfl | rfl | hmem := hmem
      · apply hpercent
      · apply hdigit
        rw [hhigh]
        rfl
      · apply hdigit
        rw [hlow]
        rfl
      · apply ih c hmem

/-- Escaping spelled text does not change the bytes that it spells. -/
theorem decodeBytes_encode_of_spells
    (hallowed : ∀ c, allowed c = true → c.toNat < 0x80 ∧ c ≠ '%') (h : Spells allowed s bytes) :
  decodeBytes signedPair? (Utf8.encode (encode userinfo s)) = bytes
  := by
  induction h with
  | nil => rfl
  | char hc h ih =>
      rename_i c s bytes
      obtain ⟨hlt, hne⟩ := hallowed c hc
      rw [encode_cons_of_lt hlt, Utf8.encode_append]
      split_ifs
      · rw [decodeBytes_encodeByte readsDigits_signedPair?, ih]
      · have hpercent : UInt8.ofNat c.toNat ≠ '%'.toUInt8 := by
          intro heq
          apply hne
          rw [← toNat_toChar hlt, heq]
          rfl
        rw [Utf8.encode_cons_of_lt hlt, Utf8.encode_nil, List.singleton_append,
          decodeBytes_cons_of_ne hpercent, ih]
  | escape hhigh hlow h ih =>
      obtain ⟨hhighLt, hhighPlain⟩ := userinfo_of_value? hhigh
      obtain ⟨hlowLt, hlowPlain⟩ := userinfo_of_value? hlow
      have hpercent : userinfo (UInt8.ofNat '%'.toNat) = false := by decide
      rw [encode_cons_of_lt (by decide), encode_cons_of_lt hhighLt, encode_cons_of_lt hlowLt,
        hpercent, hhighPlain, hlowPlain]
      simp only [Bool.false_eq_true, if_false, List.singleton_append]
      rw [Utf8.encode_cons_of_lt (by decide), Utf8.encode_cons_of_lt hhighLt,
        Utf8.encode_cons_of_lt hlowLt, decodeBytes, if_pos (by decide),
        readsDigits_signedPair? hhigh hlow, ih]

/-- Where more characters are allowed, spelled text still spells the same. -/
theorem Spells.mono {more : Char → Bool} (h : Spells allowed s bytes)
    (hmore : ∀ c, allowed c = true → more c = true) :
  Spells more s bytes
  := by
  induction h with
  | nil => apply Spells.nil
  | char hc h ih => apply Spells.char (hmore _ hc) ih
  | escape hhigh hlow h ih => apply Spells.escape hhigh hlow ih

/-- An escaped text spells the bytes of the text, if all that is not escaped is allowed. -/
theorem spells_encode
    (h : ∀ b, escaped b = false → allowed (Char.ofNat b.toNat) = true) (s : List Char) :
  Spells allowed (encode escaped s) (Utf8.encode s)
  := by
  rw [encode]
  induction Utf8.encode s with
  | nil => apply Spells.nil
  | cons b bytes ih =>
      rw [List.flatMap_cons]
      split_ifs with hescaped
      · have hb := b.toNat_lt
        have hspelled := Spells.escape (value?_upperHex (b.toNat / 16) (by omega)).1
          (value?_upperHex (b.toNat % 16) (by omega)).1 ih
        rwa [ofNat_div_add_mod] at hspelled
      · have hspelled := Spells.char (h b (by simpa using hescaped)) ih
        have hbyte : UInt8.ofNat (Char.ofNat b.toNat).toNat = b := by
          have hvalid : b.toNat.isValidChar := by
            left
            have hb := b.toNat_lt
            omega
          rw [Char.toNat_ofNat, if_pos hvalid, UInt8.ofNat_toNat]
        rwa [hbyte] at hspelled

/-! ### What escapes leave in place -/

/-- A byte that is no percent sign and no digit takes part in no escape. -/
theorem mem_decodeBytes {b : UInt8} (hpercent : b ≠ '%'.toUInt8)
    (hdigit : Digits.value? (Char.ofNat b.toNat) = none) {bytes : List UInt8} (h : b ∈ bytes) :
  b ∈ decodeBytes pair? bytes
  := by
  fun_induction decodeBytes pair? bytes with
  | case1 high low rest decoded hread ih =>
      have hnot : b ≠ high ∧ b ≠ low := by
        rw [pair?] at hread
        constructor
        · rintro rfl
          simp [hdigit] at hread
        · rintro rfl
          simp [hdigit] at hread
      simp only [List.mem_cons, hpercent, hnot, false_or] at h
      apply List.mem_cons_of_mem _ (ih h)
  | case2 high low rest hread ih =>
      obtain h | h := List.mem_cons.mp h
      · exact absurd h hpercent
      · apply List.mem_cons_of_mem _ (ih h)
  | case3 first high low rest hfirst ih =>
      obtain rfl | h := List.mem_cons.mp h
      · apply List.mem_cons_self
      · apply List.mem_cons_of_mem _ (ih h)
  | case4 => apply h

/-- Such a character is still there when all escapes are resolved. -/
theorem mem_decode {c : Char} (hc : c.toNat < 0x80) (hpercent : c ≠ '%')
    (hdigit : Digits.value? c = none) {s : List Char} (h : c ∈ s) :
  c ∈ decode pair? s
  := by
  have hchar := toNat_toChar hc
  have hbyte : (UInt8.ofNat c.toNat).toNat < 0x80 := by
    simp only [UInt8.toNat_ofNat']
    omega
  have hne : UInt8.ofNat c.toNat ≠ '%'.toUInt8 := by
    intro heq
    apply hpercent
    rw [← hchar, heq]
    rfl
  have hdecoded := mem_decodeBytes hne (by rwa [hchar]) (Utf8.mem_encode hc h)
  rw [← hchar]
  apply Utf8.mem_decodeLossy hbyte hdecoded

end Provision.Url.Percent
