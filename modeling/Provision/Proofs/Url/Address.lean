import Mathlib
import Provision.Proofs.Text.Digits
import Provision.Proofs.Text.Segments
import Provision.Url.Address

/-!
# Addresses in their written form

An address that is read from some text is written in one way only, and its written form is
read as the same address. That of a version 6 address leaves out the first of the longest runs
of zero groups.
-/

namespace Provision.Url.Address

/-! ### Version 4 -/

/-- The bytes of a version 4 address, the first one first. -/
def bytesV4 (address : Nat) : List Nat :=
  [address / 16777216 % 256, address / 65536 % 256, address / 256 % 256, address % 256]

theorem writeV4_eq (address : Nat) :
  writeV4 address = Segments.join ['.'] ((bytesV4 address).map Digits.decimal)
  := by
  simp [writeV4, bytesV4]

theorem lt_of_mem_bytesV4 {address n : Nat} (h : n ∈ bytesV4 address) :
  n < 256
  := by
  simp only [bytesV4, List.mem_cons, List.not_mem_nil, or_false] at h
  omega

theorem number?_decimal :
  ∀ n < 256, number? (Digits.decimal n) = some n
  := by
  decide +kernel

theorem notMem_decimal {n : Nat} {c : Char} (hc : c.isDigit = false) :
  c ∉ Digits.decimal n
  := by
  intro hmem
  rw [Digits.isDigit_of_mem_decimal hmem] at hc
  cases hc

/-- The parts of a written address are its bytes. -/
theorem dotted_writeV4 (address : Nat) :
  dotted (writeV4 address) = (bytesV4 address).map Digits.decimal
  := by
  have hsplit : Segments.split (· == '.') (writeV4 address)
      = (bytesV4 address).map Digits.decimal := by
    rw [writeV4_eq]
    apply Segments.split_join (by decide) (by simp [bytesV4])
    intro segment hsegment c hc
    obtain ⟨n, -, rfl⟩ := List.mem_map.mp hsegment
    rw [beq_eq_false_iff_ne]
    rintro rfl
    apply notMem_decimal (by decide) hc
  rw [dotted, hsplit, if_neg]
  simp [bytesV4, Digits.decimal_ne_nil]

/-- A written address is read as itself. -/
theorem v4?_writeV4 {address : Nat} (h : address < 256 ^ 4) :
  v4? (writeV4 address) = some address
  := by
  have hnumbers : ((bytesV4 address).map Digits.decimal).mapM number?
      = some (bytesV4 address) := by
    rw [mapM_eq_some_iff, List.map_map]
    apply List.map_congr_left
    intro n hn
    apply number?_decimal n (lt_of_mem_bytesV4 hn)
  have hvalue : Digits.ofValues 256
      [address / 16777216 % 256, address / 65536 % 256, address / 256 % 256] * 256
      + address % 256 = address := by
    simp only [Digits.ofValues, List.foldl_cons, List.foldl_nil]
    omega
  rw [v4?, dotted_writeV4, if_pos (by simp [bytesV4]), hnumbers, Option.bind_some]
  simpa [ofNumbers?, bytesV4, Nat.mod_lt] using hvalue

/-- A written address ends in a number. -/
theorem endsInNumber_writeV4 (address : Nat) :
  endsInNumber (writeV4 address) = true
  := by
  have hlast : number? (Digits.decimal (address % 256)) = some (address % 256) :=
    number?_decimal _ (Nat.mod_lt _ (by decide))
  simp [endsInNumber, dotted_writeV4, bytesV4, hlast]

/-- The characters of a written address are digits and dots. -/
theorem of_mem_writeV4 {address : Nat} {c : Char} (h : c ∈ writeV4 address) :
  c = '.' ∨ c.isDigit = true
  := by
  rw [writeV4_eq] at h
  obtain rfl | ⟨segment, hsegment, hc⟩ := Segments.of_mem_join h
  · left
    rfl
  · right
    obtain ⟨n, -, rfl⟩ := List.mem_map.mp hsegment
    apply Digits.isDigit_of_mem_decimal hc

theorem writeV4_ne_nil (address : Nat) :
  writeV4 address ≠ []
  := by
  simp [writeV4_eq, bytesV4, Segments.join, Digits.decimal_ne_nil]

/-- The numbers of at most four parts make up an address of four bytes. -/
theorem lt_of_ofNumbers? {numbers : List Nat} {address : Nat} (hlength : numbers.length ≤ 4)
    (h : ofNumbers? numbers = some address) :
  address < 256 ^ 4
  := by
  rw [ofNumbers?] at h
  cases hlast : numbers.getLast? with
  | none =>
      rw [hlast] at h
      cases h
  | some last =>
      simp only [hlast, Nat.pow_eq] at h
      split_ifs at h with hfits
      obtain ⟨hlt, hbytes⟩ := hfits
      obtain rfl := Option.some.inj h
      have hvalue : Digits.ofValues 256 numbers.dropLast < 256 ^ numbers.dropLast.length := by
        apply Digits.ofValues_lt
        simpa using hbytes
      have hle : numbers.dropLast.length ≤ 4 := by
        rw [List.length_dropLast]
        omega
      have hpow : 256 ^ numbers.dropLast.length * 256 ^ (4 - numbers.dropLast.length) = 256 ^ 4 := by
        rw [← pow_add]
        congr 1
        omega
      calc Digits.ofValues 256 numbers.dropLast * 256 ^ (4 - numbers.dropLast.length) + last
        _ < Digits.ofValues 256 numbers.dropLast * 256 ^ (4 - numbers.dropLast.length)
            + 256 ^ (4 - numbers.dropLast.length) := by omega
        _ = (Digits.ofValues 256 numbers.dropLast + 1)
            * 256 ^ (4 - numbers.dropLast.length) := by ring
        _ ≤ 256 ^ numbers.dropLast.length * 256 ^ (4 - numbers.dropLast.length) :=
          Nat.mul_le_mul_right _ hvalue
        _ = 256 ^ 4 := hpow

/-- An address that is read has four bytes. -/
theorem lt_of_v4? {s : List Char} {address : Nat} (h : v4? s = some address) :
  address < 256 ^ 4
  := by
  rw [v4?] at h
  split_ifs at h with hparts
  obtain ⟨numbers, hnumbers, haddress⟩ := Option.bind_eq_some_iff.mp h
  have hlength : (dotted s).length = numbers.length := by
    simpa using congrArg List.length (mapM_eq_some_iff.mp hnumbers)
  apply lt_of_ofNumbers? _ haddress
  omega

/-! ### Version 6 -/

/-- The groups are those of a version 6 address. -/
def IsGroups (groups : List Nat) : Prop :=
  groups.length = 8 ∧ ∀ group ∈ groups, group < 65536

theorem lt_of_group? {s : List Char} {group : Nat} (h : group? s = some group) :
  group < 65536
  := by
  rw [group?] at h
  split_ifs at h with hlength
  calc group
    _ < 16 ^ s.length := Digits.lt_of_read? h
    _ ≤ 16 ^ 4 := Nat.pow_le_pow_right (by decide) hlength

theorem lt_of_byte? {s : List Char} {byte : Nat} (h : byte? s = some byte) :
  byte < 256
  := by
  rw [byte?] at h
  split_ifs at h
  simpa using (Option.filter_eq_some_iff.mp h).2

theorem lt_of_tail? {s : List Char} {groups : List Nat} (h : tail? s = some groups) :
  ∀ group ∈ groups, group < 65536
  := by
  rw [tail?] at h
  split at h
  · rename_i a b c d hbytes
    have hmap := mapM_eq_some_iff.mp hbytes
    have hlt : ∀ byte ∈ [a, b, c, d], byte < 256 := by
      intro byte hbyte
      have hmem : some byte ∈ (Segments.split (· == '.') s).map byte? := by
        rw [hmap]
        apply List.mem_map_of_mem hbyte
      obtain ⟨part, -, hpart⟩ := List.mem_map.mp hmem
      apply lt_of_byte? hpart
    obtain rfl := Option.some.inj h
    simp only [List.mem_cons, List.not_mem_nil, or_false, forall_eq_or_imp, forall_eq] at hlt ⊢
    omega
  · cases h

theorem lt_of_groups? {parts : List (List Char)} {groups : List Nat}
    (h : groups? parts = some groups) :
  ∀ group ∈ groups, group < 65536
  := by
  fun_induction groups? parts generalizing groups with
  | case1 =>
      obtain rfl := Option.some.inj h
      simp
  | case2 last hdot => apply lt_of_tail? h
  | case3 last hdot =>
      obtain ⟨group, hgroup, rfl⟩ := Option.map_eq_some_iff.mp h
      simpa using lt_of_group? hgroup
  | case4 s rest hrest group others hgroup hothers ih =>
      obtain rfl := Option.some.inj h
      simpa using ⟨lt_of_group? hothers, ih hgroup⟩
  | case5 => cases h

theorem lt_of_side? {mayEndInV4 : Bool} {s : List Char} {groups : List Nat}
    (h : side? mayEndInV4 s = some groups) :
  ∀ group ∈ groups, group < 65536
  := by
  rw [side?] at h
  split_ifs at h
  · obtain rfl := Option.some.inj h
    simp
  · apply lt_of_groups? h

/-- The groups that are read are those of an address. -/
theorem isGroups_of_v6? {s : List Char} {groups : List Nat} (h : v6? s = some groups) :
  IsGroups groups
  := by
  rw [v6?] at h
  split at h
  · obtain ⟨hside, hlength⟩ := Option.filter_eq_some_iff.mp h
    use by simpa using hlength
    apply lt_of_side? hside
  · split at h
    · rename_i first last hfirst hlast
      split_ifs at h with hle
      obtain rfl := Option.some.inj h
      constructor
      · simp only [List.length_append, List.length_replicate]
        omega
      · intro group hgroup
        simp only [List.mem_append, List.mem_replicate] at hgroup
        obtain (hgroup | ⟨-, rfl⟩) | hgroup := hgroup
        · apply lt_of_side? hfirst group hgroup
        · decide
        · apply lt_of_side? hlast group hgroup
    · cases h

section

/-! What is read as an address has no characters but digits and the separators. -/

variable {c : Char} (hdigit : Digits.value? c = none)
include hdigit

theorem notMem_of_read? {base n : Nat} {s : List Char} (h : Digits.read? base s = some n) :
  c ∉ s
  := by
  intro hmem
  have hsome := Digits.isSome_value?_of_mem h hmem
  rw [hdigit] at hsome
  cases hsome

theorem notMem_of_group? {s : List Char} {group : Nat} (h : group? s = some group) :
  c ∉ s
  := by
  rw [group?] at h
  split_ifs at h
  apply notMem_of_read? hdigit h

theorem notMem_of_byte? {s : List Char} {byte : Nat} (h : byte? s = some byte) :
  c ∉ s
  := by
  rw [byte?] at h
  split_ifs at h
  apply notMem_of_read? hdigit (Option.filter_eq_some_iff.mp h).1

variable (hdot : c ≠ '.')
include hdot

theorem notMem_of_tail? {s : List Char} {groups : List Nat} (h : tail? s = some groups) :
  c ∉ s
  := by
  rw [tail?] at h
  split at h
  · rename_i a b d e hbytes
    have hmap := mapM_eq_some_iff.mp hbytes
    apply Segments.notMem_of_split hdot
    intro part hpart
    have hmem := List.mem_map_of_mem (f := byte?) hpart
    rw [hmap] at hmem
    obtain ⟨byte, -, hbyte⟩ := List.mem_map.mp hmem
    apply notMem_of_byte? hdigit hbyte.symm
  · cases h

theorem notMem_of_groups? {parts : List (List Char)} {groups : List Nat}
    (h : groups? parts = some groups) :
  ∀ part ∈ parts, c ∉ part
  := by
  fun_induction groups? parts generalizing groups with
  | case1 => simp
  | case2 last => simpa using notMem_of_tail? hdigit hdot h
  | case3 last =>
      obtain ⟨group, hgroup, -⟩ := Option.map_eq_some_iff.mp h
      simpa using notMem_of_group? hdigit hgroup
  | case4 s rest hrest group others hgroups hgroup ih =>
      intro part hpart
      obtain rfl | hpart := List.mem_cons.mp hpart
      · apply notMem_of_group? hdigit hgroup
      · apply ih hgroups part hpart
  | case5 => cases h

variable (hcolon : c ≠ ':')
include hcolon

theorem notMem_of_side? {mayEndInV4 : Bool} {s : List Char} {groups : List Nat}
    (h : side? mayEndInV4 s = some groups) :
  c ∉ s
  := by
  rw [side?] at h
  split_ifs at h with hempty
  · rw [List.isEmpty_iff.mp hempty]
    apply List.not_mem_nil
  · apply Segments.notMem_of_split hcolon
    apply notMem_of_groups? hdigit hdot h

omit hdigit hdot in
theorem notMem_of_cutGap {s : List Char} (hbefore : c ∉ (cutGap s).1)
    (hafter : ∀ after, (cutGap s).2 = some after → c ∉ after) :
  c ∉ s
  := by
  fun_induction cutGap s with
  | case1 rest => simpa [hcolon] using hafter rest rfl
  | case2 => apply List.not_mem_nil
  | case3 first rest _ ih =>
      rw [List.mem_cons, not_or] at hbefore ⊢
      use hbefore.1, ih hbefore.2 hafter

/-- A character that separates no groups and is no digit is in no address. -/
theorem notMem_of_v6? {s : List Char} {groups : List Nat} (h : v6? s = some groups) :
  c ∉ s
  := by
  rw [v6?] at h
  split at h
  · rename_i all hcut
    obtain ⟨hside, -⟩ := Option.filter_eq_some_iff.mp h
    apply notMem_of_cutGap hcolon
    · rw [hcut]
      apply notMem_of_side? hdigit hdot hcolon hside
    · rw [hcut]
      nofun
  · rename_i before after hcut
    split at h
    · rename_i first last hfirst hlast
      apply notMem_of_cutGap hcolon
      · rw [hcut]
        apply notMem_of_side? hdigit hdot hcolon hfirst
      · rw [hcut]
        rintro _ ⟨⟩
        apply notMem_of_side? hdigit hdot hcolon hlast
    · cases h

end

/-- The groups in hexadecimal with colons between them. -/
def writeGroups (groups : List Nat) : List Char :=
  Segments.join [':'] (groups.map Digits.hex)

theorem notMem_hex {n : Nat} {c : Char} (hc : Digits.value? c = none) :
  c ∉ Digits.hex n
  := notMem_of_read? hc (Digits.read?_hex n)

theorem writeGroups_cons {group : Nat} {groups : List Nat} (h : groups ≠ []) :
  writeGroups (group :: groups) = Digits.hex group ++ ':' :: writeGroups groups
  := by
  rw [writeGroups, List.map_cons, Segments.join_cons (by simpa using h), ← writeGroups]
  simp

theorem of_mem_writeGroups {groups : List Nat} {c : Char} (h : c ∈ writeGroups groups) :
  c = ':' ∨ (Digits.value? c).isSome
  := by
  obtain rfl | ⟨segment, hsegment, hc⟩ := Segments.of_mem_join h
  · left
    rfl
  · right
    obtain ⟨n, -, rfl⟩ := List.mem_map.mp hsegment
    apply Digits.isSome_value?_of_mem_hex hc

theorem exists_writeGroups_eq_cons {groups : List Nat} (h : groups ≠ []) :
  ∃ c rest, writeGroups groups = c :: rest ∧ c ≠ ':'
  := by
  obtain ⟨group, others, rfl⟩ := List.exists_cons_of_ne_nil h
  obtain ⟨c, rest, hhex⟩ := List.exists_cons_of_ne_nil (Digits.hex_ne_nil group)
  have hc : c ≠ ':' := by
    rintro rfl
    apply notMem_hex (n := group) (c := ':') rfl
    rw [hhex]
    apply List.mem_cons_self
  by_cases hothers : others = []
  · use c, rest
    rw [hothers, ← hhex]
    use rfl
  · use c, rest ++ ':' :: writeGroups others
    rw [writeGroups_cons hothers, hhex]
    use rfl

theorem group?_hex {group : Nat} (h : group < 65536) :
  group? (Digits.hex group) = some group
  := by
  have hlength : (Digits.hex group).length ≤ 4 :=
    (Nat.length_toDigits_le_iff (by decide) (by decide)).mpr h
  rw [group?, if_pos hlength, Digits.read?_hex]

theorem groups?_map_hex {groups : List Nat} (h : ∀ group ∈ groups, group < 65536) :
  groups? (groups.map Digits.hex) = some groups
  := by
  induction groups with
  | nil => rfl
  | cons group rest ih =>
      have hgroup := group?_hex (h group List.mem_cons_self)
      have hrest := ih fun next hnext => h next (List.mem_cons_of_mem group hnext)
      cases rest with
      | nil =>
          have hdot : '.' ∉ Digits.hex group := notMem_hex rfl
          simp [groups?, hgroup, hdot]
      | cons next others =>
          rw [List.map_cons] at hrest
          simp [groups?, hgroup, hrest]

/-- What is written on one side of a gap is read as itself. -/
theorem side?_writeGroups (mayEndInV4 : Bool) {groups : List Nat}
    (h : ∀ group ∈ groups, group < 65536) :
  side? mayEndInV4 (writeGroups groups) = some groups
  := by
  by_cases hgroups : groups = []
  · subst hgroups
    rfl
  · obtain ⟨c, rest, hwrite, -⟩ := exists_writeGroups_eq_cons hgroups
    have hempty : (writeGroups groups).isEmpty = false := by
      rw [hwrite]
      rfl
    have hdot : (writeGroups groups).contains '.' = false := by
      rw [List.contains_eq_mem, decide_eq_false_iff_not]
      intro hmem
      obtain hcolon | hsome := of_mem_writeGroups hmem
      · revert hcolon
        decide
      · cases hsome
    have hsplit : Segments.split (· == ':') (writeGroups groups) = groups.map Digits.hex := by
      apply Segments.split_join (by decide) (by simpa using hgroups)
      intro segment hsegment d hd
      obtain ⟨n, -, rfl⟩ := List.mem_map.mp hsegment
      rw [beq_eq_false_iff_ne]
      rintro rfl
      apply notMem_hex (n := n) (c := ':') rfl hd
    rw [side?, hempty, hdot, Bool.and_false, hsplit]
    apply groups?_map_hex h

theorem cutGap_append {s : List Char} (h : ':' ∉ s) (rest : List Char) :
  cutGap (s ++ rest) = (s ++ (cutGap rest).1, (cutGap rest).2)
  := by
  induction s with
  | nil => rfl
  | cons c s ih =>
      obtain ⟨hc, hs⟩ : ':' ≠ c ∧ ':' ∉ s := by simpa using h
      rw [List.cons_append, cutGap, ih hs, List.cons_append]
      rintro next rfl
      apply absurd rfl hc

theorem cutGap_colon {c : Char} (h : c ≠ ':') (rest : List Char) :
  cutGap (':' :: c :: rest)
    = (':' :: (cutGap (c :: rest)).1, (cutGap (c :: rest)).2)
  := by
  rw [cutGap]
  rintro next - hnext
  apply h (List.cons.inj hnext).1

/-- There is no gap in the written groups, and none begins at their last colon. -/
theorem cutGap_writeGroups (groups : List Nat) {rest : List Char} {after : Option (List Char)}
    (h : cutGap rest = ([], after)) :
  cutGap (writeGroups groups ++ rest) = (writeGroups groups, after)
  := by
  induction groups with
  | nil => apply h
  | cons group groups ih =>
      have hhex : ':' ∉ Digits.hex group := notMem_hex rfl
      by_cases hgroups : groups = []
      · subst hgroups
        change cutGap (Digits.hex group ++ rest) = (Digits.hex group, after)
        rw [cutGap_append hhex, h, List.append_nil]
      · obtain ⟨c, others, hwrite, hc⟩ := exists_writeGroups_eq_cons hgroups
        rw [writeGroups_cons hgroups, List.append_assoc, List.cons_append,
          cutGap_append hhex, hwrite, List.cons_append, cutGap_colon hc, ← List.cons_append,
          ← hwrite, ih]

/-- The run that is left out has zeros only. -/
theorem length_longestZeros_le (groups : List Nat) :
  (longestZeros groups).2 ≤ zerosFrom groups (longestZeros groups).1
  := by
  rw [longestZeros]
  apply List.foldlRecOn
    (motive := fun best : Nat × Nat => best.2 ≤ zerosFrom groups best.1)
  · apply Nat.zero_le
  · intro best hbest i _
    split_ifs
    · apply Nat.le_refl
    · apply hbest

theorem take_drop_of_le_zerosFrom {groups : List Nat} {start length : Nat}
    (h : length ≤ zerosFrom groups start) :
  (groups.drop start).take length = List.replicate length 0
  := by
  apply List.eq_replicate_iff.mpr
  have hfront : (groups.drop start).take length
      = ((groups.drop start).takeWhile (· == 0)).take length := by
    have htake : (groups.drop start).takeWhile (· == 0) <+: groups.drop start :=
      List.takeWhile_prefix _
    symm
    apply (List.prefix_iff_eq_take.mp htake ▸ List.take_take ..).trans
    congr 1
    apply Nat.min_eq_left h
  rw [hfront]
  constructor
  · rw [List.length_take]
    apply Nat.min_eq_left h
  · intro group hgroup
    simpa using List.mem_takeWhile_imp (List.mem_of_mem_take hgroup)

theorem writeV6_eq (groups : List Nat) :
  writeV6 groups
    = if (longestZeros groups).2 < 2 then writeGroups groups
      else
        writeGroups (groups.take (longestZeros groups).1) ++ ':' :: ':'
          :: writeGroups (groups.drop ((longestZeros groups).1 + (longestZeros groups).2))
  := by
  rw [writeV6]
  simp [writeGroups]

/-- A written address is read as itself. -/
theorem v6?_writeV6 {groups : List Nat} (h : IsGroups groups) :
  v6? (writeV6 groups) = some groups
  := by
  obtain ⟨hlength, hgroups⟩ := h
  have hzeros := take_drop_of_le_zerosFrom (length_longestZeros_le groups)
  rw [writeV6_eq]
  generalize (longestZeros groups).1 = start at *
  generalize (longestZeros groups).2 = length at *
  split_ifs with hshort
  · have hcut := cutGap_writeGroups groups (rfl : cutGap [] = ([], none))
    rw [List.append_nil] at hcut
    rw [v6?, hcut]
    simp [side?_writeGroups true hgroups, hlength]
  · have hfirst : ∀ group ∈ groups.take start, group < 65536 :=
      fun group hgroup => hgroups group (List.mem_of_mem_take hgroup)
    have hlast : ∀ group ∈ groups.drop (start + length), group < 65536 :=
      fun group hgroup => hgroups group (List.mem_of_mem_drop hgroup)
    -- The run lies inside the address, so the lengths of the two sides tell its own.
    have hinside : start + length ≤ 8 := by
      have hlen := congrArg List.length hzeros
      simp only [List.length_take, List.length_drop, List.length_replicate, hlength] at hlen
      omega
    have hwhole : groups.take start ++ List.replicate length 0 ++ groups.drop (start + length)
        = groups := by
      rw [← hzeros, List.append_assoc, ← List.drop_drop, List.take_append_drop,
        List.take_append_drop]
    have hgapCut : cutGap (':' :: ':' :: writeGroups (groups.drop (start + length)))
        = ([], some (writeGroups (groups.drop (start + length)))) := rfl
    rw [v6?, cutGap_writeGroups _ hgapCut]
    simp only [side?_writeGroups false hfirst, side?_writeGroups true hlast]
    rw [if_pos]
    · have hgap : 8 - (groups.take start).length - (groups.drop (start + length)).length
          = length := by
        simp only [List.length_take, List.length_drop, hlength]
        omega
      rw [hgap, hwhole]
    · simp only [List.length_take, List.length_drop, hlength]
      omega

/-- The characters of a written address are hexadecimal digits and colons. -/
theorem of_mem_writeV6 {groups : List Nat} {c : Char} (h : c ∈ writeV6 groups) :
  c = ':' ∨ (Digits.value? c).isSome
  := by
  rw [writeV6_eq] at h
  split_ifs at h
  · apply of_mem_writeGroups h
  · simp only [List.mem_append, List.mem_cons] at h
    obtain h | rfl | rfl | h := h
    · apply of_mem_writeGroups h
    · left
      rfl
    · left
      rfl
    · apply of_mem_writeGroups h

/-! ### The shortest form -/

/-- There are zero groups in as many places from a place on. -/
def HasZeros (groups : List Nat) (start length : Nat) : Prop :=
  (groups.drop start).take length = List.replicate length 0

/-- The text writes the groups in their shortest form: each in hexadecimal, with a gap for
the first of the longest runs of zero groups, unless no two zero groups stand together. -/
inductive IsShortest (groups : List Nat) : List Char → Prop where
  | whole (h : ∀ start, ¬HasZeros groups start 2) : IsShortest groups (writeGroups groups)
  | gap {start length : Nat} (hlength : 2 ≤ length) (hzeros : HasZeros groups start length)
      (hlongest : ∀ other, ¬HasZeros groups other (length + 1))
      (hfirst : ∀ other < start, ¬HasZeros groups other length) :
    IsShortest groups
      (writeGroups (groups.take start) ++ ':' :: ':' :: writeGroups (groups.drop (start + length)))

theorem hasZeros_iff {groups : List Nat} {start length : Nat} :
  HasZeros groups start length ↔ length ≤ zerosFrom groups start
  := by
  constructor
  · intro h
    have hsplit : groups.drop start
        = List.replicate length 0 ++ (groups.drop start).drop length := by
      rw [← h, List.take_append_drop]
    rw [zerosFrom, hsplit, List.takeWhile_append_of_pos (by simp), List.length_append,
      List.length_replicate]
    apply Nat.le_add_right
  · apply take_drop_of_le_zerosFrom

/-- Of all runs among the first places, the one that is kept is the first of the longest. -/
theorem foldl_longest (zeros : Nat → Nat) (n : Nat) :
  let best := (List.range n).foldl
    (fun best i => if zeros i > best.2 then (i, zeros i) else best) (0, 0)
  (∀ i < n, zeros i ≤ best.2) ∧ ∀ i < best.1, zeros i < best.2
  := by
  induction n with
  | zero => simp
  | succ n ih =>
      obtain ⟨hlongest, hfirst⟩ := ih
      rw [List.range_succ, List.foldl_append, List.foldl_cons, List.foldl_nil]
      split_ifs with hlonger
      · constructor
        · intro i hi
          obtain hi | rfl := Nat.lt_succ_iff_lt_or_eq.mp hi
          · apply Nat.le_of_lt (Nat.lt_of_le_of_lt (hlongest i hi) hlonger)
          · apply Nat.le_refl
        · intro i hi
          apply Nat.lt_of_le_of_lt (hlongest i hi) hlonger
      · constructor
        · intro i hi
          obtain hi | rfl := Nat.lt_succ_iff_lt_or_eq.mp hi
          · apply hlongest i hi
          · apply Nat.le_of_not_lt hlonger
        · apply hfirst

/-- No run of zero groups is longer than the one that is left out. -/
theorem zerosFrom_le_longestZeros (groups : List Nat) (i : Nat) :
  zerosFrom groups i ≤ (longestZeros groups).2
  := by
  by_cases hi : i < groups.length
  · apply (foldl_longest (zerosFrom groups) groups.length).1 i hi
  · rw [zerosFrom, List.drop_eq_nil_of_le (Nat.le_of_not_lt hi)]
    apply Nat.zero_le

/-- No run of zero groups before the one that is left out is as long. -/
theorem zerosFrom_lt_longestZeros {groups : List Nat} {i : Nat}
    (h : i < (longestZeros groups).1) :
  zerosFrom groups i < (longestZeros groups).2
  := (foldl_longest (zerosFrom groups) groups.length).2 i h

/-- The first of the longest runs of zero groups is the one that is left out. -/
theorem longestZeros_eq {groups : List Nat} {start length : Nat}
    (hzeros : HasZeros groups start length)
    (hlongest : ∀ other, ¬HasZeros groups other (length + 1))
    (hfirst : ∀ other < start, ¬HasZeros groups other length) :
  longestZeros groups = (start, length)
  := by
  -- Neither of the two runs is longer than the other, and neither stands before it.
  simp only [hasZeros_iff] at hzeros hlongest hfirst
  have hle := length_longestZeros_le groups
  have hlength : (longestZeros groups).2 = length := by
    have hnot := hlongest (longestZeros groups).1
    have hmax := zerosFrom_le_longestZeros groups start
    omega
  have hstart : (longestZeros groups).1 = start := by
    obtain hlt | heq | hgt := Nat.lt_trichotomy (longestZeros groups).1 start
    · have hnot := hfirst _ hlt
      omega
    · apply heq
    · have hless := zerosFrom_lt_longestZeros hgt
      omega
  rw [← hstart, ← hlength]

/-- An address is written in its shortest form, and there is no other such form. -/
theorem isShortest_iff {groups : List Nat} {s : List Char} :
  IsShortest groups s ↔ s = writeV6 groups
  := by
  constructor
  · intro h
    rw [writeV6_eq]
    cases h with
    | whole h =>
        have hshort : (longestZeros groups).2 < 2 := by
          have hnot := h (longestZeros groups).1
          rw [hasZeros_iff] at hnot
          have hle := length_longestZeros_le groups
          omega
        rw [if_pos hshort]
    | gap hlength hzeros hlongest hfirst =>
        rw [longestZeros_eq hzeros hlongest hfirst, if_neg (by omega)]
  · rintro rfl
    rw [writeV6_eq]
    split_ifs with hshort
    · apply IsShortest.whole
      intro start
      rw [hasZeros_iff]
      have hmax := zerosFrom_le_longestZeros groups start
      omega
    · apply IsShortest.gap (by omega)
      · rw [hasZeros_iff]
        apply length_longestZeros_le
      · intro other
        rw [hasZeros_iff]
        have hmax := zerosFrom_le_longestZeros groups other
        omega
      · intro other hother
        rw [hasZeros_iff]
        apply Nat.not_le_of_lt (zerosFrom_lt_longestZeros hother)

end Provision.Url.Address
