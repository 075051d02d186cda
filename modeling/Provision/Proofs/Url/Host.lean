import Mathlib
import Provision.Proofs.Url.Address
import Provision.Proofs.Url.DomainNames
import Provision.Proofs.Url.Percent
import Provision.Url.Parser

/-!
# Hosts in their written form

A host that is read from some text is read again from its own text. That text holds no
character at which a URL is cut, so in a URL it reaches the reader of hosts as a whole.
-/

namespace Provision.Url.Host

/-! ### Texts that stand in the place of a host -/

/-- The text stands in the place of a host as a whole: no character of it ends the
authority or the credentials, no colon in it leads a port, and it is no drive. -/
structure IsPlace (s : List Char) : Prop where
  ne_nil : s ≠ []
  lt_toNat : ∀ c ∈ s, 0x20 < c.toNat
  notMem : ∀ c ∈ s, c ∉ ['/', '\\', '?', '#', '@']
  hostText_append : ∀ rest, hostText false (s ++ rest) = s ++ hostText false rest
  isDrive_eq : Path.isDrive s = false

/-- What holds of no reserved character holds of each by inspection. -/
theorem notMem_reserved {p : Char → Bool} {c : Char} (hc : p c = true)
    (h : reserved.all (fun r => !p r) = true) :
  c ∉ reserved
  := by
  intro hmem
  have hnot := List.all_eq_true.mp h c hmem
  rw [hc] at hnot
  cases hnot

theorem isForbiddenInDomain_eq_false_iff (c : Char) :
  isForbiddenInDomain c = false
    ↔ 0x20 ≤ c.toNat ∧ c.toNat < 0x7F ∧ c ≠ '%' ∧ c ∉ reserved
  := by
  simp [isForbiddenInDomain, and_assoc]

theorem isForbiddenInDomain_of_isDigit {c : Char} (h : c.isDigit = true) :
  isForbiddenInDomain c = false
  := by
  obtain ⟨hle, hge⟩ := (Digits.isDigit_iff c).mp h
  rw [isForbiddenInDomain_eq_false_iff]
  use by omega, by omega
  constructor
  · rintro rfl
    cases h
  · apply notMem_reserved h
    decide

theorem isPlace_of_forall {s : List Char} (hne : s ≠ [])
    (h : ∀ c ∈ s, 0x20 ≤ c.toNat ∧ c ∉ reserved) :
  IsPlace s
  := by
  constructor
  · apply hne
  · intro c hc
    obtain ⟨hle, hreserved⟩ := h c hc
    apply Nat.lt_of_le_of_ne hle
    intro heq
    apply hreserved
    have hspace : c = ' ' := by
      rw [← Char.ofNat_toNat c, ← heq]
    rw [hspace]
    decide
  · intro c hc hmem
    apply (h c hc).2
    revert hmem
    simp only [reserved, List.mem_cons, List.not_mem_nil, or_false]
    tauto
  · intro rest
    induction s with
    | nil => rfl
    | cons c s ih =>
        have hc := (h c List.mem_cons_self).2
        simp only [reserved, List.mem_cons, List.not_mem_nil, or_false, not_or] at hc
        have hs : hostText false (s ++ rest) = s ++ hostText false rest := by
          by_cases hs : s = []
          · rw [hs, List.nil_append, List.nil_append]
          · apply ih hs fun d hd => h d (List.mem_cons_of_mem c hd)
        simp [hostText, hc, hs]
  · unfold Path.isDrive
    split
    · rename_i letter mark
      have hmark := (h mark (by simp)).2
      simp only [reserved, List.mem_cons, List.not_mem_nil, or_false, not_or] at hmark
      simp [hmark]
    · rfl

theorem isPlace_of_domain {s : List Char} (hne : s ≠ [])
    (h : ∀ c ∈ s, isForbiddenInDomain c = false) :
  IsPlace s
  := by
  apply isPlace_of_forall hne
  intro c hc
  obtain ⟨hle, -, -, hreserved⟩ := (isForbiddenInDomain_eq_false_iff c).mp (h c hc)
  use hle

theorem hostText_true_append {s : List Char} (h : ']' ∉ s) (rest : List Char) :
  hostText true (s ++ ']' :: rest) = s ++ ']' :: hostText false rest
  := by
  induction s with
  | nil => simp [hostText]
  | cons c s ih =>
      obtain ⟨hc, hs⟩ : ']' ≠ c ∧ ']' ∉ s := by simpa using h
      simp [hostText, hc.symm, ih hs]

/-- What is said of colons and of hexadecimal digits is said of a written address. -/
theorem forall_mem_writeV6 {p : Char → Prop} (hcolon : p ':')
    (hvalue : ∀ c, (Digits.value? c).isSome → p c) (groups : List Nat) :
  ∀ c ∈ Address.writeV6 groups, p c
  := by
  intro c hc
  obtain rfl | hsome := Address.of_mem_writeV6 hc
  · apply hcolon
  · apply hvalue c hsome

theorem lt_toNat_of_value? {c : Char} (h : (Digits.value? c).isSome) :
  0x20 < c.toNat
  := by
  by_contra hle
  have hnone : Digits.value? c = none := by
    have hnot : ∀ low high : Char, 0x20 < low.toNat → ¬(low ≤ c ∧ c ≤ high) := by
      rintro low high hlow ⟨hge, -⟩
      apply hle
      apply Nat.lt_of_lt_of_le hlow (UInt32.le_iff_toNat_le.mp hge)
    rw [Digits.value?, if_neg (hnot _ _ (by decide)), if_neg (hnot _ _ (by decide)),
      if_neg (hnot _ _ (by decide))]
  rw [hnone] at h
  cases h

theorem isPlace_v6 (groups : List Nat) :
  IsPlace (Host.v6 groups).text
  := by
  have hbracket : ']' ∉ Address.writeV6 groups := by
    intro hmem
    obtain h | h := Address.of_mem_writeV6 hmem
    · revert h
      decide
    · cases h
  constructor
  · simp [text]
  · intro c hc
    simp only [text, List.mem_cons, List.mem_append, List.not_mem_nil, or_false] at hc
    obtain rfl | hc | rfl := hc
    · decide
    · apply forall_mem_writeV6 (by decide) (fun c => lt_toNat_of_value?) groups c hc
    · decide
  · intro c hc hmem
    simp only [text, List.mem_cons, List.mem_append, List.not_mem_nil, or_false] at hc hmem
    obtain rfl | hc | rfl := hc
    · revert hmem
      decide
    · obtain rfl | hsome := Address.of_mem_writeV6 hc
      · revert hmem
        decide
      · obtain rfl | rfl | rfl | rfl | rfl := hmem
        all_goals cases hsome
    · revert hmem
      decide
  · intro rest
    have hinner := hostText_true_append hbracket rest
    simp [text, hostText, hinner]
  · unfold Path.isDrive
    split
    · rename_i letter mark heq
      obtain ⟨rfl, -⟩ := List.cons.inj heq
      rfl
    · rfl

/-! ### Hosts -/

variable {kind : SchemeKind} {s : List Char} {host : Host}

theorem head?_ne_of_notMem_reserved (h : ∀ c ∈ s, c ∉ reserved) :
  s.head? ≠ some '['
  := by
  intro hhead
  apply h '[' (List.mem_of_mem_head? hhead)
  decide

/-- An address in brackets has eight groups. -/
theorem exists_groups_of_bracketed (h : bracketed s = .ok host) :
  ∃ groups, host = .v6 groups ∧ Address.IsGroups groups
  := by
  rw [bracketed] at h
  split_ifs at h
  split at h
  · rename_i groups hgroups
    use groups, (Except.ok.inj h).symm
    apply Address.isGroups_of_v6? hgroups
  · cases h

variable [DomainNames]

/-- The host that a name is read as in a scheme of a kind. -/
def read (kind : SchemeKind) (name : List Char) : Except Fault Host :=
  if kind.isSpecial then ofDomain name else ofPlain name

/-- The host is the one that its own text is read as. -/
structure IsNormal (kind : SchemeKind) (host : Host) : Prop where
  read_text : read kind host.text = .ok host
  isPlace : IsPlace host.text

theorem isNormal_v6 {groups : List Nat} (h : Address.IsGroups groups) :
  (Host.v6 groups).IsNormal kind
  := by
  have hread : bracketed (Host.v6 groups).text = .ok (.v6 groups) := by
    have hlast : (Host.v6 groups).text.getLast? = some ']' := by
      rw [text, ← List.cons_append, List.getLast?_concat]
    rw [bracketed, if_pos hlast]
    simp [text, Address.v6?_writeV6 h]
  constructor
  · have hhead : (Host.v6 groups).text.head? = some '[' := rfl
    rw [read, ofDomain, ofPlain, if_pos hhead, if_pos hhead, hread, ite_self]
  · apply isPlace_v6

/-- A name that is its own form in ASCII comes to the choice between a name and an address as it
stands. -/
theorem ofDomain_of_toAscii? (hne : s ≠ []) (h : ∀ c ∈ s, isForbiddenInDomain c = false)
    (hascii : DomainNames.toAscii? s = some s) :
  ofDomain s
    = if Address.endsInNumber s then
        match Address.v4? s with
        | some address => .ok (.v4 address)
        | none => .error .invalidIpv4
      else .ok (.name s)
  := by
  have hhead : s.head? ≠ some '[' := head?_ne_of_notMem_reserved fun c hc =>
    ((isForbiddenInDomain_eq_false_iff c).mp (h c hc)).2.2.2
  have hpercent : '%' ∉ s := by
    intro hmem
    apply ((isForbiddenInDomain_eq_false_iff '%').mp (h '%' hmem)).2.2.1 rfl
  cases hv4 : Address.v4? s <;>
    simp [ofDomain, hhead, Percent.decode_of_notMem hpercent, hascii, hne, hv4]

/-- An address has only digits and dots, so it is its own form in ASCII. -/
theorem toAscii?_writeV4 [LawfulDomainNames] (address : Nat) :
  (∀ c ∈ Address.writeV4 address, isForbiddenInDomain c = false)
    ∧ DomainNames.toAscii? (Address.writeV4 address) = some (Address.writeV4 address)
  := by
  have hallowed : ∀ c ∈ Address.writeV4 address, isForbiddenInDomain c = false := by
    intro c hc
    obtain rfl | hdigit := Address.of_mem_writeV4 hc
    · decide
    · apply isForbiddenInDomain_of_isDigit hdigit
  obtain ⟨hplain, hlower⟩ := DomainNames.isPlain_of_isDigit fun c => Address.of_mem_writeV4
  use hallowed
  rw [LawfulDomainNames.toAscii?_of_isPlain hplain, hlower, if_neg]
  simpa using hallowed

theorem isNormal_v4 [LawfulDomainNames] (hspecial : kind.isSpecial = true) {address : Nat}
    (h : address < 256 ^ 4) :
  (Host.v4 address).IsNormal kind
  := by
  have hne := Address.writeV4_ne_nil address
  obtain ⟨hallowed, hascii⟩ := toAscii?_writeV4 address
  constructor
  · rw [read, if_pos hspecial, text, ofDomain_of_toAscii? hne hallowed hascii,
      Address.endsInNumber_writeV4, Address.v4?_writeV4 h]
    rfl
  · apply isPlace_of_domain hne hallowed

/-- The host of a special scheme is read again from its own text. -/
theorem isNormal_of_ofDomain [LawfulDomainNames] (hspecial : kind.isSpecial = true)
    (h : ofDomain s = .ok host) :
  host.IsNormal kind
  := by
  rw [ofDomain] at h
  split_ifs at h with hbracket
  · obtain ⟨groups, rfl, hgroups⟩ := exists_groups_of_bracketed h
    apply isNormal_v6 hgroups
  · split at h
    · cases h
    · rename_i name hname
      split_ifs at h with hempty hnumber
      · split at h
        · rename_i address haddress
          obtain rfl := Except.ok.inj h
          apply isNormal_v4 hspecial (Address.lt_of_v4? haddress)
        · cases h
      · obtain rfl := Except.ok.inj h
        have hne : name ≠ [] := by simpa using hempty
        have hallowed := LawfulDomainNames.isForbiddenInDomain_eq_false hname
        have hascii := LawfulDomainNames.toAscii?_ascii hname
        constructor
        · rw [read, if_pos hspecial, text, ofDomain_of_toAscii? hne hallowed hascii, if_neg hnumber]
        · apply isPlace_of_domain hne hallowed

/-- The host of any other scheme is read again from its own text. -/
theorem isNormal_of_ofPlain (hspecial : kind.isSpecial = false) (hne : s ≠ [])
    (h : ofPlain s = .ok host) :
  host.IsNormal kind
  := by
  rw [ofPlain] at h
  split_ifs at h with hbracket hany
  · obtain ⟨groups, rfl, hgroups⟩ := exists_groups_of_bracketed h
    apply isNormal_v6 hgroups
  · obtain rfl := Except.ok.inj h
    have hescapes : ∀ c ∈ Percent.escapeChars, isForbidden c = false :=
      Percent.forall_mem_escapeChars (by decide)
    have hallowed : ∀ c ∈ Percent.encode Percent.controls s, isForbidden c = false := by
      intro c hc
      obtain hescape | ⟨hmem, -⟩ := Percent.of_mem_encode Percent.controls_isStable hc
      · apply hescapes c hescape
      · simpa using List.any_eq_false.mp (by simpa using hany) c hmem
    have hreserved : ∀ c ∈ Percent.encode Percent.controls s, c ∉ reserved := by
      intro c hc
      have hnot := hallowed c hc
      rw [isForbidden, Bool.or_eq_false_iff] at hnot
      simpa using hnot.2
    constructor
    · rw [read, if_neg (by simp [hspecial]), text, ofPlain,
        if_neg (head?_ne_of_notMem_reserved hreserved), Percent.encode_encode
        Percent.controls_isStable, if_neg]
      simpa using hallowed
    · apply isPlace_of_forall (Percent.encode_ne_nil hne)
      intro c hc
      obtain ⟨hlt, hplain⟩ := Percent.isPlain_encode Percent.controls_isStable s c hc
      use Percent.le_toNat_of_controls hlt hplain, hreserved c hc

/-- The host of any scheme is read again from its own text. -/
theorem isNormal_of_read [LawfulDomainNames] (hne : s ≠ []) (h : read kind s = .ok host) :
  host.IsNormal kind
  := by
  rw [read] at h
  split_ifs at h with hspecial
  · apply isNormal_of_ofDomain hspecial h
  · apply isNormal_of_ofPlain (by simpa using hspecial) hne h

/-! ### The sign that ends the credentials -/

/-- No host of a special scheme has the sign that ends the credentials. -/
theorem exists_ofDomain_eq_error [LawfulDomainNames] (h : '@' ∈ s) :
  ∃ fault, ofDomain s = .error fault
  := by
  rw [ofDomain]
  split_ifs with hbracket
  · rw [bracketed]
    split_ifs with hclosed
    · cases hread : Address.v6? (s.drop 1).dropLast with
      | none => use .invalidIpv6
      | some groups =>
          exfalso
          obtain ⟨front, rfl⟩ := List.getLast?_eq_some_iff.mp hclosed
          cases front with
          | nil => simp at h
          | cons first inner =>
              obtain rfl := Option.some.inj hbracket
              have hinner : ((('[' :: inner) ++ [']']).drop 1).dropLast = inner := by simp
              rw [hinner] at hread
              have hat : '@' ∈ inner := by simpa using h
              apply Address.notMem_of_v6? rfl (by decide) (by decide) hread hat
    · use .invalidIpv6
  · have hdecode : '@' ∈ Percent.decode Percent.pair? s :=
      Percent.mem_decode (by decide) (by decide) rfl h
    rw [LawfulDomainNames.toAscii?_of_mem hdecode]
    use .invalidInternationalName

end Provision.Url.Host
