import Mathlib
import Provision.Proofs.Url.Host

/-!
# Authorities that read as themselves

A host with a port after it is read as that host and that port, and credentials in front of
the host do not change what is read as the host. Conversely what is read as an authority is
in normal form: its host is read again from its own text and its port is not the one that
the scheme has anyway.
-/

namespace Provision.Url

/-! ### Ports -/

variable {scheme : List Char} {host : Option Host} {port : Option Nat}

/-- The port fits its range and is not the one that the scheme has anyway. -/
def IsPort (scheme : List Char) (port : Nat) : Prop :=
  port < 65536 ∧ some port ≠ Scheme.defaultPort? scheme

/-- The port as it is written after a host. -/
def portText (port : Option Nat) : List Char :=
  port.elim [] (':' :: Digits.decimal ·)

theorem portOf_decimal {port : Nat} (h : port < 65536) :
  portOf (Digits.decimal port) = .ok (some port, [])
  := by
  have hdigits : ∀ c ∈ Digits.decimal port, c.isDigit = true :=
    fun c => Digits.isDigit_of_mem_decimal
  have htake : (Digits.decimal port).takeWhile Char.isDigit = Digits.decimal port :=
    List.takeWhile_eq_self_iff.mpr hdigits
  have hdrop : (Digits.decimal port).dropWhile Char.isDigit = [] :=
    List.dropWhile_eq_nil_iff.mpr hdigits
  rw [portOf, htake, hdrop, Digits.read?_decimal]
  simp [h]

theorem lt_of_portOf {s rest : List Char} {port : Nat} (h : portOf s = .ok (some port, rest)) :
  port < 65536
  := by
  simp only [portOf] at h
  split_ifs at h with hlarge
  have hsome : Digits.read? 10 (s.takeWhile Char.isDigit) = some port := by
    split at h
    · apply (Prod.mk.inj (Except.ok.inj h)).1
    · split_ifs at h
      apply (Prod.mk.inj (Except.ok.inj h)).1
  rw [hsome] at hlarge
  simpa using hlarge

/-- The port that may follow a host, and what follows it. -/
def portAfter (scheme : List Char) (host : Option Host) :
    List Char → Except Fault (Option Host × Option Nat × List Char)
  | ':' :: afterColon =>
    (portOf afterColon).map fun found =>
      (host, found.1.filter (some · ≠ Scheme.defaultPort? scheme), found.2)
  | rest => .ok (host, none, rest)

theorem hostText_portText (port : Option Nat) :
  hostText false (portText port) = []
  := by
  cases port <;> rfl

theorem portAfter_portText (h : ∀ p, port = some p → IsPort scheme p) :
  portAfter scheme host (portText port) = .ok (host, port, [])
  := by
  cases port with
  | none => rfl
  | some port =>
      obtain ⟨hlt, hdefault⟩ := h port rfl
      rw [portText, Option.elim_some, portAfter, portOf_decimal hlt, Except.map]
      simp [hdefault]

theorem isPort_of_portAfter {rest after : List Char} {found : Option Host}
    (h : portAfter scheme found rest = .ok (host, port, after)) :
  host = found ∧ ∀ p, port = some p → IsPort scheme p
  := by
  unfold portAfter at h
  split at h
  · rename_i afterColon
    cases hread : portOf afterColon with
    | error fault =>
        rw [hread] at h
        cases h
    | ok result =>
        obtain ⟨found, rest⟩ := result
        rw [hread] at h
        obtain ⟨rfl, hport, -⟩ := by simpa [Except.map] using h
        use rfl
        rintro p rfl
        obtain ⟨hsome, hdefault⟩ := Option.filter_eq_some_iff.mp hport
        constructor
        · apply lt_of_portOf (s := afterColon)
          rw [hread, ← hsome]
        · simpa using hdefault
  · obtain ⟨rfl, rfl, -⟩ := by simpa using h
    use rfl
    rintro p hp
    cases hp

theorem of_mem_portText {c : Char} (h : c ∈ portText port) :
  c = ':' ∨ c.isDigit = true
  := by
  cases port with
  | none => cases h
  | some port =>
      obtain rfl | hc := List.mem_cons.mp h
      · left
        rfl
      · right
        apply Digits.isDigit_of_mem_decimal hc

/-! ### What stands around a host -/

/-- A character at which the authority ends. -/
def endsAuthority (kind : SchemeKind) (c : Char) : Bool :=
  isSlash kind c || startsQuery c

/-- What follows an authority begins with what ends it. -/
theorem endsAuthority_of_head? {kind : SchemeKind} {s : List Char} {c : Char}
    (h : (s.dropWhile (!endsAuthority kind ·)).head? = some c) :
  endsAuthority kind c = true
  := by
  have hhead := List.head?_dropWhile_not (!endsAuthority kind ·) s
  rw [h] at hhead
  simpa using hhead

theorem endsAuthority_of_notMem {kind : SchemeKind} {c : Char}
    (h : c ∉ ['/', '\\', '?', '#', '@']) :
  endsAuthority kind c = false
  := by
  simp only [List.mem_cons, List.not_mem_nil, or_false, not_or] at h
  simp [endsAuthority, isSlash, startsQuery, h]

/-- The credentials in front of a host, with the sign that ends them. -/
def userinfoText (userinfo : Option (List Char)) : List Char :=
  userinfo.elim [] (· ++ ['@'])

theorem cutLast_userinfoText {place : List Char} (h : '@' ∉ place)
    (userinfo : Option (List Char)) :
  cutLast '@' (userinfoText userinfo ++ place) = (userinfo, place)
  := by
  cases userinfo with
  | none => simp [cutLast, userinfoText, h]
  | some userinfo =>
      have hafter : (userinfo ++ '@' :: place).reverse.takeWhile (· != '@')
          = place.reverse := by
        rw [List.reverse_append, List.reverse_cons, List.append_assoc]
        apply Segments.takeWhile_append_of_head?
        · intro c hc
          rw [bne_iff_ne]
          rintro rfl
          apply h (List.mem_reverse.mp hc)
        · rintro c hc
          obtain rfl := Option.some.inj hc
          rfl
      have hbefore : (userinfo ++ '@' :: place).length - place.length - 1 = userinfo.length := by
        simp only [List.length_append, List.length_cons]
        omega
      rw [userinfoText, Option.elim_some, List.append_assoc, List.singleton_append, cutLast,
        if_pos (by simp), hafter, List.reverse_reverse]
      simp only [hbefore, List.take_left]

/-! ### Hosts and ports -/

variable [DomainNames]

/-- The reading of a host and a port, in the order in which it may fail. -/
theorem hostAndPort_eq (scheme s : List Char) :
  hostAndPort scheme s
    = if (hostText false s).isEmpty
          ∧ ((Scheme.kind scheme).isSpecial ∨ s.drop (hostText false s).length ≠ []) then
        .error .emptyHost
      else
        (Host.read (Scheme.kind scheme) (hostText false s)).bind fun host =>
          portAfter scheme (if (hostText false s).isEmpty then none else some host)
            (s.drop (hostText false s).length)
  := by
  have hport : ∀ host rest,
      portAfter scheme host rest
        = match rest with
          | ':' :: afterColon => do
            let found ← portOf afterColon
            pure (host, found.1.filter (some · ≠ Scheme.defaultPort? scheme), found.2)
          | _ => pure (host, none, rest) := by
    intro host rest
    unfold portAfter
    split
    · cases portOf _ <;> rfl
    · rfl
  unfold hostAndPort Host.read
  simp only [hport]
  by_cases hnone : (hostText false s).isEmpty
      ∧ ((Scheme.kind scheme).isSpecial ∨ s.drop (hostText false s).length ≠ [])
  · rw [if_pos hnone, if_pos hnone]
    rfl
  · rw [if_neg hnone, if_neg hnone]
    split_ifs
    · cases Host.ofDomain (hostText false s) <;> rfl
    · cases Host.ofDomain (hostText false s) <;> rfl
    · cases Host.ofPlain (hostText false s) <;> rfl
    · cases Host.ofPlain (hostText false s) <;> rfl

/-- The host and the port that are read in front of a text, in normal form. -/
structure IsHostAndPort (scheme : List Char) (host : Option Host) (port : Option Nat) :
    Prop where
  isNormal : ∀ h, host = some h → h.IsNormal (Scheme.kind scheme)
  isPort : ∀ p, port = some p → IsPort scheme p
  of_none : host = none → (Scheme.kind scheme).isSpecial = false ∧ port = none

/-- The text of a host and a port. -/
def placeText (host : Option Host) (port : Option Nat) : List Char :=
  host.elim [] Host.text ++ portText port

/-- A host with a port after it is read as both of them. -/
theorem hostAndPort_placeText (h : IsHostAndPort scheme host port) :
  hostAndPort scheme (placeText host port) = .ok (host, port, [])
  := by
  cases host with
  | none =>
      obtain ⟨hkind, rfl⟩ := h.of_none rfl
      rw [hostAndPort_eq]
      simp [placeText, portText, hostText, Host.read, hkind, Host.ofPlain, portAfter]
      rfl
  | some host =>
      obtain ⟨hread, hplace⟩ := h.isNormal host rfl
      have hname : hostText false (placeText (some host) port) = host.text := by
        rw [placeText, Option.elim_some, hplace.hostText_append, hostText_portText,
          List.append_nil]
      have hrest : (placeText (some host) port).drop host.text.length = portText port := by
        rw [placeText, Option.elim_some, List.drop_left]
      have hempty : host.text.isEmpty = false := by
        simpa using hplace.ne_nil
      rw [hostAndPort_eq, hname, hrest, hempty, hread]
      apply portAfter_portText h.isPort

/-- What is read as a host and a port is in normal form. -/
theorem isHostAndPort_of_hostAndPort [LawfulDomainNames] {s rest : List Char}
    (h : hostAndPort scheme s = .ok (host, port, rest)) :
  IsHostAndPort scheme host port
  := by
  rw [hostAndPort_eq] at h
  generalize hname : hostText false s = name at h
  split_ifs at h with hnone hempty
  · cases hread : Host.read (Scheme.kind scheme) name with
    | error fault =>
        rw [hread] at h
        cases h
    | ok found =>
        rw [hread] at h
        obtain ⟨rfl, hport⟩ := isPort_of_portAfter h
        -- Nothing follows a name that is empty, and so no port does.
        have hrest : s.drop name.length = [] := by
          by_contra hrest
          apply hnone
          use hempty
          right
          apply hrest
        rw [hrest] at h
        obtain ⟨rfl, -⟩ : none = port ∧ [] = rest := by
          simpa [Except.bind, portAfter] using h
        constructor
        · rintro _ hfound
          cases hfound
        · apply hport
        · intro _
          constructor
          · rw [← Bool.not_eq_true]
            intro hspecial
            apply hnone
            use hempty
            left
            apply hspecial
          · rfl
  · cases hread : Host.read (Scheme.kind scheme) name with
    | error fault =>
        rw [hread] at h
        cases h
    | ok found =>
        rw [hread] at h
        obtain ⟨rfl, hport⟩ := isPort_of_portAfter h
        constructor
        · intro host hfound
          obtain rfl := Option.some.inj hfound
          apply Host.isNormal_of_read (by simpa using hempty) hread
        · apply hport
        · rintro hnone
          cases hnone

/-! ### Authorities -/

/-- The authority of credentials and of a place in front of a text. -/
def authorityIn (scheme : List Char) (userinfo : Option (List Char)) (place rest : List Char) :
    Except Fault (Authority × List Char) :=
  if userinfo = some [] ∧ place = [] ∧ rest ≠ [] then .error .emptyHost
  else
    (hostAndPort scheme place).bind fun found =>
      let credentials := credentials (userinfo.getD [])
      if found.1 = none ∧ (credentials.1 ≠ [] ∨ credentials.2 ≠ none) then .error .emptyHost
      else
        .ok
          ({ username := credentials.1, password := credentials.2, host := found.1,
              port := found.2.1 },
            found.2.2 ++ rest)

/-- The reading of an authority, in the order in which it may fail. -/
theorem authorityOf_eq (scheme s : List Char) :
  authorityOf scheme s
    = authorityIn scheme
        (cutLast '@' (s.takeWhile (!endsAuthority (Scheme.kind scheme) ·))).1
        (cutLast '@' (s.takeWhile (!endsAuthority (Scheme.kind scheme) ·))).2
        (s.dropWhile (!endsAuthority (Scheme.kind scheme) ·))
  := by
  unfold authorityOf
  simp only [endsAuthority]
  generalize s.takeWhile (fun c => !(isSlash (Scheme.kind scheme) c || startsQuery c)) = own
  generalize s.dropWhile (fun c => !(isSlash (Scheme.kind scheme) c || startsQuery c)) = rest
  obtain ⟨userinfo, place⟩ := cutLast '@' own
  rw [authorityIn]
  by_cases hempty : userinfo = some [] ∧ place = [] ∧ rest ≠ []
  · rw [if_pos hempty, if_pos hempty]
    rfl
  · rw [if_neg hempty, if_neg hempty]
    cases hostAndPort scheme place with
    | error fault => rfl
    | ok found =>
        simp only [bind, Except.bind]
        split_ifs
        · rfl
        · rfl

/-- The credentials, the place and what follows them are found in a text that consists of
them. -/
theorem authorityOf_append (userinfo : Option (List Char)) {place rest : List Char}
    (huserinfo : ∀ s, userinfo = some s → ∀ c ∈ s, endsAuthority (Scheme.kind scheme) c = false)
    (hplace : ∀ c ∈ place, endsAuthority (Scheme.kind scheme) c = false) (hat : '@' ∉ place)
    (hrest : ∀ c, rest.head? = some c → endsAuthority (Scheme.kind scheme) c = true) :
  authorityOf scheme (userinfoText userinfo ++ place ++ rest)
    = authorityIn scheme userinfo place rest
  := by
  have hown : ∀ c ∈ userinfoText userinfo ++ place,
      (!endsAuthority (Scheme.kind scheme) c) = true := by
    intro c hc
    rw [Bool.not_eq_true']
    obtain hc | hc := List.mem_append.mp hc
    · cases userinfo with
      | none => cases hc
      | some s =>
          obtain hc | hc := List.mem_append.mp hc
          · apply huserinfo s rfl c hc
          · obtain rfl := List.mem_singleton.mp hc
            cases Scheme.kind scheme <;> rfl
    · apply hplace c hc
  have hend : ∀ c, rest.head? = some c → (!endsAuthority (Scheme.kind scheme) c) = false := by
    intro c hc
    rw [hrest c hc]
    rfl
  rw [authorityOf_eq, Segments.takeWhile_append_of_head? hown hend,
    Segments.dropWhile_append_of_head? hown hend, cutLast_userinfoText hat]

/-- No character of a host and a port is a blank or ends the authority or its credentials. -/
theorem of_mem_placeText (h : IsHostAndPort scheme host port) {c : Char}
    (hc : c ∈ placeText host port) :
  0x20 < c.toNat ∧ c ∉ ['/', '\\', '?', '#', '@']
  := by
  obtain hc | hc := List.mem_append.mp hc
  · cases host with
    | none => cases hc
    | some host =>
        have hplace := (h.isNormal host rfl).isPlace
        use hplace.lt_toNat c hc
        apply hplace.notMem c hc
  · obtain rfl | hdigit := of_mem_portText hc
    · decide
    · obtain ⟨hle, hge⟩ := (Digits.isDigit_iff c).mp hdigit
      use by omega
      intro hmem
      simp only [List.mem_cons, List.not_mem_nil, or_false] at hmem
      obtain rfl | rfl | rfl | rfl | rfl := hmem
      all_goals cases hdigit

/-- A host with a port is read as an authority without credentials. -/
theorem authorityOf_placeText (h : IsHostAndPort scheme host port) {rest : List Char}
    (hrest : ∀ c, rest.head? = some c → endsAuthority (Scheme.kind scheme) c = true) :
  authorityOf scheme (placeText host port ++ rest)
    = .ok ({ username := [], password := none, host, port }, rest)
  := by
  have hplace : ∀ c ∈ placeText host port, endsAuthority (Scheme.kind scheme) c = false :=
    fun c hc => endsAuthority_of_notMem (of_mem_placeText h hc).2
  have hat : '@' ∉ placeText host port := by
    intro hmem
    apply (of_mem_placeText h hmem).2
    simp
  have happend := authorityOf_append none (by simp) hplace hat hrest
  rw [userinfoText, Option.elim_none, List.nil_append] at happend
  rw [happend, authorityIn, if_neg (by simp), hostAndPort_placeText h]
  simp [Except.bind, credentials]

/-- What is read as an authority has the credentials in front of the place, and the host and
the port of the place. -/
theorem of_authorityIn {userinfo : Option (List Char)} {place rest after : List Char}
    {authority : Authority} (h : authorityIn scheme userinfo place rest = .ok (authority, after)) :
  (authority.username, authority.password) = credentials (userinfo.getD [])
    ∧ ∃ rest, hostAndPort scheme place = .ok (authority.host, authority.port, rest)
  := by
  rw [authorityIn] at h
  split_ifs at h
  cases hplace : hostAndPort scheme place with
  | error fault =>
      rw [hplace] at h
      cases h
  | ok found =>
      rw [hplace] at h
      simp only [Except.bind] at h
      split_ifs at h
      obtain ⟨rfl, -⟩ := Prod.mk.inj (Except.ok.inj h)
      use rfl, found.2.2

/-- The host and the port of what is read as an authority are in normal form. -/
theorem isHostAndPort_of_authorityOf [LawfulDomainNames] {s rest : List Char}
    {authority : Authority} (h : authorityOf scheme s = .ok (authority, rest)) :
  IsHostAndPort scheme authority.host authority.port
  := by
  rw [authorityOf_eq] at h
  obtain ⟨-, rest, hplace⟩ := of_authorityIn h
  apply isHostAndPort_of_hostAndPort hplace

end Provision.Url
