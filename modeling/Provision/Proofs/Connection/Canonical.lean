import Mathlib
import Provision.Proofs.Connection.Credentials

/-!
# Connection URLs in canonical form

A connection URL without credentials is canonical if each of its parts is written with the
characters that stand for themselves in it, or with escapes. Reading the text of a canonical
URL gives it back, so no two of them have the same text.
-/

namespace Provision

namespace ConnectionUrl

/-! ### Characters -/

/-- A character that stands for itself in every part of a URL. -/
def isUnreserved (c : Char) : Bool :=
  c.isAlphanum || ['-', '.', '_', '~'].contains c

/-- A character that stands for itself in a segment of a path. -/
def isPathChar (c : Char) : Bool :=
  isPasswordChar c || c == '@'

/-- A character that stands for itself in a query. -/
def isQueryChar (c : Char) : Bool :=
  isPathChar c || c == '/' || c == '?'

variable {c : Char} {s : List Char} {bytes : List UInt8}

theorem isInfoChar_of_isUnreserved (h : isUnreserved c = true) :
  isInfoChar c = true
  := by
  obtain h | h := Bool.or_eq_true_iff.mp h
  · rw [isInfoChar, h, Bool.true_or]
  · have hall : ∀ d ∈ ['-', '.', '_', '~'], isInfoChar d = true := by
      simp [isInfoChar]
    apply hall c (List.contains_iff_mem.mp h)

theorem lt_toNat_of_isQueryChar (h : isQueryChar c = true) :
  c.toNat < 0x80
  := by
  simp only [isQueryChar, isPathChar, Bool.or_eq_true, beq_iff_eq] at h
  obtain ((h | rfl) | rfl) | rfl := h
  · apply (of_isPasswordChar h).1.2
  all_goals decide

theorem isQueryChar_of_isPathChar (h : isPathChar c = true) :
  isQueryChar c = true
  := by
  rw [isQueryChar, h, Bool.true_or, Bool.true_or]

theorem isQueryChar_of_isUnreserved (h : isUnreserved c = true) :
  isQueryChar c = true
  := by
  apply isQueryChar_of_isPathChar
  rw [isPathChar, isPasswordChar, isInfoChar_of_isUnreserved h]
  rfl

/-- What holds of each ASCII character among them holds of the characters of a part of a URL. -/
theorem of_allowed {allowed : Char → Bool} {p : Char → Prop}
    (hallowed : ∀ c, allowed c = true → isQueryChar c = true)
    (hall : ∀ n < 0x80, allowed (Char.ofNat n) = true → p (Char.ofNat n))
    (h : allowed c = true) :
  p c
  := by
  have hc := hall c.toNat (lt_toNat_of_isQueryChar (hallowed c h))
  rw [Char.ofNat_toNat] at hc
  apply hc h

/-- What holds of each ASCII character that is allowed, of the percent sign and of digits holds
of all characters of a spelled text. -/
theorem forall_mem_of_spells {allowed : Char → Bool} {p : Char → Prop}
    (hallowed : ∀ c, allowed c = true → isQueryChar c = true)
    (hall : ∀ n < 0x80, (allowed (Char.ofNat n) || Char.ofNat n == '%'
      || (Digits.value? (Char.ofNat n)).isSome) = true → p (Char.ofNat n))
    (h : Url.Percent.Spells allowed s bytes) :
  ∀ c ∈ s, p c
  := by
  apply h.forall_mem (p := p)
  · intro c hc
    apply of_allowed hallowed _ hc
    intro n hn hchar
    apply hall n hn
    rw [hchar, Bool.true_or, Bool.true_or]
  · apply hall 37 (by decide) (by simp)
  · intro c hc
    obtain ⟨d, hd⟩ := Option.isSome_iff_exists.mp hc
    apply Url.Percent.of_value? (p := fun c => (Digits.value? c).isSome → p c) _ hd hc
    intro n hn hdigit
    apply hall n hn
    rw [hdigit, Bool.or_true]

/-! ### Parts of a URL -/

/-- A segment that is spelled with the characters of a path is not changed when it is read. -/
theorem isClean_of_spells (h : Url.Percent.Spells isPathChar s bytes) :
  Url.Path.IsClean .other s
  := by
  have hmem := forall_mem_of_spells (p := fun c =>
    (c.toNat < 0x80 ∧ Url.Percent.path (UInt8.ofNat c.toNat) = false)
      ∧ Url.isSlash .other c = false) (fun c => isQueryChar_of_isPathChar) (by decide +kernel) h
  constructor
  · intro c hc
    apply (hmem c hc).1
  · intro c hc
    apply (hmem c hc).2

/-- A query that is spelled with its characters is not changed when it is read. -/
theorem isPlain_query_of_spells (h : Url.Percent.Spells isQueryChar s bytes) :
  Url.Percent.IsPlain (Url.escapedInQuery .other) s
  := forall_mem_of_spells (fun _ hc => hc) (by decide +kernel) h

/-- The text of a host: a name of unreserved characters, or the shortest form of an address
in brackets. -/
inductive IsHost : List Char → Prop where
  | name {s : List Char} (hne : s ≠ []) (h : ∀ c ∈ s, isUnreserved c = true) : IsHost s
  | address {groups : List Nat} {s : List Char} (hgroups : Url.Address.IsGroups groups)
      (h : Url.Address.IsShortest groups s) : IsHost ('[' :: (s ++ [']']))

/-- A name of unreserved characters is read as itself. -/
theorem ofPlain_of_forall (h : ∀ c ∈ s, isUnreserved c = true) :
  Url.Host.ofPlain s = .ok (.name s)
  := by
  have hmem : ∀ c ∈ s, (c.toNat < 0x80 ∧ Url.Percent.controls (UInt8.ofNat c.toNat) = false)
      ∧ Url.Host.isForbidden c = false ∧ c ≠ '[' := by
    intro c hc
    apply of_allowed (fun c => isQueryChar_of_isUnreserved) _ (h c hc)
    decide +kernel
  have hhead : s.head? ≠ some '[' := by
    intro hhead
    apply (hmem '[' (List.mem_of_mem_head? hhead)).2.2 rfl
  have hany : s.any Url.Host.isForbidden = false := by
    rw [List.any_eq_false]
    intro c hc
    simp [(hmem c hc).2.1]
  have hplain : Url.Percent.IsPlain Url.Percent.controls s := fun c hc => (hmem c hc).1
  rw [Url.Host.ofPlain, if_neg hhead, hany, Url.Percent.encode_of_isPlain hplain]
  rfl

/-- A segment of a path that is spelled with its characters and is not one or two dots. -/
structure IsSegment (segment : List Char) : Prop where
  spelled : ∃ bytes, Url.Percent.Spells isPathChar segment bytes
  not_dot : segment ∉ Url.Path.dots
  not_dotDot : ∀ first ∈ Url.Path.dots, ∀ second ∈ Url.Path.dots, segment ≠ first ++ second

/-- A URL whose parts are written as they are kept. It has no credentials, its scheme is
neither one that has rules of its own nor one with another name, and only a URL with a host
has a port. -/
structure IsCanonical (url : ConnectionUrl) : Prop where
  username : url.username = none
  password : url.password = none
  scheme : Url.Scheme.IsNormal url.scheme.toList
  not_special : url.scheme ∉ ["http", "https", "ws", "wss", "ftp", "file"]
  not_alias : url.scheme ≠ "postgres"
  host : ∀ host, url.host = some host → IsHost host.toList
  port : url.host = none → url.port = none
  path : ∃ segments, segments ≠ [] ∧ url.path = String.ofList (Segments.joinLed '/' segments)
    ∧ ∀ segment ∈ segments, IsSegment segment
  query : ∀ query, url.query = some query →
    query ≠ "" ∧ ∃ bytes, Url.Percent.Spells isQueryChar query.toList bytes

variable {url : ConnectionUrl}

theorem IsCanonical.kind_eq (h : url.IsCanonical) :
  Url.Scheme.kind url.scheme.toList = .other
  := by
  have hne : ∀ name ∈ ["http", "https", "ws", "wss", "ftp", "file"],
      name.toList ≠ url.scheme.toList := by
    intro name hname heq
    apply h.not_special
    rwa [← String.toList_inj.mp heq]
  rw [Url.Scheme.kind, if_neg (hne "file" (by simp)).symm, if_neg]
  rw [List.any_eq_true]
  rintro ⟨name, hname, heq⟩
  apply hne name (List.mem_append_left ["file"] hname)
  simpa using heq

/-- The parts of a canonical URL as they are read, with a host and the segments of its path. -/
def plain (url : ConnectionUrl) (host : Option Url.Host) (segments : List (List Char)) : Url :=
  Url.plainUrl url.scheme.toList host (url.port.map UInt16.toNat) segments
    (url.query.map String.toList)

variable {host : Option Url.Host} {segments : List (List Char)}

/-- The parts of a canonical URL are what it takes over of them. -/
theorem IsCanonical.ofUrl?_plain (h : url.IsCanonical)
    (hhost : host.map (fun host => String.ofList host.text) = url.host) (hne : segments ≠ [])
    (hpath : url.path = String.ofList (Segments.joinLed '/' segments)) :
  ofUrl? (url.plain host segments) = some url
  := by
  have hscheme : driverScheme url.scheme = url.scheme := by
    rw [driverScheme_eq, if_neg h.not_alias]
  have hport : (url.port.map UInt16.toNat).map UInt16.ofNat = url.port := by
    cases url.port with
    | none => rfl
    | some port => simp
  have hquery : ((url.query.map String.toList).filter (!·.isEmpty)).map String.ofList
      = url.query := by
    cases hquery : url.query with
    | none => rfl
    | some query =>
        have hnonempty := (h.query query hquery).1
        simp [hnonempty]
  have hrooted : (url.plain host segments).path = .rooted segments := rfl
  rw [ofUrl?_rooted hrooted hne]
  simp only [plain, Url.plainUrl, Url.host, Url.port, Option.bind_some, Option.map_some,
    Option.getD_some, String.ofList_toList, hscheme, hhost, hport, hquery]
  congr 1
  rw [ConnectionUrl.mk.injEq]
  use rfl, h.username.symm, h.password.symm, rfl, rfl, hpath.symm

section

variable [DomainNames]

/-- The text of a host is that of a host which is read from it. -/
theorem IsHost.exists_isNormal (h : IsHost s) :
  ∃ host : Url.Host, host.text = s ∧ host.IsNormal .other
  := by
  cases h with
  | name hne h =>
      use .name s, rfl
      apply Url.Host.isNormal_of_ofPlain rfl hne (ofPlain_of_forall h)
  | @address groups t hgroups h =>
      obtain rfl := Url.Address.isShortest_iff.mp h
      use .v6 groups, rfl
      apply Url.Host.isNormal_v6 hgroups

theorem IsCanonical.exists_host (h : url.IsCanonical) :
  ∃ host : Option Url.Host, host.map (fun host => String.ofList host.text) = url.host
    ∧ ∀ found, host = some found → found.IsNormal .other
  := by
  cases hhost : url.host with
  | none =>
      use none, rfl
      rintro _ hfound
      cases hfound
  | some text =>
      obtain ⟨host, htext, hnormal⟩ := (h.host text hhost).exists_isNormal
      use some host
      constructor
      · rw [Option.map_some, htext, String.ofList_toList]
      · rintro _ hfound
        obtain rfl := Option.some.inj hfound
        apply hnormal

theorem IsCanonical.isHostAndPort (h : url.IsCanonical)
    (hhost : host.map (fun host => String.ofList host.text) = url.host)
    (hnormal : ∀ found, host = some found → found.IsNormal .other) :
  Url.IsHostAndPort url.scheme.toList host (url.port.map UInt16.toNat)
  := by
  have hkind := h.kind_eq
  constructor
  · rw [hkind]
    apply hnormal
  · intro port hport
    obtain ⟨port, -, rfl⟩ := Option.map_eq_some_iff.mp hport
    use port.toNat_lt
    rw [Url.Scheme.defaultPort?_of_kind hkind]
    simp
  · rintro rfl
    rw [hkind, h.port hhost.symm]
    constructor <;> rfl

theorem IsCanonical.isRemote_plain (h : url.IsCanonical)
    (hplace : Url.IsHostAndPort url.scheme.toList host (url.port.map UInt16.toNat))
    (hsegments : ∀ segment ∈ segments, IsSegment segment) :
  Url.IsRemote (url.plain host segments)
  := by
  have hkind : Url.Scheme.kind (url.plain host segments).scheme = .other := h.kind_eq
  constructor
  · constructor
    · apply h.scheme
    · intro found hfound segment hsegment
      obtain rfl := Url.Path.rooted.inj hfound
      obtain ⟨bytes, hspelled⟩ := (hsegments segment hsegment).spelled
      rw [hkind]
      apply isClean_of_spells hspelled
    · intro q hq
      obtain ⟨query, hquery, rfl⟩ := Option.map_eq_some_iff.mp hq
      obtain ⟨-, bytes, hspelled⟩ := h.query query hquery
      rw [hkind]
      apply isPlain_query_of_spells hspelled
  · rw [hkind]
    decide
  · intro found hfound segment hsegment
    obtain rfl := Url.Path.rooted.inj hfound
    apply Url.Path.isName_iff.mpr
    use (hsegments segment hsegment).not_dot, (hsegments segment hsegment).not_dotDot
  · apply hplace

/-- A canonical URL is what a URL in normal form is read as. -/
theorem IsCanonical.exists_isRemote (h : url.IsCanonical) :
  ∃ u, Url.IsRemote u ∧ ofUrl? u = some url
  := by
  obtain ⟨host, hhost, hnormal⟩ := h.exists_host
  obtain ⟨segments, hne, hpath, hsegments⟩ := h.path
  use url.plain host segments
  use h.isRemote_plain (h.isHostAndPort hhost hnormal) hsegments
  apply h.ofUrl?_plain hhost hne hpath

/-- Reading the text of a canonical URL gives it back, and no other canonical URL has the same
text. -/
theorem parse_text_of_isCanonical (h : url.IsCanonical) :
  parse url.text = .ok url
    ∧ ∀ other : ConnectionUrl, other.IsCanonical → other.text = url.text → other = url
  := by
  have hparse : ∀ url : ConnectionUrl, url.IsCanonical → parse url.text = .ok url := by
    intro url h
    obtain ⟨u, hurl, hof⟩ := h.exists_isRemote
    have hplain : url.withoutCredentials = url := by
      rw [withoutCredentials, ConnectionUrl.mk.injEq]
      use rfl, h.username.symm, h.password.symm, rfl, rfl, rfl
    rw [parse_text_of_isRemote hurl hof, hplain]
  use hparse url h
  intro other hother htext
  apply Except.ok.inj (ε := ConfigError)
  rw [← hparse url h, ← hparse other hother, htext]

end

attribute [local instance] DomainNames.asciiOnly in
/-- An address with a gap, a path that begins with two slashes and an escaped slash. -/
theorem parse_text_of_isCanonical_sqlserver :
  let url : ConnectionUrl :=
    ⟨"sqlserver", none, none, some "[2001:db8::1]", some 1433, "//a%2Fb", some "q=?/"⟩
  url.IsCanonical ∧ url.text = "jdbc:sqlserver://[2001:db8::1]:1433//a%2Fb?q=?/"
    ∧ parse url.text = .ok url
    ∧ ∀ other : ConnectionUrl, other.IsCanonical → other.text = url.text → other = url
  := by
  intro url
  have hscheme : Url.Scheme.IsNormal "sqlserver".toList :=
    { head := ⟨'s', "qlserver".toList, rfl, rfl⟩
      parts := by simp [Url.Scheme.isPart, Char.isAlphanum, Char.isAlpha, Char.isLower]
      lower := rfl }
  have hgroups : Url.Address.IsGroups [0x2001, 0xDB8, 0, 0, 0, 0, 0, 1] :=
    ⟨rfl, by simp⟩
  have hempty : IsSegment [] := ⟨⟨_, .nil⟩, by decide, by decide⟩
  have hescaped : IsSegment ['a', '%', '2', 'F', 'b'] :=
    ⟨⟨_, .char rfl (.escape rfl rfl (.char rfl .nil))⟩, by decide, by decide⟩
  have hquery : Url.Percent.Spells isQueryChar ['q', '=', '?', '/'] [0x71, 0x3D, 0x3F, 0x2F] :=
    .char rfl (.char rfl (.char rfl (.char rfl .nil)))
  have hcanonical : url.IsCanonical := by
    constructor
    · rfl
    · rfl
    · apply hscheme
    · decide
    · decide
    · intro host hhost
      obtain rfl := Option.some.inj hhost
      apply IsHost.address (s := "2001:db8::1".toList) hgroups
      rw [Url.Address.isShortest_iff]
      decide +kernel
    · rintro ⟨⟩
    · use [[], ['a', '%', '2', 'F', 'b']], by simp, rfl
      simp [hempty, hescaped]
    · intro query h
      obtain rfl := Option.some.inj h
      use by decide, [0x71, 0x3D, 0x3F, 0x2F]
      apply hquery
  use hcanonical, by decide +kernel
  apply parse_text_of_isCanonical hcanonical

end ConnectionUrl

end Provision
