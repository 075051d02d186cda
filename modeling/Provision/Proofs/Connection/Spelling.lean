import Mathlib
import Provision.Proofs.Connection.Identity
import Provision.Proofs.Connection.NormalForm

/-!
# Spellings of a URL

The rules by which a URL is read depend on nothing of its scheme but the kind and the default
port. So a scheme that has another name is read alike under both, in any mixture of cases, and
after the prefix of a normal form as well as without it: all these spellings of a URL are one
connection URL, or fail for one reason.
-/

namespace Provision

namespace Url

/-! ### The same rules -/

/-- The URL under another scheme. -/
def withScheme (scheme : List Char) (url : Url) : Url :=
  { url with scheme }

section

variable {scheme other : List Char} (hkind : Scheme.kind scheme = Scheme.kind other)
include hkind

theorem assemble_withScheme (authority : Option Authority) (path : Path) (rest : List Char) :
  (assemble scheme authority path rest).withScheme other = assemble other authority path rest
  := by
  simp only [assemble, withScheme, hkind]

theorem withoutAuthority_withScheme (s : List Char) :
  (withoutAuthority scheme s).withScheme other = withoutAuthority other s
  := by
  rw [withoutAuthority, withoutAuthority]
  split
  · apply assemble_withScheme hkind
  · apply assemble_withScheme hkind

variable [DomainNames] (hdefault : Scheme.defaultPort? scheme = Scheme.defaultPort? other)
include hdefault

theorem hostAndPort_congr (s : List Char) :
  hostAndPort scheme s = hostAndPort other s
  := by
  rw [hostAndPort, hostAndPort, hkind, hdefault]

theorem authorityOf_congr (s : List Char) :
  authorityOf scheme s = authorityOf other s
  := by
  simp only [authorityOf, hkind, hostAndPort_congr hkind hdefault]

theorem withAuthority_withScheme (s : List Char) :
  (withAuthority scheme s).map (withScheme other) = withAuthority other s
  := by
  rw [withAuthority, withAuthority, authorityOf_congr hkind hdefault]
  cases authorityOf other s with
  | error fault => rfl
  | ok found =>
      simp only [bind, Except.bind, hkind]
      apply congrArg Except.ok (assemble_withScheme hkind _ _ _)

/-- Under schemes with the same rules the same is read, but for the scheme. -/
theorem remoteOf_withScheme (rest : List Char) :
  (remoteOf scheme rest).map (withScheme other) = remoteOf other rest
  := by
  unfold remoteOf
  rw [hkind]
  split_ifs
  · apply withAuthority_withScheme hkind hdefault
  · split
    · apply withAuthority_withScheme hkind hdefault
    · apply congrArg Except.ok (withoutAuthority_withScheme hkind rest)

end

variable [DomainNames]

theorem scheme_of_remoteOf {scheme rest : List Char} {url : Url}
    (h : remoteOf scheme rest = .ok url) :
  url.scheme = scheme
  := by
  have hsame := remoteOf_withScheme (Eq.refl (Scheme.kind scheme)) rfl rest
  rw [h] at hsame
  rw [← Except.ok.inj hsame]
  rfl

/-- The scheme of a URL is what stands in front of the first colon, in lower case. -/
theorem exists_scheme_of_parse {s : List Char} {url : Url} (h : parse s = .ok url) :
  ∃ scheme rest, visible (trim s) = scheme ++ ':' :: rest ∧ ':' ∉ scheme
    ∧ url.scheme = scheme.map Char.toLower
  := by
  rw [parse_eq] at h
  split at h
  · cases h
  · rename_i scheme rest hread
    obtain ⟨text, htext, hcolon, rfl⟩ := Scheme.exists_of_read? hread
    use text, rest, htext, hcolon
    split_ifs at h with hfile
    · rw [scheme_of_ofFile h, Scheme.eq_file_of_kind hfile]
    · apply scheme_of_remoteOf h

/-- Of a URL that is not that of a file the scheme counts in lower case only. -/
theorem parse_of_isText {name : List Char} (h : Scheme.IsText name)
    (hkind : Scheme.kind (name.map Char.toLower) ≠ .file) (back : List Char) :
  parse (name ++ ':' :: back)
    = remoteOf (name.map Char.toLower) (visible (back.reverse.dropWhile isOuter).reverse)
  := by
  have hvisible : IsVisible name := fun c hc => Scheme.lt_toNat_of_isPart (h.parts c hc)
  rw [parse_eq, visible_trim_append name (by decide), dropWhile_isOuter hvisible,
    visible_of_isVisible hvisible, Scheme.read?_append h]
  simp only [hkind, if_false]

end Url

namespace ConnectionUrl

/-! ### The scheme that is taken over -/

theorem scheme_of_ofUrl? {url : Url} {connection : ConnectionUrl}
    (h : ofUrl? url = some connection) :
  connection.scheme = driverScheme (String.ofList url.scheme)
  := by
  obtain ⟨segments, hpath, hne⟩ := exists_rooted_of_ofUrl? h
  rw [ofUrl?_rooted hpath hne] at h
  rw [← Option.some.inj h]

/-- Of the scheme of a URL only the name of its driver is taken over. -/
theorem ofUrl?_withScheme {scheme other : List Char}
    (h : driverScheme (String.ofList scheme) = driverScheme (String.ofList other)) (url : Url) :
  ofUrl? (url.withScheme scheme) = ofUrl? (url.withScheme other)
  := by
  rw [ofUrl?, ofUrl?]
  simp only [Url.withScheme, h]
  rfl

theorem ofReading_withScheme {scheme other : List Char}
    (h : driverScheme (String.ofList scheme) = driverScheme (String.ofList other))
    (x : Except Url.Fault Url) :
  ofReading (x.map (Url.withScheme scheme)) = ofReading (x.map (Url.withScheme other))
  := by
  cases x with
  | error fault => rfl
  | ok url => simp only [Except.map, ofReading, ofUrl?_withScheme h]

/-! ### The names of a scheme -/

/-- The text is one of the two names of the scheme, in any mixture of cases. -/
def IsPostgres (name : List Char) : Prop :=
  name.map Char.toLower = "postgres".toList ∨ name.map Char.toLower = "postgresql".toList

/-- The text is the URL under one of the two names of its scheme, after the prefix of a normal
form or without it. -/
inductive IsSpelling (rest : String) : String → Prop where
  | plain {name : String} (h : IsPostgres name.toList) : IsSpelling rest (name ++ ":" ++ rest)
  | prefixed {name : String} (h : IsPostgres name.toList) :
    IsSpelling rest (jdbcPrefix ++ (name ++ ":" ++ rest))

namespace IsPostgres

variable {name : List Char} (h : IsPostgres name)
include h

theorem isText :
  Url.Scheme.IsText name
  := by
  have halpha : ∀ c ∈ name, c.isAlpha = true := by
    intro c hc
    have hlower := List.mem_map_of_mem (f := Char.toLower) hc
    apply Url.isAlpha_of_toLower
    obtain h | h := h
    all_goals
      rw [h] at hlower
      apply List.all_eq_true.mp _ _ hlower
      decide
  constructor
  · obtain ⟨c, others, rfl⟩ : ∃ c others, name = c :: others := by
      apply List.exists_cons_of_ne_nil
      rintro rfl
      obtain h | h := h <;> cases h
    use c, others, rfl, halpha c List.mem_cons_self
  · intro c hc
    apply Url.Scheme.isPart_of_isAlpha (halpha c hc)

/-- Under both names the rules are those of the name of the driver. -/
theorem rules :
  Url.Scheme.kind (name.map Char.toLower) = .other
    ∧ Url.Scheme.kind "postgresql".toList = Url.Scheme.kind (name.map Char.toLower)
    ∧ Url.Scheme.defaultPort? "postgresql".toList
      = Url.Scheme.defaultPort? (name.map Char.toLower)
    ∧ driverScheme (String.ofList (name.map Char.toLower))
      = driverScheme (String.ofList "postgresql".toList)
  := by
  obtain h | h := h
  all_goals
    rw [h]
    decide

/-- The URL is read as it is under the name of the driver. -/
theorem ofReading_parse [DomainNames] (back : List Char) :
  ofReading (Url.parse (name ++ ':' :: back))
    = ofReading (Url.remoteOf "postgresql".toList
        (Url.visible (back.reverse.dropWhile Url.isOuter).reverse))
  := by
  obtain ⟨hother, hkind, hdefault, hdriver⟩ := h.rules
  rw [Url.parse_of_isText h.isText (by simp [hother]),
    ← Url.remoteOf_withScheme hkind hdefault, ofReading_withScheme hdriver,
    Url.remoteOf_withScheme rfl rfl]

theorem withoutPrefix_eq (rest : List Char) :
  withoutPrefix (String.ofList (name ++ rest)) = name ++ rest
  := by
  obtain ⟨c, others, rfl, -⟩ := h.isText.head
  have hc : c ≠ 'j' := by
    rintro rfl
    obtain h | h := h
    all_goals
      revert h
      simp
  have hprefix : jdbcPrefix.toList = ['j', 'd', 'b', 'c', ':'] := by decide
  rw [withoutPrefix, String.toList_ofList, hprefix, List.cons_append, List.isPrefixOf?,
    if_neg (by simpa using hc.symm)]
  rfl

end IsPostgres

/-! ### Spellings -/

section

variable [DomainNames] {rest input : String}

/-- What is read of a text behind the name of the driver. -/
def readRest (rest : String) : Except UriFault ConnectionUrl :=
  ofReading (Url.remoteOf "postgresql".toList
    (Url.visible (rest.toList.reverse.dropWhile Url.isOuter).reverse))

theorem scheme_of_readRest {rest : String} {url : ConnectionUrl} (h : readRest rest = .ok url) :
  url.scheme = "postgresql"
  := by
  unfold readRest ofReading at h
  split at h
  · cases h
  · rename_i found hread
    cases hof : ofUrl? found with
    | none =>
        rw [hof] at h
        cases h
    | some connection =>
        rw [hof] at h
        obtain rfl := Except.ok.inj h
        rw [scheme_of_ofUrl? hof, Url.scheme_of_remoteOf hread]
        rfl

/-- A spelling is read as the text behind the name, whichever name that is. -/
theorem IsSpelling.parse_eq (h : IsSpelling rest input) :
  parse input = (readRest rest).mapError (.invalidUri input)
  := by
  have htext (name : String) :
      name ++ ":" ++ rest = String.ofList (name.toList ++ ':' :: rest.toList) := by
    simp [← String.toList_inj]
  rw [parse_eq_ofReading]
  congr 1
  cases h with
  | plain hname => rw [htext, hname.withoutPrefix_eq, hname.ofReading_parse, readRest]
  | prefixed hname => rw [htext, withoutPrefix_append, hname.ofReading_parse, readRest]

/-- The fields are those of a configuration made of a spelling of the URL. -/
def IsSpelled (rest : String) (fields : Fields) : Prop :=
  ∃ input, IsSpelling rest input ∧ (Fields.ofUrl input).result = .ok fields

theorem IsSpelled.identity_eq {fields other : Fields} (h : IsSpelled rest fields)
    (h' : IsSpelled rest other) :
  fields.identity = other.identity
  := by
  obtain ⟨input, hinput, hfields⟩ := h
  obtain ⟨input', hinput', hother⟩ := h'
  rw [Fields.result_ofUrl, hinput.parse_eq] at hfields
  rw [Fields.result_ofUrl, hinput'.parse_eq] at hother
  cases hread : readRest rest with
  | error fault =>
      rw [hread] at hfields
      cases hfields
  | ok url =>
      rw [hread] at hfields hother
      rw [← Except.ok.inj hfields, ← Except.ok.inj hother]
      rfl

/-- All spellings of a URL fail for one reason, each quoting its own text, or all are one
connection URL. The configurations made of them are equal, have the same hash and make a set of
one. The scheme of every connection URL is that of its text in lower case, save for the one scheme
that has another name. -/
theorem parse_spellings :
  (∀ rest : String,
    ((∃ fault, ∀ input, IsSpelling rest input →
        parse input = .error (.invalidUri input fault))
      ∨ ∃ url, url.scheme = "postgresql" ∧ ∀ input, IsSpelling rest input →
        parse input = .ok url
          ∧ (Fields.ofUrl input).result = .ok (Fields.withUrl {} input url))
    ∧ (∀ fields other : Fields, IsSpelled rest fields → IsSpelled rest other →
      fields.isSame other ∧ ∀ {σ : Type} (h : Hasher σ), fields.hash h = other.hash h)
    ∧ ∀ {σ : Type} (h : Hasher σ) (all : List Fields), all ≠ [] →
      (∀ fields ∈ all, IsSpelled rest fields) → (Fields.gather h all).length = 1)
  ∧ ∀ (input : String) (url : ConnectionUrl), parse input = .ok url →
    ∃ scheme rest : List Char,
      Url.visible (Url.trim (withoutPrefix input)) = scheme ++ ':' :: rest
        ∧ ':' ∉ scheme
        ∧ url.scheme
          = if scheme.map Char.toLower = "postgres".toList then "postgresql"
            else String.ofList (scheme.map Char.toLower)
  := by
  constructor
  · intro rest
    have hsame : ∀ fields other : Fields, IsSpelled rest fields → IsSpelled rest other →
        fields.isSame other := fun fields other h h' =>
      Fields.isSame_iff.mpr (h.identity_eq h')
    constructor
    · cases hread : readRest rest with
      | error fault =>
          left
          use fault
          intro input h
          rw [h.parse_eq, hread]
          rfl
      | ok url =>
          right
          use url, scheme_of_readRest hread
          intro input h
          have hparse : parse input = .ok url := by
            rw [h.parse_eq, hread]
            rfl
          use hparse
          rw [Fields.result_ofUrl, hparse]
          rfl
    · constructor
      · intro fields other h h'
        use hsame fields other h h'
        intro σ hasher
        apply Fields.hash_eq_of_isSame hasher (hsame fields other h h')
      · intro σ hasher all hne hall
        obtain ⟨fields, others, rfl⟩ := List.exists_cons_of_ne_nil hne
        apply Fields.length_gather_eq_one hasher List.mem_cons_self
        intro other hother
        apply hsame other fields (hall other hother) (hall fields List.mem_cons_self)
  · intro input url hparse
    obtain ⟨found, hread, hof⟩ := parse_eq_ok_iff.mp hparse
    obtain ⟨scheme, rest, htext, hcolon, hscheme⟩ := Url.exists_scheme_of_parse hread
    use scheme, rest, htext, hcolon
    rw [scheme_of_ofUrl? hof, driverScheme_eq, hscheme]
    simp only [String.ofList_eq]

end

attribute [local instance] DomainNames.asciiOnly in
/-- Two spellings of a URL with credentials and a blank behind it, and the URL of another scheme. -/
theorem parse_spellings_small :
  let rest := "//bob:pw@[::1]:05432/d?x=1#top "
  let input := "PostGres" ++ ":" ++ rest
  let other := jdbcPrefix ++ ("postgresQL" ++ ":" ++ rest)
  let url : ConnectionUrl :=
    ⟨"postgresql", some "bob", some "pw", some "[::1]", some 5432, "/d", some "x=1"⟩
  let fields := Fields.withUrl {} input url
  let fields' := Fields.withUrl {} other url
  let foreign := "jdbc: MySQL://h/d"
  let found : ConnectionUrl := ⟨"mysql", none, none, some "h", none, "/d", none⟩
  let length : Hasher Nat :=
    ⟨0, fun n _ => n, fun n text => n + text.length, fun n _ => n + 1, UInt64.ofNat⟩
  IsSpelling rest input
    ∧ IsSpelling rest other
    ∧ IsSpelled rest fields
    ∧ IsSpelled rest fields'
    ∧ fields ≠ fields'
    ∧ fields.isSame fields'
    ∧ fields.hash length = fields'.hash length
    ∧ (Fields.gather length [fields', fields, fields']).length = 1
    ∧ parse foreign = .ok found
    ∧ ∃ scheme rest : List Char,
      Url.visible (Url.trim (withoutPrefix foreign)) = scheme ++ ':' :: rest
        ∧ ':' ∉ scheme
        ∧ found.scheme
          = if scheme.map Char.toLower = "postgres".toList then "postgresql"
            else String.ofList (scheme.map Char.toLower)
  := by
  intro rest input other url fields fields' foreign found length
  have hinput : IsSpelling rest input := .plain (.inl (by decide))
  have hother : IsSpelling rest other := .prefixed (.inr (by decide))
  have hfields : IsSpelled rest fields := ⟨input, hinput, by decide +kernel⟩
  have hfields' : IsSpelled rest fields' := ⟨other, hother, by decide +kernel⟩
  obtain ⟨hspellings, hschemes⟩ := parse_spellings
  obtain ⟨hone, hsame, hset⟩ := hspellings rest
  obtain ⟨hequal, hhash⟩ := hsame fields fields' hfields hfields'
  use hinput, hother, hfields, hfields', by decide +kernel, hequal, hhash length
  constructor
  · apply hset length _ (by simp)
    intro made hmade
    simp only [List.mem_cons, List.not_mem_nil, or_false] at hmade
    obtain rfl | rfl | rfl := hmade
    · apply hfields'
    · apply hfields
    · apply hfields'
  · have hparse : parse foreign = .ok found := by decide +kernel
    use hparse
    apply hschemes foreign found hparse

end ConnectionUrl

end Provision
