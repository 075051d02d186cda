import Mathlib
import Provision.Proofs.Connection.Canonical

/-!
# Escaped credentials and names

Any text at all can stand in the credentials of a URL and can name its database, if all but
its unreserved characters are escaped: setting the URL gives the text back.
-/

namespace Provision

namespace Url

variable {scheme info name : List Char}

/-- A path of one segment is read as that segment, or as an empty one if it is a dot segment. -/
theorem pathOf_of_isClean (h : Path.IsClean .other name) :
  pathOf .other ('/' :: name)
    = (.rooted [if Path.isDot name || Path.isDotDot name then [] else name], [])
  := by
  have hown : ∀ c ∈ '/' :: name, (!startsQuery c) = true := by
    intro c hc
    obtain rfl | hc := List.mem_cons.mp hc
    · rfl
    · rw [(of_isPlain_path h.isPlain c hc).2]
      rfl
  rw [pathOf, List.takeWhile_eq_self_iff.mpr hown, List.dropWhile_eq_nil_iff.mpr hown]
  simp only [isSlash, BEq.rfl, Bool.true_or, if_true]
  rw [Path.ofText_of_isClean h]

variable [DomainNames] {host : Host} {port : Option Nat}

/-- Credentials and a place in front of a path are read as an authority. -/
theorem authorityOf_userinfo (hkind : Scheme.kind scheme = .other)
    (hinfo : ∀ c ∈ info, c ∉ ['/', '?', '#']) (hplace : IsHostAndPort scheme (some host) port)
    (name : List Char) :
  authorityOf scheme (info ++ '@' :: (placeText (some host) port ++ '/' :: name))
    = .ok
        ({ username := (credentials info).1, password := (credentials info).2,
            host := some host, port },
          '/' :: name)
  := by
  have hinfoEnd : ∀ s, some info = some s → ∀ c ∈ s,
      endsAuthority (Scheme.kind scheme) c = false := by
    intro s hs c hc
    obtain rfl := Option.some.inj hs
    have hnot := hinfo c hc
    simp only [List.mem_cons, List.not_mem_nil, or_false, not_or] at hnot
    rw [hkind]
    simp [endsAuthority, isSlash, startsQuery, SchemeKind.isSpecial, hnot]
  have hplaceEnd : ∀ c ∈ placeText (some host) port,
      endsAuthority (Scheme.kind scheme) c = false :=
    fun c hc => endsAuthority_of_notMem (of_mem_placeText hplace hc).2
  have hat : '@' ∉ placeText (some host) port := by
    intro hmem
    apply (of_mem_placeText hplace hmem).2
    simp
  have hrest : ∀ c, ('/' :: name).head? = some c →
      endsAuthority (Scheme.kind scheme) c = true := by
    intro c hc
    obtain rfl := Option.some.inj hc
    simp [endsAuthority, isSlash]
  have hne : placeText (some host) port ≠ [] := by
    simp [placeText, (hplace.isNormal host rfl).isPlace.ne_nil]
  have happend := authorityOf_append (some info) hinfoEnd hplaceEnd hat hrest
  rw [authorityIn, if_neg (by simp [hne]), hostAndPort_placeText hplace, userinfoText,
    Option.elim_some, List.append_assoc, List.append_assoc, List.singleton_append] at happend
  apply happend.trans
  simp [Except.bind]

/-- A URL of credentials, a place and a path of one segment is read as all of them. -/
theorem parse_userinfo (hscheme : Scheme.IsNormal scheme) (hkind : Scheme.kind scheme = .other)
    (hinfo : ∀ c ∈ info, 0x20 < c.toNat ∧ c ∉ ['/', '?', '#'])
    (hplace : IsHostAndPort scheme (some host) port) (hname : Path.IsClean .other name) :
  parse (scheme ++ ':' :: '/' :: '/'
      :: (info ++ '@' :: (placeText (some host) port ++ '/' :: name)))
    = .ok
        { scheme
          authority := some
            { username := (credentials info).1, password := (credentials info).2,
              host := some host, port }
          path := .rooted [if Path.isDot name || Path.isDotDot name then [] else name]
          query := none
          fragment := none }
  := by
  have hvisible : IsVisible ('/' :: '/'
      :: (info ++ '@' :: (placeText (some host) port ++ '/' :: name))) := by
    apply IsVisible.cons (by decide)
    apply IsVisible.cons (by decide)
    apply IsVisible.append fun c hc => (hinfo c hc).1
    apply IsVisible.cons (by decide)
    apply IsVisible.append fun c hc => (of_mem_placeText hplace hc).1
    apply IsVisible.cons (by decide)
    apply fun c hc => (of_isPlain_path hname.isPlain c hc).1
  have hauthority := authorityOf_userinfo hkind (fun c hc => (hinfo c hc).2) hplace name
  rw [parse_append hscheme hvisible, hkind, if_neg (by decide), remoteOf, hkind,
    if_neg (by decide)]
  simp only [withAuthority, hauthority, bind, Except.bind, hkind, pathOf_of_isClean hname]
  rfl

end Url

namespace ConnectionUrl

/-! ### Escaping any text -/

/-- All bytes but those of unreserved characters. -/
def component : Url.Percent.Escaped := fun b =>
  !isUnreserved (Char.ofNat b.toNat)

/-- The text with all but its unreserved characters escaped. -/
def escaped (text : String) : String :=
  String.ofList (Url.Percent.encode component text.toList)

variable {s : List Char} {bytes : List UInt8}

theorem spells_escaped (text : String) :
  Url.Percent.Spells isUnreserved (escaped text).toList (Utf8.encode text.toList)
  := by
  rw [escaped, String.toList_ofList]
  apply Url.Percent.spells_encode
  intro b hb
  simpa [component] using hb

theorem textOf_encode (text : String) :
  textOf (Utf8.encode text.toList) = text
  := by
  rw [textOf, Utf8.decodeLossy_encode, String.ofList_toList]

theorem escaped_eq_nil_iff {text : String} :
  (escaped text).toList = [] ↔ text = ""
  := by
  rw [escaped, String.toList_ofList]
  constructor
  · contrapose!
    intro hne
    apply Url.Percent.encode_ne_nil
    simpa using hne
  · rintro rfl
    rfl

/-- With its escapes resolved, a text that is unreserved otherwise is what it spells. -/
theorem decode_of_spells (h : Url.Percent.Spells isUnreserved s bytes) :
  decode s = textOf bytes
  := by
  have hplain : Url.Percent.IsPlain Url.Percent.userinfo s :=
    forall_mem_of_spells (fun _ => isQueryChar_of_isUnreserved) (by decide +kernel) h
  have hdecode := decode_user (h.mono fun _ => isInfoChar_of_isUnreserved)
  rwa [Url.Percent.encode_of_isPlain hplain] at hdecode

theorem decode_escaped (text : String) :
  decode (escaped text).toList = text
  := by
  rw [decode_of_spells (spells_escaped text), textOf_encode]

/-- An escaped name is a dot segment only if the name is one or two dots. -/
theorem isDot_or_isDotDot_escaped_iff {name : String} :
  (Url.Path.isDot (escaped name).toList || Url.Path.isDotDot (escaped name).toList) = true
    ↔ name = "." ∨ name = ".."
  := by
  have hdots : ∀ first ∈ Url.Path.dots, decode first = "."
      ∧ ∀ second ∈ Url.Path.dots, decode (first ++ second) = ".." := by decide +kernel
  rw [Bool.or_eq_true, Url.Path.isDot_iff, Url.Path.isDotDot_iff]
  constructor
  · rintro (hdot | ⟨first, hfirst, second, hsecond, hdots'⟩)
    · left
      rw [← decode_escaped name, (hdots _ hdot).1]
    · right
      rw [← decode_escaped name, hdots', (hdots first hfirst).2 second hsecond]
  · rintro (rfl | rfl)
    · left
      decide +kernel
    · right
      use ['.'], by simp [Url.Path.dots], ['.'], by simp [Url.Path.dots]
      decide +kernel

/-! ### Reading it back -/

/-- The URL of escaped credentials and an escaped name on a host. -/
def escapedUrl (user password name : String) : String :=
  "postgres://" ++ escaped user ++ ":" ++ escaped password ++ "@h/" ++ escaped name

theorem withoutPrefix_escapedUrl (user password name : String) :
  withoutPrefix (escapedUrl user password name)
    = "postgres".toList ++ ':' :: '/' :: '/'
      :: (((escaped user).toList ++ ':' :: (escaped password).toList)
        ++ '@' :: (['h'] ++ '/' :: (escaped name).toList))
  := by
  have hlist : (escapedUrl user password name).toList
      = "postgres".toList ++ ':' :: '/' :: '/'
        :: (((escaped user).toList ++ ':' :: (escaped password).toList)
          ++ '@' :: (['h'] ++ '/' :: (escaped name).toList)) := by
    simp only [escapedUrl, String.toList_append, String.reduceToList, List.append_assoc,
      List.cons_append, List.nil_append]
  rw [withoutPrefix, hlist]
  simp only [jdbcPrefix, String.reduceToList, List.cons_append, List.isPrefixOf?]
  rfl

theorem isNormal_postgres :
  Url.Scheme.IsNormal "postgres".toList
  := by
  constructor
  · constructor
    · use 'p', "ostgres".toList
      constructor <;> rfl
    · simp [Url.Scheme.isPart, Char.isAlphanum, Char.isAlpha, Char.isLower]
  · rfl

theorem isHostAndPort_h [DomainNames] :
  Url.IsHostAndPort "postgres".toList (some (.name ['h'])) none
  := by
  constructor
  · intro host hhost
    obtain rfl := Option.some.inj hhost
    apply Url.Host.isNormal_of_ofPlain (s := ['h']) rfl (by simp)
    apply ofPlain_of_forall
    simp [isUnreserved]
  · rintro _ ⟨⟩
  · rintro ⟨⟩

theorem spells_user (text : String) :
  Url.Percent.Spells isInfoChar (escaped text).toList (Utf8.encode text.toList)
  := (spells_escaped text).mono fun _ => isInfoChar_of_isUnreserved

theorem spells_password (text : String) :
  Url.Percent.Spells isPasswordChar (escaped text).toList (Utf8.encode text.toList)
  := by
  apply (spells_user text).mono
  intro c hc
  rw [isPasswordChar, hc, Bool.true_or]

/-- The host of the URL is read, and its path unless that is a dot segment. -/
theorem exists_parse_place [DomainNames] (user password name : String) :
  ∃ url, parse (escapedUrl user password name) = .ok url ∧ url.host = some "h"
    ∧ url.path.toList = '/' :: if name = "." ∨ name = ".." then [] else (escaped name).toList
  := by
  have hname : Url.Percent.Spells isPathChar (escaped name).toList (Utf8.encode name.toList) := by
    apply (spells_password name).mono
    intro c hc
    rw [isPathChar, hc, Bool.true_or]
  have hparse := Url.parse_userinfo isNormal_postgres rfl
    (of_mem_userinfo (spells_user user) (spells_password password)) isHostAndPort_h
    (isClean_of_spells hname)
  have hplace : Url.placeText (some (.name ['h'])) none = ['h'] := rfl
  rw [hplace, ← withoutPrefix_escapedUrl] at hparse
  refine ⟨_, parse_eq_ok_iff.mpr ⟨_, hparse, ofUrl?_rooted rfl (by simp)⟩, rfl, ?_⟩
  simp only [isDot_or_isDotDot_escaped_iff]
  simp [Url.Path.text, Segments.joinLed]

/-- The URL is read with the texts that were escaped in it. -/
theorem exists_parse_escapedUrl [DomainNames] (user password name : String) :
  ∃ url, parse (escapedUrl user password name) = .ok url
    ∧ url.username = (if user = "" ∧ password = "" then none else some user)
    ∧ url.password = (if password = "" then none else some password)
    ∧ url.host = some "h"
    ∧ url.database = if name = "." ∨ name = ".." then "" else name
  := by
  obtain ⟨url, hparse, hhost, hpath⟩ := exists_parse_place user password name
  have hinput : HasUserinfo (escapedUrl user password name)
      ((escaped user).toList ++ ':' :: (escaped password).toList) := by
    use "postgres".toList, ['h'], (escaped name).toList, isNormal_postgres.toIsText, rfl,
      by simp, by simp
    apply withoutPrefix_escapedUrl
  obtain ⟨husername, hpassword⟩ :=
    credentials_of_parse_colon hinput (spells_user user) (spells_password password) hparse
  simp only [escaped_eq_nil_iff, textOf_encode] at husername hpassword
  use url, hparse, husername, hpassword, hhost
  have hdatabase : url.database
      = decode (if name = "." ∨ name = ".." then [] else (escaped name).toList) := by
    rw [database, hpath]
    rfl
  rw [hdatabase]
  split_ifs
  · rfl
  · apply decode_escaped

end ConnectionUrl

/-- Of a URL in which credentials and the name of a database are escaped, a configuration is
made that has them as they were, whatever characters they consist of. Only when both the user
and the password are empty it has no user, and a name that is one or two dots is lost. -/
theorem Fields.ofUrl_escaped [DomainNames] (user password name : String) :
  ∃ fields, (Fields.ofUrl ("postgres://" ++ ConnectionUrl.escaped user ++ ":"
      ++ ConnectionUrl.escaped password ++ "@h/" ++ ConnectionUrl.escaped name)).result
      = .ok fields
    ∧ fields.password = password
    ∧ fields.username = (if user = "" ∧ password = "" then none else some user)
    ∧ fields.host = some "h"
    ∧ fields.database = some (if name = "." ∨ name = ".." then "" else name)
  := by
  obtain ⟨url, hparse, husername, hpassword, hhost, hdatabase⟩ :=
    ConnectionUrl.exists_parse_escapedUrl user password name
  rw [ConnectionUrl.escapedUrl] at hparse
  rw [Fields.result_ofUrl, hparse]
  refine ⟨_, rfl, ?_, ?_, hhost, ?_⟩
  · change url.password.getD "" = password
    rw [hpassword]
    split_ifs with hempty
    · rw [hempty]
      rfl
    · rfl
  · change (url.username <|> none) = _
    rw [husername]
    split_ifs <;> rfl
  · change some url.database = _
    rw [hdatabase]

attribute [local instance] DomainNames.asciiOnly in
/-- A tab, a slash, a sign of more than one byte and a dot are read back as they were. -/
example :
  (Fields.ofUrl "postgres://%09:%E2%82%AC%2F@h/.").result.toOption.map
      (fun fields => (fields.username, fields.password, fields.database))
    = some (some "\t", "€/", some "")
  := by decide +kernel

end Provision
