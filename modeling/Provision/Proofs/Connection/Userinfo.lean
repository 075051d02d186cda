import Mathlib
import Provision.Proofs.Connection.Password

/-!
# Credentials do not move a URL

Of a URL with credentials all but them can be read without them: the authority ends where it
ended before, and its host and its port are found behind the last sign that ends credentials,
whatever stands in front of it. So the normal form of a connection URL has nothing of its
credentials, and leads to the same place as without them.
-/

namespace Provision

namespace Url

variable {scheme info rest place after : List Char}

/-! ### What is left without credentials -/

/-- The authority without its credentials. -/
def Authority.withoutCredentials (a : Authority) : Authority :=
  { a with username := [], password := none }

/-- The URL without its credentials. -/
def withoutCredentials (url : Url) : Url :=
  { url with authority := url.authority.map Authority.withoutCredentials }

/-! ### Authorities -/

/-- The part of a text in front of what ends its authority. -/
def ownText (kind : SchemeKind) (s : List Char) : List Char :=
  s.takeWhile (!endsAuthority kind ·)

/-- Where an authority has any text it begins with no slash. -/
theorem dropWhile_isSlash {kind : SchemeKind} (hspecial : kind.isSpecial = true)
    (h : ownText kind rest ≠ []) :
  rest.dropWhile (isSlash .special) = rest
  := by
  cases rest with
  | nil => rfl
  | cons c others =>
      have hends : endsAuthority kind c = false := by
        rw [← Bool.not_eq_true]
        intro hends
        apply h
        rw [ownText, List.takeWhile_cons_of_neg (by simp [hends])]
      rw [endsAuthority, Bool.or_eq_false_iff, isSlash, hspecial] at hends
      rw [List.dropWhile_cons_of_neg]
      rw [Bool.not_eq_true]
      apply hends.1

section

variable [DomainNames]

/-- A place behind credentials is read without them as well. -/
theorem authorityIn_withoutCredentials {authority : Authority} {more : List Char}
    (h : authorityIn scheme (some info) place after = .ok (authority, more)) :
  authorityIn scheme none place after = .ok (authority.withoutCredentials, more)
  := by
  rw [authorityIn] at h
  split_ifs at h
  rw [authorityIn, if_neg (by simp)]
  cases hplace : hostAndPort scheme place with
  | error fault =>
      rw [hplace] at h
      cases h
  | ok found =>
      rw [hplace] at h
      simp only [Except.bind] at h
      split_ifs at h
      obtain ⟨rfl, rfl⟩ := Prod.mk.inj (Except.ok.inj h)
      simp [Except.bind, credentials, Authority.withoutCredentials]

/-- In a special scheme no place is empty. -/
theorem ne_nil_of_authorityIn {found : Authority × List Char} {userinfo : Option (List Char)}
    (hspecial : (Scheme.kind scheme).isSpecial = true)
    (h : authorityIn scheme userinfo place after = .ok found) :
  place ≠ []
  := by
  rintro rfl
  obtain ⟨-, more, hplace⟩ := of_authorityIn h
  rw [hostAndPort_eq, if_pos] at hplace
  · cases hplace
  · use rfl
    left
    apply hspecial

/-- The authority of a text has the credentials in front of it, if there are any. -/
theorem authorityOf_userinfoText (userinfo : Option (List Char))
    (huserinfo : ∀ s, userinfo = some s → ∀ c ∈ s, endsAuthority (Scheme.kind scheme) c = false)
    (hat : '@' ∉ ownText (Scheme.kind scheme) rest) :
  authorityOf scheme (userinfoText userinfo ++ rest)
    = authorityIn scheme userinfo (ownText (Scheme.kind scheme) rest)
        (rest.dropWhile (!endsAuthority (Scheme.kind scheme) ·))
  := by
  have hcut : userinfoText userinfo ++ rest
      = userinfoText userinfo ++ ownText (Scheme.kind scheme) rest
        ++ rest.dropWhile (!endsAuthority (Scheme.kind scheme) ·) := by
    rw [List.append_assoc, ownText, List.takeWhile_append_dropWhile]
  rw [hcut]
  apply authorityOf_append userinfo huserinfo _ hat
  · intro c hc
    apply endsAuthority_of_head? hc
  · intro c hc
    simpa using List.mem_takeWhile_imp hc

variable (hinfo : ∀ c ∈ info, endsAuthority (Scheme.kind scheme) c = false)
  (hat : '@' ∉ ownText (Scheme.kind scheme) rest)
include hinfo hat

/-- What follows the credentials is read without them as well, and begins with a place in a
special scheme. -/
theorem authorityOf_withoutCredentials {authority : Authority} {more : List Char}
    (h : authorityOf scheme (info ++ '@' :: rest) = .ok (authority, more)) :
  authorityOf scheme rest = .ok (authority.withoutCredentials, more)
    ∧ ((Scheme.kind scheme).isSpecial = true → ownText (Scheme.kind scheme) rest ≠ [])
  := by
  have hwith := authorityOf_userinfoText (some info) (by simpa using hinfo) hat
  have hwithout := authorityOf_userinfoText none (by simp) hat
  rw [userinfoText, Option.elim_some, List.append_assoc, List.singleton_append, h] at hwith
  rw [userinfoText, Option.elim_none, List.nil_append] at hwithout
  rw [hwithout]
  use authorityIn_withoutCredentials hwith.symm
  intro hspecial
  apply ne_nil_of_authorityIn hspecial hwith.symm

theorem withAuthority_withoutCredentials {url : Url}
    (h : withAuthority scheme (info ++ '@' :: rest) = .ok url) :
  withAuthority scheme rest = .ok url.withoutCredentials
    ∧ ((Scheme.kind scheme).isSpecial = true → ownText (Scheme.kind scheme) rest ≠ [])
  := by
  rw [withAuthority] at h
  cases hauthority : authorityOf scheme (info ++ '@' :: rest) with
  | error fault =>
      rw [hauthority] at h
      cases h
  | ok found =>
      obtain ⟨authority, more⟩ := found
      obtain ⟨hread, hplace⟩ := authorityOf_withoutCredentials hinfo hat hauthority
      rw [hauthority] at h
      obtain rfl := Except.ok.inj h
      rw [withAuthority, hread]
      use rfl, hplace

/-- The slashes in front of credentials lead to what follows them as well. -/
theorem remoteOf_withoutCredentials (hkind : Scheme.kind scheme ≠ .file) {url : Url}
    (h : remoteOf scheme ('/' :: '/' :: (info ++ '@' :: rest)) = .ok url) :
  remoteOf scheme ('/' :: '/' :: rest) = .ok url.withoutCredentials
  := by
  have hleading := remoteOf_leading hkind (areLeading_slashes _) hinfo rest
  rw [List.cons_append, List.cons_append, List.nil_append] at hleading
  rw [hleading] at h
  obtain ⟨hread, hplace⟩ := withAuthority_withoutCredentials hinfo hat h
  unfold remoteOf
  split_ifs with hspecial
  · have hdrop : ('/' :: '/' :: rest).dropWhile (isSlash .special)
        = rest.dropWhile (isSlash .special) := rfl
    rw [hdrop, dropWhile_isSlash hspecial (hplace hspecial), hread]
  · apply hread

end

/-! ### Any URL -/

/-- What a text begins with also begins a longer text, and if it passes a test it passes one that
fails more rarely. -/
theorem mem_takeWhile_append {p q : Char → Bool} (h : ∀ c, p c = true → q c = true)
    {s : List Char} {c : Char} (hc : c ∈ s.takeWhile p) (t : List Char) :
  c ∈ (s ++ t).takeWhile q
  := by
  induction s with
  | nil => cases hc
  | cons d s ih =>
      cases hd : p d with
      | false =>
          rw [List.takeWhile_cons_of_neg (by simp [hd])] at hc
          cases hc
      | true =>
          rw [List.takeWhile_cons_of_pos hd] at hc
          rw [List.cons_append, List.takeWhile_cons_of_pos (h d hd)]
          obtain rfl | hc := List.mem_cons.mp hc
          · apply List.mem_cons_self
          · apply List.mem_cons_of_mem _ (ih hc)

/-- The text that counts has no sign that ends credentials if the text has none. -/
theorem at_notMem_ownText (kind : SchemeKind) {s : List Char}
    (h : '@' ∉ s.takeWhile fun c => c ∉ ['/', '?', '#']) :
  '@' ∉ ownText kind (visible (s.reverse.dropWhile isOuter).reverse)
  := by
  intro hat
  rw [ownText, ← visible_takeWhile] at hat
  have hsplit : (s.reverse.dropWhile isOuter).reverse ++ (s.reverse.takeWhile isOuter).reverse
      = s := by
    rw [← List.reverse_append, List.takeWhile_append_dropWhile, List.reverse_reverse]
  apply h
  rw [← hsplit]
  apply mem_takeWhile_append _ (mem_of_mem_visible hat)
  intro c hc
  simp only [endsAuthority, isSlash, startsQuery, Bool.not_eq_true', Bool.or_eq_false_iff,
    beq_eq_false_iff_ne] at hc
  simp [hc]

/-- What counts of a text with credentials in it, and of the text without them. -/
theorem visible_trim_userinfo (scheme info rest : List Char) :
  visible (trim (scheme ++ ':' :: '/' :: '/' :: (info ++ '@' :: rest)))
      = visible (scheme.dropWhile isOuter) ++ ':' :: (['/', '/']
        ++ (visible info ++ '@' :: visible (rest.reverse.dropWhile isOuter).reverse))
    ∧ visible (trim (scheme ++ ':' :: '/' :: '/' :: rest))
      = visible (scheme.dropWhile isOuter)
        ++ ':' :: '/' :: '/' :: visible (rest.reverse.dropWhile isOuter).reverse
  := by
  have hinfo : scheme ++ ':' :: '/' :: '/' :: (info ++ '@' :: rest)
      = scheme ++ ':' :: '/' :: '/' :: info ++ '@' :: rest := by simp
  have hnone : scheme ++ ':' :: '/' :: '/' :: rest = scheme ++ [':', '/'] ++ '/' :: rest := by
    simp
  have hcolon : isOuter ':' = false := by decide
  constructor
  · rw [hinfo, visible_trim_append _ (by decide), dropWhile_isOuter_append_cons _ hcolon,
      visible_append, visible_cons (by decide), visible_cons (by decide), visible_cons (by decide)]
    simp
  · rw [hnone, visible_trim_append _ (by decide), dropWhile_isOuter_append_cons _ hcolon,
      visible_append, visible_cons (by decide), visible_cons (by decide)]
    simp [visible]

/-- What is read of a URL with credentials is read without them, but for the credentials. -/
theorem parse_withoutCredentials [DomainNames] [LawfulDomainNames] (hscheme : ':' ∉ scheme)
    (hinfo : ∀ c ∈ info, c ∉ ['/', '?', '#', '\\'])
    (hrest : '@' ∉ rest.takeWhile fun c => c ∉ ['/', '?', '#']) {url : Url}
    (h : parse (scheme ++ ':' :: '/' :: '/' :: (info ++ '@' :: rest)) = .ok url) :
  parse (scheme ++ ':' :: '/' :: '/' :: rest) = .ok url.withoutCredentials
  := by
  obtain ⟨hwith, hwithout⟩ := visible_trim_userinfo scheme info rest
  have hcolon : ':' ∉ visible (scheme.dropWhile isOuter) := fun hmem =>
    hscheme ((List.dropWhile_sublist isOuter).mem (mem_of_mem_visible hmem))
  have hends : ∀ kind, ∀ c ∈ visible info, endsAuthority kind c = false := by
    intro kind c hc
    have hnot := hinfo c (mem_of_mem_visible hc)
    simp only [List.mem_cons, List.not_mem_nil, or_false, not_or] at hnot
    simp [endsAuthority, isSlash, startsQuery, hnot]
  obtain hnone | htext := Scheme.read?_colon hcolon
  · rw [parse_eq, hwith, hnone] at h
    cases h
  · by_cases hkind : Scheme.kind ((visible (scheme.dropWhile isOuter)).map Char.toLower) = .file
    · -- The URL of a file that has credentials cannot be read.
      have hlost := parse_of_file htext hkind (areLeading_slashes .file) (hends .file) hwith
      rw [h] at hlost
      cases hlost
    · rw [parse_eq, hwith, Scheme.read?_append htext] at h
      rw [parse_eq, hwithout, Scheme.read?_append htext]
      simp only [hkind, if_false] at h ⊢
      apply remoteOf_withoutCredentials (hends _) (at_notMem_ownText _ hrest) hkind h

/-- A text that begins with a slash has no scheme. -/
theorem parse_slash [DomainNames] (s : List Char) :
  parse ('/' :: s) = .error .relative
  := by
  have htrim : visible (trim ([] ++ '/' :: s)) = _ := visible_trim_append [] (by decide) s
  rw [List.nil_append] at htrim
  rw [parse_eq, htrim]
  rfl

end Url

namespace ConnectionUrl

/-! ### Connection URLs -/

theorem ofUrl?_withoutCredentials (url : Url) :
  ofUrl? url.withoutCredentials = (ofUrl? url).map withoutCredentials
  := by
  have hpath : url.withoutCredentials.path = url.path := rfl
  unfold ofUrl?
  rw [hpath]
  split
  · rfl
  · rfl
  · obtain ⟨scheme, authority, path, query, fragment⟩ := url
    cases authority <;> rfl

/-- In front of the slashes a text has a scheme after the prefix, or one that is read as the
prefix. -/
theorem withoutPrefix_opening {lead scheme : String} (hlead : lead = "" ∨ lead = jdbcPrefix)
    (hscheme : ':' ∉ scheme.toList) :
  withoutPrefix (lead ++ scheme ++ "://") = scheme.toList ++ [':', '/', '/']
    ∨ withoutPrefix (lead ++ scheme ++ "://") = ['/', '/']
  := by
  obtain rfl | rfl := hlead
  · have htext : ("" ++ scheme ++ "://").toList = scheme.toList ++ [':', '/', '/'] := by simp
    rw [withoutPrefix, htext]
    cases hinner : jdbcPrefix.toList.isPrefixOf? (scheme.toList ++ [':', '/', '/']) with
    | none =>
        left
        rfl
    | some inner =>
        right
        have hafter := congrArg Url.afterColon (List.isPrefixOf?_eq_some_iff_append_eq.mp hinner)
        rw [Url.afterColon_append hscheme] at hafter
        rw [← hafter]
        rfl
  · left
    have htext : jdbcPrefix ++ scheme ++ "://"
        = jdbcPrefix ++ String.ofList (scheme.toList ++ [':', '/', '/']) := by
      simp [← String.toList_inj]
    rw [htext, withoutPrefix_append]

/-- A connection URL with credentials leads to where it leads without them. Without credentials it
is read as well, with the same scheme, host, port, path and query and with neither a user nor a
password, and the configurations made of both have the same normal form, host, port and
database. -/
theorem parse_without_userinfo [DomainNames] [LawfulDomainNames] {lead scheme info rest : String}
    {url : ConnectionUrl} (hlead : lead = "" ∨ lead = jdbcPrefix) (hscheme : ':' ∉ scheme.toList)
    (hinfo : ∀ c ∈ info.toList, c ∉ ['/', '?', '#', '\\'])
    (hrest : '@' ∉ rest.toList.takeWhile fun c => c ∉ ['/', '?', '#'])
    (h : parse (lead ++ scheme ++ "://" ++ info ++ "@" ++ rest) = .ok url) :
  parse (lead ++ scheme ++ "://" ++ rest)
      = .ok { url with username := none, password := none }
    ∧ ∃ fields other : Fields,
      (Fields.ofUrl (lead ++ scheme ++ "://" ++ info ++ "@" ++ rest)).result = .ok fields
        ∧ (Fields.ofUrl (lead ++ scheme ++ "://" ++ rest)).result = .ok other
        ∧ other.normalUrl = fields.normalUrl
        ∧ other.host = fields.host
        ∧ other.port = fields.port
        ∧ other.database = fields.database
  := by
  have hcolon : ':' ∈ (lead ++ scheme ++ "://").toList := by simp
  have hopening (s : String) : withoutPrefix (lead ++ scheme ++ "://" ++ s)
      = withoutPrefix (lead ++ scheme ++ "://") ++ s.toList := by
    have happend := withoutPrefix_append_of_mem hcolon s.toList
    rwa [String.ofList_append, String.ofList_toList, String.ofList_toList] at happend
  have htext : lead ++ scheme ++ "://" ++ info ++ "@" ++ rest
      = lead ++ scheme ++ "://" ++ (info ++ "@" ++ rest) := by
    simp [← String.toList_inj]
  have hread : parse (lead ++ scheme ++ "://" ++ rest) = .ok url.withoutCredentials := by
    obtain ⟨found, hfound, hof⟩ := parse_eq_ok_iff.mp h
    rw [htext, hopening] at hfound
    rw [parse_eq_ok_iff, hopening]
    have hinner : (info ++ "@" ++ rest).toList = info.toList ++ '@' :: rest.toList := by simp
    rw [hinner] at hfound
    obtain hfront | hfront := withoutPrefix_opening hlead hscheme
    · rw [hfront] at hfound ⊢
      rw [List.append_assoc] at hfound ⊢
      use found.withoutCredentials, Url.parse_withoutCredentials hscheme hinfo hrest hfound
      rw [ofUrl?_withoutCredentials, hof]
      rfl
    · rw [hfront, List.cons_append, Url.parse_slash] at hfound
      cases hfound
  use hread
  rw [Fields.result_ofUrl, Fields.result_ofUrl, h, hread]
  refine ⟨_, _, rfl, rfl, ?_⟩
  use rfl, rfl, rfl
  rfl

attribute [local instance] DomainNames.asciiOnly in
/-- Credentials with signs and colons of their own, and one that follows the authority. -/
theorem parse_without_userinfo_small :
  let info := "a:b@c:[d"
  let rest := "h:05432/d?x=@"
  let url : ConnectionUrl :=
    ⟨"postgresql", some "a", some "b@c:[d", some "h", some 5432, "/d", some "x=@"⟩
  (jdbcPrefix = "" ∨ jdbcPrefix = jdbcPrefix)
    ∧ ':' ∉ "postgres".toList
    ∧ (∀ c ∈ info.toList, c ∉ ['/', '?', '#', '\\'])
    ∧ ('@' ∉ rest.toList.takeWhile fun c => c ∉ ['/', '?', '#'])
    ∧ parse (jdbcPrefix ++ "postgres" ++ "://" ++ info ++ "@" ++ rest) = .ok url
    ∧ parse (jdbcPrefix ++ "postgres" ++ "://" ++ rest)
      = .ok { url with username := none, password := none }
    ∧ ∃ fields other : Fields,
      (Fields.ofUrl (jdbcPrefix ++ "postgres" ++ "://" ++ info ++ "@" ++ rest)).result
          = .ok fields
        ∧ (Fields.ofUrl (jdbcPrefix ++ "postgres" ++ "://" ++ rest)).result = .ok other
        ∧ other.normalUrl = fields.normalUrl
        ∧ other.host = fields.host
        ∧ other.port = fields.port
        ∧ other.database = fields.database
  := by
  intro info rest url
  have hlead : jdbcPrefix = "" ∨ jdbcPrefix = jdbcPrefix := .inr rfl
  have hscheme : ':' ∉ "postgres".toList := by decide
  have hinfo : ∀ c ∈ info.toList, c ∉ ['/', '?', '#', '\\'] := by simp [info]
  have hrest : '@' ∉ rest.toList.takeWhile fun c => c ∉ ['/', '?', '#'] := by decide
  have hparse : parse (jdbcPrefix ++ "postgres" ++ "://" ++ info ++ "@" ++ rest) = .ok url := by
    decide +kernel
  use hlead, hscheme, hinfo, hrest, hparse
  apply parse_without_userinfo hlead hscheme hinfo hrest hparse

end ConnectionUrl

end Provision
