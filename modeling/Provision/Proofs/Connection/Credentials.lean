import Mathlib
import Provision.Proofs.Connection.NormalForm

/-!
# Credentials in a connection URL

What stands in front of the host of a URL gives the credentials of a configuration. A
password that is there but empty is taken for one that is missing, so the old password
stays; and when the user is empty as well, so does the old user.
-/

namespace Provision

namespace Url

/-! ### Finding the credentials -/

variable [DomainNames] {scheme info host path : List Char} {url : Url}

/-- The credentials of an authority are those of the text in front of its host. -/
theorem exists_authority_of_withAuthority {place rest : List Char}
    (hinfo : ∀ c ∈ info, endsAuthority (Scheme.kind scheme) c = false)
    (hplace : ∀ c ∈ place, endsAuthority (Scheme.kind scheme) c = false) (hat : '@' ∉ place)
    (hrest : ∀ c, rest.head? = some c → endsAuthority (Scheme.kind scheme) c = true)
    (h : withAuthority scheme (info ++ '@' :: place ++ rest) = .ok url) :
  ∃ authority, url.authority = some authority
    ∧ (authority.username, authority.password) = credentials info
  := by
  have happend := authorityOf_append (some info)
    (by rintro s hs; obtain rfl := Option.some.inj hs; exact hinfo) hplace hat hrest
  rw [userinfoText, Option.elim_some, List.append_assoc, List.append_assoc,
    List.singleton_append] at happend
  rw [List.append_assoc, List.cons_append, withAuthority, happend] at h
  cases hread : authorityIn scheme (some info) place rest with
  | error fault =>
      rw [hread] at h
      cases h
  | ok found =>
      obtain ⟨authority, after⟩ := found
      rw [hread] at h
      obtain rfl := Except.ok.inj h
      use authority, rfl
      apply (of_authorityIn hread).1

/-- The credentials of a URL are those of the text in front of its host. -/
theorem exists_authority_of_parse (hscheme : Scheme.IsText scheme)
    (hkind : Scheme.kind (scheme.map Char.toLower) = .other)
    (hinfo : ∀ c ∈ info, c ∉ ['/', '?', '#']) (hhost : ∀ c ∈ host, c ∉ ['/', '?', '#', '@'])
    (h : parse (scheme ++ ':' :: '/' :: '/' :: (info ++ '@' :: (host ++ '/' :: path))) = .ok url) :
  ∃ authority, url.authority = some authority
    ∧ (authority.username, authority.password) = credentials (visible info)
  := by
  obtain ⟨c, others, rfl, halpha⟩ := hscheme.head
  have hvisible : visible (c :: others) = c :: others :=
    visible_of_isVisible fun d hd => Scheme.lt_toNat_of_isPart (hscheme.parts d hd)
  have hc : 0x20 < c.toNat :=
    Scheme.lt_toNat_of_isPart (hscheme.parts c List.mem_cons_self)
  obtain ⟨path', htrim⟩ := exists_visible_trim
    (s := c :: others ++ ':' :: '/' :: '/' :: (info ++ '@' :: host)) rfl hc path
  have htext : c :: others ++ ':' :: '/' :: '/' :: (info ++ '@' :: (host ++ '/' :: path))
      = c :: others ++ ':' :: '/' :: '/' :: (info ++ '@' :: host) ++ '/' :: path := by simp
  have hread : visible (c :: others ++ ':' :: '/' :: '/' :: (info ++ '@' :: host)) ++ '/' :: path'
      = c :: others ++ ':' :: '/' :: '/'
        :: (visible info ++ '@' :: visible host ++ '/' :: path') := by
    rw [visible_append, hvisible, visible_cons (c := ':') (by decide),
      visible_cons (c := '/') (by decide), visible_cons (c := '/') (by decide), visible_append,
      visible_cons (c := '@') (by decide)]
    simp
  rw [htext, parse_eq, htrim, hread, Scheme.read?_append hscheme] at h
  simp only [hkind, reduceCtorEq, if_false, remoteOf, SchemeKind.isSpecial, bne_self_eq_false,
    Bool.false_eq_true] at h
  have hends : ∀ d, d ∉ ['/', '?', '#'] → endsAuthority .other d = false := by
    intro d hd
    simp only [List.mem_cons, List.not_mem_nil, or_false, not_or] at hd
    simp [endsAuthority, isSlash, startsQuery, SchemeKind.isSpecial, hd]
  apply exists_authority_of_withAuthority _ _ _ _ h
  · intro d hd
    rw [hkind]
    apply hends d (hinfo d (List.mem_filter.mp hd).1)
  · intro d hd
    rw [hkind]
    apply hends d
    intro hmem
    apply hhost d (List.mem_filter.mp hd).1
    apply List.mem_append_left ['@'] hmem
  · intro hat
    apply hhost '@' (List.mem_filter.mp hat).1
    simp
  · intro d hd
    obtain rfl := Option.some.inj hd
    simp [endsAuthority, isSlash]

end Url

namespace ConnectionUrl

/-! ### Taking the credentials over -/

/-- The text, with or without its prefix, is a URL of a scheme that is not special and has a
userinfo in front of a host and a path. -/
def HasUserinfo (input : String) (info : List Char) : Prop :=
  ∃ scheme host path, Url.Scheme.IsText scheme
    ∧ Url.Scheme.kind (scheme.map Char.toLower) = .other
    ∧ host ≠ [] ∧ (∀ c ∈ host, c ∉ ['/', '?', '#', '@'])
    ∧ withoutPrefix input = scheme ++ ':' :: '/' :: '/' :: (info ++ '@' :: (host ++ '/' :: path))

/-- The credentials of a connection URL are those of its userinfo, with their escapes
resolved. -/
theorem credentials_of_parse [DomainNames] {input : String} {info : List Char}
    {connection : ConnectionUrl}
    (hinput : HasUserinfo input info) (hinfo : ∀ c ∈ info, c ∉ ['/', '?', '#'])
    (h : parse input = .ok connection) :
  connection.username
      = (if (Url.credentials (Url.visible info)) = ([], none) then none
        else some (decode (Url.credentials (Url.visible info)).1))
    ∧ connection.password = (Url.credentials (Url.visible info)).2.map decode
  := by
  obtain ⟨scheme, host, path, hscheme, hkind, -, hhost, htext⟩ := hinput
  obtain ⟨url, hparse, hof⟩ := parse_eq_ok_iff.mp h
  rw [htext] at hparse
  obtain ⟨authority, hauthority, hcredentials⟩ :=
    Url.exists_authority_of_parse hscheme hkind hinfo hhost hparse
  obtain ⟨segments, hpath, hne⟩ := exists_rooted_of_ofUrl? hof
  rw [ofUrl?_rooted hpath hne] at hof
  obtain rfl := Option.some.inj hof
  rw [← hcredentials, hauthority]
  simp

/-! ### Userinfo in the clear -/

/-- A character that stands for itself in a userinfo: one that is unreserved, or one of the
delimiters of lower rank. -/
def isInfoChar (c : Char) : Bool :=
  c.isAlphanum
    || ['-', '.', '_', '~', '!', '$', '&', '\x27', '(', ')', '*', '+', ',', ';', '='].contains c

/-- A character that stands for itself in a password, which may have colons. -/
def isPasswordChar (c : Char) : Bool :=
  isInfoChar c || c == ':'

/-- The text that the bytes of spelled text stand for. -/
def textOf (bytes : List UInt8) : String :=
  String.ofList (Utf8.decodeLossy bytes)

theorem of_isInfoChar {c : Char} (h : isInfoChar c = true) :
  (0x20 < c.toNat ∧ c.toNat < 0x80) ∧ c ∉ ['%', '/', '?', '#', ':']
  := by
  have hlt : c.toNat < 0x80 := by
    rw [isInfoChar, Bool.or_eq_true, Char.isAlphanum, Bool.or_eq_true, Url.isAlpha_iff,
      Digits.isDigit_iff] at h
    obtain h | h := h
    · omega
    · have hlist : ∀ d ∈ ['-', '.', '_', '~', '!', '$', '&', '\x27', '(', ')', '*', '+', ',', ';',
          '='], d.toNat < 0x80 := by simp
      apply hlist c (List.contains_iff_mem.mp h)
  have hall : ∀ n < 0x80, isInfoChar (Char.ofNat n) = true →
      (0x20 < (Char.ofNat n).toNat ∧ (Char.ofNat n).toNat < 0x80)
        ∧ Char.ofNat n ∉ ['%', '/', '?', '#', ':'] := by decide +kernel
  rw [← Char.ofNat_toNat c] at h ⊢
  apply hall c.toNat hlt h

theorem of_isPasswordChar {c : Char} (h : isPasswordChar c = true) :
  (0x20 < c.toNat ∧ c.toNat < 0x80) ∧ c ∉ ['%', '/', '?', '#']
  := by
  obtain h | h := Bool.or_eq_true_iff.mp h
  · obtain ⟨hlt, hnot⟩ := of_isInfoChar h
    use hlt
    intro hmem
    apply hnot
    apply List.mem_append_left [':'] hmem
  · obtain rfl := beq_iff_eq.mp h
    decide

variable {user pass : List Char} {u p : List UInt8}

/-- The characters of a spelled text are visible and do not end the userinfo. -/
theorem of_mem_spelled {allowed : Char → Bool} {s : List Char} {bytes : List UInt8}
    (h : Url.Percent.Spells allowed s bytes)
    (hallowed : ∀ c, allowed c = true → 0x20 < c.toNat ∧ c ∉ ['/', '?', '#']) :
  ∀ c ∈ s, 0x20 < c.toNat ∧ c ∉ ['/', '?', '#']
  := by
  apply h.forall_mem hallowed (by decide)
  intro c hc
  obtain ⟨d, hd⟩ := Option.isSome_iff_exists.mp hc
  have hall : ∀ n < 0x80, (Digits.value? (Char.ofNat n)).isSome →
      0x20 < (Char.ofNat n).toNat ∧ Char.ofNat n ∉ ['/', '?', '#'] := by decide +kernel
  apply Url.Percent.of_value? (p := fun c => (Digits.value? c).isSome →
    0x20 < c.toNat ∧ c ∉ ['/', '?', '#']) hall hd hc

theorem of_mem_user (h : Url.Percent.Spells isInfoChar user u) :
  ∀ c ∈ user, 0x20 < c.toNat ∧ c ∉ ['/', '?', '#']
  := by
  apply of_mem_spelled h
  intro c hc
  obtain ⟨⟨hlt, -⟩, hnot⟩ := of_isInfoChar hc
  use hlt
  simp only [List.mem_cons, List.not_mem_nil, or_false, not_or] at hnot ⊢
  tauto

theorem of_mem_password (h : Url.Percent.Spells isPasswordChar pass p) :
  ∀ c ∈ pass, 0x20 < c.toNat ∧ c ∉ ['/', '?', '#']
  := by
  apply of_mem_spelled h
  intro c hc
  obtain ⟨⟨hlt, -⟩, hnot⟩ := of_isPasswordChar hc
  use hlt
  simp only [List.mem_cons, List.not_mem_nil, or_false, not_or] at hnot ⊢
  tauto

theorem of_mem_userinfo (huser : Url.Percent.Spells isInfoChar user u)
    (hpass : Url.Percent.Spells isPasswordChar pass p) :
  ∀ c ∈ user ++ ':' :: pass, 0x20 < c.toNat ∧ c ∉ ['/', '?', '#']
  := by
  intro c hc
  obtain hc | hc := List.mem_append.mp hc
  · apply of_mem_user huser c hc
  · obtain rfl | hc := List.mem_cons.mp hc
    · decide
    · apply of_mem_password hpass c hc

theorem colon_notMem (h : Url.Percent.Spells isInfoChar user u) :
  ':' ∉ user
  := by
  intro hmem
  apply h.forall_mem (p := (· ≠ ':')) _ (by decide) _ ':' hmem rfl
  · rintro c hc rfl
    apply (of_isInfoChar hc).2
    simp
  · rintro c hc rfl
    cases hc

/-- What is taken over of spelled text is the text that it spells. -/
theorem decode_encode_of_spells {allowed : Char → Bool} {s : List Char} {bytes : List UInt8}
    (hallowed : ∀ c, allowed c = true → c.toNat < 0x80 ∧ c ≠ '%')
    (h : Url.Percent.Spells allowed s bytes) :
  decode (Url.Percent.encode Url.Percent.userinfo s) = textOf bytes
  := by
  rw [decode, Url.Percent.decode, Url.Percent.decodeBytes_encode_of_spells hallowed h, textOf]

theorem decode_user (h : Url.Percent.Spells isInfoChar user u) :
  decode (Url.Percent.encode Url.Percent.userinfo user) = textOf u
  := by
  apply decode_encode_of_spells _ h
  intro c hc
  obtain ⟨⟨-, hlt⟩, hnot⟩ := of_isInfoChar hc
  use hlt
  rintro rfl
  simp at hnot

theorem decode_password (h : Url.Percent.Spells isPasswordChar pass p) :
  decode (Url.Percent.encode Url.Percent.userinfo pass) = textOf p
  := by
  apply decode_encode_of_spells _ h
  intro c hc
  obtain ⟨⟨-, hlt⟩, hnot⟩ := of_isPasswordChar hc
  use hlt
  rintro rfl
  simp at hnot

theorem textOf_nil :
  textOf [] = ""
  := by
  rfl

theorem credentials_colon (h : ':' ∉ user) :
  Url.credentials (user ++ ':' :: pass)
    = (Url.Percent.encode Url.Percent.userinfo user,
        if pass.isEmpty then none else some (Url.Percent.encode Url.Percent.userinfo pass))
  := by
  have huser : ∀ c ∈ user, (c != ':') = true := by
    intro c hc
    rw [bne_iff_ne]
    rintro rfl
    apply h hc
  have hcolon : ∀ c, (':' :: pass).head? = some c → (c != ':') = false := by
    intro c hc
    obtain rfl := Option.some.inj hc
    rfl
  rw [Url.credentials, Segments.takeWhile_append_of_head? huser hcolon,
    Segments.dropWhile_append_of_head? huser hcolon]
  rfl

theorem credentials_of_notMem (h : ':' ∉ user) :
  Url.credentials user = (Url.Percent.encode Url.Percent.userinfo user, none)
  := by
  have huser : ∀ c ∈ user, (c != ':') = true := by
    intro c hc
    rw [bne_iff_ne]
    rintro rfl
    apply h hc
  rw [Url.credentials, List.takeWhile_eq_self_iff.mpr huser, List.dropWhile_eq_nil_iff.mpr huser]
  rfl

theorem encode_userinfo_eq_nil_iff :
  Url.Percent.encode Url.Percent.userinfo user = [] ↔ user = []
  := by
  constructor
  · contrapose!
    apply Url.Percent.encode_ne_nil
  · rintro rfl
    rfl

/-- The credentials of a URL that has both a user and a password in its userinfo. -/
theorem credentials_of_parse_colon [DomainNames] {input : String} {connection : ConnectionUrl}
    (hinput : HasUserinfo input (user ++ ':' :: pass)) (huser : Url.Percent.Spells isInfoChar user u)
    (hpass : Url.Percent.Spells isPasswordChar pass p) (h : parse input = .ok connection) :
  connection.username = (if user = [] ∧ pass = [] then none else some (textOf u))
    ∧ connection.password = (if pass = [] then none else some (textOf p))
  := by
  have hinfo := of_mem_userinfo huser hpass
  have hvisible := Url.visible_of_isVisible fun c hc => (hinfo c hc).1
  obtain ⟨husername, hpassword⟩ := credentials_of_parse hinput (fun c hc => (hinfo c hc).2) h
  rw [hvisible, credentials_colon (colon_notMem huser)] at husername hpassword
  rw [husername, hpassword, decode_user huser]
  cases pass with
  | nil => simp [encode_userinfo_eq_nil_iff]
  | cons c rest => simp [decode_password hpass]

/-- The credentials of a URL that has only a user in its userinfo. -/
theorem credentials_of_parse_user [DomainNames] {input : String} {connection : ConnectionUrl}
    (hinput : HasUserinfo input user) (hne : user ≠ [])
    (huser : Url.Percent.Spells isInfoChar user u) (h : parse input = .ok connection) :
  connection.username = some (textOf u) ∧ connection.password = none
  := by
  have hinfo := of_mem_user huser
  have hvisible := Url.visible_of_isVisible fun c hc => (hinfo c hc).1
  obtain ⟨husername, hpassword⟩ := credentials_of_parse hinput (fun c hc => (hinfo c hc).2) h
  rw [hvisible, credentials_of_notMem (colon_notMem huser)] at husername hpassword
  rw [husername, hpassword, decode_user huser]
  simp [encode_userinfo_eq_nil_iff, hne]

end ConnectionUrl

namespace Config

/-- Setting a URL with both parts of the credentials in it takes over a password that is not
empty, and a user unless both are empty. So exactly if the password is not empty, or
was empty already and the user need not be taken over, the configuration has the credentials
of the URL. A user without a password is taken over by itself. -/
theorem setUrl_userinfo [DomainNames] {c c' : Config} {input : String} {info : List Char}
    (hinput : ConnectionUrl.HasUserinfo input info) (hset : (c.setUrl input).result = .ok c') :
  (∀ user pass u p, info = user ++ ':' :: pass →
      Url.Percent.Spells ConnectionUrl.isInfoChar user u →
      Url.Percent.Spells ConnectionUrl.isPasswordChar pass p →
      c'.username
          = (if user = [] ∧ pass = [] then c.username else some (ConnectionUrl.textOf u))
        ∧ c'.password = (if pass = [] then c.password else ConnectionUrl.textOf p)
        ∧ (c'.username = some (ConnectionUrl.textOf u) ∧ c'.password = ConnectionUrl.textOf p
          ↔ pass ≠ [] ∨ c.password = "" ∧ (user ≠ [] ∨ c.username = some "")))
    ∧ ∀ u, info ≠ [] → Url.Percent.Spells ConnectionUrl.isInfoChar info u →
      c'.username = some (ConnectionUrl.textOf u) ∧ c'.password = c.password
  := by
  rw [result_setUrl] at hset
  cases hparse : ConnectionUrl.parse input with
  | error e =>
      rw [hparse] at hset
      cases hset
  | ok connection =>
      rw [hparse] at hset
      obtain rfl := Except.ok.inj hset
      constructor
      · rintro user pass u p rfl huser hpass
        obtain ⟨husername, hpassword⟩ :=
          ConnectionUrl.credentials_of_parse_colon hinput huser hpass hparse
        simp only [withUrl, husername, hpassword]
        by_cases hpassEmpty : pass = []
        · subst hpassEmpty
          obtain rfl : p = [] := by cases hpass; rfl
          by_cases huserEmpty : user = []
          · subst huserEmpty
            obtain rfl : u = [] := by cases huser; rfl
            simp [ConnectionUrl.textOf_nil, and_comm]
          · simp [huserEmpty, ConnectionUrl.textOf_nil]
        · simp [hpassEmpty]
      · intro u hne huser
        obtain ⟨husername, hpassword⟩ :=
          ConnectionUrl.credentials_of_parse_user hinput hne huser hparse
        simp only [withUrl, husername, hpassword]
        constructor <;> rfl

attribute [local instance] DomainNames.asciiOnly in
/-- The empty password of the URL leaves the password of an earlier user in place. -/
theorem setUrl_userinfo_alice :
  let c : Config := { username := some "old", password := "stale" }
  let input := "postgres://alice:@h/d"
  ConnectionUrl.HasUserinfo input ("alice".toList ++ [':'])
    ∧ ∃ c', (c.setUrl input).result = .ok c'
      ∧ c'.username = some "alice" ∧ c'.password = "stale"
      ∧ ¬ (c'.username = some "alice" ∧ c'.password = "")
  := by
  intro c input
  have hinput : ConnectionUrl.HasUserinfo input ("alice".toList ++ [':']) := by
    use "postgres".toList, ['h'], ['d']
    have hscheme : Url.Scheme.IsText "postgres".toList :=
      { head := ⟨'p', "ostgres".toList, rfl, rfl⟩
        parts := by simp [Url.Scheme.isPart, Char.isAlphanum, Char.isAlpha, Char.isLower] }
    use hscheme, rfl, by simp, by simp
    decide +kernel
  use hinput
  have hset : (c.setUrl input).result = .ok (c.withUrl input
      ⟨"postgresql", some "alice", none, some "h", none, "/d", none⟩) := by decide +kernel
  have huser : Url.Percent.Spells ConnectionUrl.isInfoChar "alice".toList
      [0x61, 0x6C, 0x69, 0x63, 0x65] :=
    .char rfl (.char rfl (.char rfl (.char rfl (.char rfl .nil))))
  obtain ⟨husername, hpassword, hiff⟩ := (setUrl_userinfo hinput hset).1 "alice".toList [] _ _ rfl
    huser .nil
  refine ⟨_, hset, husername, hpassword, ?_⟩
  intro hboth
  have hcondition := hiff.mp hboth
  simp [c] at hcondition

attribute [local instance] DomainNames.asciiOnly in
/-- A password that is not empty is taken over with its escapes resolved, and may have colons. -/
example :
  let c : Config := { username := some "old", password := "stale" }
  (c.setUrl "postgres://:s%40:t@h/d").result.toOption.map (fun c => (c.username, c.password))
    = some (some "", "s@:t")
  := by decide +kernel

end Config

end Provision
