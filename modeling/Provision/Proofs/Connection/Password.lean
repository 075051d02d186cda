import Mathlib
import Provision.Proofs.Connection.Canonical

/-!
# Passwords in URLs

Of two URLs that differ in their password only, either both can be read or neither can, and
what is read differs in the password only. So nothing that a connection URL shows besides its
password depends on it, save for whether there is one.
-/

namespace Provision

namespace Url

/-! ### What is left without the password -/

/-- The authority with nothing left of its password but that it is there. -/
def Authority.masked (a : Authority) : Authority :=
  { a with password := a.password.map fun _ => [] }

/-- The URL with nothing left of its password but that it is there. -/
def masked (url : Url) : Url :=
  { url with authority := url.authority.map Authority.masked }

theorem toOption_map {ε α β : Type} (f : α → β) (x : Except ε α) :
  (x.map f).toOption = x.toOption.map f
  := by
  cases x <;> rfl

/-! ### The text in front of a password -/

/-- The slashes between a scheme and an authority: two of them, which may lean back for a file,
and any number of them leaning either way for another special scheme. -/
def AreLeading (kind : SchemeKind) (slashes : List Char) : Prop :=
  match kind with
  | .other => slashes = ['/', '/']
  | .file => ∃ c d, slashes = [c, d] ∧ isSlash .file c = true ∧ isSlash .file d = true
  | .special => ∀ c ∈ slashes, isSlash .special c = true

theorem areLeading_slashes (kind : SchemeKind) :
  AreLeading kind ['/', '/']
  := by
  cases kind with
  | other => rfl
  | file => exact ⟨'/', '/', rfl, rfl, rfl⟩
  | special => simp [AreLeading, isSlash]

/-- The text ends with the user of an authority and the colon after it. -/
inductive OpensPassword : List Char → Prop where
  | absolute {scheme slashes user : List Char} (hscheme : ':' ∉ scheme)
      (hslashes : AreLeading (Scheme.kind (scheme.map Char.toLower)) slashes)
      (huser : ∀ c ∈ user, c ≠ ':'
        ∧ endsAuthority (Scheme.kind (scheme.map Char.toLower)) c = false) :
    OpensPassword (scheme ++ ':' :: (slashes ++ (user ++ [':'])))
  | relative (user : List Char) :
    OpensPassword ('/' :: '/' :: (user ++ [':']))

/-- A character that may stand in a password. -/
def isSecret (c : Char) : Bool :=
  !isOuter c && !endsAuthority .special c

variable {front pass pass' back rest scheme user info : List Char}

theorem of_isSecret {c : Char} (h : isSecret c = true) :
  0x20 < c.toNat ∧ ∀ kind, endsAuthority kind c = false
  := by
  rw [isSecret, Bool.and_eq_true, Bool.not_eq_true', Bool.not_eq_true', isOuter,
    decide_eq_false_iff_not] at h
  use by omega
  have hspecial := h.2
  intro kind
  cases kind with
  | file => apply hspecial
  | special => apply hspecial
  | other =>
      simp only [endsAuthority, isSlash, Bool.or_eq_false_iff] at hspecial ⊢
      exact ⟨⟨hspecial.1.1, rfl⟩, hspecial.2⟩

/-- The beginning of a URL up to its password. -/
def opening (scheme user : List Char) : List Char :=
  scheme ++ ':' :: (['/', '/'] ++ (user ++ [':']))

section

variable (hscheme : Scheme.IsText scheme) (huser : ∀ c ∈ user, c ≠ ':' ∧ isSecret c = true)
include hscheme huser

theorem opensPassword_opening :
  OpensPassword (opening scheme user)
  := by
  apply OpensPassword.absolute hscheme.colon_notMem (areLeading_slashes _)
  · intro c hc
    use (huser c hc).1
    apply (of_isSecret (huser c hc).2).2

theorem isVisible_opening :
  IsVisible (opening scheme user)
  := by
  apply IsVisible.append fun c hc => Scheme.lt_toNat_of_isPart (hscheme.parts c hc)
  apply IsVisible.cons (by decide)
  apply IsVisible.append (by simp [IsVisible])
  apply IsVisible.append fun c hc => (of_isSecret (huser c hc).2).1
  simp [IsVisible]

end

/-! ### Blanks -/

/-- What counts of a text with a password in it. -/
theorem visible_trim (hfront : front.dropWhile isOuter ≠ []) (hpass : IsVisible pass)
    (back : List Char) :
  visible (trim (front ++ pass ++ '@' :: back))
    = visible (front.dropWhile isOuter)
      ++ (pass ++ '@' :: visible (back.reverse.dropWhile isOuter).reverse)
  := by
  rw [visible_trim_append _ (by decide), dropWhile_isOuter_append hfront, visible_append,
    visible_of_isVisible hpass, List.append_assoc]

theorem visible_afterColon (s : List Char) :
  visible (afterColon s) = afterColon (visible s)
  := by
  induction s with
  | nil => rfl
  | cons c s ih =>
      by_cases hc : c = ':'
      · subst hc
        rw [visible_cons (by decide)]
        rfl
      · have hdrop (t : List Char) : afterColon (c :: t) = afterColon t := by
          rw [afterColon, List.dropWhile_cons_of_pos (by simpa using hc), ← afterColon]
        rw [hdrop, ih]
        cases hignored : isIgnored c with
        | true => rw [visible, visible, List.filter_cons_of_neg (by simp [hignored])]
        | false =>
            rw [visible, visible, List.filter_cons_of_pos (by simp [hignored]), ← visible, hdrop]

/-- The first slash that counts is found behind what does not count. -/
theorem exists_afterSlash? {s : List Char} {c : Char} (hc : isSlash .file c = true)
    (h : visible s = c :: rest) :
  ∃ after, afterSlash? s = some after ∧ visible after = rest
  := by
  induction s with
  | nil => cases h
  | cons d s ih =>
      cases hignored : isIgnored d with
      | true =>
          rw [visible, List.filter_cons_of_neg (by simp [hignored])] at h
          rw [afterSlash?, List.dropWhile_cons_of_pos hignored]
          apply ih h
      | false =>
          rw [visible, List.filter_cons_of_pos (by simp [hignored])] at h
          obtain ⟨rfl, rfl⟩ := List.cons.inj h
          use s
          rw [afterSlash?, List.dropWhile_cons_of_neg (by simp [hignored])]
          simp only [hc, if_true, true_and]
          rfl

/-- What does not count ends no authority. -/
theorem visible_takeWhile (kind : SchemeKind) (s : List Char) :
  visible (s.takeWhile (!endsAuthority kind ·)) = (visible s).takeWhile (!endsAuthority kind ·)
  := by
  induction s with
  | nil => rfl
  | cons c s ih =>
      cases hignored : isIgnored c with
      | true =>
          have hends : endsAuthority kind c = false := by
            rw [isIgnored, Bool.or_eq_true, Bool.or_eq_true, beq_iff_eq, beq_iff_eq, beq_iff_eq]
              at hignored
            obtain (rfl | rfl) | rfl := hignored
            all_goals cases kind <;> rfl
          rw [List.takeWhile_cons_of_pos (by simp [hends]), visible, visible,
            List.filter_cons_of_neg (by simp [hignored]),
            List.filter_cons_of_neg (by simp [hignored])]
          apply ih
      | false =>
          rw [visible, visible, List.filter_cons_of_pos (by simp [hignored])]
          cases hends : endsAuthority kind c with
          | true =>
              rw [List.takeWhile_cons_of_neg (by simp [hends]),
                List.takeWhile_cons_of_neg (by simp [hends])]
              rfl
          | false =>
              rw [List.takeWhile_cons_of_pos (by simp [hends]),
                List.takeWhile_cons_of_pos (by simp [hends]),
                List.filter_cons_of_pos (by simp [hignored])]
              congr 1

/-! ### Authorities -/

/-- What follows the credentials begins after the last sign that ends them. -/
theorem exists_last_at (s : List Char) :
  ∃ more place, '@' :: s = more ++ '@' :: place ∧ '@' ∉ place
  := by
  induction s using List.reverseRecOn with
  | nil => use [], [], rfl, List.not_mem_nil
  | append_singleton s c ih =>
      by_cases hc : c = '@'
      · subst hc
        use '@' :: s, [], rfl, List.not_mem_nil
      · obtain ⟨more, place, heq, hplace⟩ := ih
        use more, place ++ [c]
        constructor
        · rw [← List.cons_append, heq, List.append_assoc, List.cons_append]
        · simp [hplace, Ne.symm hc]

theorem endsAuthority_at (kind : SchemeKind) :
  endsAuthority kind '@' = false
  := by
  cases kind <;> rfl

/-- The authority is the part of a text in front of what ends it, cut at the last sign that ends
credentials. -/
theorem exists_cut_authority (kind : SchemeKind) (rest : List Char) :
  ∃ more place after, '@' :: rest = more ++ '@' :: place ++ after
    ∧ (∀ c ∈ more ++ '@' :: place, endsAuthority kind c = false)
    ∧ '@' ∉ place
    ∧ ∀ c, after.head? = some c → endsAuthority kind c = true
  := by
  obtain ⟨more, place, hplace, hat⟩ := exists_last_at (rest.takeWhile (!endsAuthority kind ·))
  use more, place, rest.dropWhile (!endsAuthority kind ·)
  rw [← hplace, List.cons_append, List.takeWhile_append_dropWhile]
  use rfl
  constructor
  · intro c hc
    obtain rfl | hc := List.mem_cons.mp hc
    · apply endsAuthority_at
    · simpa using List.mem_takeWhile_imp hc
  · use hat
    intro c hc
    apply endsAuthority_of_head? hc

variable [DomainNames]

theorem authorityIn_masked (huser : ':' ∉ user) (hempty : pass = [] ↔ pass' = [])
    (place rest : List Char) :
  (authorityIn scheme (some (user ++ ':' :: pass)) place rest).map
      (fun found => (found.1.masked, found.2))
    = (authorityIn scheme (some (user ++ ':' :: pass')) place rest).map
      (fun found => (found.1.masked, found.2))
  := by
  have hcredentials (p : List Char) : credentials (user ++ ':' :: p)
      = (Percent.encode Percent.userinfo user,
          if p.isEmpty then none else some (Percent.encode Percent.userinfo p)) :=
    ConnectionUrl.credentials_colon huser
  rw [authorityIn, authorityIn, if_neg (by simp), if_neg (by simp)]
  cases hostAndPort scheme place with
  | error fault => rfl
  | ok found =>
      simp only [Except.bind, Option.getD_some, hcredentials]
      by_cases hpass : pass = []
      · rw [hpass, hempty.mp hpass]
      · have hpass' : pass' ≠ [] := fun h => hpass (hempty.mpr h)
        simp only [List.isEmpty_iff, hpass, hpass', if_false, ne_eq, reduceCtorEq,
          not_false_eq_true, or_true, and_true]
        split_ifs <;> rfl

/-- Where an authority ends does not depend on what stands in front of a sign that ends
credentials. -/
theorem exists_authorityOf_eq (scheme rest : List Char) :
  ∃ more place after, ∀ info : List Char,
    (∀ c ∈ info, endsAuthority (Scheme.kind scheme) c = false) →
      authorityOf scheme (info ++ '@' :: rest)
        = authorityIn scheme (some (info ++ more)) place after
  := by
  obtain ⟨more, place, after, hcut, hends, hat, hafter⟩ :=
    exists_cut_authority (Scheme.kind scheme) rest
  use more, place, after
  intro info hinfo
  have htext : info ++ '@' :: rest = userinfoText (some (info ++ more)) ++ place ++ after := by
    rw [hcut]
    simp [userinfoText]
  rw [htext]
  apply authorityOf_append
  · rintro s ⟨⟩ c hc
    obtain hc | hc := List.mem_append.mp hc
    · apply hinfo c hc
    · apply hends c (List.mem_append_left _ hc)
  · intro c hc
    apply hends c (List.mem_append_right _ (List.mem_cons_of_mem _ hc))
  · apply hat
  · apply hafter

section

variable (huser : ∀ c ∈ user, c ≠ ':' ∧ endsAuthority (Scheme.kind scheme) c = false)
  (hpass : ∀ c ∈ pass, endsAuthority (Scheme.kind scheme) c = false)
  (hpass' : ∀ c ∈ pass', endsAuthority (Scheme.kind scheme) c = false)
  (hempty : pass = [] ↔ pass' = [])
include huser

omit [DomainNames] in
theorem endsAuthority_userinfo (hpass : ∀ c ∈ pass, endsAuthority (Scheme.kind scheme) c = false) :
  ∀ c ∈ user ++ ':' :: pass, endsAuthority (Scheme.kind scheme) c = false
  := by
  intro c hc
  obtain hc | hc := List.mem_append.mp hc
  · apply (huser c hc).2
  · obtain rfl | hc := List.mem_cons.mp hc
    · cases Scheme.kind scheme <;> rfl
    · apply hpass c hc

include hpass hpass' hempty

/-- Of an authority only the password depends on the text of the password. -/
theorem authorityOf_masked (rest : List Char) :
  (authorityOf scheme (user ++ ':' :: pass ++ '@' :: rest)).map
      (fun found => (found.1.masked, found.2))
    = (authorityOf scheme (user ++ ':' :: pass' ++ '@' :: rest)).map
      (fun found => (found.1.masked, found.2))
  := by
  obtain ⟨more, place, after, hread⟩ := exists_authorityOf_eq scheme rest
  have hmore (p : List Char) : user ++ ':' :: p ++ more = user ++ ':' :: (p ++ more) := by simp
  rw [hread _ (endsAuthority_userinfo huser hpass), hread _ (endsAuthority_userinfo huser hpass'),
    hmore, hmore]
  apply authorityIn_masked
  · intro hmem
    apply (huser ':' hmem).1 rfl
  · rw [List.append_eq_nil_iff, List.append_eq_nil_iff, hempty]

theorem withAuthority_masked (rest : List Char) :
  (withAuthority scheme (user ++ ':' :: pass ++ '@' :: rest)).map masked
    = (withAuthority scheme (user ++ ':' :: pass' ++ '@' :: rest)).map masked
  := by
  have hmasked (s : List Char) : (withAuthority scheme s).map masked
      = ((authorityOf scheme s).map fun found => (found.1.masked, found.2)).map fun found =>
        assemble scheme (some found.1) (pathOf (Scheme.kind scheme) found.2).1
          (pathOf (Scheme.kind scheme) found.2).2 := by
    rw [withAuthority]
    cases authorityOf scheme s <;> rfl
  rw [hmasked, hmasked, authorityOf_masked huser hpass hpass' hempty]

end

/-- The authority of a remote URL begins behind the slashes that lead to it. -/
theorem remoteOf_leading {slashes : List Char} (hkind : Scheme.kind scheme ≠ .file)
    (hslashes : AreLeading (Scheme.kind scheme) slashes)
    (hinfo : ∀ c ∈ info, endsAuthority (Scheme.kind scheme) c = false) (rest : List Char) :
  remoteOf scheme (slashes ++ (info ++ '@' :: rest)) = withAuthority scheme (info ++ '@' :: rest)
  := by
  cases hscheme : Scheme.kind scheme with
  | file => exact absurd hscheme hkind
  | other =>
      rw [hscheme] at hslashes
      obtain rfl : slashes = ['/', '/'] := hslashes
      have hspecial : SchemeKind.other.isSpecial = false := rfl
      simp only [remoteOf, hscheme, hspecial, Bool.false_eq_true, if_false]
      rfl
  | special =>
      rw [hscheme] at hslashes hinfo
      have hdrop : (info ++ '@' :: rest).dropWhile (isSlash .special) = info ++ '@' :: rest := by
        cases info with
        | nil => rw [List.nil_append, List.dropWhile_cons_of_neg (by decide)]
        | cons c others =>
            have hc := hinfo c List.mem_cons_self
            rw [endsAuthority, Bool.or_eq_false_iff] at hc
            rw [List.cons_append, List.dropWhile_cons_of_neg (by simp [hc.1])]
      have hspecial : SchemeKind.special.isSpecial = true := rfl
      simp only [remoteOf, hscheme, hspecial, if_true]
      rw [List.dropWhile_append_of_pos hslashes, hdrop]

/-! ### File URLs -/

variable [LawfulDomainNames]

/-- A file URL has no credentials, so what would end them belongs to a host and cannot be read. -/
theorem exists_withFileHost_eq_error {s : List Char}
    (hinfo : ∀ c ∈ info, endsAuthority .file c = false) (h : visible s = info ++ '@' :: rest) :
  ∃ fault, withFileHost s = .error fault
  := by
  have hat : '@' ∈ visible (s.takeWhile (!endsAuthority .file ·)) := by
    rw [visible_takeWhile, h, List.takeWhile_append_of_pos (by simpa using hinfo),
      List.takeWhile_cons_of_pos (by decide)]
    simp
  have hdrive : Path.isDrive (visible (s.takeWhile (!endsAuthority .file ·))) = false := by
    generalize visible (s.takeWhile (!endsAuthority .file ·)) = name at hat
    unfold Path.isDrive
    split
    · rename_i letter mark
      simp only [List.mem_cons, List.not_mem_nil, or_false] at hat
      obtain rfl | rfl := hat
      · rfl
      · simp
    · rfl
  obtain ⟨fault, hfault⟩ := Host.exists_ofDomain_eq_error hat
  use fault
  rw [withFileHost_eq, ofFileHost, hdrive, if_neg Bool.false_ne_true, if_neg, hfault]
  · rfl
  · rw [List.isEmpty_iff]
    apply List.ne_nil_of_mem hat

theorem exists_ofFile_eq_error {s : List Char} {slashes : List Char}
    (hslashes : AreLeading .file slashes) (hinfo : ∀ c ∈ info, endsAuthority .file c = false)
    (h : visible s = slashes ++ (info ++ '@' :: rest)) :
  ∃ fault, ofFile s = .error fault
  := by
  obtain ⟨c, d, rfl, hc, hd⟩ := hslashes
  obtain ⟨after, hafter, hvisible⟩ := exists_afterSlash? hc h
  obtain ⟨name, hname, hvisible⟩ := exists_afterSlash? hd hvisible
  obtain ⟨fault, hfault⟩ := exists_withFileHost_eq_error hinfo hvisible
  use fault
  simp only [ofFile, hafter, hname, hfault]

/-! ### Any URL -/

/-- A file URL with credentials cannot be read. -/
theorem parse_of_file {s slashes : List Char} (hscheme : Scheme.IsText scheme)
    (hkind : Scheme.kind (scheme.map Char.toLower) = .file) (hslashes : AreLeading .file slashes)
    (hinfo : ∀ c ∈ info, endsAuthority .file c = false)
    (hs : visible (trim s) = scheme ++ ':' :: (slashes ++ (info ++ '@' :: rest))) :
  (parse s).toOption = none
  := by
  have hafter : visible (afterColon (trim s)) = slashes ++ (info ++ '@' :: rest) := by
    rw [visible_afterColon, hs, afterColon_append hscheme.colon_notMem]
  obtain ⟨fault, hfault⟩ := exists_ofFile_eq_error hslashes hinfo hafter
  rw [parse_eq, hs, Scheme.read?_append hscheme]
  simp only [hkind, if_true, hfault]
  rfl

/-- What is read of a text that opens a password depends on the password only in its place. -/
theorem parse_masked_of_visible {s s' f : List Char} (hopens : OpensPassword f)
    (hpass : ∀ c ∈ pass, isSecret c = true) (hpass' : ∀ c ∈ pass', isSecret c = true)
    (hempty : pass = [] ↔ pass' = []) (hs : visible (trim s) = f ++ (pass ++ '@' :: rest))
    (hs' : visible (trim s') = f ++ (pass' ++ '@' :: rest)) :
  (parse s).toOption.map masked = (parse s').toOption.map masked
  := by
  cases hopens with
  | relative user =>
      rw [parse_eq, parse_eq, hs, hs']
      rfl
  | @absolute scheme slashes user hscheme hslashes huser =>
      have htext (p : List Char) :
          scheme ++ ':' :: (slashes ++ (user ++ [':'])) ++ (p ++ '@' :: rest)
          = scheme ++ ':' :: (slashes ++ (user ++ ':' :: p ++ '@' :: rest)) := by simp
      have hends {p : List Char} (hp : ∀ c ∈ p, isSecret c = true) :
          ∀ c ∈ p, endsAuthority (Scheme.kind (scheme.map Char.toLower)) c = false :=
        fun c hc => (of_isSecret (hp c hc)).2 _
      have hinfo := endsAuthority_userinfo huser (hends hpass)
      have hinfo' := endsAuthority_userinfo huser (hends hpass')
      rw [htext] at hs hs'
      obtain hnone | hread := Scheme.read?_colon hscheme
      · rw [parse_eq, parse_eq, hs, hs', hnone, hnone]
      · by_cases hkind : Scheme.kind (scheme.map Char.toLower) = .file
        · rw [hkind] at hslashes hinfo hinfo'
          rw [parse_of_file hread hkind hslashes hinfo hs,
            parse_of_file hread hkind hslashes hinfo' hs']
        · have hmasked := withAuthority_masked huser (hends hpass) (hends hpass') hempty rest
          rw [parse_eq, parse_eq, hs, hs', Scheme.read?_append hread, Scheme.read?_append hread]
          simp only [hkind, if_false, remoteOf_leading hkind hslashes hinfo,
            remoteOf_leading hkind hslashes hinfo']
          rw [← toOption_map, ← toOption_map, hmasked]

/-- Of what a URL is read as, only the password depends on the text of the password, and whether
it can be read does not. -/
theorem parse_masked (hopens : OpensPassword (visible (front.dropWhile isOuter)))
    (hpass : ∀ c ∈ pass, isSecret c = true) (hpass' : ∀ c ∈ pass', isSecret c = true)
    (hempty : pass = [] ↔ pass' = []) (back : List Char) :
  (parse (front ++ pass ++ '@' :: back)).toOption.map masked
    = (parse (front ++ pass' ++ '@' :: back)).toOption.map masked
  := by
  have hfront : front.dropWhile isOuter ≠ [] := by
    intro hnil
    rw [hnil] at hopens
    generalize hf : visible [] = f at hopens
    cases hopens <;> simp [visible] at hf
  have htrim {p : List Char} (hp : ∀ c ∈ p, isSecret c = true) :=
    visible_trim hfront (fun c hc => (of_isSecret (hp c hc)).1) back
  apply parse_masked_of_visible hopens hpass hpass' hempty (htrim hpass) (htrim hpass')

end Url

namespace ConnectionUrl

/-! ### Connection URLs -/

/-- The connection URL with nothing left of its password but that it is there. -/
def masked (url : ConnectionUrl) : ConnectionUrl :=
  { url with password := url.password.map fun _ => "" }

/-- The texts differ in nothing but the password of a URL, and not in its number of bytes. -/
def DifferInPassword (input other : String) : Prop :=
  ∃ front pass pass' back : List Char,
    input.toList = front ++ pass ++ '@' :: back
      ∧ other.toList = front ++ pass' ++ '@' :: back
      ∧ Url.OpensPassword
        (Url.visible ((withoutPrefix (String.ofList front)).dropWhile Url.isOuter))
      ∧ (∀ c ∈ pass, Url.isSecret c = true)
      ∧ (∀ c ∈ pass', Url.isSecret c = true)
      ∧ (String.ofList pass).utf8ByteSize = (String.ofList pass').utf8ByteSize

variable {input other : String}

theorem colon_mem_of_opensPassword {s : List Char} (h : Url.OpensPassword s) :
  ':' ∈ s
  := by
  cases h <;> simp

/-- Whether a text begins with a word and a mark is settled where it has the mark first. -/
theorem isPrefixOf?_append_of_mem {mark : Char} {word front : List Char} (hword : mark ∉ word)
    (hfront : mark ∈ front) (rest : List Char) :
  (word ++ [mark]).isPrefixOf? (front ++ rest)
    = ((word ++ [mark]).isPrefixOf? front).map (· ++ rest)
  := by
  induction word generalizing front with
  | nil =>
      obtain ⟨c, others, rfl⟩ := List.exists_cons_of_ne_nil (List.ne_nil_of_mem hfront)
      simp only [List.nil_append, List.cons_append, List.isPrefixOf?]
      split_ifs <;> rfl
  | cons d word ih =>
      obtain ⟨c, others, rfl⟩ := List.exists_cons_of_ne_nil (List.ne_nil_of_mem hfront)
      rw [List.mem_cons, not_or] at hword
      simp only [List.cons_append, List.isPrefixOf?]
      split_ifs with hsame
      · obtain rfl := eq_of_beq hsame
        apply ih hword.2 ((List.mem_cons.mp hfront).resolve_left hword.1)
      · rfl

theorem mem_of_mem_withoutPrefix {s : String} {c : Char} (h : c ∈ withoutPrefix s) :
  c ∈ s.toList
  := by
  rw [withoutPrefix] at h
  cases hinner : jdbcPrefix.toList.isPrefixOf? s.toList with
  | none =>
      rw [hinner] at h
      apply h
  | some inner =>
      rw [hinner] at h
      rw [← List.isPrefixOf?_eq_some_iff_append_eq.mp hinner]
      apply List.mem_append_right _ h

/-- The prefix of a normal form ends with its first colon. -/
theorem withoutPrefix_append_of_mem {front : List Char} (h : ':' ∈ front) (rest : List Char) :
  withoutPrefix (String.ofList (front ++ rest)) = withoutPrefix (String.ofList front) ++ rest
  := by
  have hword : ':' ∉ ['j', 'd', 'b', 'c'] := by decide
  have hprefix : jdbcPrefix.toList = ['j', 'd', 'b', 'c'] ++ [':'] := by decide
  rw [withoutPrefix, withoutPrefix, String.toList_ofList, String.toList_ofList, hprefix,
    isPrefixOf?_append_of_mem hword h]
  cases (['j', 'd', 'b', 'c'] ++ [':']).isPrefixOf? front <;> rfl

theorem toOption_parse [DomainNames] (input : String) :
  (parse input).toOption = (Url.parse (withoutPrefix input)).toOption.bind ofUrl?
  := by
  rw [parse_eq_ofReading]
  cases Url.parse (withoutPrefix input) with
  | error fault => rfl
  | ok url => cases hof : ofUrl? url <;> simp [ofReading, Except.mapError, Except.toOption, hof]

theorem map_masked_ofUrl? (url : Url) :
  (ofUrl? url).map masked = ofUrl? url.masked
  := by
  have hpath : url.masked.path = url.path := rfl
  unfold ofUrl?
  rw [hpath]
  split
  · rfl
  · rfl
  · obtain ⟨scheme, authority, path, query, fragment⟩ := url
    cases authority with
    | none => rfl
    | some authority =>
        obtain ⟨username, password, host, port⟩ := authority
        cases password <;> rfl

/-- Text that a password may be spelled with may stand in one. -/
theorem isSecret_of_spells {s : List Char} {bytes : List UInt8}
    (h : Url.Percent.Spells isInfoChar s bytes) :
  ∀ c ∈ s, Url.isSecret c = true
  := by
  apply forall_mem_of_spells (p := fun c => Url.isSecret c = true) _ _ h
  · intro c hc
    apply isQueryChar_of_isPathChar
    rw [isPathChar, isPasswordChar, hc]
    rfl
  · decide +kernel

/-- URLs whose passwords are spelled in the same number of bytes differ in their passwords,
whatever their scheme and their user are and whatever follows. -/
theorem differInPassword_of_spells {scheme user pass pass' : List Char} {bytes bytes' : List UInt8}
    (hscheme : Url.Scheme.IsText scheme)
    (huser : ∀ c ∈ user, c ≠ ':' ∧ Url.isSecret c = true)
    (hpass : Url.Percent.Spells isInfoChar pass bytes)
    (hpass' : Url.Percent.Spells isInfoChar pass' bytes')
    (hsize : (String.ofList pass).utf8ByteSize = (String.ofList pass').utf8ByteSize)
    (back : List Char) :
  DifferInPassword (jdbcPrefix ++ String.ofList (Url.opening scheme user ++ (pass ++ '@' :: back)))
    (jdbcPrefix ++ String.ofList (Url.opening scheme user ++ (pass' ++ '@' :: back)))
  := by
  use jdbcPrefix.toList ++ Url.opening scheme user, pass, pass', back
  use by simp, by simp
  rw [String.ofList_append, String.ofList_toList, withoutPrefix_append,
    Url.dropWhile_isOuter (Url.isVisible_opening hscheme huser),
    Url.visible_of_isVisible (Url.isVisible_opening hscheme huser)]
  use Url.opensPassword_opening hscheme huser
  use isSecret_of_spells hpass, isSecret_of_spells hpass', hsize

namespace DifferInPassword

variable (h : DifferInPassword input other)
include h

theorem utf8ByteSize_eq :
  input.utf8ByteSize = other.utf8ByteSize
  := by
  obtain ⟨front, pass, pass', back, hinput, hother, -, -, -, hsize⟩ := h
  rw [← String.ofList_toList (s := input), ← String.ofList_toList (s := other), hinput, hother]
  simp [String.ofList_append, hsize]

/-- What is read of the texts differs in nothing but the password. -/
theorem parse_masked [DomainNames] [LawfulDomainNames] :
  (parse input).toOption.map masked = (parse other).toOption.map masked
  := by
  obtain ⟨front, pass, pass', back, hinput, hother, hopens, hpass, hpass', hsize⟩ := h
  have hcolon : ':' ∈ front := by
    rw [← String.toList_ofList (l := front)]
    apply mem_of_mem_withoutPrefix
    apply (List.dropWhile_sublist Url.isOuter).mem
    apply Url.mem_of_mem_visible
    apply colon_mem_of_opensPassword hopens
  have htext {s : String} {p : List Char} (hs : s.toList = front ++ p ++ '@' :: back) :
      withoutPrefix s = withoutPrefix (String.ofList front) ++ p ++ '@' :: back := by
    rw [← String.ofList_toList (s := s), hs, List.append_assoc, withoutPrefix_append_of_mem hcolon,
      List.append_assoc]
  have hempty : pass = [] ↔ pass' = [] := by
    have hzero (p : List Char) : (String.ofList p).utf8ByteSize = 0 ↔ p = [] := by
      rw [String.utf8ByteSize_eq_zero_iff, String.ofList_eq_empty_iff]
    rw [← hzero, ← hzero, hsize]
  have hmasked := Url.parse_masked hopens hpass hpass' hempty back
  have hmap (x : Option Url) : (x.bind ofUrl?).map masked = (x.map Url.masked).bind ofUrl? := by
    cases x with
    | none => rfl
    | some url => apply map_masked_ofUrl?
  rw [toOption_parse, toOption_parse, htext hinput, htext hother, hmap, hmap, hmasked]

end DifferInPassword

end ConnectionUrl

end Provision
