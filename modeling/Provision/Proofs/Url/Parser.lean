import Mathlib
import Provision.Proofs.Url.Authority
import Provision.Proofs.Url.Path

/-!
# URLs that read as themselves

What `Url.parse` gives is in normal form, whatever the text was. Written without its
credentials, a URL in normal form is read as what was written, unless it is a file URL.
-/

namespace Provision.Url

/-! ### Blanks -/

/-- A text without blanks and controls. -/
def IsVisible (s : List Char) : Prop :=
  ∀ c ∈ s, 0x20 < c.toNat

theorem isIgnored_eq_false {c : Char} (h : 0x20 < c.toNat) :
  isIgnored c = false
  := by
  simp only [isIgnored, Bool.or_eq_false_iff, beq_eq_false_iff_ne]
  constructor
  · constructor
    · rintro rfl
      revert h
      decide
    · rintro rfl
      revert h
      decide
  · rintro rfl
    revert h
    decide

theorem IsVisible.append {s t : List Char} (hs : IsVisible s) (ht : IsVisible t) :
  IsVisible (s ++ t)
  := by
  intro c hc
  obtain hc | hc := List.mem_append.mp hc
  · apply hs c hc
  · apply ht c hc

theorem IsVisible.cons {s : List Char} {c : Char} (hc : 0x20 < c.toNat) (hs : IsVisible s) :
  IsVisible (c :: s)
  := IsVisible.append (s := [c]) (by simpa [IsVisible] using hc) hs

/-- Nothing is taken away from a text without blanks and controls. -/
theorem visible_of_isVisible {s : List Char} (h : IsVisible s) :
  visible s = s
  := by
  apply List.filter_eq_self.mpr
  intro c hc
  rw [isIgnored_eq_false (h c hc)]
  rfl

theorem visible_append (s t : List Char) :
  visible (s ++ t) = visible s ++ visible t
  := List.filter_append ..

theorem visible_cons {c : Char} (h : 0x20 < c.toNat) (s : List Char) :
  visible (c :: s) = c :: visible s
  := List.filter_cons_of_pos (by simp [isIgnored_eq_false h])

/-- A character that does not count at the ends of a text. -/
def isOuter (c : Char) : Bool :=
  c.toNat ≤ 0x20

theorem trim_eq (s : List Char) :
  trim s = ((s.dropWhile isOuter).reverse.dropWhile isOuter).reverse
  := rfl

theorem dropWhile_isOuter {s : List Char} (h : IsVisible s) :
  s.dropWhile isOuter = s
  := by
  cases s with
  | nil => rfl
  | cons c s =>
      have hc := h c List.mem_cons_self
      rw [List.dropWhile_cons_of_neg]
      simpa [isOuter] using hc

theorem trim_of_isVisible {s : List Char} (h : IsVisible s) :
  trim s = s
  := by
  have hreverse : IsVisible s.reverse := fun c hc => h c (List.mem_reverse.mp hc)
  rw [trim_eq, dropWhile_isOuter h, dropWhile_isOuter hreverse, List.reverse_reverse]

theorem dropWhile_isOuter_append {front : List Char} (h : front.dropWhile isOuter ≠ [])
    (rest : List Char) :
  (front ++ rest).dropWhile isOuter = front.dropWhile isOuter ++ rest
  := by
  rw [List.dropWhile_append, if_neg (by simpa using h)]

/-- At its beginning a text loses nothing of what stands behind a character that counts. -/
theorem dropWhile_isOuter_append_cons (front : List Char) {mark : Char}
    (hmark : isOuter mark = false) (back : List Char) :
  (front ++ mark :: back).dropWhile isOuter = front.dropWhile isOuter ++ mark :: back
  := by
  rw [List.dropWhile_append]
  split_ifs with hempty
  · rw [List.isEmpty_iff.mp hempty, List.dropWhile_cons_of_neg (by simp [hmark]),
      List.nil_append]
  · rfl

/-- At its ends a text loses only what stands in front of the first and behind the last character
that counts. -/
theorem trim_append (front : List Char) {mark : Char} (hmark : isOuter mark = false)
    (back : List Char) :
  trim (front ++ mark :: back)
    = front.dropWhile isOuter ++ mark :: (back.reverse.dropWhile isOuter).reverse
  := by
  rw [trim_eq, dropWhile_isOuter_append_cons front hmark, List.reverse_append, List.reverse_cons,
    List.append_assoc, List.singleton_append, dropWhile_isOuter_append_cons _ hmark]
  simp

/-- What counts of a text is what counts in front of a character that counts, and behind it. -/
theorem visible_trim_append (front : List Char) {mark : Char} (hmark : 0x20 < mark.toNat)
    (back : List Char) :
  visible (trim (front ++ mark :: back))
    = visible (front.dropWhile isOuter)
      ++ mark :: visible (back.reverse.dropWhile isOuter).reverse
  := by
  have houter : isOuter mark = false := by simpa [isOuter] using hmark
  rw [trim_append front houter, visible_append, visible_cons hmark]

/-- Only at its end does a text lose anything that stands behind a slash. -/
theorem exists_visible_trim {s : List Char} {c : Char} (hhead : s.head? = some c)
    (hc : 0x20 < c.toNat) (path : List Char) :
  ∃ path', visible (trim (s ++ '/' :: path)) = visible s ++ '/' :: path'
  := by
  have hfront : s.dropWhile isOuter = s := by
    cases s with
    | nil => rfl
    | cons d rest =>
        obtain rfl := Option.some.inj hhead
        rw [List.dropWhile_cons_of_neg]
        simpa [isOuter] using hc
  use visible (path.reverse.dropWhile isOuter).reverse
  rw [visible_trim_append s (by decide), hfront]

/-! ### Query and fragment -/

variable {kind : SchemeKind} {query : Option (List Char)}

/-- The query is in its escaped form, if there is one. -/
def IsQuery (kind : SchemeKind) (query : Option (List Char)) : Prop :=
  ∀ q, query = some q → Percent.IsPlain (escapedInQuery kind) q

theorem isQuery_tailOf (kind : SchemeKind) (s : List Char) :
  IsQuery kind (tailOf kind s).1
  := by
  intro q hq
  change (if s.head? = some '?' then some (Percent.encode (escapedInQuery kind) _) else none)
    = some q at hq
  split_ifs at hq
  obtain rfl := Option.some.inj hq
  apply Percent.isPlain_encode (escapedInQuery_isStable kind)

theorem of_mem_optionalPart (h : IsQuery kind query) {c : Char}
    (hc : c ∈ optionalPart '?' query) :
  0x20 < c.toNat ∧ c ≠ '#'
  := by
  cases query with
  | none => cases hc
  | some q =>
      obtain rfl | hc := List.mem_cons.mp hc
      · decide
      · apply of_isPlain_query (h q rfl) c hc

/-- A query in its escaped form is read as itself. -/
theorem tailOf_optionalPart (h : IsQuery kind query) :
  tailOf kind (optionalPart '?' query) = (query, none)
  := by
  have hsharp : '#' ∉ optionalPart '?' query := by
    intro hmem
    apply (of_mem_optionalPart h hmem).2 rfl
  have htake : (optionalPart '?' query).takeWhile (· != '#') = optionalPart '?' query := by
    apply List.takeWhile_eq_self_iff.mpr
    intro c hc
    simpa using (of_mem_optionalPart h hc).2
  cases query with
  | none => rfl
  | some q =>
      have hencode : Percent.encode (escapedInQuery kind) q = q :=
        Percent.encode_of_isPlain (h q rfl)
      rw [escapedInQuery] at hencode
      simp [tailOf, htake, hsharp]
      simpa [optionalPart] using hencode

/-! ### Paths -/

variable {scheme : List Char} {host : Option Host} {port : Option Nat}
  {segments : List (List Char)}

/-- The text of a path and a query. -/
def pathAndQuery (segments : List (List Char)) (query : Option (List Char)) : List Char :=
  (Path.rooted segments).text ++ optionalPart '?' query

theorem head?_optionalPart {c : Char} (h : (optionalPart '?' query).head? = some c) :
  c = '?'
  := by
  cases query with
  | none => cases h
  | some q => apply (Option.some.inj h).symm

theorem isVisible_pathAndQuery
    (hclean : ∀ segment ∈ segments, Path.IsClean kind segment) (hquery : IsQuery kind query) :
  IsVisible (pathAndQuery segments query)
  := by
  apply IsVisible.append
  · intro c hc
    apply (Path.of_mem_text hclean hc).1
  · intro c hc
    apply (of_mem_optionalPart hquery hc).1

/-- A written path ends where the query begins. -/
theorem takeWhile_pathAndQuery (query : Option (List Char))
    (hclean : ∀ segment ∈ segments, Path.IsClean kind segment) :
  (pathAndQuery segments query).takeWhile (!startsQuery ·) = (Path.rooted segments).text
    ∧ (pathAndQuery segments query).dropWhile (!startsQuery ·) = optionalPart '?' query
  := by
  have hown : ∀ c ∈ (Path.rooted segments).text, (!startsQuery c) = true := by
    intro c hc
    rw [(Path.of_mem_text hclean hc).2]
    rfl
  have hrest : ∀ c, (optionalPart '?' query).head? = some c → (!startsQuery c) = false := by
    intro c hc
    rw [head?_optionalPart hc]
    rfl
  use Segments.takeWhile_append_of_head? hown hrest
  apply Segments.dropWhile_append_of_head? hown hrest

theorem text_rooted (hne : segments ≠ []) :
  (Path.rooted segments).text = '/' :: Segments.join ['/'] segments
  := Segments.joinLed_eq_cons_join hne

/-- A written path is read as itself, and what follows it is the query. -/
theorem pathOf_pathAndQuery (hne : segments ≠ [])
    (hclean : ∀ segment ∈ segments, Path.IsClean kind segment)
    (hname : ∀ segment ∈ segments, Path.IsName segment) :
  pathOf kind (pathAndQuery segments query) = (.rooted segments, optionalPart '?' query)
  := by
  obtain ⟨hown, hrest⟩ := takeWhile_pathAndQuery query hclean
  have hslash : isSlash kind '/' = true := by simp [isSlash]
  rw [pathOf, hown, hrest, text_rooted hne]
  simp only [hslash, if_true]
  rw [Path.ofText_join hne hclean hname]

theorem of_mem_pathOf {s : List Char} (h : (pathOf kind s).1 = .rooted segments) :
  ∀ segment ∈ segments, Path.IsClean kind segment ∧ Path.IsName segment
  := by
  rw [pathOf] at h
  intro segment hsegment
  split at h
  · obtain rfl := Path.rooted.inj h
    split_ifs at hsegment
    · obtain rfl := List.mem_singleton.mp hsegment
      use Path.isClean_nil
      apply Path.isName_nil
    · cases hsegment
  · obtain rfl := Path.rooted.inj h
    apply Path.of_mem_ofText hsegment

/-! ### URLs without credentials -/

/-- The URL of a scheme, a place, a path and a query, without credentials. -/
def plainUrl (scheme : List Char) (host : Option Host) (port : Option Nat)
    (segments : List (List Char)) (query : Option (List Char)) : Url where
  scheme := scheme
  authority := some { username := [], password := none, host, port }
  path := .rooted segments
  query := query
  fragment := none

/-- A path with a query after it is read as both, when no two slashes make it look like an
authority. -/
theorem withoutAuthority_pathAndQuery (hkind : Scheme.kind scheme = .other)
    (hne : segments ≠ []) (hclean : ∀ segment ∈ segments, Path.IsClean .other segment)
    (hname : ∀ segment ∈ segments, Path.IsName segment) (hquery : IsQuery .other query) :
  withoutAuthority scheme (pathAndQuery segments query)
    = { plainUrl scheme none none segments query with authority := none }
  := by
  obtain ⟨hown, hrest⟩ := takeWhile_pathAndQuery query hclean
  rw [withoutAuthority, hown, hrest, text_rooted hne]
  simp only [Path.ofText_join hne hclean hname, assemble, hkind, tailOf_optionalPart hquery]
  rfl

/-- Two slashes stand in front of a host, and in front of a path that begins with two
slashes itself. -/
def hasSlashes (host : Option Host) (segments : List (List Char)) : Bool :=
  host.isSome || ['/', '/'].isPrefixOf (Path.rooted segments).text

/-- The text of a URL without credentials, as far as it follows the scheme. -/
def plainText (host : Option Host) (port : Option Nat) (segments : List (List Char))
    (query : Option (List Char)) : List Char :=
  if hasSlashes host segments then
    '/' :: '/' :: (placeText host port ++ pathAndQuery segments query)
  else pathAndQuery segments query

theorem isVisible_plainText (hplace : IsVisible (placeText host port))
    (hclean : ∀ segment ∈ segments, Path.IsClean kind segment) (hquery : IsQuery kind query) :
  IsVisible (plainText host port segments query)
  := by
  have hrest := isVisible_pathAndQuery hclean hquery
  rw [plainText]
  split_ifs
  · apply IsVisible.cons (by decide)
    apply IsVisible.cons (by decide)
    apply hplace.append hrest
  · apply hrest

/-- A path and a query that have no slashes in front of them are not taken for a host. -/
theorem pathAndQuery_ne (hne : segments ≠ [])
    (hslashes : ['/', '/'].isPrefixOf (Path.rooted segments).text = false) (rest : List Char) :
  pathAndQuery segments query ≠ '/' :: '/' :: rest
  := by
  intro heq
  rw [pathAndQuery, text_rooted hne, List.cons_append] at heq
  rw [text_rooted hne] at hslashes
  cases hjoin : Segments.join ['/'] segments with
  | nil =>
      rw [hjoin, List.nil_append] at heq
      have hquery : (optionalPart '?' query).head? = some '/' := by
        rw [(List.cons.inj heq).2, List.head?_cons]
      have hhead := head?_optionalPart hquery
      revert hhead
      decide
  | cons c others =>
      rw [hjoin] at heq hslashes
      obtain rfl : c = '/' := (List.cons.inj (List.cons.inj heq).2).1
      simp at hslashes

/-! ### The colon after a scheme -/

/-- The text after the first colon of another. -/
def afterColon (s : List Char) : List Char :=
  (s.dropWhile (· != ':')).drop 1

theorem afterColon_append {front : List Char} (h : ':' ∉ front) (rest : List Char) :
  afterColon (front ++ ':' :: rest) = rest
  := by
  have hcolon : ∀ c ∈ front, (c != ':') = true := by
    intro c hc
    rw [bne_iff_ne]
    rintro rfl
    apply h hc
  rw [afterColon, List.dropWhile_append_of_pos hcolon, List.dropWhile_cons_of_neg (by decide)]
  rfl

theorem isVisible_of_scheme (h : Scheme.IsNormal scheme) :
  IsVisible scheme
  := fun c hc => Scheme.lt_toNat_of_isPart (h.parts c hc)

/-! ### Normal form -/

/-- The parts of a URL are in their escaped form. -/
structure IsNormal (url : Url) : Prop where
  scheme : Scheme.IsNormal url.scheme
  path : ∀ segments, url.path = .rooted segments →
    ∀ segment ∈ segments, Path.IsClean (Scheme.kind url.scheme) segment
  query : IsQuery (Scheme.kind url.scheme) url.query

variable [DomainNames]

/-- The URL is in normal form and is not that of a file. -/
structure IsRemote (url : Url) : Prop extends IsNormal url where
  kind_ne : Scheme.kind url.scheme ≠ .file
  names : ∀ segments, url.path = .rooted segments → ∀ segment ∈ segments, Path.IsName segment
  place : IsHostAndPort url.scheme url.host url.port

/-- A place with a path and a query after it is read as all of them. -/
theorem withAuthority_placeText (hplace : IsHostAndPort scheme host port) (hne : segments ≠ [])
    (hclean : ∀ segment ∈ segments, Path.IsClean (Scheme.kind scheme) segment)
    (hname : ∀ segment ∈ segments, Path.IsName segment)
    (hquery : IsQuery (Scheme.kind scheme) query) :
  withAuthority scheme (placeText host port ++ pathAndQuery segments query)
    = .ok (plainUrl scheme host port segments query)
  := by
  have hrest : ∀ c, (pathAndQuery segments query).head? = some c →
      endsAuthority (Scheme.kind scheme) c = true := by
    intro c hc
    rw [pathAndQuery, text_rooted hne] at hc
    obtain rfl := Option.some.inj hc
    simp [endsAuthority, isSlash]
  rw [withAuthority, authorityOf_placeText hplace hrest]
  simp only [bind, Except.bind, pathOf_pathAndQuery hne hclean hname, assemble,
    tailOf_optionalPart hquery]
  rfl

/-- What is read after two slashes is in normal form. -/
theorem isRemote_of_withAuthority [LawfulDomainNames] {s : List Char} {url : Url}
    (hscheme : Scheme.IsNormal scheme) (hkind : Scheme.kind scheme ≠ .file)
    (h : withAuthority scheme s = .ok url) :
  IsRemote url
  := by
  rw [withAuthority] at h
  cases hauthority : authorityOf scheme s with
  | error fault =>
      rw [hauthority] at h
      cases h
  | ok found =>
      obtain ⟨authority, rest⟩ := found
      rw [hauthority] at h
      simp only [bind, Except.bind] at h
      obtain rfl := Except.ok.inj h
      have hplace := isHostAndPort_of_authorityOf hauthority
      constructor
      · constructor
        · apply hscheme
        · intro segments hpath segment hsegment
          apply (of_mem_pathOf hpath segment hsegment).1
        · apply isQuery_tailOf
      · apply hkind
      · intro segments hpath segment hsegment
        apply (of_mem_pathOf hpath segment hsegment).2
      · apply hplace

theorem isRemote_withoutAuthority (hscheme : Scheme.IsNormal scheme)
    (hkind : Scheme.kind scheme = .other) (s : List Char) :
  IsRemote (withoutAuthority scheme s)
  := by
  have hplace : IsHostAndPort scheme none none := by
    constructor
    · rintro _ hhost
      cases hhost
    · rintro _ hport
      cases hport
    · intro _
      rw [hkind]
      constructor <;> rfl
  rw [withoutAuthority]
  split
  · constructor
    · constructor
      · apply hscheme
      · intro segments hpath segment hsegment
        obtain rfl := Path.rooted.inj hpath
        change Path.IsClean (Scheme.kind scheme) segment
        rw [hkind]
        apply (Path.of_mem_ofText hsegment).1
      · apply isQuery_tailOf
    · simp [assemble, hkind]
    · intro segments hpath segment hsegment
      obtain rfl := Path.rooted.inj hpath
      apply (Path.of_mem_ofText hsegment).2
    · apply hplace
  · constructor
    · constructor
      · apply hscheme
      · rintro segments hpath
        cases hpath
      · apply isQuery_tailOf
    · simp [assemble, hkind]
    · rintro segments hpath
      cases hpath
    · apply hplace

/-! ### Any URL that is not that of a file -/

/-- The URL of a scheme that is not for files and of the text after its colon. -/
def remoteOf (scheme rest : List Char) : Except Fault Url :=
  if (Scheme.kind scheme).isSpecial then
    withAuthority scheme (rest.dropWhile (isSlash .special))
  else
    match rest with
    | '/' :: '/' :: afterSlashes => withAuthority scheme afterSlashes
    | _ => .ok (withoutAuthority scheme rest)

/-- The reading of a URL goes by the kind of its scheme. -/
theorem parse_eq (s : List Char) :
  parse s
    = match Scheme.read? (visible (trim s)) with
      | none => .error .relative
      | some (scheme, rest) =>
        if Scheme.kind scheme = .file then ofFile (afterColon (trim s)) else remoteOf scheme rest
  := by
  rw [parse]
  cases Scheme.read? (visible (trim s)) with
  | none => rfl
  | some found =>
      obtain ⟨scheme, rest⟩ := found
      simp only [remoteOf]
      cases Scheme.kind scheme <;> rfl

/-- After its scheme, a text without blanks is read by the rules of the scheme's kind. -/
theorem parse_append (hscheme : Scheme.IsNormal scheme) {rest : List Char}
    (hrest : IsVisible rest) :
  parse (scheme ++ ':' :: rest)
    = if Scheme.kind scheme = .file then ofFile rest else remoteOf scheme rest
  := by
  have hvisible : IsVisible (scheme ++ ':' :: rest) :=
    (isVisible_of_scheme hscheme).append (hrest.cons (by decide))
  have hfile := afterColon_append hscheme.colon_notMem rest
  rw [parse_eq, trim_of_isVisible hvisible, visible_of_isVisible hvisible,
    Scheme.read?_append hscheme.toIsText, hscheme.lower, hfile]

theorem isRemote_of_remoteOf [LawfulDomainNames] {rest : List Char} {url : Url}
    (hscheme : Scheme.IsNormal scheme) (hkind : Scheme.kind scheme ≠ .file)
    (h : remoteOf scheme rest = .ok url) :
  IsRemote url
  := by
  unfold remoteOf at h
  split_ifs at h with hspecial
  · apply isRemote_of_withAuthority hscheme hkind h
  · split at h
    · apply isRemote_of_withAuthority hscheme hkind h
    · obtain rfl := Except.ok.inj h
      apply isRemote_withoutAuthority hscheme
      simpa [SchemeKind.isSpecial] using hspecial

/-- A place, a path and a query, written after two slashes, are read as themselves. -/
theorem remoteOf_placeText (hplace : IsHostAndPort scheme host port) (hne : segments ≠ [])
    (hclean : ∀ segment ∈ segments, Path.IsClean (Scheme.kind scheme) segment)
    (hname : ∀ segment ∈ segments, Path.IsName segment)
    (hquery : IsQuery (Scheme.kind scheme) query) :
  remoteOf scheme ('/' :: '/' :: (placeText host port ++ pathAndQuery segments query))
    = .ok (plainUrl scheme host port segments query)
  := by
  rw [remoteOf]
  split_ifs with hspecial
  · -- The slashes end where the host begins, which no special scheme is without.
    obtain ⟨host, rfl⟩ : ∃ h, host = some h := by
      cases host with
      | none =>
          rw [(hplace.of_none rfl).1] at hspecial
          cases hspecial
      | some host => use host
    have hdrop : ('/' :: '/' :: (placeText (some host) port ++ pathAndQuery segments query)).dropWhile
        (isSlash .special) = placeText (some host) port ++ pathAndQuery segments query := by
      apply Segments.dropWhile_append_of_head? (s := ['/', '/'])
      · simp [isSlash]
      · intro c hc
        have hmem : c ∈ placeText (some host) port := by
          have hplaceNe : placeText (some host) port ≠ [] := by
            simp [placeText, (hplace.isNormal host rfl).isPlace.ne_nil]
          change (placeText (some host) port ++ pathAndQuery segments query).head? = some c at hc
          rw [List.head?_append_of_ne_nil _ hplaceNe] at hc
          apply List.mem_of_mem_head? hc
        have hnot := (of_mem_placeText hplace hmem).2
        simp only [List.mem_cons, List.not_mem_nil, or_false, not_or] at hnot
        simp [isSlash, hnot]
    rw [hdrop]
    apply withAuthority_placeText hplace hne hclean hname hquery
  · apply withAuthority_placeText hplace hne hclean hname hquery

/-- The parts of a URL in normal form are read from its text. -/
theorem parse_plainText (hscheme : Scheme.IsNormal scheme) (hkind : Scheme.kind scheme ≠ .file)
    (hplace : IsHostAndPort scheme host port) (hne : segments ≠ [])
    (hclean : ∀ segment ∈ segments, Path.IsClean (Scheme.kind scheme) segment)
    (hname : ∀ segment ∈ segments, Path.IsName segment)
    (hquery : IsQuery (Scheme.kind scheme) query) :
  parse (scheme ++ ':' :: plainText host port segments query)
    = .ok
        (if hasSlashes host segments then plainUrl scheme host port segments query
        else { plainUrl scheme none none segments query with authority := none })
  := by
  have hvisible : IsVisible (placeText host port) := fun c hc => (of_mem_placeText hplace hc).1
  rw [parse_append hscheme (isVisible_plainText hvisible hclean hquery), if_neg hkind, plainText]
  split_ifs with hslashes
  · apply remoteOf_placeText hplace hne hclean hname hquery
  · simp only [hasSlashes, Bool.or_eq_true, not_or, Bool.not_eq_true,
      Option.isSome_eq_false_iff, Option.isNone_iff_eq_none] at hslashes
    obtain ⟨hhost, hslashes⟩ := hslashes
    have hspecial := (hplace.of_none hhost).1
    have hother : Scheme.kind scheme = .other := by
      simpa [SchemeKind.isSpecial] using hspecial
    unfold remoteOf
    rw [if_neg (by simp [hspecial])]
    split
    · rename_i afterSlashes heq
      exact absurd heq (pathAndQuery_ne hne hslashes afterSlashes)
    · rw [hother] at hclean hquery
      rw [withoutAuthority_pathAndQuery hother hne hclean hname hquery]

end Provision.Url
