import Mathlib
import Provision.Proofs.Connection.Fields
import Provision.Proofs.Url.File

/-!
# The normal form of a connection URL

The text of a connection URL is read as the same connection URL without its credentials,
whatever text it came from, except for some URLs of files. `ConnectionUrl.IsSettled` says
which: there is no exception for other schemes, and for files it is exact. In whatever way
names are brought into ASCII, this holds if the way is lawful.
-/

namespace Provision

namespace Url

variable [DomainNames] {url : Url} {segments : List (List Char)}

theorem lt_of_port (h : IsRemote url ∨ IsLocal url) {port : Nat} (hport : url.port = some port) :
  port < 65536
  := by
  obtain h | h := h
  · apply (h.place.isPort port hport).1
  · obtain ⟨host, hauthority, -⟩ := h.place
    rw [Url.port, hauthority] at hport
    cases hport

theorem port_eq_none (h : IsRemote url ∨ IsLocal url) (hhost : url.host = none) :
  url.port = none
  := by
  obtain h | h := h
  · apply (h.place.of_none hhost).2
  · obtain ⟨host, hauthority, -⟩ := h.place
    rw [Url.port, hauthority]
    rfl

end Url

namespace ConnectionUrl

/-! ### The scheme of the driver -/

theorem driverScheme_eq (scheme : String) :
  driverScheme scheme = if scheme = "postgres" then "postgresql" else scheme
  := by
  rw [driverScheme, schemeAliases, List.find?_cons, List.find?_nil]
  split_ifs with h
  · subst h
    rfl
  · have hne : ("postgres" == scheme) = false := by
      rw [beq_eq_false_iff_ne]
      apply Ne.symm h
    rw [hne]
    rfl

@[simp]
theorem driverScheme_driverScheme (scheme : String) :
  driverScheme (driverScheme scheme) = driverScheme scheme
  := by
  rw [driverScheme_eq scheme]
  split_ifs with h
  · rfl
  · rw [driverScheme_eq, if_neg h]

/-- The scheme of the driver follows the same rules as the scheme. -/
theorem driverScheme_isNormal {scheme : List Char} (h : Url.Scheme.IsNormal scheme) :
  Url.Scheme.IsNormal (driverScheme (String.ofList scheme)).toList
    ∧ Url.Scheme.kind (driverScheme (String.ofList scheme)).toList = Url.Scheme.kind scheme
    ∧ Url.Scheme.defaultPort? (driverScheme (String.ofList scheme)).toList
      = Url.Scheme.defaultPort? scheme
  := by
  rw [driverScheme_eq]
  split_ifs with hpostgres
  · have hscheme : scheme = "postgres".toList := by
      rw [← hpostgres, String.toList_ofList]
    subst hscheme
    constructor
    · constructor
      · constructor
        · use 'p', "ostgresql".toList
          constructor <;> rfl
        · simp [Url.Scheme.isPart]
      · rfl
    · constructor
      · rfl
      · rfl
  · rw [String.toList_ofList]
    use h

/-! ### The parts of a connection URL -/

theorem ofUrl?_rooted {url : Url} {segments : List (List Char)} (hpath : url.path = .rooted segments)
    (hne : segments ≠ []) :
  ofUrl? url
    = some
        { scheme := driverScheme (String.ofList url.scheme)
          username :=
            if (url.authority.map (·.username)).getD [] = [] ∧ url.authority.bind (·.password) = none
            then none else some (decode ((url.authority.map (·.username)).getD []))
          password := (url.authority.bind (·.password)).map decode
          host := url.host.map fun host => String.ofList host.text
          port := url.port.map UInt16.ofNat
          path := String.ofList (Url.Path.rooted segments).text
          query := (url.query.filter (!·.isEmpty)).map String.ofList }
  := by
  obtain ⟨first, rest, rfl⟩ := List.exists_cons_of_ne_nil hne
  rw [ofUrl?, hpath]
  simp

theorem exists_rooted_of_ofUrl? {url : Url} {connection : ConnectionUrl}
    (h : ofUrl? url = some connection) :
  ∃ segments, url.path = .rooted segments ∧ segments ≠ []
  := by
  rw [ofUrl?] at h
  split at h
  · cases h
  · cases h
  · rename_i segments hne hpath
    use segments, hpath

/-! ### The URL of a file -/

/-- The connection URL without its credentials. -/
def withoutCredentials (url : ConnectionUrl) : ConnectionUrl :=
  { url with username := none, password := none }

/-- The segments of the path in their escaped form. -/
def segments (url : ConnectionUrl) : List (List Char) :=
  Segments.split (· == '/') (url.path.toList.drop 1)

/-- The URL of a file is settled if its path has no dot segment, escaped or not, and if a
drive in the first place of it has a colon for its mark and no host in front of it. Any
other URL is settled. -/
def IsSettled (url : ConnectionUrl) : Prop :=
  url.scheme = "file" →
    (∀ segment ∈ url.segments, Url.Path.isDot segment = false ∧ Url.Path.isDotDot segment = false)
      ∧ ∀ first, url.segments.head? = some first → Url.Path.isDrive first = true →
        Url.Path.isPlainDrive first = true ∧ url.host = none

/-- The segments of a path are found in its text. -/
theorem split_drop_text {kind : Url.SchemeKind} {segments : List (List Char)} (hne : segments ≠ [])
    (hclean : ∀ segment ∈ segments, Url.Path.IsClean kind segment) :
  Segments.split (· == '/') ((Url.Path.rooted segments).text.drop 1) = segments
  := by
  rw [Url.text_rooted hne, List.drop_one, List.tail_cons]
  apply Segments.split_join (by decide) hne
  intro segment hsegment c hc
  have hslash := (hclean segment hsegment).not_isSlash c hc
  rw [Url.isSlash, Bool.or_eq_false_iff] at hslash
  apply hslash.1

/-- Two paths with the same text have the same segments. -/
theorem rooted_eq_of_text_eq {kind kind' : Url.SchemeKind} {segments segments' : List (List Char)}
    (hne : segments ≠ []) (hclean : ∀ segment ∈ segments, Url.Path.IsClean kind segment)
    (hne' : segments' ≠ []) (hclean' : ∀ segment ∈ segments', Url.Path.IsClean kind' segment)
    (h : (Url.Path.rooted segments).text = (Url.Path.rooted segments').text) :
  segments = segments'
  := by
  rw [← split_drop_text hne hclean, h, split_drop_text hne' hclean']

theorem isQuery_filter {kind : Url.SchemeKind} {query : Option (List Char)}
    (h : Url.IsQuery kind query) :
  Url.IsQuery kind (query.filter (!·.isEmpty))
  := by
  intro q hq
  apply h q (Option.filter_eq_some_iff.mp hq).1

theorem filter_filter_isEmpty (query : Option (List Char)) :
  (query.filter (!·.isEmpty)).filter (!·.isEmpty) = query.filter (!·.isEmpty)
  := by
  cases query with
  | none => rfl
  | some q => cases h : q.isEmpty <;> simp [Option.filter, h]

/-- The connection URL of a file on a host. -/
def ofFile (host : Option Url.Host) (segments : List (List Char)) (query : Option (List Char)) :
    ConnectionUrl where
  scheme := "file"
  username := none
  password := none
  host := host.map fun host => String.ofList host.text
  port := none
  path := String.ofList (Url.Path.rooted segments).text
  query := query.map String.ofList

theorem ofUrl?_eq_ofFile (host : Option Url.Host) {segments : List (List Char)}
    (hne : segments ≠ []) (query fragment : Option (List Char)) :
  ofUrl? { Url.plainUrl "file".toList host none segments query with fragment }
    = some (ofFile host segments (query.filter (!·.isEmpty)))
  := by
  rw [ofUrl?_rooted rfl hne]
  rfl

/-- What the text of the connection URL of a file is read as. -/
def ofReadFile (host : Option Url.Host) (segments : List (List Char))
    (query : Option (List Char)) : ConnectionUrl :=
  ofFile (if (Url.walkFile [] segments).2 then none else host)
    (Url.withoutLeadingEmpty (Url.walkFile [] segments).1.reverse) query

variable {host : Option Url.Host} {segments : List (List Char)} {query : Option (List Char)}

/-- The segments that are read again are clean. -/
theorem isClean_ofReadFile (hclean : ∀ segment ∈ segments, Url.Path.IsClean .file segment) :
  ∀ segment ∈ Url.withoutLeadingEmpty (Url.walkFile [] segments).1.reverse,
    Url.Path.IsClean .file segment
  := by
  intro segment hsegment
  obtain rfl | hsegment := Url.of_mem_withoutLeadingEmpty hsegment
  · apply Url.Path.isClean_nil
  · apply Url.isClean_of_mem_walkFile _ _ segment (List.mem_reverse.mp hsegment)
    · intro part hpart
      apply (hclean part hpart).not_isSlash
    · simp

/-- Only its host and its path can tell a file from what its text is read as. -/
theorem ofReadFile_eq_iff (query : Option (List Char)) (hled : Url.IsLed segments)
    (hclean : ∀ segment ∈ segments, Url.Path.IsClean .file segment) :
  ofReadFile host segments query = ofFile host segments query ↔ Url.IsSettled host segments
  := by
  have hread := Url.isLed_withoutLeadingEmpty (Url.walkFile [] segments).1.reverse
  rw [← Url.fileUrl_eq_iff query hled hclean]
  constructor
  · intro heq
    constructor
    · have hhost : (if (Url.walkFile [] segments).2 then none else host).map
          (fun host => String.ofList host.text) = host.map fun host => String.ofList host.text :=
        congrArg ConnectionUrl.host heq
      change (if (Url.walkFile [] segments).2 then none else host) = host
      split_ifs at hhost ⊢ with hdrive
      · apply (Option.map_eq_none_iff.mp hhost.symm).symm
      · rfl
    · apply congrArg Url.Path.rooted
      apply rooted_eq_of_text_eq hread.ne_nil (isClean_ofReadFile hclean) hled.ne_nil hclean
      apply String.ofList_injective
      apply congrArg ConnectionUrl.path heq
  · rintro ⟨hhost, hpath⟩
    change (if (Url.walkFile [] segments).2 then none else host) = host at hhost
    rw [ofReadFile, hhost, Url.Path.rooted.inj hpath]

/-- Two files on one host with one query have the same text only if they are the same. -/
theorem ofFile_eq_of_text_eq {host' : Option Url.Host} {segments' : List (List Char)}
    (hled : Url.IsLed segments) (hclean : ∀ segment ∈ segments, Url.Path.IsClean .file segment)
    (hled' : Url.IsLed segments') (hclean' : ∀ segment ∈ segments', Url.Path.IsClean .file segment)
    (hhost : (ofFile host' segments' query).host = (ofFile host segments query).host)
    (htext : (ofFile host' segments' query).text = (ofFile host segments query).text) :
  ofFile host' segments' query = ofFile host segments query
  := by
  have hplace : (ofFile host' segments' query).placeText = (ofFile host segments query).placeText := by
    have hslashes := Url.isPrefixOf_text_eq_false hled hclean
    have hslashes' := Url.isPrefixOf_text_eq_false hled' hclean'
    rw [placeText, placeText, hhost]
    cases (ofFile host segments query).host with
    | none => simp [ofFile, hslashes, hslashes']
    | some host => rfl
  have hpath : (ofFile host' segments' query).path = (ofFile host segments query).path := by
    rw [text, text, hplace] at htext
    have hlists := congrArg String.toList htext
    simp only [String.toList_append] at hlists
    apply String.toList_inj.mp
    apply List.append_cancel_left (List.append_cancel_right hlists)
  rw [ofFile, ofFile, ConnectionUrl.mk.injEq]
  use rfl, rfl, rfl, hhost, rfl, hpath

theorem isSettled_ofFile_iff {kind : Url.SchemeKind} (hne : segments ≠ [])
    (hclean : ∀ segment ∈ segments, Url.Path.IsClean kind segment) :
  (ofFile host segments query).IsSettled ↔ Url.IsSettled host segments
  := by
  have hsegments : (ofFile host segments query).segments = segments := by
    rw [ConnectionUrl.segments, ofFile, String.toList_ofList, split_drop_text hne hclean]
  have hhost : (ofFile host segments query).host = none ↔ host = none := by
    rw [ofFile, Option.map_eq_none_iff]
  rw [IsSettled, hsegments, hhost]
  constructor
  · intro hsettled
    obtain ⟨hnames, hdrive⟩ := hsettled rfl
    use hnames
  · rintro ⟨hnames, hdrive⟩ -
    use hnames

/-! ### Reading -/

/-- The text of a URL without the prefix of a normal form. -/
def withoutPrefix (input : String) : List Char :=
  (jdbcPrefix.toList.isPrefixOf? input.toList).getD input.toList

@[simp]
theorem withoutPrefix_append (s : List Char) :
  withoutPrefix (jdbcPrefix ++ String.ofList s) = s
  := by
  simp [withoutPrefix, jdbcPrefix, List.isPrefixOf?]

/-- The connection URL of what has been read, or the reason for which there is none. -/
def ofReading (x : Except Url.Fault Url) : Except UriFault ConnectionUrl :=
  match x with
  | .error fault => .error (.malformed fault)
  | .ok url => (ofUrl? url).elim (.error .noDatabasePath) .ok

variable [DomainNames]

/-- Reading fails with a reason, and quotes the text that it was to read. -/
theorem parse_eq_ofReading (input : String) :
  parse input = (ofReading (Url.parse (withoutPrefix input))).mapError (.invalidUri input)
  := by
  unfold parse withoutPrefix
  simp only
  cases Url.parse ((jdbcPrefix.toList.isPrefixOf? input.toList).getD input.toList) with
  | error fault => rfl
  | ok url => cases hof : ofUrl? url <;> simp [ofReading, hof, Except.mapError]

theorem parse_eq_ok_iff {input : String} {connection : ConnectionUrl} :
  parse input = .ok connection
    ↔ ∃ url, Url.parse (withoutPrefix input) = .ok url ∧ ofUrl? url = some connection
  := by
  rw [parse_eq_ofReading]
  cases Url.parse (withoutPrefix input) with
  | error fault => simp [ofReading, Except.mapError]
  | ok url => cases hof : ofUrl? url <;> simp [ofReading, hof, Except.mapError]

/-- The normal form of a connection URL is the prefix, the scheme of the driver, and the
text of the other parts. -/
theorem text_of_ofUrl? {url : Url} {segments : List (List Char)} {connection : ConnectionUrl}
    (hurl : Url.IsRemote url ∨ Url.IsLocal url) (hpath : url.path = .rooted segments)
    (h : ofUrl? url = some connection) :
  connection.text
    = jdbcPrefix ++ String.ofList
        ((driverScheme (String.ofList url.scheme)).toList
          ++ ':' :: Url.plainText url.host url.port segments (url.query.filter (!·.isEmpty)))
  := by
  obtain ⟨segments', hpath', hne⟩ := exists_rooted_of_ofUrl? h
  obtain rfl : segments' = segments := Url.Path.rooted.inj (hpath'.symm.trans hpath)
  rw [ofUrl?_rooted hpath hne] at h
  obtain rfl := Option.some.inj h
  rw [← String.toList_inj]
  have hquery : ((url.query.filter (!·.isEmpty)).map String.ofList).elim "" ("?" ++ ·)
      = String.ofList (Url.optionalPart '?' (url.query.filter (!·.isEmpty))) := by
    cases url.query.filter (!·.isEmpty) with
    | none => rfl
    | some query => simp [Url.optionalPart]
  simp only [text, placeText, hquery]
  cases hhost : url.host with
  | none =>
      have hport := Url.port_eq_none hurl hhost
      cases hslashes : ['/', '/'].isPrefixOf (Url.Path.rooted segments').text with
      | false =>
          simp [hslashes, Url.plainText, Url.hasSlashes, Url.pathAndQuery]
      | true =>
          simp [hslashes, hport, Url.plainText, Url.hasSlashes, Url.placeText, Url.portText,
            Url.pathAndQuery]
  | some host =>
      cases hport : url.port with
      | none =>
          simp [Url.plainText, Url.hasSlashes, Url.placeText, Url.portText, Url.pathAndQuery]
      | some port =>
          have hmod : port % 65536 = port := Nat.mod_eq_of_lt (Url.lt_of_port hurl hport)
          simp [Url.plainText, Url.hasSlashes, Url.placeText, Url.portText, Url.pathAndQuery, hmod]

/-! ### Reading the normal form -/

/-- The rules for a host and a port depend on the kind and the default port of the scheme. -/
theorem isHostAndPort_congr {scheme scheme' : List Char} {host : Option Url.Host}
    {port : Option Nat} (hkind : Url.Scheme.kind scheme' = Url.Scheme.kind scheme)
    (hdefault : Url.Scheme.defaultPort? scheme' = Url.Scheme.defaultPort? scheme)
    (h : Url.IsHostAndPort scheme host port) :
  Url.IsHostAndPort scheme' host port
  := by
  constructor
  · rw [hkind]
    apply h.isNormal
  · intro p hp
    obtain ⟨hlt, hne⟩ := h.isPort p hp
    use hlt
    rwa [hdefault]
  · rw [hkind]
    apply h.of_none

/-- The normal form of a URL that is not that of a file is read as itself. -/
theorem parse_text_of_isRemote {url : Url} {connection : ConnectionUrl} (hurl : Url.IsRemote url)
    (h : ofUrl? url = some connection) :
  parse connection.text = .ok connection.withoutCredentials
  := by
  obtain ⟨segments, hpath, hne⟩ := exists_rooted_of_ofUrl? h
  obtain ⟨hscheme, hkind, hdefault⟩ := driverScheme_isNormal hurl.scheme
  have hplace := isHostAndPort_congr hkind hdefault hurl.place
  have hclean := hurl.path segments hpath
  have hquery := isQuery_filter hurl.query
  rw [← hkind] at hclean hquery
  have hparse := Url.parse_plainText hscheme (by rw [hkind]; apply hurl.kind_ne) hplace hne hclean
    (hurl.names segments hpath) hquery
  rw [text_of_ofUrl? (.inl hurl) hpath h, parse_eq_ok_iff, withoutPrefix_append]
  rw [ofUrl?_rooted hpath hne] at h
  obtain rfl := Option.some.inj h
  have hfilter := filter_filter_isEmpty url.query
  split_ifs at hparse with hslashes
  · refine ⟨_, hparse, ?_⟩
    rw [ofUrl?_rooted rfl hne]
    simp [Url.plainUrl, withoutCredentials, Url.host, Url.port, hfilter]
  · have hhost : url.host = none := by
      rw [Url.hasSlashes, Bool.or_eq_true, not_or, Bool.not_eq_true] at hslashes
      simpa using hslashes.1
    have hport := Url.port_eq_none (.inl hurl) hhost
    refine ⟨_, hparse, ?_⟩
    rw [ofUrl?_rooted rfl hne, hhost, hport]
    simp [Url.plainUrl, withoutCredentials, Url.host, Url.port, hfilter]

/-- Only the URL of a file can fail to be settled. -/
theorem isSettled_of_isRemote {url : Url} {connection : ConnectionUrl} (hurl : Url.IsRemote url)
    (h : ofUrl? url = some connection) :
  connection.IsSettled
  := by
  obtain ⟨segments, hpath, hne⟩ := exists_rooted_of_ofUrl? h
  rw [ofUrl?_rooted hpath hne] at h
  obtain rfl := Option.some.inj h
  intro hfile
  have hfile : driverScheme (String.ofList url.scheme) = "file" := hfile
  obtain ⟨-, hkind, -⟩ := driverScheme_isNormal hurl.scheme
  rw [hfile, Url.kind_file] at hkind
  exact absurd hkind.symm hurl.kind_ne

/-- The connection URL of a file, and what its text is read as. -/
theorem exists_ofFile_of_isLocal {url : Url} {connection : ConnectionUrl} (hurl : Url.IsLocal url)
    (h : ofUrl? url = some connection) :
  ∃ host segments query, Url.IsLed segments
    ∧ (∀ segment ∈ segments, Url.Path.IsClean .file segment)
    ∧ connection = ofFile host segments query
    ∧ parse connection.text = .ok (ofReadFile host segments query)
  := by
  obtain ⟨segments, hpath, hled⟩ := hurl.led
  obtain ⟨host, hauthority, hhost⟩ := hurl.place
  obtain ⟨scheme, authority, path, query, fragment⟩ := url
  obtain rfl : scheme = "file".toList := hurl.scheme_eq
  obtain rfl : authority = _ := hauthority
  obtain rfl : path = _ := hpath
  have hclean : ∀ segment ∈ segments, Url.Path.IsClean .file segment := hurl.path segments rfl
  have hparse := Url.parse_plainText_file hhost hled hclean (isQuery_filter hurl.query)
  have hread := Url.isLed_withoutLeadingEmpty (Url.walkFile [] segments).1.reverse
  have hof := ofUrl?_eq_ofFile (if (Url.walkFile [] segments).2 then none else host)
    hread.ne_nil (query.filter (!·.isEmpty)) none
  rw [filter_filter_isEmpty] at hof
  use host, segments, query.filter (!·.isEmpty), hled, hclean
  constructor
  · apply Option.some.inj
    rw [← h]
    apply ofUrl?_eq_ofFile host hled.ne_nil
  · rw [text_of_ofUrl? (.inr hurl) rfl h, parse_eq_ok_iff, withoutPrefix_append]
    use Url.fileUrl host segments (query.filter (!·.isEmpty)), hparse, hof

end ConnectionUrl

/-! ### Configurations -/

namespace Config

/-- The second configuration has the same settings as the first, and the same readings of
its URL; only the text of the URL as it was given may differ. -/
structure AgreesBesidesRaw (c c' : Config) : Prop where
  identity : c'.identity = c.identity
  host : c'.host = c.host
  port : c'.port = c.port
  database : c'.database = c.database
  poolDisabled : c'.poolDisabled = c.poolDisabled
  maxLifetime : c'.maxLifetime = c.maxLifetime
  idleTimeout : c'.idleTimeout = c.idleTimeout

/-- A URL without credentials changes nothing if it is read like the one that is there. -/
theorem agreesBesidesRaw_withUrl {c : Config} {input : String} {url : ConnectionUrl}
    (hsetting : c.setting = some ⟨input, url⟩) (raw : String) :
  c.AgreesBesidesRaw (c.withUrl raw url.withoutCredentials)
  := by
  constructor
  all_goals simp [withUrl, identity, normalUrl, host, port, database, hsetting,
    ConnectionUrl.withoutCredentials]
  all_goals rfl

/-- A URL whose text and host are those of the one that is there is read like it. -/
theorem eq_withoutCredentials_of_agrees [DomainNames] [LawfulDomainNames] {c : Config}
    {input raw : String} {url found : ConnectionUrl} (hinput : ConnectionUrl.parse input = .ok url)
    (hsetting : c.setting = some ⟨input, url⟩) (hfound : ConnectionUrl.parse url.text = .ok found)
    (h : c.AgreesBesidesRaw (c.withUrl raw found)) :
  found = url.withoutCredentials
  := by
  obtain ⟨u, hparse, hof⟩ := ConnectionUrl.parse_eq_ok_iff.mp hinput
  obtain hurl | hurl := Url.isRemote_or_isLocal_of_parse hparse
  · have hread := ConnectionUrl.parse_text_of_isRemote hurl hof
    apply Except.ok.inj (hfound.symm.trans hread)
  · obtain ⟨host, segments, query, hled, hclean, rfl, hread⟩ :=
      ConnectionUrl.exists_ofFile_of_isLocal hurl hof
    obtain rfl := Except.ok.inj (hfound.symm.trans hread)
    apply ConnectionUrl.ofFile_eq_of_text_eq hled hclean (Url.isLed_withoutLeadingEmpty _)
      (ConnectionUrl.isClean_ofReadFile hclean)
    · have hhost := h.host
      rw [Config.host, Config.host, hsetting] at hhost
      apply hhost
    · have htext := congrArg Identity.normalUrl h.identity
      rw [identity, identity, normalUrl, normalUrl, hsetting] at htext
      apply Option.some.inj htext

end Config

/-- The normal form of a URL that is settled is read as that URL without its credentials,
and setting it leaves a configuration that has the URL as it is, but for the text of the URL
as it was given. Of a URL that is not settled neither is true. -/
theorem ConnectionUrl.parse_text_iff_isSettled [DomainNames] [LawfulDomainNames] {input : String}
    {url : ConnectionUrl} (h : ConnectionUrl.parse input = .ok url) :
  (ConnectionUrl.parse url.text = .ok url.withoutCredentials ↔ url.IsSettled)
    ∧ url.withoutCredentials.text = url.text
    ∧ ∀ c : Config, c.setting = some ⟨input, url⟩ →
      ((∃ c', (c.setUrl url.text).result = .ok c' ∧ c'.rawUrl = some url.text
          ∧ c.AgreesBesidesRaw c')
        ↔ url.IsSettled)
  := by
  have hparse : ConnectionUrl.parse url.text = .ok url.withoutCredentials ↔ url.IsSettled := by
    obtain ⟨u, hparse, hof⟩ := ConnectionUrl.parse_eq_ok_iff.mp h
    obtain hurl | hurl := Url.isRemote_or_isLocal_of_parse hparse
    · constructor
      · intro _
        apply ConnectionUrl.isSettled_of_isRemote hurl hof
      · intro _
        apply ConnectionUrl.parse_text_of_isRemote hurl hof
    · obtain ⟨host, segments, query, hled, hclean, rfl, hread⟩ :=
        ConnectionUrl.exists_ofFile_of_isLocal hurl hof
      rw [hread, Except.ok.injEq, ConnectionUrl.isSettled_ofFile_iff hled.ne_nil hclean,
        ← ConnectionUrl.ofReadFile_eq_iff query hled hclean]
      rfl
  use hparse, rfl
  intro c hsetting
  rw [← hparse]
  constructor
  · rintro ⟨c', hset, -, hagrees⟩
    rw [Config.result_setUrl] at hset
    cases hfound : ConnectionUrl.parse url.text with
    | error e =>
        rw [hfound] at hset
        cases hset
    | ok found =>
        rw [hfound] at hset
        obtain rfl := Except.ok.inj hset
        rw [Config.eq_withoutCredentials_of_agrees h hsetting hfound hagrees]
  · intro hread
    use c.withUrl url.text url.withoutCredentials
    rw [Config.result_setUrl, hread]
    use rfl, rfl
    apply Config.agreesBesidesRaw_withUrl hsetting

/-- The table with the name of one city. -/
@[reducible] def DomainNames.munich : DomainNames :=
  .ofTable [
    { name := "münchen.de".toList
      ascii := "xn--mnchen-3ya.de".toList
      notMem := by decide
      allowed := by decide
      lower := by decide
      encoded := by decide }]

attribute [local instance] DomainNames.munich in
/-- A URL with credentials, a host that is not in ASCII, a dot segment and a fragment is
settled. -/
theorem ConnectionUrl.parse_text_iff_isSettled_munich :
  let input := "http://alice:s%40t@MüNCHEN.de:5433/a/../b?x=1#top"
  let url : ConnectionUrl :=
    ⟨"http", some "alice", some "s@t", some "xn--mnchen-3ya.de", some 5433, "/b", some "x=1"⟩
  ConnectionUrl.parse input = .ok url ∧ url.IsSettled
    ∧ (ConnectionUrl.parse url.text = .ok url.withoutCredentials ↔ url.IsSettled)
    ∧ url.withoutCredentials.text = url.text
    ∧ ∀ c : Config, c.setting = some ⟨input, url⟩ →
      ((∃ c', (c.setUrl url.text).result = .ok c' ∧ c'.rawUrl = some url.text
          ∧ c.AgreesBesidesRaw c')
        ↔ url.IsSettled)
  := by
  intro input url
  have hparse : ConnectionUrl.parse input = .ok url := by decide +kernel
  have hsettled : url.IsSettled := by
    intro hfile
    revert hfile
    decide
  use hparse, hsettled
  apply ConnectionUrl.parse_text_iff_isSettled hparse

attribute [local instance] DomainNames.asciiOnly in
/-- A bar after the letter of a drive is kept after two slashes, but not in the normal form. -/
example :
  (ConnectionUrl.parse "file:///C|/x").toOption.map ConnectionUrl.text = some "jdbc:file:/C|/x"
    ∧ (ConnectionUrl.parse "jdbc:file:/C|/x").toOption.map ConnectionUrl.text
      = some "jdbc:file:/C:/x"
  := by decide +kernel

end Provision
