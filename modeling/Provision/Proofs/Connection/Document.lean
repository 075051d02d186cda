import Mathlib
import Provision.Connection.Document
import Provision.Proofs.Connection.Property

/-!
# Documents and properties

A document and properties are two ways to give the same settings. Whatever settings a document
has once the references in it are resolved, it gives the configuration that the properties of
the same settings give, in whichever order they come.
-/

namespace Provision

/-! ### Settings -/

/-- Settings by themselves, each of which may be missing. -/
structure Settings where
  url : Option String := none
  username : Option String := none
  password : Option String := none
  table : Option String := none
  dataSource : Option String := none
  maxConnections : Option UInt32 := none
  poolDisabled : Option Bool := none
  maxLifetime : Option UInt64 := none
  idleTimeout : Option UInt64 := none

namespace Settings

/-- The text of a setting as a property has it. -/
def text? (s : Settings) : PropertyKey → Option String
  | .url => s.url
  | .username => s.username
  | .password => s.password
  | .table => s.table
  | .dataSource => s.dataSource
  | .maxConnections => s.maxConnections.map fun n => Numeral.decimalText n.toNat
  | .poolDisabled => s.poolDisabled.map toString
  | .maxLifetime => s.maxLifetime.map fun n => Numeral.decimalText n.toNat
  | .idleTimeout => s.idleTimeout.map fun n => Numeral.decimalText n.toNat

/-- The property of a setting, if it is there. -/
def property? (s : Settings) (key : PropertyKey) : Option (String × String) :=
  (s.text? key).map (key.text, ·)

/-- The settings as properties, in the order of their keys. -/
def properties (s : Settings) : List (String × String) :=
  PropertyKey.all.filterMap s.property?

/-- What the settings write, apart from the URL. -/
def written (s : Settings) : Written where
  username := s.username
  password := s.password
  table := s.table
  dataSource := s.dataSource
  maxConnections := s.maxConnections
  poolDisabled := s.poolDisabled
  maxLifetime := s.maxLifetime.map (.ofMillis ·.toNat)
  idleTimeout := s.idleTimeout.map (.ofMillis ·.toNat)

end Settings

/-- The settings are those of the document with the references in its texts resolved. -/
structure Document.Resolves (environment : Environment) (document : Document) (s : Settings) :
    Prop where
  url : document.url.mapM (Reference.expand environment) = .ok s.url
  username : document.username.mapM (Reference.expand environment) = .ok s.username
  password : document.password.mapM (Reference.expand environment) = .ok s.password
  table : document.table.mapM (Reference.expand environment) = .ok s.table
  dataSource : document.dataSource.mapM (Reference.expand environment) = .ok s.dataSource
  maxConnections : document.maxConnections = s.maxConnections
  poolDisabled : document.pool.disabled = s.poolDisabled.getD false
  maxLifetime : document.pool.maxLifetime = s.maxLifetime
  idleTimeout : document.pool.idleTimeout = s.idleTimeout

variable {environment : Environment} {document : Document} {s : Settings}
  {properties : List (String × String)}

namespace Config

/-! ### The configuration of a document -/

/-- The configuration with all settings but the URL. A pool that is not said to be disabled is
enabled. -/
def withSettings (c : Config) (s : Settings) : Config :=
  { c with
    username := s.username <|> c.username
    password := s.password.getD c.password
    table := s.table <|> c.table
    dataSource := s.dataSource <|> c.dataSource
    maxConnections := s.maxConnections <|> c.maxConnections
    poolDisabled := s.poolDisabled.getD false
    maxLifetime := s.maxLifetime.map (.ofMillis ·.toNat) <|> c.maxLifetime
    idleTimeout := s.idleTimeout.map (.ofMillis ·.toNat) <|> c.idleTimeout }

/-- Either there is no text, or its references can be resolved. -/
theorem resolved_cases {text resolved : Option String}
    (h : text.mapM (Reference.expand environment) = .ok resolved) :
  text = none ∧ resolved = none
    ∨ ∃ written value, text = some written ∧ Reference.expand environment written = .ok value
      ∧ resolved = some value
  := by
  cases text with
  | none =>
      left
      use rfl, (Except.ok.inj h).symm
  | some written =>
      right
      rw [Option.mapM_some] at h
      cases hexpand : Reference.expand environment written with
      | error e =>
          rw [hexpand] at h
          cases h
      | ok value =>
          rw [hexpand] at h
          use written, value, rfl, hexpand, (Except.ok.inj h).symm

/-- A text whose references can be resolved is set as resolved. -/
theorem withText_of_resolved {text resolved : Option String}
    (h : text.mapM (Reference.expand environment) = .ok resolved) (set : Config → String → Config)
    (c : Config) :
  c.withText environment set text = .ok (resolved.elim c (set c))
  := by
  obtain ⟨rfl, rfl⟩ | ⟨written, value, rfl, hexpand, rfl⟩ := resolved_cases h
  · rfl
  · rw [withText, hexpand]
    rfl

variable [DomainNames]

/-- The configuration with a URL, if one is given, and nothing else. -/
def withUrlOnly : Option String → Except ConfigError Config
  | none => .ok empty
  | some raw => (ConnectionUrl.parse raw).map (empty.withUrl raw)

theorem turns_withSettings {c : Config} (h : c.poolDisabled = false) (s : Settings) :
  s.written.Turns c.fields (c.withSettings s).fields
  := by
  constructor
  case url =>
    left
    constructor <;> rfl
  case poolDisabled => rw [fields, fields, h, withSettings, Settings.written]
  all_goals rfl

/-- A document gives the configuration of its URL with the other settings of it. -/
theorem result_ofDocument (h : document.Resolves environment s) :
  (ofDocument environment document).result = (withUrlOnly s.url).map (·.withSettings s)
  := by
  have hsettings (c : Config) :
      ((c.withTexts environment document).bind fun c => .ok (c.withNumbers document))
        = .ok (c.withSettings s) := by
    simp only [withTexts, withText_of_resolved h.username, withText_of_resolved h.password,
      withText_of_resolved h.table, withText_of_resolved h.dataSource, bind, Except.bind,
      withNumbers, h.maxConnections, h.poolDisabled, h.maxLifetime, h.idleTimeout]
    obtain ⟨url, username, password, table, dataSource⟩ := s
    cases username <;> cases password <;> cases table <;> cases dataSource <;> rfl
  have hstart (start : Except ConfigError Config) :
      (start.bind fun c => (c.withTexts environment document).bind fun c =>
        .ok (c.withNumbers document)) = start.map (·.withSettings s) := by
    cases start with
    | error e => rfl
    | ok c => apply hsettings
  rw [ofDocument]
  obtain ⟨hurl, hresolved⟩ | ⟨text, raw, hurl, hexpand, hresolved⟩ := resolved_cases h.url
  · simp only [hurl, hresolved, Attempt.result_bind, Attempt.result_pure, Attempt.ofExcept]
    apply hstart (.ok empty)
  · simp only [hurl, hresolved, hexpand, Attempt.result_bind, Attempt.result_pure,
      Attempt.ofExcept, result_setUrl]
    apply hstart

end Config

/-! ### The configuration of properties -/

namespace Settings

theorem ne_url_of_mem_tail {key : PropertyKey} (h : key ∈ PropertyKey.all.tail) :
  key ≠ .url
  := by
  have hall : ∀ key ∈ PropertyKey.all.tail, key ≠ .url := by decide
  apply hall key h

/-- At most one property has the URL. -/
theorem filter_url_properties (s : Settings) :
  s.properties.filter (·.1 == PropertyKey.url.text)
    = (s.url.map (PropertyKey.url.text, ·)).toList
  := by
  rw [properties, List.filter_filterMap]
  change List.filterMap _ (.url :: PropertyKey.all.tail) = _
  rw [List.filterMap_cons, List.filterMap_eq_nil_iff.mpr]
  · cases hurl : s.url <;> simp [property?, text?, hurl, Option.filter]
  · intro key hkey
    cases htext : s.text? key <;> simp [property?, htext, ne_url_of_mem_tail hkey]

theorem filter_others_properties (s : Settings) :
  s.properties.filter (!·.1 == PropertyKey.url.text) = PropertyKey.all.tail.filterMap s.property?
  := by
  rw [properties, List.filter_filterMap]
  change List.filterMap _ (.url :: PropertyKey.all.tail) = _
  have hurl : ((s.property? .url).filter (!·.1 == PropertyKey.url.text)) = none := by
    cases hurl : s.url <;> simp [property?, text?, hurl, Option.filter]
  rw [List.filterMap_cons, hurl]
  apply List.filterMap_congr
  intro key hkey
  cases htext : s.text? key <;> simp [property?, htext, ne_url_of_mem_tail hkey, Option.filter]

/-- A text that a setting has as a property can be read back. -/
theorem fault?_of_text? {key : PropertyKey} {text : String} (h : s.text? key = some text) :
  key.fault? text = none
  := by
  cases key with
  | url | username | password | table | dataSource => rfl
  | maxConnections =>
      obtain ⟨n, -, rfl⟩ := Option.map_eq_some_iff.mp h
      rw [PropertyKey.fault?, Numeral.unsigned?_decimalText n.toNat_lt,
        if_neg (Option.some_ne_none _)]
  | poolDisabled =>
      obtain ⟨b, -, rfl⟩ := Option.map_eq_some_iff.mp h
      cases b <;> rfl
  | maxLifetime | idleTimeout =>
      obtain ⟨n, -, rfl⟩ := Option.map_eq_some_iff.mp h
      rw [PropertyKey.fault?, Numeral.unsigned?_decimalText n.toNat_lt,
        if_neg (Option.some_ne_none _)]

variable (hperm : properties.Perm s.properties)
include hperm

theorem filter_url_of_perm :
  properties.filter (·.1 == PropertyKey.url.text) = (s.url.map (PropertyKey.url.text, ·)).toList
  := by
  have hurls := hperm.filter (·.1 == PropertyKey.url.text)
  rw [filter_url_properties] at hurls
  cases hurl : s.url with
  | none =>
      rw [hurl] at hurls
      apply hurls.eq_nil
  | some raw =>
      rw [hurl] at hurls
      apply hurls.eq_singleton

/-- The properties besides the URL are those of the other settings in some order. -/
theorem perm_others :
  (properties.filter (!·.1 == PropertyKey.url.text)).Perm
    (PropertyKey.all.tail.filterMap s.property?)
  := by
  rw [← filter_others_properties]
  apply hperm.filter

theorem not_fails_of_mem [DomainNames] {property : String × String}
    (h : property ∈ properties.filter (!·.1 == PropertyKey.url.text)) (e : ConfigError) :
  ¬ Property.Fails property.1 property.2 e
  := by
  have hmem := (perm_others hperm).mem_iff.mp h
  obtain ⟨key, hkey, hproperty⟩ := List.mem_filterMap.mp hmem
  obtain ⟨text, htext, rfl⟩ := Option.map_eq_some_iff.mp hproperty
  intro hfails
  obtain ⟨hurl, -⟩ | ⟨fault, hfault, -⟩ := Fields.fails_text_iff.mp hfails
  · exact absurd hurl (ne_url_of_mem_tail hkey)
  · rw [fault?_of_text? htext] at hfault
    cases hfault

/-- What at most one of the properties besides the URL writes is told by the settings. -/
theorem latest_others [DomainNames] {α : Type} {value? : Written → Option α} {last : Option α}
    (h : (PropertyKey.all.tail.flatMap fun key =>
      ((s.text? key).bind fun text => value? (key.written text)).toList) = last.toList) :
  latest value? ((properties.filter (!·.1 == PropertyKey.url.text)).map Property.written) = last
  := by
  have hvalues : (((PropertyKey.all.tail.filterMap s.property?).map Property.written).filterMap
      value?) = last.toList := by
    rw [← h, List.filterMap_map, List.filterMap_filterMap, List.filterMap_eq_flatMap_toList]
    congr
    funext key
    cases htext : s.text? key <;> simp [property?, htext, Property.written_text]
  have hlast := ((perm_others hperm).map Property.written).filterMap value?
  rw [hvalues] at hlast
  cases last with
  | none => rw [latest, hlast.eq_nil, List.getLast?_nil]
  | some a => rw [latest, hlast.eq_singleton, List.getLast?_singleton]

end Settings

namespace Config

section

variable [DomainNames] {c c' : Config}

theorem result_applyProperties_url (url : Option String) :
  (empty.applyProperties (url.map (PropertyKey.url.text, ·)).toList).result = withUrlOnly url
  := by
  cases url with
  | none => rfl
  | some raw =>
      have hset : (empty.applyProperty PropertyKey.url.text raw).result
          = (empty.setUrl raw).result := rfl
      rw [Option.map_some, Option.toList_some, result_applyProperties_cons, hset, result_setUrl,
        withUrlOnly]
      cases ConnectionUrl.parse raw <;> rfl

/-- The URL of properties applies before the others. -/
theorem result_ofProperties (hperm : properties.Perm s.properties) :
  (ofProperties properties).result
    = (withUrlOnly s.url).bind fun c =>
      (c.applyProperties (properties.filter (!·.1 == PropertyKey.url.text))).result
  := by
  rw [ofProperties, Settings.filter_url_of_perm hperm, result_applyProperties_append,
    result_applyProperties_url]

theorem withUrlOnly_cases {url : Option String} (h : withUrlOnly url = .ok c) :
  url = none ∧ c = empty
    ∨ ∃ raw read, url = some raw ∧ ConnectionUrl.parse raw = .ok read ∧ c = empty.withUrl raw read
  := by
  cases url with
  | none =>
      left
      use rfl, (Except.ok.inj h).symm
  | some raw =>
      right
      rw [withUrlOnly] at h
      cases hparse : ConnectionUrl.parse raw with
      | error e =>
          rw [hparse] at h
          cases h
      | ok read =>
          rw [hparse] at h
          use raw, read, rfl, hparse, (Except.ok.inj h).symm

theorem withUrlOnly_eq_error {url : Option String} {e : ConfigError}
    (h : withUrlOnly url = .error e) :
  ∃ raw fault, url = some raw ∧ e = .invalidUri raw fault
    ∧ ConnectionUrl.parse raw = .error (.invalidUri raw fault)
  := by
  cases url with
  | none => cases h
  | some raw =>
      rw [withUrlOnly] at h
      cases hparse : ConnectionUrl.parse raw with
      | ok read =>
          rw [hparse] at h
          cases h
      | error e' =>
          rw [hparse] at h
          obtain rfl := Except.error.inj h
          obtain ⟨fault, rfl⟩ := ConnectionUrl.exists_of_parse_eq_error hparse
          use raw, fault

theorem recalls_withUrlOnly {url : Option String} (h : withUrlOnly url = .ok c) :
  c.fields.Recalls (url.map Written.ofUrl).toList
  := by
  obtain ⟨rfl, rfl⟩ | ⟨raw, read, rfl, hparse, rfl⟩ := withUrlOnly_cases h
  · apply recalls_empty
  · apply recalls_empty.turns (turns_withUrl hparse {})

/-- The URL by itself leaves the pool as it is from the beginning. -/
theorem poolDisabled_withUrlOnly {url : Option String} (h : withUrlOnly url = .ok c) :
  c.poolDisabled = false
  := by
  obtain ⟨-, rfl⟩ | ⟨raw, read, -, -, rfl⟩ := withUrlOnly_cases h
  all_goals rfl

theorem rawUrl_withUrlOnly {url : Option String} (h : withUrlOnly url = .ok c) :
  c.rawUrl = url
  := by
  obtain ⟨rfl, rfl⟩ | ⟨raw, read, rfl, -, rfl⟩ := withUrlOnly_cases h
  all_goals rfl

/-- Applying the settings besides the URL as properties in any order writes to the fields what
the settings write at once. -/
theorem fields_applyProperties (hperm : properties.Perm s.properties)
    (hstart : withUrlOnly s.url = .ok c)
    (h : (c.applyProperties (properties.filter (!·.1 == PropertyKey.url.text))).result = .ok c') :
  (c.withSettings s).fields = c'.fields
  := by
  have hrecalls := recalls_withUrlOnly hstart
  have hsettings := hrecalls.turns (turns_withSettings (poolDisabled_withUrlOnly hstart) s)
  have hproperties := recalls_of_applyProperties hrecalls h
  set others := (properties.filter (!·.1 == PropertyKey.url.text)).map Property.written
  have hlatest {α : Type} {value? : Written → Option α}
      (hothers : latest value? others = value? s.written) :
      latest value? ((s.url.map Written.ofUrl).toList ++ [s.written])
        = latest value? ((s.url.map Written.ofUrl).toList ++ others) := by
    rw [latest_concat, latest_append, hothers]
  apply hsettings.eq_of_latest hproperties
  all_goals
    apply hlatest
    apply Settings.latest_others hperm
    simp [PropertyKey.all, Settings.text?, PropertyKey.written, Settings.written,
      Property.connections_decimalText, Property.millis_decimalText, Property.truth_toString,
      Except.toOption, Option.map_eq_bind, Option.bind_assoc]

/-- A document whose references can be resolved and the properties of the same settings, in
whichever order they come, give configurations with the same fields, among which are the
credentials that are set by themselves, whatever the URL has. If there is a URL that cannot be
read, they fail with the same error instead. -/
theorem ofDocument_agrees_ofProperties (h : document.Resolves environment s)
    (hperm : properties.Perm s.properties) :
  (∃ c c', (ofDocument environment document).result = .ok c
      ∧ (ofProperties properties).result = .ok c'
      ∧ c.fields = c'.fields
      ∧ c.rawUrl = s.url
      ∧ (∀ username, s.username = some username → c.username = some username)
      ∧ ∀ password, s.password = some password → c.password = password)
    ∨ ∃ raw fault, s.url = some raw
      ∧ ConnectionUrl.parse raw = .error (.invalidUri raw fault)
      ∧ (ofDocument environment document).result = .error (.invalidUri raw fault)
      ∧ (ofProperties properties).result = .error (.invalidUri raw fault)
  := by
  rw [result_ofDocument h, result_ofProperties hperm]
  cases hstart : withUrlOnly s.url with
  | error e =>
      right
      obtain ⟨raw, fault, hurl, rfl, hparse⟩ := withUrlOnly_eq_error hstart
      use raw, fault, hurl, hparse, rfl
      rfl
  | ok start =>
      left
      obtain ⟨c', hc'⟩ := exists_result_applyProperties
        (fun property => Settings.not_fails_of_mem hperm) start
      have hraw : start.rawUrl = s.url := rawUrl_withUrlOnly hstart
      use start.withSettings s, c', rfl, hc', fields_applyProperties hperm hstart hc', hraw
      constructor
      · intro username husername
        rw [withSettings, husername]
        rfl
      · intro password hpassword
        rw [withSettings, hpassword]
        rfl

end

attribute [local instance] DomainNames.asciiOnly in
/-- A document that names the user and refers to the host of its URL agrees with properties
that begin with the password and have the URL in between. -/
theorem ofDocument_agrees_ofProperties_small :
  let environment := Environment.ofPairs [("HOST", "db.local"), ("NAME", "alice")]
  let document : Document :=
    { url := some "postgres://bob:pw@$\x7bHOST\x7d/d", username := some "$NAME",
      password := some "p$$w", table := none, dataSource := none, maxConnections := some 4294967295,
      pool := { maxLifetime := some 18446744073709551615 } }
  let s : Settings :=
    { url := some "postgres://bob:pw@db.local/d", username := some "alice", password := some "p$w",
      maxConnections := some 4294967295, maxLifetime := some 18446744073709551615 }
  let properties := [("password", "p$w"), ("max-connection", "4294967295"),
    ("url", "postgres://bob:pw@db.local/d"), ("username", "alice"),
    ("connection.max-life-time", "18446744073709551615")]
  document.Resolves environment s
    ∧ properties.Perm s.properties
    ∧ ∃ c c', (ofDocument environment document).result = .ok c
      ∧ (ofProperties properties).result = .ok c'
      ∧ c.fields = c'.fields
      ∧ c.rawUrl = some "postgres://bob:pw@db.local/d"
      ∧ c.username = some "alice"
      ∧ c.password = "p$w"
  := by
  intro environment document s properties
  have hresolves : document.Resolves environment s := by
    constructor <;> decide +kernel
  have hperm : properties.Perm s.properties := by
    decide +kernel
  use hresolves, hperm
  obtain ⟨c, c', hc, hc', hfields, hraw, husername, hpassword⟩ | ⟨raw, fault, hurl, hparse, -⟩ :=
    ofDocument_agrees_ofProperties hresolves hperm
  · use c, c', hc, hc', hfields, hraw, husername "alice" rfl
    apply hpassword "p$w" rfl
  · obtain rfl := Option.some.inj hurl
    have hread : (ConnectionUrl.parse "postgres://bob:pw@db.local/d").isOk = true := by
      decide +kernel
    rw [hparse] at hread
    cases hread

end Config
end Provision
