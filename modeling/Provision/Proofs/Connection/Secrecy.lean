import Mathlib
import Provision.Proofs.Connection.Escaped
import Provision.Proofs.Connection.Failure
import Provision.Proofs.Connection.Password

/-!
# Passwords stay hidden

Two runs of changes that differ in nothing but passwords, set by themselves or in URLs, show the
same: the same changes fail in the same way, the same is logged, and every configuration on the
way has the same texts and the same fields besides its password and the URL as it was given.
-/

namespace Provision

/-! ### What a run shows -/

/-- The configurations differ in nothing but their passwords and their URLs as given, and of those
URLs not in the number of bytes. -/
structure Config.Alike (c c' : Config) : Prop where
  rawSize : c.rawUrl.map String.utf8ByteSize = c'.rawUrl.map String.utf8ByteSize
  normalUrl : c.normalUrl = c'.normalUrl
  host : c.host = c'.host
  port : c.port = c'.port
  database : c.database = c'.database
  username : c.username = c'.username
  maxConnections : c.maxConnections = c'.maxConnections
  dataSource : c.dataSource = c'.dataSource
  table : c.table = c'.table
  poolDisabled : c.poolDisabled = c'.poolDisabled
  maxLifetime : c.maxLifetime = c'.maxLifetime
  idleTimeout : c.idleTimeout = c'.idleTimeout

/-- The changes differ at most in a password: in that which they set, or in that of the URL which
they set. -/
inductive Change.Alike : Change → Change → Prop where
  | same (change : Change) : Alike change change
  | password (value value' : String) : Alike (.password value) (.password value')
  | passwordProperty (value value' : String) :
    Alike (.property PropertyKey.password.text value) (.property PropertyKey.password.text value')
  | url {raw raw' : String} (h : ConnectionUrl.DifferInPassword raw raw') :
    Alike (.url raw) (.url raw')
  | urlProperty {raw raw' : String} (h : ConnectionUrl.DifferInPassword raw raw') :
    Alike (.property PropertyKey.url.text raw) (.property PropertyKey.url.text raw')

/-- The code of the error that an attempt fails with. -/
def Attempt.code? {α : Type} (x : Attempt ConfigError α) : Option String :=
  match x.result with
  | .ok _ => none
  | .error e => some e.code

/-- The entries by which an attempt reaches a log. -/
def Attempt.entries {ε α : Type} (x : Attempt ε α) : List Entry :=
  x.events.map Event.entry

/-- What each of the changes attempts, with the configuration after it. -/
def Config.trace [DomainNames] (c : Config) :
    List Change → List (Attempt ConfigError Config × Config)
  | [] => []
  | change :: rest => (c.apply change, c.after change) :: (c.after change).trace rest

/-- All that is logged in a run of changes. -/
def Config.log [DomainNames] (c : Config) (changes : List Change) : List Entry :=
  (c.trace changes).flatMap fun made => made.1.entries

/-- Two attempts fail in the same way or not at all, log the same, and leave configurations that
are written the same in every form. -/
structure ShowSame (made made' : Attempt ConfigError Config × Config) : Prop where
  code : made.1.code? = made'.1.code?
  entries : made.1.entries = made'.1.entries
  config : made.2.Alike made'.2
  text : made.2.text = made'.2.text
  inline : made.2.outline.inline = made'.2.outline.inline
  block : made.2.outline.block = made'.2.outline.block

/-! ### Configurations -/

namespace Config.Alike

variable {c c' : Config}

theorem refl (c : Config) :
  c.Alike c
  := by
  constructor <;> rfl

variable (h : c.Alike c')
include h

theorem text_eq :
  c.text = c'.text
  := by
  rw [text, text, h.username, h.normalUrl]

theorem outline_eq :
  c.outline = c'.outline
  := by
  rw [outline, outline, h.rawSize, h.normalUrl, h.host, h.port, h.database, h.username,
    h.maxConnections, h.dataSource, h.table, h.poolDisabled, h.maxLifetime, h.idleTimeout]

end Config.Alike

/-! ### One change -/

/-- The attempts log the same, and fail in the same way or make configurations that are alike. -/
inductive EndAlike : Attempt ConfigError Config → Attempt ConfigError Config → Prop where
  | failed {e e' : ConfigError} {events events' : List Event} (hevents : events = events')
      (h : e.code = e'.code) : EndAlike ⟨.error e, events⟩ ⟨.error e', events'⟩
  | made {c c' : Config} {events events' : List Event} (hevents : events = events')
      (h : c.Alike c') : EndAlike ⟨.ok c, events⟩ ⟨.ok c', events'⟩

variable {c c' : Config}

/-- What is logged first does not tell attempts apart that end alike. -/
theorem EndAlike.record {x x' : Attempt ConfigError Config} (h : EndAlike x x') (event : Event) :
  EndAlike (Attempt.record event >>= fun _ => x) (Attempt.record event >>= fun _ => x')
  := by
  cases h with
  | failed hevents hcode => exact .failed (congrArg (event :: ·) hevents) hcode
  | made hevents hmade => exact .made (congrArg (event :: ·) hevents) hmade

theorem EndAlike.code?_eq {x x' : Attempt ConfigError Config} (h : EndAlike x x') :
  x.code? = x'.code?
  := by
  cases h with
  | failed _ hcode => exact congrArg some hcode
  | made _ _ => rfl

theorem EndAlike.entries_eq {x x' : Attempt ConfigError Config} (h : EndAlike x x') :
  x.entries = x'.entries
  := by
  cases h with
  | failed hevents _ => exact congrArg (List.map Event.entry) hevents
  | made hevents _ => exact congrArg (List.map Event.entry) hevents

/-- Converting the same value fails in both configurations or in none. -/
theorem endAlike_map {α : Type} (x : Except ConfigError α) {set set' : α → Config}
    (h : ∀ a, (set a).Alike (set' a)) :
  EndAlike (.ofExcept (x.map set)) (.ofExcept (x.map set'))
  := by
  cases x with
  | error e => exact .failed rfl rfl
  | ok a => exact .made rfl (h a)

namespace Config.Alike

variable (h : c.Alike c')
include h

/-- Of URLs that differ in their passwords the configuration takes the same over but them. -/
theorem withUrl {raw raw' : String} {url url' : ConnectionUrl}
    (hsize : raw.utf8ByteSize = raw'.utf8ByteSize) (hurl : url.masked = url'.masked) :
  (c.withUrl raw url).Alike (c'.withUrl raw' url')
  := by
  obtain ⟨scheme, username, password, host, port, path, query⟩ := url
  obtain ⟨scheme', username', password', host', port', path', query'⟩ := url'
  obtain ⟨rfl, rfl, -, rfl, rfl, rfl, rfl⟩ := ConnectionUrl.mk.inj hurl
  exact { h with
    rawSize := congrArg some hsize
    normalUrl := rfl
    host := rfl
    port := rfl
    database := rfl
    username := by rw [Config.withUrl, Config.withUrl, h.username] }

theorem withProperty (key : PropertyKey) (value : String) :
  EndAlike (.ofExcept (c.withProperty key value)) (.ofExcept (c'.withProperty key value))
  := by
  cases key with
  | url => exact .made rfl h
  | username => exact .made rfl { h with username := rfl }
  | password => exact .made rfl { h with }
  | table => exact .made rfl { h with table := rfl }
  | dataSource => exact .made rfl { h with dataSource := rfl }
  | maxConnections =>
      apply endAlike_map
      intro n
      exact { h with maxConnections := rfl }
  | poolDisabled =>
      apply endAlike_map
      intro b
      exact { h with poolDisabled := rfl }
  | maxLifetime =>
      apply endAlike_map
      intro d
      exact { h with maxLifetime := rfl }
  | idleTimeout =>
      apply endAlike_map
      intro d
      exact { h with idleTimeout := rfl }

variable [DomainNames]

/-- Setting URLs that differ in their passwords fails in both configurations or in none, and logs
the same. -/
theorem setUrl {raw raw' : String} (hsize : raw.utf8ByteSize = raw'.utf8ByteSize)
    (hread : (ConnectionUrl.parse raw).toOption.map ConnectionUrl.masked
      = (ConnectionUrl.parse raw').toOption.map ConnectionUrl.masked) :
  EndAlike (c.setUrl raw) (c'.setUrl raw')
  := by
  rw [Config.setUrl, Config.setUrl, hsize]
  apply EndAlike.record
  cases hparse : ConnectionUrl.parse raw with
  | error e =>
      cases hparse' : ConnectionUrl.parse raw' with
      | error e' =>
          obtain ⟨fault, rfl⟩ := ConnectionUrl.exists_of_parse_eq_error hparse
          obtain ⟨fault', rfl⟩ := ConnectionUrl.exists_of_parse_eq_error hparse'
          exact .failed rfl rfl
      | ok url' =>
          rw [hparse, hparse'] at hread
          cases hread
  | ok url =>
      cases hparse' : ConnectionUrl.parse raw' with
      | error e' =>
          rw [hparse, hparse'] at hread
          cases hread
      | ok url' =>
          rw [hparse, hparse'] at hread
          have hurl : url.masked = url'.masked := Option.some.inj hread
          have hevents := congrArg (fun url : ConnectionUrl =>
            [Event.urlAccepted url.scheme url.host url.port (some url.database)]) hurl
          exact .made hevents (h.withUrl hsize hurl)

/-- The same property does the same in both configurations. -/
theorem applyProperty (key value : String) :
  EndAlike (c.applyProperty key value) (c'.applyProperty key value)
  := by
  rw [Config.applyProperty, Config.applyProperty]
  apply EndAlike.record
  cases PropertyKey.ofText? key with
  | none => exact .failed rfl rfl
  | some known =>
      cases known with
      | url => apply h.setUrl rfl rfl
      | username | password | table | dataSource | maxConnections | poolDisabled | maxLifetime
      | idleTimeout => apply h.withProperty

/-- The same change does the same in both configurations. -/
theorem apply_same (change : Change) :
  EndAlike (c.apply change) (c'.apply change)
  := by
  cases change with
  | url raw => apply h.setUrl rfl rfl
  | property key value => apply h.applyProperty
  | renormalize =>
      rw [Config.apply, Config.apply, h.normalUrl]
      apply h.setUrl rfl rfl
  | username value => exact .made rfl { h with username := rfl }
  | password value => exact .made rfl { h with }
  | table value => exact .made rfl { h with table := rfl }
  | dataSource value => exact .made rfl { h with dataSource := rfl }
  | maxConnections value => exact .made rfl { h with maxConnections := rfl }
  | poolDisabled value => exact .made rfl { h with poolDisabled := rfl }
  | maxLifetime value => exact .made rfl { h with maxLifetime := rfl }
  | idleTimeout value => exact .made rfl { h with idleTimeout := rfl }

variable [LawfulDomainNames]

/-- Changes that differ at most in a password end alike. -/
theorem apply {change change' : Change} (hchange : change.Alike change') :
  EndAlike (c.apply change) (c'.apply change')
  := by
  cases hchange with
  | same => apply h.apply_same
  | password value value' => exact .made rfl { h with }
  | passwordProperty value value' =>
      exact .made rfl { h with }
  | url hraw => apply h.setUrl hraw.utf8ByteSize_eq hraw.parse_masked
  | urlProperty hraw =>
      have hend := h.setUrl hraw.utf8ByteSize_eq hraw.parse_masked
      apply hend.record (.propertyGiven PropertyKey.url.text)

/-- Whether it fails or not, a change leaves configurations alike. -/
theorem after {change change' : Change} (hchange : change.Alike change') :
  (c.after change).Alike (c'.after change')
  := by
  have hend := h.apply hchange
  rw [Config.after, Config.after]
  generalize c.apply change = x at hend ⊢
  generalize c'.apply change' = x' at hend ⊢
  cases hend with
  | failed _ _ => apply h
  | made _ hmade => apply hmade

theorem showSame {change change' : Change} (hchange : change.Alike change') :
  ShowSame (c.apply change, c.after change) (c'.apply change', c'.after change')
  := by
  have hafter := h.after hchange
  constructor
  · apply (h.apply hchange).code?_eq
  · apply (h.apply hchange).entries_eq
  · apply hafter
  · apply hafter.text_eq
  · rw [hafter.outline_eq]
  · rw [hafter.outline_eq]

/-! ### Any number of changes -/

/-- Runs that begin alike and whose changes differ in passwords only show the same throughout. -/
theorem trace {changes changes' : List Change}
    (hchanges : List.Forall₂ Change.Alike changes changes') :
  List.Forall₂ ShowSame (c.trace changes) (c'.trace changes')
  := by
  induction hchanges generalizing c c' with
  | nil => apply List.Forall₂.nil
  | cons hchange _ ih =>
      apply List.Forall₂.cons
      · apply h.showSame hchange
      · apply ih (h.after hchange)

end Config.Alike

/-- Attempts that show the same one by one log the same altogether. -/
theorem flatMap_entries_eq {steps steps' : List (Attempt ConfigError Config × Config)}
    (h : List.Forall₂ ShowSame steps steps') :
  steps.flatMap (fun made => made.1.entries) = steps'.flatMap (fun made => made.1.entries)
  := by
  induction h with
  | nil => rfl
  | cons hsame _ ih => rw [List.flatMap_cons, List.flatMap_cons, hsame.entries, ih]

/-- Of two runs of changes from the same configuration whose changes differ in nothing but the
passwords that they set, by themselves, as a property or in a URL, everything that shows is the
same: which changes fail and how, all that is logged, every text of every configuration on the
way, and all fields but the password and the URL as given. -/
theorem Config.trace_hides_password [DomainNames] [LawfulDomainNames] (c : Config)
    {changes changes' : List Change} (h : List.Forall₂ Change.Alike changes changes') :
  List.Forall₂ ShowSame (c.trace changes) (c.trace changes')
    ∧ c.log changes = c.log changes'
  := by
  have hsame := (Alike.refl c).trace h
  use hsame
  apply flatMap_entries_eq hsame

attribute [local instance] DomainNames.asciiOnly in
/-- A URL with an escape in its password, a property, and a URL without a path, which fails. -/
theorem Config.trace_hides_password_small :
  let changes : List Change :=
    [.url "jdbc:postgres://bob:p%40s@h/db", .property "password" "one",
      .property "url" "jdbc:postgres://bob:abc@h"]
  let others : List Change :=
    [.url "jdbc:postgres://bob:a!b~c@h/db", .property "password" "three",
      .property "url" "jdbc:postgres://bob:x.y@h"]
  List.Forall₂ Change.Alike changes others
    ∧ List.Forall₂ ShowSame (empty.trace changes) (empty.trace others)
    ∧ empty.log changes = empty.log others
    ∧ (empty.trace changes).map (·.2.password) = ["p@s", "one", "one"]
    ∧ (empty.trace others).map (·.2.password) = ["a!b~c", "three", "three"]
    ∧ (empty.trace others).map (·.1.code?) = [none, none, some "dbkit::config::invalid_uri"]
  := by
  intro changes others
  have hscheme := ConnectionUrl.isNormal_postgres.toIsText
  have hbob : ∀ c ∈ ['b', 'o', 'b'], c ≠ ':' ∧ Url.isSecret c = true := by
    simp [Url.isSecret, Url.isOuter, Url.endsAuthority, Url.isSlash, Url.startsQuery]
  have hescaped : Url.Percent.Spells ConnectionUrl.isInfoChar ['p', '%', '4', '0', 's']
      [0x70, 0x40, 0x73] := .char rfl (.escape (a := 4) (b := 0) rfl rfl (.char rfl .nil))
  have hplain : Url.Percent.Spells ConnectionUrl.isInfoChar ['a', '!', 'b', '~', 'c']
      [0x61, 0x21, 0x62, 0x7E, 0x63] :=
    .char rfl (.char rfl (.char rfl (.char rfl (.char rfl .nil))))
  have habc : Url.Percent.Spells ConnectionUrl.isInfoChar ['a', 'b', 'c'] [0x61, 0x62, 0x63] :=
    .char rfl (.char rfl (.char rfl .nil))
  have hxy : Url.Percent.Spells ConnectionUrl.isInfoChar ['x', '.', 'y'] [0x78, 0x2E, 0x79] :=
    .char rfl (.char rfl (.char rfl .nil))
  have hread : ConnectionUrl.DifferInPassword "jdbc:postgres://bob:p%40s@h/db"
      "jdbc:postgres://bob:a!b~c@h/db" := by
    convert ConnectionUrl.differInPassword_of_spells hscheme hbob hescaped hplain rfl
      ['h', '/', 'd', 'b'] using 1
    all_goals decide +kernel
  have hlost : ConnectionUrl.DifferInPassword "jdbc:postgres://bob:abc@h"
      "jdbc:postgres://bob:x.y@h" := by
    convert ConnectionUrl.differInPassword_of_spells hscheme hbob habc hxy rfl ['h'] using 1
    all_goals decide +kernel
  have halike : List.Forall₂ Change.Alike changes others :=
    .cons (.url hread) (.cons (.passwordProperty "one" "three")
      (.cons (.urlProperty hlost) .nil))
  have hsame := trace_hides_password empty halike
  use halike, hsame.1, hsame.2
  decide +kernel

end Provision
