import Mathlib
import Provision.Proofs.Connection.Content
import Provision.Proofs.Connection.Document
import Provision.Proofs.Connection.Reference
import Provision.Proofs.Toml.Reading
import Provision.Proofs.Toml.Spelling

/-!
# The layout of a document

A document is read by its content alone, and it is read exactly if it has the layout of one:
no keys but those of settings, and a value of the right kind for each. The settings of the
pool stand in a table, but an array of them is read too.
-/

namespace Provision

open Toml (Value Entries)

namespace Document

variable {value : Value} {entries : Entries} {key : String} {α : Type}
  {read? : Value → Option α}

/-! ### The layout -/

/-- The keys of texts. -/
def textKeys : List String :=
  ["url", "username", "password", "table", "data-source"]

/-- The keys of times in the table of the pool. -/
def timeKeys : List String :=
  ["max-life-time", "max-idle-timeout"]

/-- The entries of a table of the pool: no other keys than its own, and values of the right
kinds. -/
structure IsPoolLaidOut (entries : Entries) : Prop where
  known : ∀ key, (entries.get? key).isSome → key ∈ poolKeys
  disabled : ∀ value, entries.get? "disable-pool" = some value → ∃ b, value = .truth b
  times : ∀ key ∈ timeKeys, ∀ value, entries.get? key = some value →
    ∃ n : Nat, value = .integer n

/-- The value is a table with settings of the pool. -/
def IsPoolTable (value : Value) : Prop :=
  ∃ form entries, value = .table form entries ∧ IsPoolLaidOut entries

/-- The value is an array with settings of the pool in front. -/
def IsPoolArray (value : Value) : Prop :=
  ∃ (b : Bool) (n n' : Nat) (rest : List Value),
    value = .array (.truth b :: .integer n :: .integer n' :: rest)

/-- The entries of a document: no other keys than its own, and values of the right kinds. -/
structure IsLaidOut (IsPool : Value → Prop) (entries : Entries) : Prop where
  known : ∀ key, (entries.get? key).isSome → key ∈ keys
  texts : ∀ key ∈ textKeys, ∀ value, entries.get? key = some value → ∃ s, value = .text s
  maxConnections : ∀ value, entries.get? "max-connection" = some value →
    ∃ n : Nat, n < UInt32.size ∧ value = .integer n
  pool : ∀ value, entries.get? "connection" = some value → IsPool value

theorem isSome_optional?_iff :
  (optional? read? entries key).isSome
    ↔ ∀ value, entries.get? key = some value → (read? value).isSome
  := by
  rw [optional?]
  cases entries.get? key <;> simp

theorem isSome_text?_iff :
  (text? value).isSome ↔ ∃ s, value = .text s
  := by
  cases value <;> simp [text?]

theorem isSome_truth?_iff :
  (truth? value).isSome ↔ ∃ b, value = .truth b
  := by
  cases value <;> simp [truth?]

theorem count?_eq_some_iff {n : Nat} :
  count? value = some n ↔ value = .integer n
  := by
  cases value with
  | integer m =>
      rw [count?, Value.integer.injEq]
      split_ifs with h
      · rw [Option.some.injEq]
        omega
      · constructor
        · intro heq
          cases heq
        · rintro rfl
          exact absurd (Int.natCast_nonneg n) h
  | _ => simp [count?]

theorem isSome_filter_count?_iff (bound : Nat) :
  ((count? value).filter (· < bound)).isSome ↔ ∃ n : Nat, n < bound ∧ value = .integer n
  := by
  rw [Option.isSome_iff_exists]
  constructor
  · rintro ⟨n, hn⟩
    obtain ⟨hcount, hlt⟩ := Option.filter_eq_some_iff.mp hn
    use n, of_decide_eq_true hlt
    apply count?_eq_some_iff.mp hcount
  · rintro ⟨n, hlt, hvalue⟩
    use n
    apply Option.filter_eq_some_iff.mpr
    use count?_eq_some_iff.mpr hvalue
    apply decide_eq_true hlt

theorem isSome_connections?_iff :
  (connections? value).isSome ↔ ∃ n : Nat, n < UInt32.size ∧ value = .integer n
  := by
  rw [connections?, Option.isSome_map, isSome_filter_count?_iff]

/-- In a document with integers of 64 bits every integer from zero on is a time. -/
theorem isSome_millis?_iff (hrange : ∀ n, value = .integer n → Toml.Number.inRange n = true) :
  (millis? value).isSome ↔ ∃ n : Nat, value = .integer n
  := by
  rw [millis?, Option.isSome_map, isSome_filter_count?_iff]
  constructor
  · rintro ⟨n, -, hvalue⟩
    use n
  · rintro ⟨n, hvalue⟩
    have hn := hrange n hvalue
    rw [Toml.Number.inRange, Bool.and_eq_true, decide_eq_true_iff, decide_eq_true_iff] at hn
    use n
    constructor
    · rw [UInt64.size]
      omega
    · apply hvalue

/-- A computation that goes on with something that is there in any case. -/
theorem isSome_bind_iff {β : Type} {found : Option α} {f : α → Option β} {there : Prop}
    (h : ∀ a, (f a).isSome ↔ there) :
  (found.bind f).isSome ↔ found.isSome ∧ there
  := by
  cases found with
  | none => simp
  | some a => simp [h]

theorem isSome_guard_iff {there : Prop} [Decidable there] :
  (guard there : Option Unit).isSome ↔ there
  := by
  by_cases h : there <;> simp [h]

/-- The integers in the entries have 64 bits. -/
def IsInRange (entries : Entries) : Prop :=
  ∀ place n, entries.fact? place = some (.integer n) → Toml.Number.inRange n = true

/-- What is said one key down. -/
theorem fact?_of_get? (h : entries.get? key = some value) {place : List Toml.Step} :
  entries.fact? (.key key :: place) = value.fact? place
  := by
  rw [Entries.fact?_key, h, Option.bind_some]

/-- A table is read as settings of the pool exactly if it has their layout. -/
theorem isSome_pool?_table_iff (hrange : IsInRange entries) (form : Toml.TableForm) :
  (pool? (.table form entries)).isSome ↔ IsPoolLaidOut entries
  := by
  have htime (key : String) : (optional? millis? entries key).isSome
      ↔ ∀ value, entries.get? key = some value → ∃ n : Nat, value = .integer n := by
    rw [isSome_optional?_iff]
    apply forall₂_congr
    intro value hvalue
    apply isSome_millis?_iff
    rintro n rfl
    apply hrange [.key key]
    rw [fact?_of_get? hvalue]
    rfl
  have hwhole : (pool? (.table form entries)).isSome ↔ hasOnly poolKeys entries = true
      ∧ (optional? truth? entries "disable-pool").isSome
      ∧ (optional? millis? entries "max-life-time").isSome
      ∧ (optional? millis? entries "max-idle-timeout").isSome ∧ True :=
    (isSome_bind_iff fun _ => isSome_bind_iff fun _ => isSome_bind_iff fun _ =>
      isSome_bind_iff fun _ => iff_true_intro rfl).trans (and_congr_left' isSome_guard_iff)
  rw [hwhole, hasOnly_iff, htime, htime, isSome_optional?_iff]
  simp only [isSome_truth?_iff, and_true]
  constructor
  · rintro ⟨hknown, hdisabled, hlifetime, hidle⟩
    use hknown, hdisabled
    intro key hkey
    obtain rfl | rfl : key = "max-life-time" ∨ key = "max-idle-timeout" := by
      simpa [timeKeys] using hkey
    · apply hlifetime
    · apply hidle
  · intro h
    use h.known, h.disabled, h.times _ (by simp [timeKeys])
    apply h.times
    simp [timeKeys]

/-- An array is read as settings of the pool exactly if they stand in front. -/
theorem isSome_pool?_array_iff {items : List Value}
    (hrange : ∀ item ∈ items, ∀ n, item = .integer n → Toml.Number.inRange n = true) :
  (pool? (.array items)).isSome ↔ IsPoolArray (.array items)
  := by
  have hwhole (first second third : Value) (rest : List Value) :
      (pool? (.array (first :: second :: third :: rest))).isSome
        ↔ (truth? first).isSome ∧ (millis? second).isSome ∧ (millis? third).isSome ∧ True :=
    isSome_bind_iff fun _ => isSome_bind_iff fun _ => isSome_bind_iff fun _ => iff_true_intro rfl
  match items with
  | [] => simp [pool?, IsPoolArray]
  | [first] => simp [pool?, IsPoolArray]
  | [first, second] => simp [pool?, IsPoolArray]
  | first :: second :: third :: rest =>
      rw [hwhole, isSome_truth?_iff, isSome_millis?_iff (hrange second (by simp)),
        isSome_millis?_iff (hrange third (by simp))]
      constructor
      · rintro ⟨⟨b, rfl⟩, ⟨n, rfl⟩, ⟨n', rfl⟩, -⟩
        use b, n, n', rest
      · rintro ⟨b, n, n', rest', heq⟩
        simp only [Value.array.injEq, List.cons.injEq] at heq
        obtain ⟨rfl, rfl, rfl, -⟩ := heq
        exact ⟨⟨b, rfl⟩, ⟨n, rfl⟩, ⟨n', rfl⟩, trivial⟩

theorem isSome_pool?_iff (hrange : ∀ place n, value.fact? place = some (.integer n) →
    Toml.Number.inRange n = true) :
  (pool? value).isSome ↔ IsPoolTable value ∨ IsPoolArray value
  := by
  cases value with
  | table form entries =>
      have hentries : IsInRange entries := by
        intro place n hfact
        apply hrange place
        rw [Entries.fact?_table, hfact]
      rw [isSome_pool?_table_iff hentries]
      constructor
      · intro h
        left
        use form, entries
      · rintro (⟨form', entries', heq, h⟩ | ⟨b, n, n', rest, heq⟩)
        · obtain ⟨-, rfl⟩ := Value.table.inj heq
          apply h
        · cases heq
  | array items =>
      have hitems : ∀ item ∈ items, ∀ n, item = .integer n → Toml.Number.inRange n = true := by
        rintro item hitem n rfl
        obtain ⟨index, hindex⟩ := List.mem_iff_getElem?.mp hitem
        apply hrange [.item index]
        simp only [Value.fact?, Value.inside?, hindex]
        rfl
      rw [isSome_pool?_array_iff hitems]
      constructor
      · apply Or.inr
      · rintro (⟨form, entries, heq, -⟩ | h)
        · cases heq
        · apply h
  | _ => simp [pool?, IsPoolTable, IsPoolArray]

/-- Entries are read as a document exactly if they have its layout. -/
theorem isSome_ofEntries?_iff (hrange : IsInRange entries) :
  (ofEntries? entries).isSome
    ↔ IsLaidOut (fun value => IsPoolTable value ∨ IsPoolArray value) entries
  := by
  have hwhole : (ofEntries? entries).isSome ↔ hasOnly keys entries = true
      ∧ (optional? text? entries "url").isSome
      ∧ (optional? text? entries "username").isSome
      ∧ (optional? text? entries "password").isSome
      ∧ (optional? text? entries "table").isSome
      ∧ (optional? text? entries "data-source").isSome
      ∧ (optional? connections? entries "max-connection").isSome
      ∧ (optional? pool? entries "connection").isSome ∧ True :=
    (isSome_bind_iff fun _ => isSome_bind_iff fun _ => isSome_bind_iff fun _ =>
      isSome_bind_iff fun _ => isSome_bind_iff fun _ => isSome_bind_iff fun _ =>
      isSome_bind_iff fun _ => isSome_bind_iff fun _ => iff_true_intro rfl).trans
        (and_congr_left' isSome_guard_iff)
  have hpool : (optional? pool? entries "connection").isSome
      ↔ ∀ value, entries.get? "connection" = some value →
        IsPoolTable value ∨ IsPoolArray value := by
    rw [isSome_optional?_iff]
    apply forall₂_congr
    intro value hvalue
    apply isSome_pool?_iff
    intro place n hfact
    apply hrange (.key "connection" :: place)
    rw [fact?_of_get? hvalue, hfact]
  rw [hwhole, hasOnly_iff, hpool]
  simp only [isSome_optional?_iff, isSome_text?_iff, isSome_connections?_iff, and_true]
  constructor
  · rintro ⟨hknown, hurl, husername, hpassword, htable, hsource, hconnections, hpool⟩
    refine ⟨hknown, ?_, hconnections, hpool⟩
    intro key hkey
    obtain rfl | rfl | rfl | rfl | rfl : key = "url" ∨ key = "username" ∨ key = "password"
        ∨ key = "table" ∨ key = "data-source" := by
      simpa [textKeys] using hkey
    all_goals assumption
  · intro h
    have htexts : ∀ key, key ∈ textKeys → _ := h.texts
    simp only [textKeys, List.forall_mem_cons] at htexts
    obtain ⟨hurl, husername, hpassword, htable, hsource, -⟩ := htexts
    use h.known, hurl, husername, hpassword, htable, hsource, h.maxConnections, h.pool

/-- Nothing in the layout of a document is an array of tables. -/
theorem not_hasTables_of_isLaidOut
    (h : IsLaidOut (fun value => IsPoolTable value ∨ IsPoolArray value) entries) :
  ¬ entries.HasTables
  := by
  intro htables
  obtain ⟨key, path, value, hvalue, hfact⟩ := Entries.exists_get?_of_hasTables htables
  have hleaf (hroot : value.root ≠ .tables) (hinside : ∀ name, value.inside? (.key name) = none) :
      False := by
    cases path with
    | nil => apply hroot (Option.some.inj hfact)
    | cons name rest =>
        rw [Toml.keySteps, List.map_cons, Value.fact?, hinside] at hfact
        cases hfact
  have hkey := h.known key (by rw [hvalue]; rfl)
  obtain hkey | rfl | rfl : key ∈ textKeys ∨ key = "max-connection" ∨ key = "connection" := by
    simpa [keys, textKeys, or_assoc] using hkey
  · obtain ⟨s, rfl⟩ := h.texts key hkey value hvalue
    apply hleaf (by simp [Value.root]) fun _ => rfl
  · obtain ⟨n, -, rfl⟩ := h.maxConnections value hvalue
    apply hleaf (by simp [Value.root]) fun _ => rfl
  · obtain ⟨form, inner, rfl, hinner⟩ | ⟨b, n, n', rest, rfl⟩ := h.pool value hvalue
    · cases path with
      | nil => cases hfact
      | cons name rest =>
          rw [Toml.keySteps, List.map_cons, Entries.fact?_table, Entries.fact?_key] at hfact
          obtain ⟨found, hfound, hfact⟩ := Option.bind_eq_some_iff.mp hfact
          have hname := hinner.known name (by rw [hfound]; rfl)
          obtain rfl | hname : name = "disable-pool" ∨ name ∈ timeKeys := by
            simpa [poolKeys, timeKeys] using hname
          · obtain ⟨b, rfl⟩ := hinner.disabled found hfound
            cases rest <;> cases hfact
          · obtain ⟨n, rfl⟩ := hinner.times name hname found hfound
            cases rest <;> cases hfact
    · apply hleaf (by simp [Value.root]) fun _ => rfl

/-! ### By content alone -/

theorem parse_eq_of_alike {text text' : String} {entries entries' : Entries}
    (h : Toml.parse? text = some entries) (h' : Toml.parse? text' = some entries')
    (halike : entries.Alike entries') :
  parse text = parse text'
  := by
  rw [parse, parse, h, h', Option.bind_some, Option.bind_some, ofEntries?_congr halike]

theorem parse_of_hasTables {text : String} {entries : Entries}
    (h : Toml.parse? text = some entries) (htables : entries.HasTables) :
  parse text = .error .malformedDocument
  := by
  have hnone : ofEntries? entries = none := by
    rw [← Option.not_isSome_iff_eq_none,
      isSome_ofEntries?_iff fun _ _ => Toml.inRange_of_parse? h]
    intro hlaidOut
    apply not_hasTables_of_isLaidOut hlaidOut htables
  rw [parse, h, Option.bind_some, hnone]

end Document

namespace Config

variable {α β : Type} {environment : Environment} {text text' : String}

/-! ### Failures of other kinds -/

theorem bind_ne_malformedDocument {x : Except ConfigError α} {f : α → Except ConfigError β}
    (hx : x ≠ .error .malformedDocument) (hf : ∀ a, f a ≠ .error .malformedDocument) :
  x.bind f ≠ .error .malformedDocument
  := by
  cases x with
  | error e =>
      intro h
      apply hx
      rw [Except.error.inj h]
  | ok a => apply hf a

theorem resolve_ne_malformedDocument (environment : Environment) (name : List Char)
    (demand : Reference.Demand) :
  Reference.resolve environment name demand ≠ .error .malformedDocument
  := by
  unfold Reference.resolve
  simp only
  split
  · cases environment.lookup (String.ofList name) <;> nofun
  · split <;> nofun

theorem expand_ne_malformedDocument (environment : Environment) (text : String) :
  Reference.expand environment text ≠ .error .malformedDocument
  := by
  intro h
  rw [Reference.expand] at h
  cases hmeaning : (Reference.pieces text.toList).mapM (Reference.meaning environment) with
  | ok parts =>
      rw [hmeaning] at h
      cases h
  | error e =>
      rw [hmeaning] at h
      obtain rfl := Except.error.inj h
      obtain ⟨front, piece, back, -, -, hpiece⟩ := Reference.mapM_eq_error_iff.mp hmeaning
      cases piece with
      | char c => cases hpiece
      | unterminated name => cases hpiece
      | nameless => cases hpiece
      | reference name demand =>
          apply resolve_ne_malformedDocument environment name demand hpiece

theorem withText_ne_malformedDocument (set : Config → String → Config) (written : Option String)
    (c : Config) :
  c.withText environment set written ≠ .error .malformedDocument
  := by
  cases written with
  | none => nofun
  | some written =>
      rw [withText]
      intro h
      cases hexpand : Reference.expand environment written with
      | ok value =>
          rw [hexpand] at h
          cases h
      | error e =>
          rw [hexpand] at h
          apply expand_ne_malformedDocument environment written
          rw [hexpand, ← Except.error.inj h]

variable [DomainNames]

theorem setUrl_ne_malformedDocument (c : Config) (raw : String) :
  (c.setUrl raw).result ≠ .error .malformedDocument
  := by
  rw [result_setUrl]
  intro h
  cases hparse : ConnectionUrl.parse raw with
  | ok url =>
      rw [hparse] at h
      cases h
  | error e =>
      rw [hparse] at h
      obtain ⟨fault, rfl⟩ := ConnectionUrl.exists_of_parse_eq_error hparse
      cases h

/-- A document that has been read fails for other reasons than its layout. -/
theorem ofDocument_ne_malformedDocument (environment : Environment) (document : Document) :
  (ofDocument environment document).result ≠ .error .malformedDocument
  := by
  have hrest (c : Config) : (Attempt.ofExcept (c.withTexts environment document) >>=
      fun c => pure (c.withNumbers document)).result ≠ .error .malformedDocument := by
    rw [Attempt.result_bind]
    apply bind_ne_malformedDocument
    · apply bind_ne_malformedDocument
      · apply withText_ne_malformedDocument
      · intro c
        apply bind_ne_malformedDocument
        · apply withText_ne_malformedDocument
        · intro c
          apply bind_ne_malformedDocument
          · apply withText_ne_malformedDocument
          · intro c
            apply withText_ne_malformedDocument
    · intro c heq
      rw [Attempt.result_pure] at heq
      cases heq
  rw [ofDocument]
  cases document.url with
  | none => apply hrest empty
  | some url =>
      simp only [Attempt.result_bind]
      apply bind_ne_malformedDocument
      · apply expand_ne_malformedDocument
      · intro raw
        apply bind_ne_malformedDocument
        · apply setUrl_ne_malformedDocument
        · intro c
          rw [← Attempt.result_bind]
          apply hrest c

theorem result_ofToml_eq_malformedDocument_iff :
  (ofToml environment text).result = .error .malformedDocument
    ↔ ¬ ((Toml.parse? text).bind Document.ofEntries?).isSome
  := by
  rw [ofToml, Attempt.result_bind, Document.parse]
  cases (Toml.parse? text).bind Document.ofEntries? with
  | none => simp [Attempt.ofExcept, Except.bind]
  | some document =>
      simp only [Option.isSome_some, not_true_eq_false, iff_false]
      apply ofDocument_ne_malformedDocument

/-- Texts of documents that say the same give the same. -/
theorem ofToml_eq_of_alike (h : (Toml.parse? text).isSome) (h' : (Toml.parse? text').isSome)
    (hsame : ∀ place fact, Toml.Says text place fact ↔ Toml.Says text' place fact) :
  ofToml environment text = ofToml environment text'
  := by
  obtain ⟨entries, hparse⟩ := Option.isSome_iff_exists.mp h
  obtain ⟨entries', hparse'⟩ := Option.isSome_iff_exists.mp h'
  have htables : entries.HasTables ↔ entries'.HasTables := by
    simp only [Toml.hasTables_iff_text hparse, Toml.hasTables_iff_text hparse', hsame]
  rw [ofToml, ofToml]
  by_cases hsome : entries.HasTables
  · rw [Document.parse_of_hasTables hparse hsome,
      Document.parse_of_hasTables hparse' (htables.mp hsome)]
  · have halike : entries.Alike entries' := by
      intro place
      apply Option.ext
      intro fact
      rw [Toml.fact?_iff_text hparse hsome, Toml.fact?_iff_text hparse' (mt htables.mpr hsome),
        hsame]
    rw [Document.parse_eq_of_alike hparse hparse' halike]

end Config

namespace Document

/-- The text is a TOML document with the layout of a configuration. A TOML document is what
`Toml.parse?` reads, so its integers have 64 bits, and no value is deeper and no key has more parts
than `Toml.maxDepth`. -/
def IsWellFormed (text : String) : Prop :=
  ∃ entries, Toml.parse? text = some entries ∧ IsLaidOut IsPoolTable entries

/-- The text is a TOML document with the layout of a configuration but for the settings of the
pool, which it has in an array. -/
def HasPoolArray (text : String) : Prop :=
  ∃ entries, Toml.parse? text = some entries ∧ IsLaidOut IsPoolArray entries
    ∧ (entries.get? "connection").isSome

variable {text : String}

theorem isLaidOut_mono {IsPool IsPool' : Value → Prop} {entries : Entries}
    (h : IsLaidOut IsPool entries)
    (hpool : ∀ value, entries.get? "connection" = some value → IsPool value → IsPool' value) :
  IsLaidOut IsPool' entries
  := by
  use h.known, h.texts, h.maxConnections
  intro value hvalue
  apply hpool value hvalue (h.pool value hvalue)

/-- A document of nothing but settings of the pool has the layout. -/
theorem isLaidOut_connection {IsPool : Value → Prop} {value : Value} (h : IsPool value) :
  IsLaidOut IsPool [("connection", value)]
  := by
  have hget (key : String) : Entries.get? [("connection", value)] key
      = if key = "connection" then some value else none := by
    rw [Entries.get?_cons]
    rfl
  constructor
  · intro key hsome
    rw [hget] at hsome
    split_ifs at hsome with hkey
    · rw [hkey]
      decide
    · cases hsome
  · intro key hkey value' hvalue
    rw [hget, if_neg] at hvalue
    · cases hvalue
    · rintro rfl
      revert hkey
      decide
  · intro value' hvalue
    rw [hget, if_neg (by decide)] at hvalue
    cases hvalue
  · intro value' hvalue
    rw [hget, if_pos rfl, Option.some.injEq] at hvalue
    rwa [← hvalue]

/-- A document is read exactly if it has the layout, or has an array instead of a table. -/
theorem isSome_parse?_bind_iff :
  ((Toml.parse? text).bind ofEntries?).isSome ↔ IsWellFormed text ∨ HasPoolArray text
  := by
  constructor
  · intro h
    obtain ⟨document, hdocument⟩ := Option.isSome_iff_exists.mp h
    obtain ⟨entries, hparse, hentries⟩ := Option.bind_eq_some_iff.mp hdocument
    have hlaidOut := (isSome_ofEntries?_iff fun _ _ => Toml.inRange_of_parse? hparse).mp
      (by rw [hentries]; rfl)
    cases hconnection : entries.get? "connection" with
    | none =>
        left
        use entries, hparse
        apply isLaidOut_mono hlaidOut
        rw [hconnection]
        nofun
    | some value =>
        obtain htable | harray := hlaidOut.pool value hconnection
        · left
          use entries, hparse
          apply isLaidOut_mono hlaidOut
          rintro _ hvalue -
          obtain rfl := Option.some.inj (hconnection.symm.trans hvalue)
          apply htable
        · right
          refine ⟨entries, hparse, ?_, by rw [hconnection]; rfl⟩
          apply isLaidOut_mono hlaidOut
          rintro _ hvalue -
          obtain rfl := Option.some.inj (hconnection.symm.trans hvalue)
          apply harray
  · intro h
    obtain ⟨entries, hparse, hlaidOut⟩ : ∃ entries, Toml.parse? text = some entries
        ∧ IsLaidOut (fun value => IsPoolTable value ∨ IsPoolArray value) entries := by
      obtain ⟨entries, hparse, hlaidOut⟩ | ⟨entries, hparse, hlaidOut, -⟩ := h
      · exact ⟨entries, hparse, isLaidOut_mono hlaidOut fun _ _ => Or.inl⟩
      · exact ⟨entries, hparse, isLaidOut_mono hlaidOut fun _ _ => Or.inr⟩
    rw [hparse]
    apply (isSome_ofEntries?_iff fun _ _ => Toml.inRange_of_parse? hparse).mpr hlaidOut

/-- A table is no array. -/
theorem not_hasPoolArray_of_isWellFormed (h : IsWellFormed text) :
  ¬ HasPoolArray text
  := by
  rintro ⟨entries, hparse, harray, hsome⟩
  obtain ⟨entries', hparse', htable⟩ := h
  obtain rfl := Option.some.inj (hparse.symm.trans hparse')
  obtain ⟨value, hvalue⟩ := Option.isSome_iff_exists.mp hsome
  obtain ⟨form, inner, rfl, -⟩ := htable.pool value hvalue
  obtain ⟨b, n, n', rest, heq⟩ := harray.pool _ hvalue
  cases heq

end Document

namespace Config

open Document (IsWellFormed HasPoolArray)

/-- The text of a document fails as malformed exactly if it is no TOML document with the layout
of a configuration; only if it has an array for the table of the pool it is read all the
same. Otherwise the outcome depends on what the text says alone. So it is the same for the
entries of the pool behind dots, below a header and in braces, and for any order. -/
theorem ofToml_reads_layout [DomainNames] (environment : Environment) (text : String) :
  let isMalformed := (ofToml environment text).result = .error .malformedDocument
  (isMalformed ↔ ¬ IsWellFormed text ∧ ¬ HasPoolArray text)
    ∧ ((isMalformed ↔ ¬ IsWellFormed text) ↔ ¬ HasPoolArray text)
    ∧ (∀ text', (Toml.parse? text).isSome → (Toml.parse? text').isSome →
      (∀ place fact, Toml.Says text place fact ↔ Toml.Says text' place fact) →
      ofToml environment text = ofToml environment text')
    ∧ ∀ text' top pool said said',
      Toml.statementsOf? text = some said → Toml.statementsOf? text' = some said' →
      Toml.Spells top "connection" pool said → Toml.Spells top "connection" pool said' →
      ("connection" :: top.map Prod.fst).Nodup → (pool.map Prod.fst).Nodup → pool ≠ [] →
      (Toml.parse? text).isSome ∧ (Toml.parse? text').isSome
        ∧ ofToml environment text = ofToml environment text'
  := by
  intro isMalformed
  have hfails : isMalformed ↔ ¬ IsWellFormed text ∧ ¬ HasPoolArray text := by
    rw [← not_or, ← Document.isSome_parse?_bind_iff]
    apply result_ofToml_eq_malformedDocument_iff
  refine ⟨hfails, ?_, ?_, ?_⟩
  · have hnot : IsWellFormed text → ¬ HasPoolArray text :=
      Document.not_hasPoolArray_of_isWellFormed
    rw [hfails]
    tauto
  · intro text' h h' hsame
    apply ofToml_eq_of_alike h h' hsame
  · intro text' top pool said said' hsaid hsaid' hspells hspells' htop hpool hne
    have h : (Toml.parse? text).isSome := by
      rw [Toml.parse?_eq, hsaid]
      apply hspells.isSome_build? htop hpool
    have h' : (Toml.parse? text').isSome := by
      rw [Toml.parse?_eq, hsaid']
      apply hspells'.isSome_build? htop hpool
    use h, h'
    apply ofToml_eq_of_alike h h'
    intro place fact
    rw [Toml.says_iff hsaid, Toml.says_iff hsaid', hspells.said_iff hne hpool,
      hspells'.said_iff hne hpool]

attribute [local instance] DomainNames.asciiOnly in
/-- Two settings of the pool give the same behind dots, below a header and in braces, and in
another order. An array of three values is read too, though it is no table. -/
theorem ofToml_reads_layout_small :
  let environment := Environment.ofPairs []
  let dotted := "connection.max-life-time = 5\ntable = \x22t\x22\nconnection.disable-pool = true"
  let header := "table = \x22t\x22\n[connection]\ndisable-pool = true\nmax-life-time = 5"
  let inline := "connection = \x7bmax-life-time = 5, disable-pool = true\x7d\ntable = \x22t\x22"
  let array := "connection = [true, 1, 2]"
  ofToml environment dotted = ofToml environment header
    ∧ ofToml environment dotted = ofToml environment inline
    ∧ (ofToml environment dotted).result.isOk
    ∧ (ofToml environment array).result.isOk
    ∧ ¬ ((ofToml environment array).result = .error .malformedDocument ↔ ¬ IsWellFormed array)
  := by
  intro environment dotted header inline array
  let top : Toml.Entries := [("table", .text "t")]
  let pool : Toml.Entries := [("disable-pool", .truth true), ("max-life-time", .integer 5)]
  let pool' : Toml.Entries := [("max-life-time", .integer 5), ("disable-pool", .truth true)]
  let behindDots : List Toml.Statement :=
    [.assign ["connection"] "max-life-time" (.integer 5), .assign [] "table" (.text "t"),
      .assign ["connection"] "disable-pool" (.truth true)]
  let belowHeader : List Toml.Statement :=
    Toml.assigns [] top ++ .header [] "connection" :: Toml.assigns [] pool
  let inBraces : List Toml.Statement :=
    Toml.assigns [] [("connection", .table .inline pool'), ("table", .text "t")]
  have hdotted : Toml.statementsOf? dotted = some behindDots := by decide +kernel
  have hheader : Toml.statementsOf? header = some belowHeader := by decide +kernel
  have hinline : Toml.statementsOf? inline = some inBraces := by decide +kernel
  have hpool : pool'.Perm pool := by decide +kernel
  have hspells : Toml.Spells top "connection" pool behindDots := by
    apply Toml.Spells.dotted
    decide +kernel
  have hspells' : Toml.Spells top "connection" pool belowHeader := by
    apply Toml.Spells.header (List.Perm.refl top) (List.Perm.refl pool)
  have hspells'' : Toml.Spells top "connection" pool inBraces := by
    apply Toml.Spells.inline hpool
    decide +kernel
  obtain ⟨-, -, -, hsame⟩ := ofToml_reads_layout environment dotted
  obtain ⟨-, -, heq⟩ := hsame header top pool _ _ hdotted hheader hspells hspells'
    (by decide) (by decide) (by simp [pool])
  obtain ⟨-, -, heq'⟩ := hsame inline top pool _ _ hdotted hinline hspells hspells''
    (by decide) (by decide) (by simp [pool])
  use heq, heq', by decide +kernel, by decide +kernel
  obtain ⟨-, hexcept, -, -⟩ := ofToml_reads_layout environment array
  have hparse : Toml.parse? array
      = some [("connection", .array [.truth true, .integer 1, .integer 2])] := by
    decide +kernel
  have hpoolArray : Document.IsPoolArray (.array [.truth true, .integer 1, .integer 2]) :=
    ⟨true, 1, 2, [], rfl⟩
  have hconnection : (Entries.get?
      [("connection", .array [.truth true, .integer 1, .integer 2])] "connection").isSome := by
    decide
  have harray : HasPoolArray array :=
    ⟨_, hparse, Document.isLaidOut_connection hpoolArray, hconnection⟩
  intro hiff
  apply hexcept.mp hiff harray

end Config
end Provision
