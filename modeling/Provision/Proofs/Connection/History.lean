import Mathlib
import Provision.Proofs.Connection.Failure

/-!
# The history of a configuration

The history of a configuration has what the changes wrote that it has gone through with
success. Every field holds what was written to it last. For the URL that means that all the
fields read off it belong to the last URL that was set; credentials are written by changes of
their own and by the URLs that have them.
-/

namespace Provision

/-! ### What is written -/

/-- What a change writes, as far as it writes anything. Of all that is read off a URL only the
credentials are listed, since they are written without a URL as well. -/
structure Written where
  url : Option String := none
  username : Option String := none
  password : Option String := none
  table : Option String := none
  dataSource : Option String := none
  maxConnections : Option UInt32 := none
  poolDisabled : Option Bool := none
  maxLifetime : Option Duration := none
  idleTimeout : Option Duration := none
deriving DecidableEq, Repr

/-- The last value of its kind that has been written. -/
def latest {α : Type} (value? : Written → Option α) (history : List Written) : Option α :=
  (history.filterMap value?).getLast?

theorem latest_append {α : Type} (value? : Written → Option α) (history later : List Written) :
  latest value? (history ++ later) = (latest value? later <|> latest value? history)
  := by
  rw [latest, latest, latest, List.filterMap_append, List.getLast?_append]
  cases (later.filterMap value?).getLast? <;> rfl

theorem latest_concat {α : Type} (value? : Written → Option α) (history : List Written)
    (w : Written) :
  latest value? (history ++ [w]) = (value? w <|> latest value? history)
  := by
  have hlast : latest value? [w] = value? w := by
    cases h : value? w <;> simp [latest, h]
  rw [latest_append, hlast]

/-! ### What a change writes -/

variable [DomainNames]

/-- A URL is written with the credentials that it carries. -/
def Written.ofUrl (raw : String) : Written :=
  let reading := (ConnectionUrl.parse raw).toOption
  { url := some raw
    username := reading.bind (·.username)
    password := reading.bind (·.password) }

/-- What a property writes. -/
def PropertyKey.written (key : PropertyKey) (value : String) : Written :=
  match key with
  | .url => .ofUrl value
  | .username => { username := some value }
  | .password => { password := some value }
  | .table => { table := some value }
  | .dataSource => { dataSource := some value }
  | .maxConnections => { maxConnections := (Property.connections key.text value).toOption }
  | .poolDisabled => { poolDisabled := (Property.truth key.text value).toOption }
  | .maxLifetime => { maxLifetime := (Property.millis key.text value).toOption }
  | .idleTimeout => { idleTimeout := (Property.millis key.text value).toOption }

/-- What a change writes to fields that it finds. -/
def Change.written (fields : Fields) : Change → Written
  | .url raw => .ofUrl raw
  | .username value => { username := some value }
  | .password value => { password := some value }
  | .table value => { table := some value }
  | .dataSource value => { dataSource := some value }
  | .maxConnections value => { maxConnections := some value }
  | .poolDisabled value => { poolDisabled := some value }
  | .maxLifetime value => { maxLifetime := some value }
  | .idleTimeout value => { idleTimeout := some value }
  | .property key value => ((PropertyKey.ofText? key).map (·.written value)).getD {}
  | .renormalize => .ofUrl (fields.normalUrl.getD "")

namespace Fields

/-- The URL and what is read off it, apart from the credentials. -/
def urlPart (fields : Fields) :
    Option String × Option String × Option String × Option UInt16 × Option String :=
  (fields.rawUrl, fields.normalUrl, fields.host, fields.port, fields.database)

/-- The fields that belong to the URL are those of the URL that was given, or all missing if
none was; and only with a URL the fields can be used. -/
def IsReadOff (fields : Fields) : Option String → Prop
  | none =>
    fields.urlPart = (none, none, none, none, none)
      ∧ fields.validate = .error (.missingField "url")
  | some raw =>
    ∃ url, ConnectionUrl.parse raw = .ok url
      ∧ fields.urlPart = (some raw, some url.text, url.host, url.port, some url.database)
      ∧ fields.validate = .ok ()

/-- Whether fields are read off a URL depends on no field besides them. -/
theorem IsReadOff.congr {fields after : Fields} {raw : Option String}
    (h : fields.IsReadOff raw) (hpart : after.urlPart = fields.urlPart) :
  after.IsReadOff raw
  := by
  have hnormal : after.normalUrl = fields.normalUrl := congrArg (·.2.1) hpart
  have hvalidate : after.validate = fields.validate := by
    rw [validate, validate, hnormal]
  cases raw with
  | none =>
      rw [IsReadOff, hpart, hvalidate]
      apply h
  | some raw =>
      rw [IsReadOff, hpart, hvalidate]
      apply h

theorem isReadOff_withUrl {raw : String} {url : ConnectionUrl}
    (h : ConnectionUrl.parse raw = .ok url) (fields : Fields) :
  (fields.withUrl raw url).IsReadOff (some raw)
  := by
  use url, h
  constructor <;> rfl

end Fields

/-! ### One change -/

/-- The second fields are the first ones with what was written in its place. -/
structure Written.Turns (w : Written) (before after : Fields) : Prop where
  url : w.url = none ∧ after.urlPart = before.urlPart
    ∨ ∃ raw, w.url = some raw ∧ after.IsReadOff (some raw)
  username : after.username = (w.username <|> before.username)
  password : after.password = w.password.getD before.password
  table : after.table = (w.table <|> before.table)
  dataSource : after.dataSource = (w.dataSource <|> before.dataSource)
  maxConnections : after.maxConnections = (w.maxConnections <|> before.maxConnections)
  poolDisabled : after.poolDisabled = w.poolDisabled.getD before.poolDisabled
  maxLifetime : after.maxLifetime = (w.maxLifetime <|> before.maxLifetime)
  idleTimeout : after.idleTimeout = (w.idleTimeout <|> before.idleTimeout)

variable {fields : Fields}

theorem turns_withUrl {raw : String} {url : ConnectionUrl}
    (h : ConnectionUrl.parse raw = .ok url) (fields : Fields) :
  (Written.ofUrl raw).Turns fields (fields.withUrl raw url)
  := by
  have hof : Written.ofUrl raw
      = { url := some raw, username := url.username, password := url.password } := by
    rw [Written.ofUrl, h]
    rfl
  rw [hof]
  constructor
  · right
    use raw, rfl
    apply Fields.isReadOff_withUrl h
  all_goals rfl

theorem turns_setUrl {raw : String} (h : (Fields.setUrl raw fields).1.result = .ok ()) :
  (Written.ofUrl raw).Turns fields (Fields.setUrl raw fields).2
  := by
  rw [Fields.setUrl_apply] at h ⊢
  cases hparse : ConnectionUrl.parse raw with
  | error e =>
      rw [hparse] at h
      cases h
  | ok url => apply turns_withUrl hparse

omit [DomainNames] in
/-- Work that succeeds after an attempt has what the attempt gave. -/
theorem Update.exists_of_lift_bind {α : Type} {x : Except ConfigError α} {f : α → Update Unit}
    (h : ((Update.lift (.ofExcept x) >>= f) fields).1.result = .ok ()) :
  ∃ a, x = .ok a
  := by
  cases x with
  | error e => cases h
  | ok a => use a

theorem turns_setProperty {key : PropertyKey} {value : String}
    (h : (Fields.setProperty key value fields).1.result = .ok ()) :
  (key.written value).Turns fields (Fields.setProperty key value fields).2
  := by
  cases key with
  | url => apply turns_setUrl h
  | username | password | table | dataSource =>
      constructor
      · left
        constructor <;> rfl
      all_goals rfl
  | maxConnections | poolDisabled | maxLifetime | idleTimeout =>
      obtain ⟨a, hconvert⟩ := Update.exists_of_lift_bind h
      rw [Fields.setProperty, PropertyKey.written, hconvert]
      constructor
      · left
        constructor <;> rfl
      all_goals rfl

theorem turns_applyProperty {key value : String}
    (h : (Fields.applyProperty key value fields).1.result = .ok ()) :
  (Change.property key value |>.written fields).Turns fields
    (Fields.applyProperty key value fields).2
  := by
  rw [Fields.applyProperty, Update.bind_record] at h ⊢
  rw [Change.written]
  cases hkey : PropertyKey.ofText? key with
  | none =>
      rw [hkey] at h
      cases h
  | some known =>
      rw [hkey] at h
      apply turns_setProperty h

/-- A change that succeeds writes what it is said to write, and nothing else. -/
theorem turns_update {change : Change} (h : (change.update fields).1.result = .ok ()) :
  (change.written fields).Turns fields (change.update fields).2
  := by
  cases change with
  | url raw => apply turns_setUrl h
  | property key value => apply turns_applyProperty h
  | renormalize => apply turns_setUrl h
  | username _ | password _ | table _ | dataSource _ | maxConnections _ | poolDisabled _
  | maxLifetime _ | idleTimeout _ =>
      constructor
      · left
        constructor <;> rfl
      all_goals rfl

/-! ### Histories -/

/-- The fields hold what has been written last: the URL and what is read off it, the
credentials, and every other field by itself. -/
structure Fields.Recalls (fields : Fields) (history : List Written) : Prop where
  url : fields.IsReadOff (latest Written.url history)
  username : fields.username = latest Written.username history
  password : fields.password = (latest Written.password history).getD ""
  table : fields.table = latest Written.table history
  dataSource : fields.dataSource = latest Written.dataSource history
  maxConnections : fields.maxConnections = latest Written.maxConnections history
  poolDisabled : fields.poolDisabled = (latest Written.poolDisabled history).getD false
  maxLifetime : fields.maxLifetime = latest Written.maxLifetime history
  idleTimeout : fields.idleTimeout = latest Written.idleTimeout history

theorem recalls_empty :
  ({} : Fields).Recalls []
  := by
  constructor
  · constructor <;> rfl
  all_goals rfl

/-- What is written last is recalled from then on. -/
theorem Fields.Recalls.turns {after : Fields} {history : List Written} {w : Written}
    (h : fields.Recalls history) (hw : w.Turns fields after) :
  after.Recalls (history ++ [w])
  := by
  constructor
  · rw [latest_concat]
    obtain ⟨hnone, hpart⟩ | ⟨raw, hraw, hread⟩ := hw.url
    · rw [hnone]
      apply h.url.congr hpart
    · rw [hraw]
      apply hread
  · rw [hw.username, h.username, latest_concat]
  · rw [hw.password, h.password, latest_concat]
    cases w.password <;> rfl
  · rw [hw.table, h.table, latest_concat]
  · rw [hw.dataSource, h.dataSource, latest_concat]
  · rw [hw.maxConnections, h.maxConnections, latest_concat]
  · rw [hw.poolDisabled, h.poolDisabled, latest_concat]
    cases w.poolDisabled <;> rfl
  · rw [hw.maxLifetime, h.maxLifetime, latest_concat]
  · rw [hw.idleTimeout, h.idleTimeout, latest_concat]

namespace Session

/-- The histories after a step. A step that fails leaves no trace in them; a configuration
that is made begins with a history of its own, and a copy with that of its source. -/
def recorded (s : Session) (past : String → List Written) (step : Step) :
    String → List Written :=
  if s.succeeds step then
    match step with
    | .create name => Function.update past name []
    | .createOfUrl name raw => Function.update past name [.ofUrl raw]
    | .change name change =>
      Function.update past name (past name ++ [change.written (s name)])
    | .copy name source => Function.update past name (past source)
  else past

/-- The histories of the configurations of a session after steps in order. -/
def histories (s : Session) (past : String → List Written) :
    List Step → String → List Written
  | [] => past
  | step :: rest => (s.step step).2.histories (s.recorded past step) rest

variable {s : Session} {past : String → List Written}

/-- A configuration in line with its history may take the place of another. -/
theorem recalls_set {history : List Written} (h : ∀ name, (s name).Recalls (past name))
    (hfields : fields.Recalls history) (target name : String) :
  (s.set target fields name).Recalls (Function.update past target history name)
  := by
  rw [set, Function.update_apply]
  split_ifs
  · apply hfields
  · apply h

/-- A session stays in line with its histories in one step. -/
theorem recalls_step (h : ∀ name, (s name).Recalls (past name)) (step : Step) (name : String) :
  ((s.step step).2 name).Recalls (s.recorded past step name)
  := by
  unfold recorded
  split_ifs with hsucceeds
  · cases step with
    | create made => apply recalls_set h recalls_empty
    | copy copied source => apply recalls_set h (h source)
    | createOfUrl made raw =>
        have hmade := Fields.result_ofUrl raw
        cases hparse : ConnectionUrl.parse raw with
        | error e =>
            rw [hparse, Except.map] at hmade
            simp only [succeeds, Session.step, hmade] at hsucceeds
            cases hsucceeds
        | ok url =>
            rw [hparse, Except.map] at hmade
            simp only [Session.step, hmade]
            apply recalls_set h
            apply recalls_empty.turns (turns_withUrl hparse {})
    | change changed change =>
        apply recalls_set h
        apply (h changed).turns
        apply turns_update
        apply result_of_succeeds hsucceeds
  · rw [step_of_succeeds_eq_false (Bool.not_eq_true _ |>.mp hsucceeds)]
    apply h

/-- A session stays in line with its histories in any number of steps. -/
theorem recalls_run (steps : List Step) (h : ∀ name, (s name).Recalls (past name))
    (name : String) :
  (s.run steps name).Recalls (s.histories past steps name)
  := by
  induction steps generalizing s past with
  | nil => apply h
  | cons step rest ih => apply ih (recalls_step h step)

/-- Whatever steps a session has gone through since it was empty, of which any may have
failed, every configuration holds what was written to it last: its URL and all that is read off
it belong together, its credentials come from the last change or URL that had them, and every
other field is that of the last change of it. -/
theorem run_recalls_history (steps : List Step) (name : String) :
  (empty.run steps name).Recalls (empty.histories (fun _ => []) steps name)
  := by
  apply recalls_run
  intro _
  apply recalls_empty

end Session

end Provision
