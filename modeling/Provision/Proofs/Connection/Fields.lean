import Mathlib
import Provision.Connection.Session

/-!
# Changes in place

Whatever can fail in a change of a configuration comes before the first field is written, so
a change either succeeds or leaves all the fields as they were. What it does to the fields of
a configuration is what the same change does to the configuration as a value.
-/

namespace Provision

namespace Update

variable {α β : Type} {u : Update α} {f : α → Update β}

/-! ### Checks and writes -/

/-- The work leaves the fields as they are. -/
def Keeps (u : Update α) : Prop :=
  ∀ fields, (u fields).2 = fields

/-- The work cannot fail. -/
def Succeeds (u : Update α) : Prop :=
  ∀ fields, ∃ a, (u fields).1.result = .ok a

/-- If the work fails, it leaves the fields as they were. -/
def IsAtomic (u : Update α) : Prop :=
  ∀ fields e, (u fields).1.result = .error e → (u fields).2 = fields

theorem bind_of_ok {fields : Fields} {a : α} (h : (u fields).1.result = .ok a) :
  (u >>= f) fields
    = (⟨(f a (u fields).2).1.result, (u fields).1.events ++ (f a (u fields).2).1.events⟩,
        (f a (u fields).2).2)
  := by
  change andThen u f fields = _
  rw [andThen]
  simp only [h]

theorem bind_of_error {fields : Fields} {e : ConfigError} (h : (u fields).1.result = .error e) :
  (u >>= f) fields = (⟨.error e, (u fields).1.events⟩, (u fields).2)
  := by
  change andThen u f fields = _
  rw [andThen]
  simp only [h]

/-- An event comes before those of the work that follows it. -/
theorem bind_record (event : Event) (f : Unit → Update β) (fields : Fields) :
  (lift (.record event) >>= f) fields
    = (⟨(f () fields).1.result, event :: (f () fields).1.events⟩, (f () fields).2)
  := rfl

theorem keeps_lift (x : Attempt ConfigError α) :
  (lift x).Keeps
  := fun _ => rfl

theorem succeeds_pure (a : α) :
  (pure a : Update α).Succeeds
  := fun _ => ⟨a, rfl⟩

theorem succeeds_record (event : Event) :
  (lift (.record event)).Succeeds
  := fun _ => ⟨(), rfl⟩

theorem succeeds_read :
  read.Succeeds
  := fun fields => ⟨fields, rfl⟩

theorem keeps_read :
  read.Keeps
  := fun _ => rfl

theorem succeeds_write (g : Fields → Fields) :
  (write g).Succeeds
  := fun _ => ⟨(), rfl⟩

theorem Succeeds.bind (hu : u.Succeeds) (hf : ∀ a, (f a).Succeeds) :
  (u >>= f).Succeeds
  := by
  intro fields
  obtain ⟨a, ha⟩ := hu fields
  rw [bind_of_ok ha]
  apply hf

theorem Keeps.isAtomic (h : u.Keeps) :
  u.IsAtomic
  := fun fields _ _ => h fields

theorem Succeeds.isAtomic (h : u.Succeeds) :
  u.IsAtomic
  := by
  intro fields e he
  obtain ⟨a, ha⟩ := h fields
  rw [ha] at he
  cases he

/-- A check may come before any work that is atomic. -/
theorem Keeps.bind (hu : u.Keeps) (hf : ∀ a, (f a).IsAtomic) :
  (u >>= f).IsAtomic
  := by
  intro fields e he
  cases hresult : (u fields).1.result with
  | error e' =>
      rw [bind_of_error hresult]
      apply hu
  | ok a =>
      rw [bind_of_ok hresult, hu fields] at he ⊢
      apply hf a fields e he

end Update

namespace Fields

/-! ### The parts of a change -/

theorem succeeds_takeCredentials (url : ConnectionUrl) :
  (takeCredentials url).Succeeds
  := by
  rw [takeCredentials]
  cases url.username with
  | none =>
      cases url.password with
      | none => apply Update.succeeds_pure
      | some password => apply Update.succeeds_write
  | some username =>
      apply Update.Succeeds.bind (Update.succeeds_write _)
      intro _
      cases url.password with
      | none => apply Update.succeeds_pure
      | some password => apply Update.succeeds_write

variable [DomainNames]

/-- The URL is read before any field is written. -/
theorem isAtomic_setUrl (raw : String) :
  (setUrl raw).IsAtomic
  := by
  apply Update.Keeps.bind (Update.keeps_lift _)
  intro _
  apply Update.Keeps.bind (Update.keeps_lift _)
  intro url
  apply Update.Succeeds.isAtomic
  apply Update.Succeeds.bind (succeeds_takeCredentials url)
  intro _
  iterate 5
    apply Update.Succeeds.bind (Update.succeeds_write _)
    intro _
  apply Update.Succeeds.bind Update.succeeds_read
  intro _
  apply Update.succeeds_record

/-- A value is converted before the field that it is for is written. -/
theorem isAtomic_setProperty (key : PropertyKey) (value : String) :
  (setProperty key value).IsAtomic
  := by
  have hconvert : ∀ {α : Type} (x : Attempt ConfigError α) (g : α → Fields → Fields),
      (Update.lift x >>= fun a => Update.write (g a)).IsAtomic := by
    intro α x g
    apply Update.Keeps.bind (Update.keeps_lift x)
    intro a
    apply (Update.succeeds_write (g a)).isAtomic
  cases key with
  | url => apply isAtomic_setUrl
  | username | password | table | dataSource => apply (Update.succeeds_write _).isAtomic
  | maxConnections | poolDisabled | maxLifetime | idleTimeout => apply hconvert

theorem isAtomic_applyProperty (key value : String) :
  (applyProperty key value).IsAtomic
  := by
  apply Update.Keeps.bind (Update.keeps_lift _)
  intro _
  cases PropertyKey.ofText? key with
  | none => apply (Update.keeps_lift _).isAtomic
  | some known => apply isAtomic_setProperty

end Fields

/-- A change that fails leaves all fields as they were. -/
theorem Change.isAtomic_update [DomainNames] (change : Change) :
  change.update.IsAtomic
  := by
  cases change with
  | url raw => apply Fields.isAtomic_setUrl
  | property key value => apply Fields.isAtomic_applyProperty
  | renormalize =>
      apply Update.Keeps.bind Update.keeps_read
      intro fields
      apply Fields.isAtomic_setUrl
  | username _ | password _ | table _ | dataSource _ | maxConnections _ | poolDisabled _
  | maxLifetime _ | idleTimeout _ => apply (Update.succeeds_write _).isAtomic

namespace Fields

/-! ### What a change comes to -/

/-- The fields after a URL that has been read. -/
def withUrl (fields : Fields) (raw : String) (url : ConnectionUrl) : Fields :=
  { fields with
    rawUrl := some raw
    normalUrl := some url.text
    host := url.host
    port := url.port
    database := some url.database
    username := url.username <|> fields.username
    password := url.password.getD fields.password }

variable [DomainNames]

/-- Setting a URL takes over all that can be read off it, or does nothing. -/
theorem setUrl_apply (raw : String) (fields : Fields) :
  setUrl raw fields
    = match ConnectionUrl.parse raw with
      | .error e => (⟨.error e, [.urlGiven raw.utf8ByteSize]⟩, fields)
      | .ok url =>
        (⟨.ok (), [.urlGiven raw.utf8ByteSize,
            .urlAccepted url.scheme url.host url.port (some url.database)]⟩,
          fields.withUrl raw url)
  := by
  rw [setUrl, Update.bind_record]
  cases hparse : ConnectionUrl.parse raw with
  | error e => rfl
  | ok url =>
      obtain ⟨scheme, username, password, host, port, path, query⟩ := url
      cases username <;> cases password <;> rfl

/-- A configuration is made of every URL that can be read. -/
theorem result_ofUrl (raw : String) :
  (ofUrl raw).result = (ConnectionUrl.parse raw).map (withUrl {} raw)
  := by
  rw [ofUrl, setUrl_apply]
  cases ConnectionUrl.parse raw with
  | error e => rfl
  | ok url => rfl

end Fields

/-! ### Configurations as values -/

namespace Config

/-- The fields of a configuration. -/
def fields (c : Config) : Fields where
  rawUrl := c.rawUrl
  normalUrl := c.normalUrl
  host := c.host
  port := c.port
  database := c.database
  username := c.username
  password := c.password
  maxConnections := c.maxConnections
  dataSource := c.dataSource
  table := c.table
  poolDisabled := c.poolDisabled
  maxLifetime := c.maxLifetime
  idleTimeout := c.idleTimeout

/-- What is done to the fields of a configuration when it becomes another one, or fails to. -/
def inPlace (c : Config) (x : Attempt ConfigError Config) : Attempt ConfigError Unit × Fields :=
  (⟨x.result.map fun _ => (), x.events⟩, (x.result.toOption.getD c).fields)

/-- Converting a value and writing it is done to the fields as to the configuration. -/
theorem convert_fields {α : Type} (c : Config) (x : Except ConfigError α) {set : α → Config}
    {write : α → Fields → Fields} (h : ∀ a, write a c.fields = (set a).fields) :
  (Update.lift (.ofExcept x) >>= fun a => Update.write (write a)) c.fields
    = c.inPlace (.ofExcept (x.map set))
  := by
  cases x with
  | error e => rfl
  | ok a =>
      rw [Update.bind_of_ok (a := a) rfl]
      change (Attempt.mk (.ok ()) [], write a c.fields) = _
      rw [h]
      rfl

/-- An event comes first in place as well. -/
theorem inPlace_record (c : Config) (event : Event) (x : Attempt ConfigError Config) :
  c.inPlace (Attempt.record event >>= fun _ => x)
    = (⟨(c.inPlace x).1.result, event :: (c.inPlace x).1.events⟩, (c.inPlace x).2)
  := rfl

variable [DomainNames]

/-- A URL is set if it can be read. -/
theorem result_setUrl (c : Config) (raw : String) :
  (c.setUrl raw).result = (ConnectionUrl.parse raw).map (c.withUrl raw)
  := by
  rw [setUrl]
  cases ConnectionUrl.parse raw <;> rfl

/-- Setting the URL of the fields is setting that of the configuration. -/
theorem setUrl_fields (c : Config) (raw : String) :
  Fields.setUrl raw c.fields = c.inPlace (c.setUrl raw)
  := by
  rw [Fields.setUrl_apply, Config.setUrl]
  cases ConnectionUrl.parse raw with
  | error e => rfl
  | ok url => rfl

theorem setProperty_fields (c : Config) (key : PropertyKey) (value : String) :
  Fields.setProperty key value c.fields
    = c.inPlace
        (match key with
        | .url => c.setUrl value
        | key => .ofExcept (c.withProperty key value))
  := by
  cases key with
  | url => apply setUrl_fields
  | username | password | table | dataSource => rfl
  | maxConnections | poolDisabled | maxLifetime | idleTimeout =>
      apply convert_fields
      intro _
      rfl

/-- Binding a property to the fields is binding it to the configuration. -/
theorem applyProperty_fields (c : Config) (key value : String) :
  Fields.applyProperty key value c.fields = c.inPlace (c.applyProperty key value)
  := by
  rw [Fields.applyProperty, Update.bind_record, Config.applyProperty, inPlace_record]
  cases PropertyKey.ofText? key with
  | none => rfl
  | some known =>
      simp only [setProperty_fields]
      cases known <;> rfl

/-- A change does to the fields of a configuration what it does to the configuration. -/
theorem update_fields (c : Config) (change : Change) :
  change.update c.fields = c.inPlace (c.apply change)
  := by
  cases change with
  | url raw => apply setUrl_fields
  | property key value => apply applyProperty_fields
  | renormalize => apply setUrl_fields
  | username _ | password _ | table _ | dataSource _ | maxConnections _ | poolDisabled _
  | maxLifetime _ | idleTimeout _ => rfl

/-- The fields after any number of changes in place are those of the configuration after
them. -/
theorem foldl_update_fields (c : Config) (changes : List Change) :
  changes.foldl (fun fields change => (change.update fields).2) c.fields
    = (c.afterAll changes).fields
  := by
  induction changes generalizing c with
  | nil => rfl
  | cons change rest ih =>
      rw [List.foldl_cons, update_fields]
      have hafter : (c.apply change).result.toOption.getD c = c.after change := by
        rw [after]
        cases (c.apply change).result <;> rfl
      rw [inPlace, hafter]
      apply ih

end Config
end Provision
