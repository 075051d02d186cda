import Mathlib
import Provision.Proofs.Connection.History
import Provision.Proofs.Text.Numeral

/-!
# Properties in order

What a list of properties makes of a configuration is told by what each of them writes: if none
of them fails, every field holds what was written to it last. So two lists that write the same
to every field last make the same configuration.
-/

namespace Provision

/-! ### Values that are read back -/

namespace Numeral

/-- The text of a number in decimal. -/
def decimalText (n : Nat) : String :=
  String.ofList (Digits.decimal n)

/-- A number below the bound is read back from its decimal text. -/
theorem unsigned?_decimalText {bound n : Nat} (h : n < bound) :
  unsigned? bound (decimalText n).toList = some n
  := unsigned?_eq_some_iff.mpr ⟨writes_toString n, h⟩

end Numeral

namespace Property

theorem connections_decimalText (key : String) (n : UInt32) :
  connections key (Numeral.decimalText n.toNat) = .ok n
  := by
  rw [connections, Numeral.unsigned?_decimalText n.toNat_lt]
  simp

theorem millis_decimalText (key : String) (n : UInt64) :
  millis key (Numeral.decimalText n.toNat) = .ok (.ofMillis n.toNat)
  := by
  rw [millis, Numeral.unsigned?_decimalText n.toNat_lt]

theorem truth_toString (key : String) (b : Bool) :
  truth key (toString b) = .ok b
  := by
  cases b <;> rfl
end Property

/-! ### What a property writes -/

variable [DomainNames]

/-- What a property writes, as far as its key is known and its value can be read. -/
def Property.written (property : String × String) : Written :=
  ((PropertyKey.ofText? property.1).map (·.written property.2)).getD {}

theorem Property.written_text (key : PropertyKey) (value : String) :
  Property.written (key.text, value) = key.written value
  := by
  rw [written, PropertyKey.ofText?_text]
  rfl

/-! ### What is written last -/

/-- Fields that are read off the same URL have the same parts of it. -/
theorem Fields.IsReadOff.urlPart_eq {fields after : Fields} {raw : Option String}
    (h : fields.IsReadOff raw) (h' : after.IsReadOff raw) :
  fields.urlPart = after.urlPart
  := by
  cases raw with
  | none => rw [h.1, h'.1]
  | some raw =>
      obtain ⟨url, hparse, hpart, -⟩ := h
      obtain ⟨url', hparse', hpart', -⟩ := h'
      obtain rfl := Except.ok.inj (hparse.symm.trans hparse')
      rw [hpart, hpart']

/-- Fields to which the same was written last are the same. -/
theorem Fields.Recalls.eq_of_latest {fields after : Fields} {history later : List Written}
    (h : fields.Recalls history) (h' : after.Recalls later)
    (hurl : latest Written.url history = latest Written.url later)
    (husername : latest Written.username history = latest Written.username later)
    (hpassword : latest Written.password history = latest Written.password later)
    (htable : latest Written.table history = latest Written.table later)
    (hdataSource : latest Written.dataSource history = latest Written.dataSource later)
    (hmaxConnections : latest Written.maxConnections history = latest Written.maxConnections later)
    (hpoolDisabled : latest Written.poolDisabled history = latest Written.poolDisabled later)
    (hmaxLifetime : latest Written.maxLifetime history = latest Written.maxLifetime later)
    (hidleTimeout : latest Written.idleTimeout history = latest Written.idleTimeout later) :
  fields = after
  := by
  have hread := h'.url
  rw [← hurl] at hread
  have hpart := h.url.urlPart_eq hread
  simp only [Fields.urlPart, Prod.mk.injEq] at hpart
  obtain ⟨hraw, hnormal, hhost, hport, hdatabase⟩ := hpart
  rw [Fields.mk.injEq]
  use hraw, hnormal, hhost, hport, hdatabase
  rw [h.username, h.password, h.maxConnections, h.dataSource, h.table, h.poolDisabled,
    h.maxLifetime, h.idleTimeout, h'.username, h'.password, h'.maxConnections, h'.dataSource,
    h'.table, h'.poolDisabled, h'.maxLifetime, h'.idleTimeout, husername, hpassword, htable,
    hdataSource, hmaxConnections, hpoolDisabled, hmaxLifetime, hidleTimeout]
  simp

namespace Config

variable {c c' : Config} {key value : String} {properties : List (String × String)}

/-! ### Applying properties -/

theorem result_applyProperties_cons (c : Config) (property : String × String)
    (rest : List (String × String)) :
  (c.applyProperties (property :: rest)).result
    = (c.applyProperty property.1 property.2).result.bind fun c => (c.applyProperties rest).result
  := by
  rw [applyProperties, Attempt.result_bind]

theorem result_applyProperties_append (c : Config) (front back : List (String × String)) :
  (c.applyProperties (front ++ back)).result
    = (c.applyProperties front).result.bind fun c => (c.applyProperties back).result
  := by
  induction front generalizing c with
  | nil => rfl
  | cons property front ih =>
      rw [List.cons_append, result_applyProperties_cons, result_applyProperties_cons]
      cases (c.applyProperty property.1 property.2).result with
      | error e => rfl
      | ok c => apply ih

/-- A property that succeeds writes what it is said to write. -/
theorem turns_of_applyProperty (h : (c.applyProperty key value).result = .ok c') :
  (Property.written (key, value)).Turns c.fields c'.fields
  := by
  have hfields := applyProperty_fields c key value
  rw [inPlace, h] at hfields
  have hdone : (Fields.applyProperty key value c.fields).1.result = .ok () := by
    rw [hfields]
    rfl
  have hturns := turns_applyProperty hdone
  rw [hfields] at hturns
  apply hturns

/-- A property fails exactly for the reasons that there are. -/
theorem result_applyProperty_eq_error_iff {e : ConfigError} :
  (c.applyProperty key value).result = .error e ↔ Property.Fails key value e
  := by
  have hfails : (Fields.applyProperty key value c.fields).1.result = .error e
      ↔ Property.Fails key value e := Fields.result_applyProperty_eq_error_iff
  rw [← hfails, applyProperty_fields, inPlace]
  cases (c.applyProperty key value).result <;> simp [Except.map]

/-- After properties that succeed, the configuration holds what they wrote last. -/
theorem recalls_of_applyProperties {history : List Written} (hc : c.fields.Recalls history)
    (h : (c.applyProperties properties).result = .ok c') :
  c'.fields.Recalls (history ++ properties.map Property.written)
  := by
  induction properties generalizing c history with
  | nil =>
      obtain rfl := Except.ok.inj h
      simpa using hc
  | cons property rest ih =>
      rw [result_applyProperties_cons] at h
      cases hfirst : (c.applyProperty property.1 property.2).result with
      | error e =>
          rw [hfirst] at h
          cases h
      | ok next =>
          rw [hfirst] at h
          have hnext := ih (hc.turns (turns_of_applyProperty hfirst)) h
          rwa [List.append_assoc, List.singleton_append] at hnext

/-- Properties of which none fails make a configuration. -/
theorem exists_result_applyProperties
    (h : ∀ property ∈ properties, ∀ e, ¬ Property.Fails property.1 property.2 e) (c : Config) :
  ∃ c', (c.applyProperties properties).result = .ok c'
  := by
  induction properties generalizing c with
  | nil => exact ⟨c, rfl⟩
  | cons property rest ih =>
      rw [result_applyProperties_cons]
      cases hfirst : (c.applyProperty property.1 property.2).result with
      | error e =>
          have hfails := result_applyProperty_eq_error_iff.mp hfirst
          exact absurd hfails (h property List.mem_cons_self e)
      | ok next => apply ih fun other hother => h other (List.mem_cons_of_mem property hother)

end Config

end Provision
