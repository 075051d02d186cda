import Mathlib
import Provision.Proofs.Connection.Fields

/-!
# Steps that fail

A step that fails leaves a session as it was, so steps that fail can be left out: all others
attempt the same and lead to the same configurations. Which error a property fails with tells
what is wrong with it: its key, its URL, or a value that cannot be converted.
-/

namespace Provision

/-! ### Keys -/

namespace PropertyKey

theorem mem_all (key : PropertyKey) :
  key ∈ all
  := by
  cases key <;> decide

theorem text_of_ofText? {text : String} {key : PropertyKey} (h : ofText? text = some key) :
  key.text = text
  := by
  simpa using List.find?_some h

theorem ofText?_eq_none_iff {text : String} :
  ofText? text = none ↔ text ∉ all.map PropertyKey.text
  := by
  rw [ofText?, List.find?_eq_none, List.mem_map]
  simp

theorem ofText?_text (key : PropertyKey) :
  ofText? key.text = some key
  := by
  cases key <;> rfl

@[simp]
theorem text_inj {key other : PropertyKey} :
  key.text = other.text ↔ key = other
  := by
  constructor
  · intro h
    apply Option.some.inj
    rw [← ofText?_text, ← ofText?_text, h]
  · rintro rfl
    rfl

end PropertyKey

/-! ### Errors -/

/-- There is only one way to succeed with nothing to give. -/
theorem eq_ok_of_isOk {x : Except ConfigError Unit} (h : x.isOk) :
  x = .ok ()
  := by
  cases x with
  | error e => cases h
  | ok done => rfl

theorem ConnectionUrl.exists_of_parse_eq_error [DomainNames] {input : String} {e : ConfigError}
    (h : ConnectionUrl.parse input = .error e) :
  ∃ fault, e = .invalidUri input fault
  := by
  unfold ConnectionUrl.parse at h
  simp only at h
  split at h
  · rename_i fault hfault
    use .malformed fault
    apply (Except.error.inj h).symm
  · rename_i url hurl
    split at h
    · use .noDatabasePath
      apply (Except.error.inj h).symm
    · cases h

/-- The fault that a value has under a key, if it must be converted and cannot be. -/
def PropertyKey.fault? (key : PropertyKey) (value : String) : Option ValueFault :=
  match key with
  | .maxConnections =>
    if Numeral.unsigned? UInt32.size value.toList = none then some (.notUnsigned value) else none
  | .poolDisabled =>
    if Numeral.truth? value.toList = none then some (.notBoolean value) else none
  | .maxLifetime | .idleTimeout =>
    if Numeral.unsigned? UInt64.size value.toList = none then some (.notMillis value) else none
  | .url | .username | .password | .table | .dataSource => none

/-- The error with which a property fails: there is no such key, or its value is to be a URL
and is none, or the value cannot be converted. -/
inductive Property.Fails [DomainNames] (key value : String) : ConfigError → Prop where
  | unknown (h : key ∉ PropertyKey.all.map PropertyKey.text) :
    Fails key value (.unknownProperty key)
  | url {fault : UriFault} (hkey : key = PropertyKey.url.text)
      (h : ConnectionUrl.parse value = .error (.invalidUri value fault)) :
    Fails key value (.invalidUri value fault)
  | refused {known : PropertyKey} {fault : ValueFault} (hkey : key = known.text)
      (h : known.fault? value = some fault) :
    Fails key value (.invalidValue key fault)

namespace Fields

variable {fields : Fields} {value : String} {e : ConfigError}

/-- Converting a value and writing it fails exactly with the error of the conversion. -/
theorem result_convert {α : Type} (x : Except ConfigError α) (g : α → Fields → Fields)
    (fields : Fields) :
  ((Update.lift (.ofExcept x) >>= fun a => Update.write (g a)) fields).1.result
    = x.map fun _ => ()
  := by
  cases x <;> rfl

variable [DomainNames]

theorem result_setUrl (raw : String) (fields : Fields) :
  (setUrl raw fields).1.result = (ConnectionUrl.parse raw).map fun _ => ()
  := by
  rw [setUrl_apply]
  cases ConnectionUrl.parse raw <;> rfl

/-- A key other than that of the URL refuses exactly the values that have a fault. -/
theorem result_setProperty {key : PropertyKey} (hkey : key ≠ .url) (value : String)
    (fields : Fields) :
  (setProperty key value fields).1.result
    = match key.fault? value with
      | none => .ok ()
      | some fault => .error (.invalidValue key.text fault)
  := by
  cases key with
  | url => exact absurd rfl hkey
  | username | password | table | dataSource => rfl
  | maxConnections =>
      apply (result_convert _ _ fields).trans
      rw [Property.connections, PropertyKey.fault?]
      cases Numeral.unsigned? UInt32.size value.toList <;> rfl
  | poolDisabled =>
      apply (result_convert _ _ fields).trans
      rw [Property.truth, PropertyKey.fault?]
      cases Numeral.truth? value.toList <;> rfl
  | maxLifetime | idleTimeout =>
      apply (result_convert _ _ fields).trans
      rw [Property.millis, PropertyKey.fault?]
      cases Numeral.unsigned? UInt64.size value.toList <;> rfl

theorem fails_text_iff {key : PropertyKey} :
  Property.Fails key.text value e
    ↔ (key = .url ∧ ConnectionUrl.parse value = .error e)
      ∨ ∃ fault, key.fault? value = some fault ∧ e = .invalidValue key.text fault
  := by
  constructor
  · intro h
    cases h with
    | unknown h => exact absurd (List.mem_map_of_mem key.mem_all) h
    | url hkey h =>
        left
        use PropertyKey.text_inj.mp hkey, h
    | @refused known fault hkey h =>
        right
        obtain rfl := PropertyKey.text_inj.mp hkey
        use fault, h
  · rintro (⟨rfl, h⟩ | ⟨fault, h, rfl⟩)
    · obtain ⟨fault, rfl⟩ := ConnectionUrl.exists_of_parse_eq_error h
      apply Property.Fails.url rfl h
    · apply Property.Fails.refused rfl h

/-- A property of a known key fails exactly for the reasons that belong to the key. -/
theorem result_setProperty_eq_error_iff {key : PropertyKey} :
  (setProperty key value fields).1.result = .error e ↔ Property.Fails key.text value e
  := by
  rw [fails_text_iff]
  by_cases hkey : key = .url
  · subst hkey
    rw [setProperty, result_setUrl]
    cases ConnectionUrl.parse value <;> simp [PropertyKey.fault?, Except.map]
  · rw [result_setProperty hkey]
    cases key.fault? value <;> simp [hkey, eq_comm]

/-- A property fails exactly for the reasons that there are. -/
theorem result_applyProperty_eq_error_iff {key : String} :
  (applyProperty key value fields).1.result = .error e ↔ Property.Fails key value e
  := by
  rw [applyProperty, Update.bind_record]
  cases hkey : PropertyKey.ofText? key with
  | none =>
      have hnot := PropertyKey.ofText?_eq_none_iff.mp hkey
      constructor
      · intro h
        obtain rfl := Except.error.inj h
        apply Property.Fails.unknown hnot
      · intro h
        cases h with
        | unknown _ => rfl
        | url hkey _ =>
            rw [hkey] at hnot
            exact absurd (List.mem_map_of_mem (PropertyKey.mem_all _)) hnot
        | refused hkey _ =>
            rw [hkey] at hnot
            exact absurd (List.mem_map_of_mem (PropertyKey.mem_all _)) hnot
  | some known =>
      obtain rfl := PropertyKey.text_of_ofText? hkey
      apply result_setProperty_eq_error_iff

/-- A key whose value is any text refuses none. -/
theorem result_applyProperty_of_mem {key : String}
    (h : key ∈ ["username", "password", "table", "data-source"]) :
  (applyProperty key value fields).1.result = .ok ()
  := by
  simp only [List.mem_cons, List.not_mem_nil, or_false] at h
  obtain rfl | rfl | rfl | rfl := h
  all_goals rfl

end Fields

namespace Session

/-- A configuration in its own place changes nothing. -/
theorem set_self (s : Session) (name : String) :
  s.set name (s name) = s
  := by
  funext other
  rw [set]
  split_ifs with h
  · rw [h]
  · rfl

section

variable [DomainNames] {s : Session} {step : Step}

/-! ### One step -/

/-- A step that fails leaves all configurations of a session as they were. -/
theorem step_of_error {e : ConfigError} (h : (s.step step).1.result = .error e) :
  (s.step step).2 = s
  := by
  cases step with
  | create _ | copy _ _ => cases h
  | createOfUrl name raw =>
      cases hmade : (Fields.ofUrl raw).result with
      | error e => simp only [Session.step, hmade]
      | ok fields =>
          simp only [Session.step, hmade] at h
          cases h
  | change name change =>
      have hfields : (change.update (s name)).2 = s name := change.isAtomic_update _ e h
      simp only [Session.step]
      rw [hfields, set_self]

/-! ### Any number of steps -/

/-- The step succeeds in the session. -/
def succeeds (s : Session) (step : Step) : Bool :=
  (s.step step).1.result.isOk

theorem result_of_succeeds (h : s.succeeds step) :
  (s.step step).1.result = .ok ()
  := eq_ok_of_isOk h

theorem step_of_succeeds_eq_false (h : s.succeeds step = false) :
  (s.step step).2 = s
  := by
  rw [succeeds] at h
  cases hresult : (s.step step).1.result with
  | error e => apply step_of_error hresult
  | ok done =>
      rw [hresult] at h
      cases h

/-- The steps that succeed, each in the session after those before it. -/
def kept (s : Session) : List Step → List Step
  | [] => []
  | step :: rest =>
    if s.succeeds step then step :: (s.step step).2.kept rest else (s.step step).2.kept rest

/-- Without the steps that fail the trace has all that the others have in it. -/
theorem trace_kept (s : Session) (steps : List Step) :
  s.trace (s.kept steps) = (s.trace steps).filter (·.1.result.isOk)
  := by
  induction steps generalizing s with
  | nil => rfl
  | cons step rest ih =>
      rw [kept, trace, List.filter_cons]
      cases h : s.succeeds step with
      | false =>
          have hok : (s.step step).1.result.isOk = false := h
          rw [hok, ← ih, step_of_succeeds_eq_false h]
          rfl
      | true =>
          have hok : (s.step step).1.result.isOk = true := h
          rw [hok, ← ih]
          rfl

/-- None of the steps that are kept fails. -/
theorem result_of_mem_trace_kept {steps : List Step} {made : Attempt ConfigError Unit × Session}
    (h : made ∈ s.trace (s.kept steps)) :
  made.1.result = .ok ()
  := by
  rw [trace_kept] at h
  apply eq_ok_of_isOk (List.mem_filter.mp h).2

/-- Without the steps that fail a session ends as it does with them. -/
theorem run_kept (s : Session) (steps : List Step) :
  s.run (s.kept steps) = s.run steps
  := by
  induction steps generalizing s with
  | nil => rfl
  | cons step rest ih =>
      have hrun : s.run (step :: rest) = (s.step step).2.run rest := rfl
      rw [kept, hrun, ← ih]
      cases h : s.succeeds step with
      | false =>
          rw [step_of_succeeds_eq_false h]
          rfl
      | true => rfl

/-- A change or a step that fails leaves all fields, and all configurations of a session, as
they were. So the steps that fail can be taken out of any sequence of steps: those that are
kept all succeed, each attempts the same as before and leaves the same session, and the last
session is the same. A property fails exactly with the error that belongs to its key and its
value, and never under a key whose value is any text. -/
theorem failed_steps_leave_no_trace :
  (∀ (change : Change) (fields : Fields) (e : ConfigError),
      (change.update fields).1.result = .error e → (change.update fields).2 = fields)
    ∧ (∀ (s : Session) (step : Step) (e : ConfigError),
      (s.step step).1.result = .error e → (s.step step).2 = s)
    ∧ (∀ (s : Session) (steps : List Step),
      (∀ made ∈ s.trace (s.kept steps), made.1.result = .ok ())
        ∧ s.trace (s.kept steps) = (s.trace steps).filter (·.1.result.isOk)
        ∧ s.run (s.kept steps) = s.run steps)
    ∧ ∀ (fields : Fields) (key value : String),
      (∀ e, (Fields.applyProperty key value fields).1.result = .error e
          ↔ Property.Fails key value e)
        ∧ (key ∈ ["username", "password", "table", "data-source"] →
          (Fields.applyProperty key value fields).1.result = .ok ())
  := by
  constructor
  · intro change
    apply change.isAtomic_update
  · constructor
    · intro s step e
      apply step_of_error
    · constructor
      · intro s steps
        use fun made hmade => result_of_mem_trace_kept hmade, trace_kept s steps
        apply run_kept
      · intro fields key value
        use fun e => Fields.result_applyProperty_eq_error_iff
        apply Fields.result_applyProperty_of_mem

end

attribute [local instance] DomainNames.asciiOnly in
/-- A URL without a path and a number with a sign fail between steps that succeed. -/
theorem failed_steps_leave_no_trace_small :
  let lost : Change := .url "postgres://bob:pw@h"
  let refused : Step := .change "a" (.property "max-connection" "-1")
  let table : Step := .change "a" (.property "table" "t")
  let steps := [.change "a" (.username "alice"), .change "a" lost, refused, table]
  (lost.update {}).1.result = .error (.invalidUri "postgres://bob:pw@h" .noDatabasePath)
    ∧ (lost.update {}).2 = {}
    ∧ (empty.step refused).1.result = .error (.invalidValue "max-connection" (.notUnsigned "-1"))
    ∧ (empty.step refused).2 = empty
    ∧ empty.kept steps = [.change "a" (.username "alice"), table]
    ∧ (empty.step table) ∈ empty.trace (empty.kept [table])
    ∧ (empty.step table).1.result = .ok ()
    ∧ empty.run (empty.kept steps) = empty.run steps
    ∧ "table" ∈ ["username", "password", "table", "data-source"]
    ∧ (Fields.applyProperty "table" "t" {}).1.result = .ok ()
  := by
  intro lost refused table steps
  obtain ⟨hchange, hstep, hkept, hproperty⟩ := failed_steps_leave_no_trace
  have hlost : (lost.update {}).1.result
      = .error (.invalidUri "postgres://bob:pw@h" .noDatabasePath) := by decide +kernel
  have hrefused : (empty.step refused).1.result
      = .error (.invalidValue "max-connection" (.notUnsigned "-1")) := by decide +kernel
  have hsteps : empty.kept steps = [.change "a" (.username "alice"), table] := by decide +kernel
  have htable : (empty.step table) ∈ empty.trace (empty.kept [table]) := by
    left
  use hlost, hchange lost {} _ hlost, hrefused, hstep empty refused _ hrefused, hsteps, htable,
    (hkept empty [table]).1 _ htable, (hkept empty steps).2.2, by simp
  apply (hproperty {} "table" "t").2
  simp

end Session

end Provision
