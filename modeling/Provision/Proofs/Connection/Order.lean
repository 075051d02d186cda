import Mathlib
import Provision.Proofs.Connection.Property

/-!
# The order of properties

Properties of different keys may come in any order: what they write to a field last is told by
the properties of its own key, and for the credentials by those of the URL as well, which always
apply first. Whether a property fails does not depend on the others.
-/

namespace Provision

variable {ps qs : List (String × String)}

/-! ### What is written under a key -/

/-- The properties in the order in which they apply: those of the URL come first. -/
def Property.urlFirst (ps : List (String × String)) : List (String × String) :=
  ps.filter (·.1 == PropertyKey.url.text) ++ ps.filter (!·.1 == PropertyKey.url.text)

/-- Under a key that none of the properties has there are none in any order. -/
theorem order_of_forall_mem (hperm : ps.Perm qs)
    (h : ∀ property ∈ ps, ps.filter (·.1 == property.1) = qs.filter (·.1 == property.1))
    (key : String) :
  ps.filter (·.1 == key) = qs.filter (·.1 == key)
  := by
  by_cases hkey : ∃ property ∈ ps, property.1 = key
  · obtain ⟨property, hproperty, rfl⟩ := hkey
    apply h property hproperty
  · push Not at hkey
    have hnil : ps.filter (·.1 == key) = [] := by
      rw [List.filter_eq_nil_iff]
      intro property hproperty
      simpa using hkey property hproperty
    have hnil' := hperm.filter (·.1 == key)
    rw [hnil] at hnil' ⊢
    apply hnil'.symm.eq_nil.symm

theorem mem_urlFirst {property : String × String} :
  property ∈ Property.urlFirst ps ↔ property ∈ ps
  := by
  rw [Property.urlFirst, List.mem_append, List.mem_filter, List.mem_filter]
  cases property.1 == PropertyKey.url.text <;> simp

section

variable [DomainNames]

/-- Properties that are not written by a kind of value do not count for the last of them. -/
theorem latest_filter {α : Type} {value? : Written → Option α} {p : String × String → Bool}
    (h : ∀ property ∈ ps, p property = false → value? (Property.written property) = none) :
  latest value? ((ps.filter p).map Property.written) = latest value? (ps.map Property.written)
  := by
  rw [latest, latest, List.filterMap_map, List.filterMap_map, List.filterMap_filter]
  congr 1
  apply List.filterMap_congr
  intro property hproperty
  split_ifs with hp
  · rfl
  · symm
    apply h property hproperty (by simpa using hp)

/-- The field is written by the URL and by properties of the key, if by any. -/
structure PropertyKey.IsFor {α : Type} (key : PropertyKey) (value? : Written → Option α) :
    Prop where
  ne_url : key ≠ .url
  of_empty : value? {} = none
  of_ne : ∀ other value, other ≠ key → other ≠ .url → value? (other.written value) = none

/-- A property that is neither the URL's nor of the key does not write to the field of the key. -/
theorem PropertyKey.IsFor.eq_none {α : Type} {key : PropertyKey} {value? : Written → Option α}
    (h : key.IsFor value?) {property : String × String} (hkey : property.1 ≠ key.text)
    (hurl : property.1 ≠ PropertyKey.url.text) :
  value? (Property.written property) = none
  := by
  rw [Property.written]
  cases hof : PropertyKey.ofText? property.1 with
  | none => apply h.of_empty
  | some other =>
      have htext := PropertyKey.text_of_ofText? hof
      apply h.of_ne
      · rintro rfl
        apply hkey htext.symm
      · rintro rfl
        apply hurl htext.symm

/-- Every field is written under a key of its own, and that of the URL under no other key. -/
theorem isFor_fields :
  PropertyKey.username.IsFor Written.url
    ∧ PropertyKey.username.IsFor Written.username
    ∧ PropertyKey.password.IsFor Written.password
    ∧ PropertyKey.table.IsFor Written.table
    ∧ PropertyKey.dataSource.IsFor Written.dataSource
    ∧ PropertyKey.maxConnections.IsFor Written.maxConnections
    ∧ PropertyKey.poolDisabled.IsFor Written.poolDisabled
    ∧ PropertyKey.maxLifetime.IsFor Written.maxLifetime
    ∧ PropertyKey.idleTimeout.IsFor Written.idleTimeout
  := by
  refine ⟨?_, ?_, ?_, ?_, ?_, ?_, ?_, ?_, ?_⟩
  all_goals
    constructor
    · decide
    · rfl
    · intro other value hkey hurl
      -- Only the URL and the key itself write to the field, and both are excluded.
      cases other
      all_goals first | rfl | contradiction

/-- What is written to a field last was written by a property of its key, or else by one of the
URL. -/
theorem latest_urlFirst {α : Type} {key : PropertyKey} {value? : Written → Option α}
    (h : key.IsFor value?) (ps : List (String × String)) :
  latest value? ((Property.urlFirst ps).map Property.written)
    = (latest value? ((ps.filter (·.1 == key.text)).map Property.written)
      <|> latest value? ((ps.filter (·.1 == PropertyKey.url.text)).map Property.written))
  := by
  have hothers : latest value? ((ps.filter (!·.1 == PropertyKey.url.text)).map Property.written)
      = latest value? ((ps.filter (·.1 == key.text)).map Property.written) := by
    rw [← latest_filter (p := (·.1 == key.text)), List.filter_filter]
    · congr 2
      apply List.filter_congr
      intro property _
      by_cases hkey : property.1 = key.text
      · simp [hkey, h.ne_url]
      · simp [hkey]
    · intro property hproperty hkey
      have hurl := (List.mem_filter.mp hproperty).2
      apply h.eq_none (by simpa using hkey) (by simpa using hurl)
  rw [Property.urlFirst, List.map_append, latest_append, hothers]

/-- The last property of a key by itself has the text that is written last. -/
theorem latest_filter_text {key : PropertyKey} {value? : Written → Option String}
    (h : ∀ value, value? (key.written value) = some value)
    {last : String × String} (hlast : (ps.filter (·.1 == key.text)).getLast? = some last) :
  latest value? ((ps.filter (·.1 == key.text)).map Property.written) = some last.2
  := by
  have hvalues : ((ps.filter (·.1 == key.text)).map Property.written).filterMap value?
      = (ps.filter (·.1 == key.text)).map (·.2) := by
    rw [List.filterMap_map, ← List.filterMap_eq_map]
    apply List.filterMap_congr
    intro property hproperty
    have hkey : property.1 = key.text := by simpa using (List.mem_filter.mp hproperty).2
    obtain ⟨text, value⟩ := property
    obtain rfl : text = key.text := hkey
    rw [Function.comp_apply, Property.written_text, h]
    rfl
  rw [latest, hvalues, List.getLast?_map, hlast]
  rfl

end

namespace Config

section

variable [DomainNames] {c c' : Config}

/-! ### Properties that can be applied -/

/-- Properties make a configuration exactly if none of them fails by itself. -/
theorem exists_result_applyProperties_iff (c : Config) :
  (∃ c', (c.applyProperties ps).result = .ok c')
    ↔ ∀ property ∈ ps, ∀ e, ¬ Property.Fails property.1 property.2 e
  := by
  constructor
  · rintro ⟨c', h⟩
    induction ps generalizing c with
    | nil => simp
    | cons property rest ih =>
        rw [result_applyProperties_cons] at h
        cases hfirst : (c.applyProperty property.1 property.2).result with
        | error e =>
            rw [hfirst] at h
            cases h
        | ok next =>
            rw [hfirst] at h
            rintro other hother e hfails
            obtain rfl | hother := List.mem_cons.mp hother
            · rw [result_applyProperty_eq_error_iff.mpr hfails] at hfirst
              cases hfirst
            · apply ih next h other hother e hfails
  · intro h
    apply exists_result_applyProperties h

theorem exists_result_ofProperties_iff :
  (∃ c, (ofProperties ps).result = .ok c)
    ↔ ∀ property ∈ ps, ∀ e, ¬ Property.Fails property.1 property.2 e
  := by
  change (∃ c, (empty.applyProperties (Property.urlFirst ps)).result = .ok c) ↔ _
  rw [exists_result_applyProperties_iff]
  simp only [mem_urlFirst]

/-- The configuration holds what its properties wrote last. -/
theorem recalls_of_ofProperties (h : (ofProperties ps).result = .ok c) :
  c.fields.Recalls ((Property.urlFirst ps).map Property.written)
  := by
  have hrecalls : empty.fields.Recalls [] := recalls_empty
  apply recalls_of_applyProperties hrecalls h

/-! ### Another order -/

/-- Properties that are the same under every key, in the same order, write the same to every
field last. -/
theorem latest_urlFirst_eq {α : Type} {key : PropertyKey} {value? : Written → Option α}
    (horder : ∀ key, ps.filter (·.1 == key) = qs.filter (·.1 == key)) (h : key.IsFor value?) :
  latest value? ((Property.urlFirst ps).map Property.written)
    = latest value? ((Property.urlFirst qs).map Property.written)
  := by
  rw [latest_urlFirst h, latest_urlFirst h, horder, horder]

/-- Properties that are the same under every key, in the same order, make configurations with the
same fields. -/
theorem fields_eq_of_ofProperties
    (horder : ∀ key, ps.filter (·.1 == key) = qs.filter (·.1 == key))
    (h : (ofProperties ps).result = .ok c) (h' : (ofProperties qs).result = .ok c') :
  c.fields = c'.fields
  := by
  obtain ⟨hurl, husername, hpassword, htable, hdataSource, hmaxConnections, hpoolDisabled,
    hmaxLifetime, hidleTimeout⟩ := isFor_fields
  apply (recalls_of_ofProperties h).eq_of_latest (recalls_of_ofProperties h')
  · apply latest_urlFirst_eq horder hurl
  · apply latest_urlFirst_eq horder husername
  · apply latest_urlFirst_eq horder hpassword
  · apply latest_urlFirst_eq horder htable
  · apply latest_urlFirst_eq horder hdataSource
  · apply latest_urlFirst_eq horder hmaxConnections
  · apply latest_urlFirst_eq horder hpoolDisabled
  · apply latest_urlFirst_eq horder hmaxLifetime
  · apply latest_urlFirst_eq horder hidleTimeout

/-- In another order, in which those of the same key keep theirs, properties make a configuration
if they did before, with the same fields. The credentials among the properties are those of the
configuration, whatever the URLs among them have and wherever they stand. -/
theorem ofProperties_reordered (hperm : ps.Perm qs)
    (horder : ∀ key, ps.filter (·.1 == key) = qs.filter (·.1 == key)) :
  ((∃ c, (ofProperties ps).result = .ok c) ↔ ∃ c, (ofProperties qs).result = .ok c)
    ∧ ∀ c, (ofProperties ps).result = .ok c →
      (∀ c', (ofProperties qs).result = .ok c' → c.fields = c'.fields)
        ∧ (∀ last, (ps.filter (·.1 == PropertyKey.username.text)).getLast? = some last →
          c.username = some last.2)
        ∧ ∀ last, (ps.filter (·.1 == PropertyKey.password.text)).getLast? = some last →
          c.password = last.2
  := by
  constructor
  · rw [exists_result_ofProperties_iff, exists_result_ofProperties_iff]
    simp only [hperm.mem_iff]
  · intro c h
    have hrecalls := recalls_of_ofProperties h
    obtain ⟨-, hisUsername, hisPassword, -⟩ := isFor_fields
    use fun c' h' => fields_eq_of_ofProperties horder h h'
    constructor
    · intro last hlast
      have husername : c.username = _ := hrecalls.username
      have hwritten : latest Written.username _ = _ := latest_filter_text (fun _ => rfl) hlast
      rw [husername, latest_urlFirst hisUsername, hwritten]
      rfl
    · intro last hlast
      have hpassword : c.password = _ := hrecalls.password
      have hwritten : latest Written.password _ = _ := latest_filter_text (fun _ => rfl) hlast
      rw [hpassword, latest_urlFirst hisPassword, hwritten]
      rfl

end

attribute [local instance] DomainNames.asciiOnly in
/-- Two URLs with credentials of their own, of which the first comes behind the user that is set
by itself. -/
theorem ofProperties_reordered_small :
  let ps := [("username", "alice"), ("table", "t"), ("url", "postgres://bob:pw@h/d"),
    ("table", "u"), ("password", "x"), ("username", "carol"), ("url", "mysql://eve:q@i/e")]
  let qs := [("url", "postgres://bob:pw@h/d"), ("username", "alice"), ("url", "mysql://eve:q@i/e"),
    ("password", "x"), ("username", "carol"), ("table", "t"), ("table", "u")]
  ps.Perm qs
    ∧ (∀ key, ps.filter (·.1 == key) = qs.filter (·.1 == key))
    ∧ ∃ c c', (ofProperties ps).result = .ok c ∧ (ofProperties qs).result = .ok c'
      ∧ c.fields = c'.fields
      ∧ c.normalUrl = some "jdbc:mysql://i/e"
      ∧ c.username = some "carol"
      ∧ c.password = "x"
      ∧ c.table = some "u"
  := by
  intro ps qs
  have hperm : ps.Perm qs := by decide
  have horder : ∀ key, ps.filter (·.1 == key) = qs.filter (·.1 == key) :=
    order_of_forall_mem hperm (by decide)
  obtain ⟨hiff, hfields⟩ := ofProperties_reordered hperm horder
  have hread : ((ofProperties ps).result.toOption.map fun c => (c.normalUrl, c.table))
      = some (some "jdbc:mysql://i/e", some "u") := by decide +kernel
  cases hc : (ofProperties ps).result with
  | error e =>
      rw [hc] at hread
      cases hread
  | ok c =>
      rw [hc] at hread
      obtain ⟨hnormal, htable⟩ := Prod.mk.inj (Option.some.inj hread)
      obtain ⟨c', hc'⟩ := hiff.mp ⟨c, hc⟩
      obtain ⟨hsame, husername, hpassword⟩ := hfields c hc
      use hperm, horder, c, c', rfl, hc', hsame c' hc', hnormal, husername _ rfl,
        hpassword _ rfl, htable

end Config

end Provision
