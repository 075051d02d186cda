import Mathlib
import Provision.Connection.Property

/-!
# Properties of several data sources

Several data sources can share one list of properties, each under a name of its own. What is
read under a name are the properties that were given under it, in their order; each of the
others is reported. So data sources under two names of which neither begins the other do not
get into each other's way, however their properties are mixed.
-/

namespace Provision

/-! ### Mixed lists -/

/-- The third list has the elements of the first two, and those of each in their order. -/
inductive Interleaves {α : Type} : List α → List α → List α → Prop where
  | nil : Interleaves [] [] []
  | left {a : α} {xs ys mixed : List α} :
    Interleaves xs ys mixed → Interleaves (a :: xs) ys (a :: mixed)
  | right {a : α} {xs ys mixed : List α} :
    Interleaves xs ys mixed → Interleaves xs (a :: ys) (a :: mixed)

namespace Interleaves

variable {α β : Type} {xs ys mixed : List α}

theorem symm (h : Interleaves xs ys mixed) :
  Interleaves ys xs mixed
  := by
  induction h with
  | nil => exact nil
  | left _ ih => exact right ih
  | right _ ih => exact left ih

/-- If nothing is taken from the second list, what is taken from the mixed one is what is taken
from the first. -/
theorem filterMap_eq {f : α → Option β} (h : Interleaves xs ys mixed)
    (hys : ∀ a ∈ ys, f a = none) :
  mixed.filterMap f = xs.filterMap f
  := by
  induction h with
  | nil => rfl
  | left _ ih => rw [List.filterMap_cons, List.filterMap_cons, ih hys]
  | right _ ih =>
      rw [List.filterMap_cons, hys _ List.mem_cons_self]
      apply ih fun a ha => hys a (List.mem_cons_of_mem _ ha)

end Interleaves

/-! ### Keys under a name -/

namespace Property

variable {space other key inner : String}

/-- The key stands under the name: the name and a dot begin it. -/
def IsUnder (space key : String) : Prop :=
  (space ++ ".").toList <+: key.toList

instance (space key : String) : Decidable (IsUnder space key) :=
  inferInstanceAs (Decidable ((space ++ ".").toList <+: key.toList))

/-- The property as it is given under a name. -/
def under (space : String) (property : String × String) : String × String :=
  (space ++ "." ++ property.1, property.2)

/-- The property as it is read under a name. -/
def inner? (space : String) (property : String × String) : Option (String × String) :=
  (Config.keyIn? space property.1).map (·, property.2)

theorem isUnder_under (space : String) (property : String × String) :
  IsUnder space (under space property).1
  := by
  rw [IsUnder, under]
  simp only [String.toList_append]
  apply List.prefix_append

/-- Names of which neither begins the other have no key in common. -/
theorem not_isUnder_under (hother : ¬ IsUnder other (space ++ "."))
    (hspace : ¬ IsUnder space (other ++ ".")) (property : String × String) :
  ¬ IsUnder other (under space property).1
  := by
  intro h
  obtain h | h := List.prefix_or_prefix_of_prefix h (isUnder_under space property)
  · apply hother h
  · apply hspace h

theorem keyIn?_eq_some_iff :
  Config.keyIn? space key = some inner ↔ key = space ++ "." ++ inner
  := by
  simp only [Config.keyIn?, Option.map_eq_some_iff, List.isPrefixOf?_eq_some_iff_append_eq,
    ← String.toList_inj, String.toList_append, String.toList_ofList]
  constructor
  · rintro ⟨rest, hrest, hinner⟩
    rw [← hrest, hinner]
    rfl
  · intro h
    use inner.toList, h.symm

theorem inner?_under (space : String) (property : String × String) :
  inner? space (under space property) = some property
  := by
  have hkey : Config.keyIn? space (under space property).1 = some property.1 :=
    keyIn?_eq_some_iff.mpr rfl
  rw [inner?, hkey]
  rfl

theorem inner?_eq_none_iff {property : String × String} :
  inner? space property = none ↔ ¬ IsUnder space property.1
  := by
  rw [inner?, Option.map_eq_none_iff, Option.eq_none_iff_forall_ne_some, IsUnder]
  constructor
  · rintro h ⟨rest, hrest⟩
    apply h (String.ofList rest)
    rw [keyIn?_eq_some_iff, ← String.toList_inj, ← hrest]
    simp
  · rintro h inner hinner
    apply h
    rw [keyIn?_eq_some_iff.mp hinner]
    simp

/-- Properties that were given under a name are read as they were. -/
theorem filterMap_inner?_under (space : String) (properties : List (String × String)) :
  (properties.map (under space)).filterMap (inner? space) = properties
  := by
  rw [List.filterMap_map]
  have hinner : inner? space ∘ under space = some := by
    funext property
    apply inner?_under
  rw [hinner, List.filterMap_some]

/-- The properties that do not stand under a name. -/
def outside (space : String) (properties : List (String × String)) : List (String × String) :=
  properties.filter fun property => ¬ IsUnder space property.1

/-- The reports of properties that are not read under a name. -/
def ignored (space : String) (properties : List (String × String)) : List Event :=
  (outside space properties).map fun property => .propertyIgnored property.1 space

end Property

/-! ### Warnings -/

namespace Attempt

variable {α β : Type}

/-- The entries of an attempt in a log that warn. -/
def warnings (x : Attempt ConfigError α) : List Entry :=
  (x.events.map Event.entry).filter (·.level == .warn)

/-- Nothing that happens is a reason to warn. -/
def IsQuiet (x : Attempt ConfigError α) : Prop :=
  ∀ event ∈ x.events, event.entry.level ≠ .warn

theorem isQuiet_pure (a : α) :
  IsQuiet (pure a)
  := by
  intro event h
  cases h

theorem isQuiet_ofExcept (x : Except ConfigError α) :
  IsQuiet (ofExcept x)
  := by
  intro event h
  cases h

theorem isQuiet_record {event : Event} (h : event.entry.level ≠ .warn) :
  IsQuiet (record event)
  := by
  intro recorded hrecorded
  obtain rfl := List.mem_singleton.mp hrecorded
  apply h

theorem IsQuiet.bind {x : Attempt ConfigError α} {f : α → Attempt ConfigError β}
    (hx : x.IsQuiet) (hf : ∀ a, (f a).IsQuiet) :
  (x >>= f).IsQuiet
  := by
  intro event h
  obtain h | ⟨a, h⟩ := mem_events_bind h
  · apply hx event h
  · apply hf a event h

theorem IsQuiet.warnings_eq_nil {x : Attempt ConfigError α} (h : x.IsQuiet) :
  x.warnings = []
  := by
  rw [warnings, List.filter_eq_nil_iff, List.forall_mem_map]
  intro event hevent
  simpa using h event hevent

end Attempt

namespace Config

open Attempt Property

/-- Under a name its properties are found, and the others are reported. -/
theorem propertiesIn_eq (space : String) (properties : List (String × String)) :
  propertiesIn space properties
    = ⟨.ok (properties.filterMap (inner? space)), ignored space properties⟩
  := by
  induction properties with
  | nil => rfl
  | cons property rest ih =>
      rw [propertiesIn, ignored, outside, List.filterMap_cons, List.filter_cons]
      split
      · rename_i inner hinner
        have hunder : inner? space property = some (inner, property.2) := by
          rw [inner?, hinner]
          rfl
        have hmem : IsUnder space property.1 := by
          by_contra hnot
          rw [inner?_eq_none_iff.mpr hnot] at hunder
          cases hunder
        rw [ih, hunder, if_neg (by simpa using hmem)]
        change Attempt.mk _ (ignored space rest ++ []) = _
        rw [List.append_nil]
        rfl
      · rename_i hinner
        have hnone : inner? space property = none := by
          rw [inner?, hinner]
          rfl
        rw [ih, hnone, if_pos (by simpa using inner?_eq_none_iff.mp hnone)]
        rfl

section

variable [DomainNames] {space : String} {properties : List (String × String)}

theorem isQuiet_setUrl (c : Config) (raw : String) :
  (c.setUrl raw).IsQuiet
  := by
  apply IsQuiet.bind (isQuiet_record (by simp [Event.entry]))
  rintro -
  apply IsQuiet.bind (isQuiet_ofExcept _)
  intro url
  apply IsQuiet.bind (isQuiet_record (by simp [Event.entry]))
  rintro -
  apply isQuiet_pure

theorem isQuiet_applyProperty (c : Config) (key value : String) :
  (c.applyProperty key value).IsQuiet
  := by
  apply IsQuiet.bind (isQuiet_record (by simp [Event.entry]))
  rintro -
  split
  · apply isQuiet_ofExcept (.error _)
  · apply isQuiet_setUrl
  · apply isQuiet_ofExcept

/-- Properties are applied without a warning, whether they fail or not. -/
theorem isQuiet_applyProperties (c : Config) (properties : List (String × String)) :
  (c.applyProperties properties).IsQuiet
  := by
  induction properties generalizing c with
  | nil => apply isQuiet_pure
  | cons property rest ih =>
      apply IsQuiet.bind (c.isQuiet_applyProperty property.1 property.2)
      intro c
      apply ih

/-! ### Reading under a name -/

/-- The configuration under a name is that of the properties that are read there, after the
reports of all others. -/
theorem ofPropertiesIn_eq (space : String) (properties : List (String × String)) :
  ofPropertiesIn space properties
    = ⟨(ofProperties (properties.filterMap (inner? space))).result,
      ignored space properties ++ (ofProperties (properties.filterMap (inner? space))).events⟩
  := by
  rw [ofPropertiesIn, propertiesIn_eq]
  rfl

/-- Under the name the list is read as the given properties are by themselves: with the same
outcome, and the same is logged after a report of each property that is not under the name. These
reports are warnings, and there are no others. -/
structure ReadsAs (space : String) (properties own : List (String × String)) : Prop where
  result : (ofPropertiesIn space properties).result = (ofProperties own).result
  events : (ofPropertiesIn space properties).events
    = ignored space properties ++ (ofProperties own).events
  warnings : (ofPropertiesIn space properties).warnings
    = (outside space properties).map fun property =>
      { level := .warn
        target := "dbkit_config::properties"
        message := "Ignoring property outside prefix"
        fields := [("key", property.1), ("prefix", space)] }

theorem readsAs_of_filterMap {own : List (String × String)}
    (h : properties.filterMap (inner? space) = own) :
  ReadsAs space properties own
  := by
  have heq := ofPropertiesIn_eq space properties
  rw [h] at heq
  constructor
  · rw [heq]
  · rw [heq]
  · have hquiet : (ofProperties own).warnings = [] :=
      (isQuiet_applyProperties _ _).warnings_eq_nil
    rw [Attempt.warnings] at hquiet ⊢
    rw [heq, List.map_append, List.filter_append, hquiet, List.append_nil, ignored, List.map_map,
      List.filter_eq_self.mpr]
    · rfl
    · rw [List.forall_mem_map]
      intro property _
      rfl

/-- Two data sources under names of which neither, with the dot behind it, begins the other do not
get into each other's way: however their properties are mixed with each other and with properties
under neither of the names, each of them has the configuration, or fails with the error, that its
own properties give by themselves. Each property that does not stand under the name that is read is
reported by one warning, in order. -/
theorem ofPropertiesIn_interleaved {p q : String}
    {ps qs sources others properties : List (String × String)}
    (hp : ¬ IsUnder p (q ++ ".")) (hq : ¬ IsUnder q (p ++ "."))
    (hothers : ∀ property ∈ others, ¬ IsUnder p property.1 ∧ ¬ IsUnder q property.1)
    (hsources : Interleaves (ps.map (under p)) (qs.map (under q)) sources)
    (hproperties : Interleaves sources others properties) :
  ReadsAs p properties ps ∧ ReadsAs q properties qs
  := by
  constructor
  · apply readsAs_of_filterMap
    rw [hproperties.filterMap_eq fun property h => inner?_eq_none_iff.mpr (hothers property h).1,
      hsources.filterMap_eq, filterMap_inner?_under]
    rw [List.forall_mem_map]
    intro property _
    apply inner?_eq_none_iff.mpr (not_isUnder_under hp hq property)
  · apply readsAs_of_filterMap
    rw [hproperties.filterMap_eq fun property h => inner?_eq_none_iff.mpr (hothers property h).2,
      hsources.symm.filterMap_eq, filterMap_inner?_under]
    rw [List.forall_mem_map]
    intro property _
    apply inner?_eq_none_iff.mpr (not_isUnder_under hq hp property)

end

attribute [local instance] DomainNames.asciiOnly in
/-- Names of which one begins the other without its dot. One data source fails, the other one does
not, and a key that begins with the name itself does not stand under it without the dot. -/
theorem ofPropertiesIn_interleaved_small :
  let ps := [("url", "postgres://h/d"), ("x.y", "t")]
  let qs := [("table", "u")]
  let sources := [("a.bx.table", "u"), ("a.b.url", "postgres://h/d"), ("a.b.x.y", "t")]
  let others := [("a.b", "v"), (".a.b.table", "w")]
  let properties := [("a.bx.table", "u"), ("a.b", "v"), ("a.b.url", "postgres://h/d"),
    (".a.b.table", "w"), ("a.b.x.y", "t")]
  ¬ IsUnder "a.b" ("a.bx" ++ ".") ∧ ¬ IsUnder "a.bx" ("a.b" ++ ".")
    ∧ (∀ property ∈ others, ¬ IsUnder "a.b" property.1 ∧ ¬ IsUnder "a.bx" property.1)
    ∧ Interleaves (ps.map (under "a.b")) (qs.map (under "a.bx")) sources
    ∧ Interleaves sources others properties
    ∧ ReadsAs "a.b" properties ps
    ∧ ReadsAs "a.bx" properties qs
    ∧ (ofPropertiesIn "a.b" properties).result = .error (.unknownProperty "x.y")
    ∧ (ofPropertiesIn "a.bx" properties).result = .ok { empty with table := some "u" }
    ∧ outside "a.bx" properties = properties.tail
  := by
  intro ps qs sources others properties
  have hp : ¬ IsUnder "a.b" ("a.bx" ++ ".") := by decide +kernel
  have hq : ¬ IsUnder "a.bx" ("a.b" ++ ".") := by decide +kernel
  have hothers : ∀ property ∈ others, ¬ IsUnder "a.b" property.1 ∧ ¬ IsUnder "a.bx" property.1 := by
    decide +kernel
  have hsources : Interleaves (ps.map (under "a.b")) (qs.map (under "a.bx")) sources :=
    .right (.left (.left .nil))
  have hproperties : Interleaves sources others properties :=
    .left (.right (.left (.right (.left .nil))))
  obtain ⟨hps, hqs⟩ := ofPropertiesIn_interleaved hp hq hothers hsources hproperties
  use hp, hq, hothers, hsources, hproperties, hps, hqs
  rw [hps.result, hqs.result]
  decide +kernel

end Config

end Provision
