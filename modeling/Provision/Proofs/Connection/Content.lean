import Mathlib
import Provision.Connection.Document
import Provision.Proofs.Toml.Facts

/-!
# Documents that say the same

The settings of a document are read off what the document says. The order of its entries and
the form of its tables play no part in it.
-/

namespace Provision

open Toml (Value Entries)

namespace Toml

/-- The values say the same. -/
def Value.Alike (v v' : Value) : Prop :=
  ∀ place, v.fact? place = v'.fact? place

/-- The entries say the same. -/
def Entries.Alike (entries entries' : Entries) : Prop :=
  ∀ place, entries.fact? place = entries'.fact? place

variable {v v' : Value} {entries entries' : Entries}

theorem Value.exists_of_root_table (h : v.root = .table) :
  ∃ form entries, v = .table form entries
  := by
  cases v with
  | table form entries => use form, entries
  | _ => cases h

theorem Value.exists_of_root_array (h : v.root = .array) :
  ∃ items, v = .array items
  := by
  cases v with
  | array items => use items
  | _ => cases h

theorem Value.Alike.root_eq (h : v.Alike v') :
  v.root = v'.root
  := Option.some.inj (h [])

/-- Values of which each is missing or says the same as the other. -/
theorem rel_alike {found found' : Option Value}
    (h : ∀ rest, found.bind (Value.fact? rest) = found'.bind (Value.fact? rest)) :
  Option.Rel Value.Alike found found'
  := by
  cases found with
  | none =>
      cases found' with
      | none => apply Option.Rel.none
      | some v' => cases h []
  | some v =>
      cases found' with
      | none => cases h []
      | some v' => apply Option.Rel.some h

theorem Entries.Alike.get? (h : entries.Alike entries') (key : String) :
  Option.Rel Value.Alike (entries.get? key) (entries'.get? key)
  := by
  apply rel_alike
  intro rest
  apply h (.key key :: rest)

theorem Value.Alike.getElem? {items items' : List Value}
    (h : (Value.array items).Alike (.array items')) (index : Nat) :
  Option.Rel Value.Alike items[index]? items'[index]?
  := by
  apply rel_alike
  intro rest
  apply h (.item index :: rest)

end Toml

namespace Document

variable {v v' value : Value} {entries entries' : Entries} {key : String} {α : Type}
  {read? : Value → Option α}

/-! ### Reading by content -/

theorem text?_eq (v : Value) :
  text? v = match v.root with
    | .text s => some s
    | _ => none
  := by
  cases v <;> rfl

theorem truth?_eq (v : Value) :
  truth? v = match v.root with
    | .truth b => some b
    | _ => none
  := by
  cases v <;> rfl

theorem count?_eq (v : Value) :
  count? v = match v.root with
    | .integer n => if 0 ≤ n then some n.toNat else none
    | _ => none
  := by
  cases v <;> rfl

theorem text?_congr (h : v.Alike v') :
  text? v = text? v'
  := by
  rw [text?_eq, text?_eq, h.root_eq]

theorem truth?_congr (h : v.Alike v') :
  truth? v = truth? v'
  := by
  rw [truth?_eq, truth?_eq, h.root_eq]

theorem connections?_congr (h : v.Alike v') :
  connections? v = connections? v'
  := by
  rw [connections?, connections?, count?_eq, count?_eq, h.root_eq]

theorem millis?_congr (h : v.Alike v') :
  millis? v = millis? v'
  := by
  rw [millis?, millis?, count?_eq, count?_eq, h.root_eq]

theorem optional?_congr (hread : ∀ {v v'}, v.Alike v' → read? v = read? v')
    (h : entries.Alike entries') (key : String) :
  optional? read? entries key = optional? read? entries' key
  := by
  have hget := h.get? key
  rw [optional?, optional?]
  generalize entries.get? key = found at hget
  generalize entries'.get? key = found' at hget
  cases hget with
  | none => rfl
  | some hvalue => simp only [hread hvalue]

theorem hasOnly_iff (keys : List String) (entries : Entries) :
  hasOnly keys entries = true ↔ ∀ key, (entries.get? key).isSome → key ∈ keys
  := by
  rw [hasOnly, List.all_eq_true]
  constructor
  · intro h key hsome
    obtain ⟨value, hvalue⟩ := Option.isSome_iff_exists.mp hsome
    obtain ⟨front, back, rfl, -⟩ := List.lookup_eq_some_iff.mp hvalue
    have hkey := h (key, value) (by simp)
    rwa [List.contains_iff_mem] at hkey
  · rintro h ⟨key, value⟩ hmem
    rw [List.contains_iff_mem]
    apply h
    rw [Option.isSome_iff_ne_none]
    intro hnone
    have hne := List.lookup_eq_none_iff.mp hnone (key, value) hmem
    simp at hne

theorem hasOnly_congr (h : entries.Alike entries') (keys : List String) :
  hasOnly keys entries = hasOnly keys entries'
  := by
  have hsome (key : String) : (entries.get? key).isSome = (entries'.get? key).isSome := by
    have hget := h.get? key
    generalize entries.get? key = found at hget
    generalize entries'.get? key = found' at hget
    cases hget <;> rfl
  rw [Bool.eq_iff_iff, hasOnly_iff, hasOnly_iff]
  simp only [hsome]

/-- The settings of the pool in an array are those of its first three values. -/
theorem pool?_array (items : List Value) :
  pool? (.array items) = (items[0]?.bind truth?).bind fun disabled =>
    (items[1]?.bind millis?).bind fun maxLifetime =>
      (items[2]?.bind millis?).map fun idleTimeout =>
        { disabled, maxLifetime := some maxLifetime, idleTimeout := some idleTimeout }
  := by
  match items with
  | [] => rfl
  | [first] => cases h : truth? first <;> simp [pool?, h]
  | [first, second] => cases h : truth? first <;> cases h' : millis? second <;> simp [pool?, h, h']
  | first :: second :: third :: rest =>
      cases h : truth? first <;> cases h' : millis? second <;> cases h'' : millis? third
        <;> simp [pool?, h, h', h'']

theorem pool?_of_root (htable : v.root ≠ .table) (harray : v.root ≠ .array) :
  pool? v = none
  := by
  cases v with
  | table form entries => exact absurd rfl htable
  | array items => exact absurd rfl harray
  | _ => rfl

theorem bind_getElem?_congr {items items' : List Value}
    (h : (Value.array items).Alike (.array items'))
    (hread : ∀ {v v'}, v.Alike v' → read? v = read? v') (index : Nat) :
  items[index]?.bind read? = items'[index]?.bind read?
  := by
  have hget := h.getElem? index
  generalize items[index]? = found at hget
  generalize items'[index]? = found' at hget
  cases hget with
  | none => rfl
  | some hvalue => apply hread hvalue

theorem pool?_congr (h : v.Alike v') :
  pool? v = pool? v'
  := by
  have hroot := h.root_eq
  by_cases htable : v.root = .table
  · obtain ⟨form, entries, rfl⟩ := Value.exists_of_root_table htable
    obtain ⟨form', entries', rfl⟩ := Value.exists_of_root_table hroot.symm
    have hentries : Entries.Alike entries entries' := by
      intro place
      rw [← Entries.fact?_table form, ← Entries.fact?_table form']
      apply h
    simp only [pool?, hasOnly_congr hentries, optional?_congr truth?_congr hentries,
      optional?_congr millis?_congr hentries]
  · by_cases harray : v.root = .array
    · obtain ⟨items, rfl⟩ := Value.exists_of_root_array harray
      obtain ⟨items', rfl⟩ := Value.exists_of_root_array hroot.symm
      simp only [pool?_array, bind_getElem?_congr h truth?_congr,
        bind_getElem?_congr h millis?_congr]
    · rw [pool?_of_root htable harray, pool?_of_root (hroot ▸ htable) (hroot ▸ harray)]

/-- The settings of a document depend on its content only. -/
theorem ofEntries?_congr (h : entries.Alike entries') :
  ofEntries? entries = ofEntries? entries'
  := by
  simp only [ofEntries?, hasOnly_congr h, optional?_congr text?_congr h,
    optional?_congr connections?_congr h, optional?_congr pool?_congr h]

end Document
end Provision
