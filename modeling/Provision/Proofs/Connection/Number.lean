import Mathlib
import Provision.Proofs.Connection.Failure
import Provision.Proofs.Text.Numeral

/-!
# Properties that are numbers

Three properties are numbers: one counts connections, and two are durations in milliseconds. Each
of them takes exactly the texts that write a number which the field can hold, and stores that
number and no other; any other text is refused and changes nothing.
-/

namespace Provision

/-- None of the words in which a duration is reckoned overflows. -/
theorem Duration.nanos_ofMillis {n : Nat} (h : n < 2 ^ 64) :
  (Duration.ofMillis n).nanos = n * 10 ^ 6
  := by
  have hmillis : (UInt64.ofNat n).toNat = n := UInt64.toNat_ofNat_of_lt' h
  have hseconds : (UInt64.ofNat n / 1000).toNat = n / 1000 := by
    rw [UInt64.toNat_div, hmillis]
    rfl
  have hrest : ((UInt64.ofNat n % 1000).toUInt32 * 1000000).toNat = n % 1000 * 1000000 := by
    rw [UInt32.toNat_mul, UInt64.toNat_toUInt32, UInt64.toNat_mod, hmillis]
    simp only [UInt64.reduceToNat, UInt32.reduceToNat]
    omega
  simp only [Duration.ofMillis, hseconds, hrest]
  omega

namespace Fields

open Numeral (Writes)

variable [DomainNames] {key wanted : String} {bound unit : Nat} {stored : Fields → Option Nat}
  {others : Fields → Fields}

/-- A property of the key takes the texts that write a number below the bound. It stores as many
units as the text says, and leaves the other fields alone. Any other text is refused, in words that
quote it as it was given, and nothing is changed. What is stored is stored again when it is given
in decimal. -/
structure TakesNumbers (key wanted : String) (bound unit : Nat) (stored : Fields → Option Nat)
    (others : Fields → Fields) : Prop where
  succeeds_iff (fields : Fields) (value : String) :
    (applyProperty key value fields).1.result = .ok () ↔ ∃ n < bound, Writes value.toList n
  stores (fields : Fields) (value : String) :
    ∀ n < bound, Writes value.toList n →
      stored (applyProperty key value fields).2 = some (n * unit)
        ∧ others (applyProperty key value fields).2 = others fields
  refuses (fields : Fields) (value : String) :
    (¬ ∃ n < bound, Writes value.toList n) →
      (applyProperty key value fields).2 = fields
        ∧ ∃ fault, (applyProperty key value fields).1.result = .error (.invalidValue key fault)
          ∧ fault.message = "expected " ++ wanted ++ ", got \x60" ++ value ++ "\x60"
  restores (fields : Fields) :
    ∀ n < bound, (applyProperty key (toString n) fields).1.result = .ok ()
      ∧ stored (applyProperty key (toString n) fields).2 = some (n * unit)

/-- It is enough that the value of a property is read as a number and then written to a field. -/
theorem takesNumbers_of_reads {α : Type} {known : PropertyKey}
    {read : String → Except ConfigError α} {set : α → Fields → Fields} (make : Nat → α)
    (fault : String → ValueFault)
    (hset : ∀ value, setProperty known value
      = Update.lift (.ofExcept (read value)) >>= fun a => Update.write (set a))
    (hread : ∀ value, read value
      = match Numeral.unsigned? bound value.toList with
        | some n => .ok (make n)
        | none => .error (.invalidValue known.text (fault value)))
    (hmessage : ∀ value,
      (fault value).message = "expected " ++ wanted ++ ", got \x60" ++ value ++ "\x60")
    (hstored : ∀ n < bound, ∀ fields, stored (set (make n) fields) = some (n * unit))
    (hothers : ∀ a fields, others (set a fields) = others fields) :
  TakesNumbers known.text wanted bound unit stored others
  := by
  have hwritten : ∀ value fields n, n < bound → Writes value.toList n →
      applyProperty known.text value fields
        = (⟨.ok (), [.propertyGiven known.text]⟩, set (make n) fields) := by
    intro value fields n hn hwrites
    rw [applyProperty, Update.bind_record, PropertyKey.ofText?_text]
    simp only [hset, hread, Numeral.unsigned?_eq_some_iff.mpr ⟨hwrites, hn⟩]
    rfl
  have hrefused : ∀ value fields, (¬ ∃ n < bound, Writes value.toList n) →
      applyProperty known.text value fields
        = (⟨.error (.invalidValue known.text (fault value)), [.propertyGiven known.text]⟩,
          fields) := by
    intro value fields hnot
    have hnone : Numeral.unsigned? bound value.toList = none := by
      rw [Option.eq_none_iff_forall_ne_some]
      intro n hn
      obtain ⟨hwrites, hn⟩ := Numeral.unsigned?_eq_some_iff.mp hn
      exact hnot ⟨n, hn, hwrites⟩
    rw [applyProperty, Update.bind_record, PropertyKey.ofText?_text]
    simp only [hset, hread, hnone]
    rfl
  constructor
  case succeeds_iff =>
    intro fields value
    constructor
    · intro hok
      by_contra hnot
      rw [hrefused value fields hnot] at hok
      cases hok
    · rintro ⟨n, hn, hwrites⟩
      rw [hwritten value fields n hn hwrites]
  case stores =>
    intro fields value n hn hwrites
    rw [hwritten value fields n hn hwrites]
    use hstored n hn fields, hothers (make n) fields
  case refuses =>
    intro fields value hnot
    rw [hrefused value fields hnot]
    use rfl, fault value, rfl, hmessage value
  case restores =>
    intro fields n hn
    rw [hwritten (toString n) fields n hn (Numeral.writes_toString n)]
    use rfl, hstored n hn fields

theorem takesNumbers_connections (known : PropertyKey) {set : UInt32 → Fields → Fields}
    (hset : ∀ value, setProperty known value
      = Update.lift (.ofExcept (Property.connections known.text value))
        >>= fun n => Update.write (set n))
    (hstored : ∀ n fields, stored (set n fields) = some n.toNat)
    (hothers : ∀ n fields, others (set n fields) = others fields) :
  TakesNumbers known.text "an unsigned integer" (2 ^ 32) 1 stored others
  := by
  apply takesNumbers_of_reads UInt32.ofNat .notUnsigned hset
  · intro value
    rfl
  · intro value
    rfl
  · intro n hn fields
    rw [hstored, UInt32.toNat_ofNat_of_lt' hn, Nat.mul_one]
  · apply hothers

theorem takesNumbers_millis (known : PropertyKey) {set : Duration → Fields → Fields}
    (hset : ∀ value, setProperty known value
      = Update.lift (.ofExcept (Property.millis known.text value))
        >>= fun d => Update.write (set d))
    (hstored : ∀ d fields, stored (set d fields) = some d.nanos)
    (hothers : ∀ d fields, others (set d fields) = others fields) :
  TakesNumbers known.text "milliseconds" (2 ^ 64) (10 ^ 6) stored others
  := by
  apply takesNumbers_of_reads Duration.ofMillis .notMillis hset
  · intro value
    rfl
  · intro value
    rfl
  · intro n hn fields
    rw [hstored, Duration.nanos_ofMillis hn]
  · apply hothers

/-- A number of connections is taken if it fits in 32 bits, and a number of milliseconds if it fits
in 64 bits, with white space at the ends, a plus sign and zeros in front, and it is stored as it is:
the duration has a million nanoseconds for each millisecond. Every other text is refused and changes
nothing. -/
theorem applyProperty_takesNumbers :
  TakesNumbers "max-connection" "an unsigned integer" (2 ^ 32) 1
      (fun fields => fields.maxConnections.map UInt32.toNat)
      (fun fields => { fields with maxConnections := none })
    ∧ TakesNumbers "connection.max-life-time" "milliseconds" (2 ^ 64) (10 ^ 6)
      (fun fields => fields.maxLifetime.map Duration.nanos)
      (fun fields => { fields with maxLifetime := none })
    ∧ TakesNumbers "connection.max-idle-timeout" "milliseconds" (2 ^ 64) (10 ^ 6)
      (fun fields => fields.idleTimeout.map Duration.nanos)
      (fun fields => { fields with idleTimeout := none })
  := by
  constructor
  · apply takesNumbers_connections .maxConnections fun _ => rfl
    all_goals
      intros
      rfl
  · constructor
    · apply takesNumbers_millis .maxLifetime fun _ => rfl
      all_goals
        intros
        rfl
    · apply takesNumbers_millis .idleTimeout fun _ => rfl
      all_goals
        intros
        rfl

end Fields

end Provision
