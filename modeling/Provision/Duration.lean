import Provision.Text.Digits

/-!
# Durations

A duration is a number of nanoseconds. Its text uses the largest unit among seconds,
milliseconds, microseconds and nanoseconds that gives a whole part other than zero, and a
fraction without zeros at its end.
-/

namespace Provision

/-- A length of time in nanoseconds. -/
structure Duration where
  nanos : Nat
deriving DecidableEq, Repr

namespace Duration

/-- The duration of a number of milliseconds below 2^64. It is reckoned in words, of 64 bits for
the whole seconds and of 32 bits for the nanoseconds of the rest. -/
def ofMillis (n : Nat) : Duration :=
  let millis := UInt64.ofNat n
  let seconds := millis / 1000
  let rest := (millis % 1000).toUInt32 * 1000000
  ⟨seconds.toNat * 1000000000 + rest.toNat⟩

/-- A unit of time: its length in nanoseconds, the number of decimal places that resolve
one nanosecond, and its sign. -/
structure Scale where
  nanos : Nat
  places : Nat
  sign : String

/-- The units from the longest to the shortest. -/
def scales : List Scale :=
  [⟨1000000000, 9, "s"⟩, ⟨1000000, 6, "ms"⟩, ⟨1000, 3, "µs"⟩]

/-- The unit in which a duration is written. -/
def scale (d : Duration) : Scale :=
  (scales.find? (·.nanos ≤ d.nanos)).getD ⟨1, 0, "ns"⟩

/-- The decimal places of a part of a unit, without zeros at the end. -/
def fraction (places part : Nat) : List Char :=
  ((Digits.padded places part).reverse.dropWhile (· == '0')).reverse

/-- The duration in its unit. -/
def text (d : Duration) : String :=
  let unit := d.scale
  let whole := Digits.decimal (d.nanos / unit.nanos)
  let decimals := if unit.places = 0 then [] else fraction unit.places (d.nanos % unit.nanos)
  let point := if decimals.isEmpty then [] else '.' :: decimals
  String.ofList (whole ++ point) ++ unit.sign

end Duration

end Provision
