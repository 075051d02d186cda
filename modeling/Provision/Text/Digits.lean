/-!
# Digits and natural numbers

Reading and writing natural numbers in a base up to sixteen. `Digits.read? base` reads a
non-empty run of digits of the base, and `Digits.hex`, `Digits.decimal` write a number
with no leading zeros.
-/

namespace Provision.Digits

/-- The value of a decimal or hexadecimal digit of either case. -/
def value? (c : Char) : Option Nat :=
  if '0' ≤ c ∧ c ≤ '9' then some (c.toNat - '0'.toNat)
  else if 'a' ≤ c ∧ c ≤ 'f' then some (c.toNat - 'a'.toNat + 10)
  else if 'A' ≤ c ∧ c ≤ 'F' then some (c.toNat - 'A'.toNat + 10)
  else none

/-- The value of a digit of the base. -/
def digit? (base : Nat) (c : Char) : Option Nat :=
  (value? c).filter (· < base)

/-- The number whose digits, most significant first, are the given values. -/
def ofValues (base : Nat) (values : List Nat) : Nat :=
  values.foldl (fun n d => n * base + d) 0

/-- The number written by a non-empty run of digits of the base. -/
def read? (base : Nat) (s : List Char) : Option Nat :=
  if s.isEmpty then none
  else (s.mapM (digit? base)).map (ofValues base)

/-- The number in decimal. -/
def decimal (n : Nat) : List Char :=
  Nat.toDigits 10 n

/-- The number in lowercase hexadecimal. -/
def hex (n : Nat) : List Char :=
  Nat.toDigits 16 n

/-- The number in decimal, with zeros in front up to a width. -/
def padded (width n : Nat) : List Char :=
  let digits := decimal n
  List.replicate (width - digits.length) '0' ++ digits

/-- The uppercase hexadecimal digit of a value below sixteen. -/
def upperHex (d : Nat) : Char :=
  (Nat.digitChar d).toUpper

end Provision.Digits
