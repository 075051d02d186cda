import Provision.Text.Blank
import Provision.Text.Digits

/-!
# Numerals

The numbers and truth values that people write as settings: blanks around them do not
count, a number may have a plus sign and zeros in front, a truth value may be in any case.
-/

namespace Provision.Numeral

/-- The number that digits go on to write, digit by digit. It must stay below the bound all the
time. -/
def accumulate? (bound n : Nat) : List Char → Option Nat
  | [] => some n
  | c :: rest =>
    match Digits.digit? 10 c with
    | none => none
    | some d => if n * 10 + d < bound then accumulate? bound (n * 10 + d) rest else none

/-- The number below a bound that a text writes. -/
def unsigned? (bound : Nat) (s : List Char) : Option Nat :=
  let digits :=
    match Unicode.trim s with
    | '+' :: digits => digits
    | digits => digits
  if digits.isEmpty then none else accumulate? bound 0 digits

/-- The truth value that a text writes. -/
def truth? (s : List Char) : Option Bool :=
  let word := (Unicode.trim s).map Char.toLower
  if word = "true".toList then some true
  else if word = "false".toList then some false
  else none

end Provision.Numeral
