import Provision.Text.Digits
import Provision.Toml.Value
import Provision.Toml.Reader

/-!
# Numbers of a document

Integers in four bases and floats. Single underscores may stand between digits, and a
decimal integer has no zeros in front. An integer has 64 bits and a sign; a float must not
be so large that it rounds to infinity.
-/

namespace Provision.Toml.Number

/-- The digits that follow a digit, without the underscores between them. -/
def moreDigits (isDigit : Char → Bool) : List Char → List Char × List Char
  | '_' :: c :: rest =>
    if isDigit c then
      let more := moreDigits isDigit rest
      (c :: more.1, more.2)
    else ([], '_' :: c :: rest)
  | c :: rest =>
    if isDigit c then
      let more := moreDigits isDigit rest
      (c :: more.1, more.2)
    else ([], c :: rest)
  | [] => ([], [])

/-- A run of at least one digit. -/
def digits (isDigit : Char → Bool) : Reader (List Char)
  | c :: rest => if isDigit c then some (c :: (moreDigits isDigit rest).1,
      (moreDigits isDigit rest).2) else none
  | [] => none

/-- A sign, if there is one: `true` for minus. -/
def sign : List Char → Bool × List Char
  | '-' :: rest => (true, rest)
  | '+' :: rest => (false, rest)
  | s => (false, s)

/-- The digits of a decimal integer: a zero alone, or a run that begins with another
digit. -/
def wholeDigits : Reader (List Char)
  | '0' :: rest => some (['0'], rest)
  | s => digits Char.isDigit s

def inRange (n : Int) : Bool :=
  -0x8000000000000000 ≤ n && n < 0x8000000000000000

/-- The integer of the digits, when it has 64 bits. -/
def ofDigits? (base : Nat) (negative : Bool) (digits : List Char) : Option Value := do
  let magnitude ← Digits.read? base digits
  let n : Int := if negative then -(magnitude : Int) else magnitude
  if inRange n then some (.integer n) else none

/-- An integer in a base other than ten. -/
def based (base : Nat) : Reader Value := fun s => do
  let (run, rest) ← digits (fun c => (Digits.digit? base c).isSome) s
  return (← ofDigits? base false run, rest)

def integer : Reader Value
  | '0' :: 'x' :: rest => based 16 rest
  | '0' :: 'o' :: rest => based 8 rest
  | '0' :: 'b' :: rest => based 2 rest
  | s => do
    let (negative, unsigned) := sign s
    let (run, rest) ← wholeDigits unsigned
    return (← ofDigits? 10 negative run, rest)

/-! ### Floats -/

/-- The least number that rounds to infinity: half a unit above the largest float. -/
def infinityBound : Nat := (Nat.pow 2 54 - 1) * Nat.pow 2 970

/-- The number `mantissa * 10 ^ exponent` rounds to infinity. Far from the bound the
number of digits decides. -/
def overflows (mantissa : Nat) (exponent : Int) : Bool :=
  let size : Int := (Digits.decimal mantissa).length + exponent
  if mantissa = 0 ∨ size < 300 then false
  else if size > 320 then true
  else mantissa * Nat.pow 10 exponent.toNat ≥ infinityBound * Nat.pow 10 (-exponent).toNat

/-- The digits after a point. -/
def fraction : Reader (List Char)
  | '.' :: rest => digits Char.isDigit rest
  | _ => none

/-- The number after an `e`. -/
def exponent : Reader Int
  | e :: rest =>
    if e == 'e' || e == 'E' then do
      let (negative, unsigned) := sign rest
      let (run, rest) ← digits Char.isDigit unsigned
      let magnitude ← Digits.read? 10 run
      return (if negative then -(magnitude : Int) else magnitude, rest)
    else none
  | [] => none

/-- The words for infinity and for no number. -/
def word : Reader (List Char)
  | 'i' :: 'n' :: 'f' :: rest => some (['i', 'n', 'f'], rest)
  | 'n' :: 'a' :: 'n' :: rest => some (['n', 'a', 'n'], rest)
  | _ => none

/-- A decimal number with a fraction or an exponent, without its sign: its digits, its
exponent and the text after it. -/
def decimal? (s : List Char) : Option (Nat × Int × List Char) := do
  let (whole, afterWhole) ← wholeDigits s
  let (part, afterPart) := (fraction afterWhole).getD ([], afterWhole)
  let (shift, rest) := (exponent afterPart).getD (0, afterPart)
  let mantissa ← Digits.read? 10 (whole ++ part)
  if rest.length < afterWhole.length then some (mantissa, shift - part.length, rest) else none

def float : Reader Value := fun s =>
  let (negative, unsigned) := sign s
  match word unsigned with
  | some (_, rest) => some (.float (s.take (s.length - rest.length)), rest)
  | none => do
    let (mantissa, exponent, rest) ← decimal? unsigned
    if !negative && overflows mantissa exponent then none
    else some (.float (s.take (s.length - rest.length)), rest)

end Provision.Toml.Number
