import Provision.Text.Digits
import Provision.Text.Segments

/-!
# Network addresses

The two kinds of address that may stand in place of a name. A version 4 address has one to
four numbers, each decimal, octal after `0` or hexadecimal after `0x`, the last of which
fills the bytes that are left. A version 6 address has eight groups of four hexadecimal
digits; one run of zero groups may be left out, and a version 4 address may stand for the
last two groups. Both are written in one way only.
-/

namespace Provision.Url.Address

/-! ### Version 4 -/

/-- A number in one of the three bases. A base mark with no digits after it is zero. -/
def number? (s : List Char) : Option Nat :=
  match s with
  | [] => none
  | '0' :: 'x' :: digits | '0' :: 'X' :: digits =>
    if digits.isEmpty then some 0 else Digits.read? 16 digits
  | ['0'] => some 0
  | '0' :: digits => Digits.read? 8 digits
  | digits => Digits.read? 10 digits

/-- The parts of a dotted name, without the empty part after a dot at the end. -/
def dotted (s : List Char) : List (List Char) :=
  let parts := Segments.split (· == '.') s
  if parts.getLast? = some [] then parts.dropLast else parts

/-- The name can only be meant as an address: its last part is a number. -/
def endsInNumber (s : List Char) : Bool :=
  match (dotted s).getLast? with
  | none => false
  | some last => (!last.isEmpty && last.all Char.isDigit) || (number? last).isSome

/-- The address of the numbers: all but the last are bytes, the last is the rest. -/
def ofNumbers? (numbers : List Nat) : Option Nat :=
  match numbers.getLast? with
  | none => none
  | some last =>
    let bytes := numbers.dropLast
    let rest := Nat.pow 256 (4 - bytes.length)
    if last < rest ∧ bytes.all (· < 256) then
      some (Digits.ofValues 256 bytes * rest + last)
    else none

/-- The version 4 address written by a dotted name. -/
def v4? (s : List Char) : Option Nat :=
  let parts := dotted s
  if parts.length ≤ 4 then (parts.mapM number?).bind ofNumbers? else none

/-- The four bytes in decimal, with dots between them. -/
def writeV4 (address : Nat) : List Char :=
  Segments.join ['.']
    ([16777216, 65536, 256, 1].map fun weight => Digits.decimal (address / weight % 256))

/-! ### Version 6 -/

/-- A group of one to four hexadecimal digits. -/
def group? (s : List Char) : Option Nat :=
  if s.length ≤ 4 then Digits.read? 16 s else none

/-- A byte in decimal without leading zeros. -/
def byte? (s : List Char) : Option Nat :=
  if s.length ≤ 3 ∧ (s.head? ≠ some '0' ∨ s.length = 1) then
    (Digits.read? 10 s).filter (· < 256)
  else none

/-- The two groups of a version 4 address. -/
def tail? (s : List Char) : Option (List Nat) :=
  match (Segments.split (· == '.') s).mapM byte? with
  | some [a, b, c, d] => some [a * 256 + b, c * 256 + d]
  | _ => none

/-- The groups of the texts, the last of which may be a version 4 address. -/
def groups? : List (List Char) → Option (List Nat)
  | [] => some []
  | [last] => if last.contains '.' then tail? last else (group? last).map ([·])
  | s :: rest =>
    match group? s, groups? rest with
    | some group, some groups => some (group :: groups)
    | _, _ => none

/-- The groups on one side of the gap. -/
def side? (mayEndInV4 : Bool) (s : List Char) : Option (List Nat) :=
  if s.isEmpty then some []
  else if !mayEndInV4 && s.contains '.' then none
  else groups? (Segments.split (· == ':') s)

/-- The text before the first double colon and the text after it. -/
def cutGap : List Char → List Char × Option (List Char)
  | ':' :: ':' :: rest => ([], some rest)
  | [] => ([], none)
  | c :: rest => (c :: (cutGap rest).1, (cutGap rest).2)

/-- The eight groups of a version 6 address. A gap stands for at least one zero group. -/
def v6? (s : List Char) : Option (List Nat) :=
  match cutGap s with
  | (all, none) => (side? true all).filter (·.length == 8)
  | (before, some after) =>
    match side? false before, side? true after with
    | some first, some last =>
      if first.length + last.length ≤ 7 then
        some (first ++ List.replicate (8 - first.length - last.length) 0 ++ last)
      else none
    | _, _ => none

/-- The number of zero groups from an index on. -/
def zerosFrom (groups : List Nat) (i : Nat) : Nat :=
  ((groups.drop i).takeWhile (· == 0)).length

/-- The start and the length of the first of the longest runs of zero groups. -/
def longestZeros (groups : List Nat) : Nat × Nat :=
  (List.range groups.length).foldl
    (fun best i => if zerosFrom groups i > best.2 then (i, zerosFrom groups i) else best) (0, 0)

/-- The groups in hexadecimal, with a gap for the longest run of zeros if it has two. -/
def writeV6 (groups : List Nat) : List Char :=
  let write := fun part : List Nat => Segments.join [':'] (part.map Digits.hex)
  let (start, length) := longestZeros groups
  if length < 2 then write groups
  else write (groups.take start) ++ [':', ':'] ++ write (groups.drop (start + length))

end Provision.Url.Address
