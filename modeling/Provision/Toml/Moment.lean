import Provision.Text.Digits
import Provision.Toml.Reader
import Provision.Toml.Value

/-!
# Dates and times

A moment is a date, a time, or both with an optional offset from universal time. Dates
follow the Gregorian calendar, and a minute may have a leap second.
-/

namespace Provision.Toml.Moment

/-- A number of a fixed count of decimal digits between two bounds. -/
def field (width low high : Nat) : Reader Nat := fun s =>
  let digits := s.take width
  if digits.length = width then
    match Digits.read? 10 digits with
    | some n => if low ≤ n ∧ n ≤ high then some (n, s.drop width) else none
    | none => none
  else none

def isLeap (year : Nat) : Bool :=
  year % 4 == 0 && (year % 100 != 0 || year % 400 == 0)

def daysIn (year month : Nat) : Nat :=
  if month = 2 then if isLeap year then 29 else 28
  else if [4, 6, 9, 11].contains month then 30
  else 31

/-- The text after a mark that must be there. -/
def after? (mark : Char) : List Char → Option (List Char)
  | c :: rest => if c == mark then some rest else none
  | [] => none

/-- The text after a date. -/
def date (s : List Char) : Option (List Char) := do
  let (year, s) ← field 4 0 9999 s
  let (month, s) ← field 2 1 12 (← after? '-' s)
  let (_, s) ← field 2 1 (daysIn year month) (← after? '-' s)
  return s

/-- The text after a fraction of a second, if there is one. -/
def afterFraction (s : List Char) : List Char :=
  match s with
  | '.' :: c :: rest => if c.isDigit then rest.dropWhile Char.isDigit else s
  | _ => s

/-- The text after a time. -/
def time (s : List Char) : Option (List Char) := do
  let (_, s) ← field 2 0 23 s
  let (_, s) ← field 2 0 59 (← after? ':' s)
  let (_, s) ← field 2 0 60 (← after? ':' s)
  return afterFraction s

/-- The text after an offset. -/
def offset : List Char → Option (List Char)
  | [] => none
  | c :: s =>
    if c == 'Z' || c == 'z' then some s
    else if c == '+' || c == '-' then do
      let (_, s) ← field 2 0 23 s
      let (_, s) ← field 2 0 59 (← after? ':' s)
      return s
    else none

/-- The text after what may follow a date: a time and an offset. -/
def afterDate (s : List Char) : List Char :=
  match s with
  | c :: rest =>
    if c == 'T' || c == 't' || c == ' ' then
      match time rest with
      | some s => (offset s).getD s
      | none => s
    else s
  | [] => s

def moment : Reader Value := fun s => do
  let rest ← ((date s).map afterDate) <|> time s
  return (.moment (s.take (s.length - rest.length)), rest)

end Provision.Toml.Moment
