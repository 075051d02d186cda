/-!
# Readers

A reader takes a value off the front of a text, or fails. The lexical elements that all
parts of the TOML grammar share are blanks, line ends, comments and the filler made of
them.
-/

namespace Provision.Toml

/-- A reader gives a value and the text after it. -/
abbrev Reader (α : Type) := List Char → Option (α × List Char)

def isBlank (c : Char) : Bool :=
  c == ' ' || c == '\t'

def skipBlanks (s : List Char) : List Char :=
  s.dropWhile isBlank

/-- A character that may stand in a comment: no control but a tab. -/
def isPrintable (c : Char) : Bool :=
  c == '\t' || (0x20 ≤ c.toNat && c.toNat != 0x7F)

/-- The text after the line end in front of it. -/
def afterLineEnd? : List Char → Option (List Char)
  | '\n' :: rest => some rest
  | '\r' :: '\n' :: rest => some rest
  | _ => none

/-- The text after a line end that may have blanks and a comment before it. The end of the
text ends a line too. -/
def afterLine? (s : List Char) : Option (List Char) :=
  let rest :=
    match skipBlanks s with
    | '#' :: comment => comment.dropWhile isPrintable
    | rest => rest
  if rest.isEmpty then some [] else afterLineEnd? rest

theorem length_afterLineEnd?_lt {s rest : List Char} (h : afterLineEnd? s = some rest) :
  rest.length < s.length
  := by
  unfold afterLineEnd? at h
  split at h
  · cases h
    simp
  · cases h
    simp only [List.length_cons]
    omega
  · cases h

/-- The text after blanks, line ends and comments. -/
def skipFiller (s : List Char) : List Char :=
  match s with
  | [] => []
  | c :: rest =>
    if isBlank c then skipFiller rest
    else
      let line := if c == '#' then rest.dropWhile isPrintable else c :: rest
      match _h : afterLineEnd? line with
      | some after => skipFiller after
      | none => s
termination_by s.length
decreasing_by
  · simp
  · have hline : line.length ≤ rest.length + 1 := by
      have := (List.dropWhile_sublist (l := rest) isPrintable).length_le
      simp only [line]
      split
      · exact Nat.le_succ_of_le this
      · exact Nat.le_refl _
    have := length_afterLineEnd?_lt _h
    simp only [List.length_cons]
    omega

end Provision.Toml
