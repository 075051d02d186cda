import Provision.Text.Digits
import Provision.Toml.Reader

/-!
# Quotations

The four kinds of text in a TOML document: between double quotes, with escapes; between
single quotes, without; and each of the two over several lines, between three quotes.
-/

namespace Provision.Toml

/-- Puts a character in front of what a reader has read. -/
def consRead (c : Char) : Option (List Char × List Char) → Option (List Char × List Char)
  | some (text, rest) => some (c :: text, rest)
  | none => none

/-- The character of a code point in hexadecimal, if there is one. -/
def codePoint? (digits : List Char) : Option Char :=
  match Digits.read? 16 digits with
  | some n => if n.isValidChar then some (Char.ofNat n) else none
  | none => none

/-- The character of a letter after a backslash. -/
def escaped? : Char → Option Char
  | 'b' => some '\x08'
  | 't' => some '\t'
  | 'n' => some '\n'
  | 'f' => some '\x0C'
  | 'r' => some '\r'
  | '\x22' => some '\x22'
  | '\\' => some '\\'
  | _ => none

/-- The character of an escape whose backslash has been read. -/
def escape : Reader Char
  | 'u' :: a :: b :: c :: d :: rest => (codePoint? [a, b, c, d]).map (·, rest)
  | 'U' :: a :: b :: c :: d :: e :: f :: g :: h :: rest =>
    (codePoint? [a, b, c, d, e, f, g, h]).map (·, rest)
  | c :: rest => (escaped? c).map (·, rest)
  | [] => none

theorem length_escape_lt {s rest : List Char} {c : Char} (h : escape s = some (c, rest)) :
  rest.length < s.length
  := by
  unfold escape at h
  split at h
  · simp only [Option.map_eq_some_iff, Prod.mk.injEq] at h
    obtain ⟨_, _, _, rfl⟩ := h
    simp only [List.length_cons]
    omega
  · simp only [Option.map_eq_some_iff, Prod.mk.injEq] at h
    obtain ⟨_, _, _, rfl⟩ := h
    simp only [List.length_cons]
    omega
  · simp only [Option.map_eq_some_iff, Prod.mk.injEq] at h
    obtain ⟨_, _, _, rfl⟩ := h
    simp
  · cases h

/-- The text up to the double quote that ends it. -/
def basic (s : List Char) : Option (List Char × List Char) :=
  match s with
  | [] => none
  | '\x22' :: rest => some ([], rest)
  | '\\' :: rest =>
    match _h : escape rest with
    | some (c, rest) => consRead c (basic rest)
    | none => none
  | c :: rest => if isPrintable c then consRead c (basic rest) else none
termination_by s.length
decreasing_by
  · have := length_escape_lt _h
    simp only [List.length_cons]
    omega
  · simp

/-- The text from its next character that is no blank and no line end. -/
def skipBlankLines : List Char → List Char
  | '\n' :: rest => skipBlankLines rest
  | '\r' :: '\n' :: rest => skipBlankLines rest
  | c :: rest => if isBlank c then skipBlankLines rest else c :: rest
  | [] => []

/-- The text after a backslash at the end of a line, its blank beginning left out. -/
def afterFoldedLine? (s : List Char) : Option (List Char) :=
  (afterLineEnd? (skipBlanks s)).map skipBlankLines

theorem length_skipBlankLines_le (s : List Char) :
  (skipBlankLines s).length ≤ s.length
  := by
  fun_induction skipBlankLines s with
  | case1 rest ih => exact Nat.le_succ_of_le ih
  | case2 rest ih => exact Nat.le_succ_of_le (Nat.le_succ_of_le ih)
  | case3 c rest _ _ _ ih => exact Nat.le_succ_of_le ih
  | case4 c rest => exact Nat.le_refl _
  | case5 => exact Nat.le_refl _

theorem length_afterFoldedLine?_lt {s rest : List Char} (h : afterFoldedLine? s = some rest) :
  rest.length < s.length
  := by
  simp only [afterFoldedLine?, Option.map_eq_some_iff] at h
  obtain ⟨after, hafter, rfl⟩ := h
  have hlt := length_afterLineEnd?_lt hafter
  have hle := length_skipBlankLines_le after
  have : (skipBlanks s).length ≤ s.length := (List.dropWhile_sublist isBlank).length_le
  omega

/-- The text up to three double quotes. Up to two more quotes in front of them belong to
the text. -/
def basicLines (s : List Char) : Option (List Char × List Char) :=
  match s with
  | [] => none
  | '\x22' :: '\x22' :: '\x22' :: '\x22' :: '\x22' :: rest => some (['\x22', '\x22'], rest)
  | '\x22' :: '\x22' :: '\x22' :: '\x22' :: rest => some (['\x22'], rest)
  | '\x22' :: '\x22' :: '\x22' :: rest => some ([], rest)
  | '\\' :: rest =>
    match _h : afterFoldedLine? rest with
    | some rest => basicLines rest
    | none =>
      match _h : escape rest with
      | some (c, rest) => consRead c (basicLines rest)
      | none => none
  | '\n' :: rest => consRead '\n' (basicLines rest)
  | '\r' :: '\n' :: rest => consRead '\n' (basicLines rest)
  | c :: rest => if isPrintable c then consRead c (basicLines rest) else none
termination_by s.length
decreasing_by
  · have := length_afterFoldedLine?_lt _h
    simp only [List.length_cons]
    omega
  · have := length_escape_lt _h
    simp only [List.length_cons]
    omega
  · simp
  · simp only [List.length_cons]
    omega
  · simp

/-- The text up to the single quote that ends it. -/
def literal (s : List Char) : Option (List Char × List Char) :=
  let isInside := fun c : Char => isPrintable c && c != '\x27'
  match s.dropWhile isInside with
  | '\x27' :: rest => some (s.takeWhile isInside, rest)
  | _ => none

/-- The text up to three single quotes. Up to two more quotes in front of them belong to
the text. -/
def literalLines : List Char → Option (List Char × List Char)
  | [] => none
  | '\x27' :: '\x27' :: '\x27' :: '\x27' :: '\x27' :: rest => some (['\x27', '\x27'], rest)
  | '\x27' :: '\x27' :: '\x27' :: '\x27' :: rest => some (['\x27'], rest)
  | '\x27' :: '\x27' :: '\x27' :: rest => some ([], rest)
  | '\n' :: rest => consRead '\n' (literalLines rest)
  | '\r' :: '\n' :: rest => consRead '\n' (literalLines rest)
  | c :: rest => if isPrintable c then consRead c (literalLines rest) else none

/-- The text without a line end at its start. -/
def skipLineEnd (s : List Char) : List Char :=
  (afterLineEnd? s).getD s

/-- The text of a quotation on one line. -/
def quotation : Reader String
  | '\x22' :: rest => (basic rest).map fun r => (String.ofList r.1, r.2)
  | '\x27' :: rest => (literal rest).map fun r => (String.ofList r.1, r.2)
  | _ => none

/-- The text of a quotation of any kind. -/
def anyQuotation : Reader String
  | '\x22' :: '\x22' :: '\x22' :: rest =>
    (basicLines (skipLineEnd rest)).map fun r => (String.ofList r.1, r.2)
  | '\x27' :: '\x27' :: '\x27' :: rest =>
    (literalLines (skipLineEnd rest)).map fun r => (String.ofList r.1, r.2)
  | s => quotation s

end Provision.Toml
