/-!
# Segments of a text

`Segments.split isSeparator s` cuts a text at every character that is a separator, so a
text with `n` separators has `n + 1` segments, some of them possibly empty.
`Segments.join separator` writes segments one after the other with the separator between
them. Joining what was split at a single character gives the text back.
-/

namespace Provision.Segments

/-- The segments of a text between the characters that are separators. -/
def split (isSeparator : Char → Bool) : List Char → List (List Char)
  | [] => [[]]
  | c :: rest =>
    if isSeparator c then [] :: split isSeparator rest
    else
      match split isSeparator rest with
      | [] => [[c]]
      | segment :: segments => (c :: segment) :: segments

/-- The segments one after the other, with a separator between any two. -/
def join (separator : List Char) : List (List Char) → List Char
  | [] => []
  | [segment] => segment
  | segment :: segments => segment ++ separator ++ join separator segments

/-- Each segment after the separator that leads it. -/
def joinLed (separator : Char) (segments : List (List Char)) : List Char :=
  segments.flatMap (separator :: ·)

theorem split_ne_nil (isSeparator : Char → Bool) (s : List Char) :
  split isSeparator s ≠ []
  := by
  cases s with
  | nil => simp [split]
  | cons c rest =>
    rw [split]
    split
    · simp
    · split <;> simp

theorem join_cons {separator segment : List Char} {segments : List (List Char)}
    (h : segments ≠ []) :
  join separator (segment :: segments) = segment ++ separator ++ join separator segments
  := by
  cases segments with
  | nil => exact absurd rfl h
  | cons next segments => rfl

/-- Joining with a character what was split at it gives the text back. -/
theorem join_split (separator : Char) (s : List Char) :
  join [separator] (split (· == separator) s) = s
  := by
  induction s with
  | nil => rfl
  | cons c rest ih =>
    rw [split]
    have hne := split_ne_nil (· == separator) rest
    by_cases hc : c = separator
    · simp [hc, join_cons hne, ih]
    · simp only [beq_iff_eq, hc, if_false]
      revert ih hne
      generalize split (· == separator) rest = segments
      intro ih hne
      cases segments with
      | nil => exact absurd rfl hne
      | cons segment segments =>
        cases segments with
        | nil => simpa [join] using ih
        | cons next segments => simpa [join] using ih

end Provision.Segments
