import Mathlib
import Provision.Text.Segments

/-!
# Splitting what was joined

Segments without separators are what their joined text splits into, and the segments of any
text are without separators. With `join_split` this makes splitting and joining at one
character inverse to each other.
-/

namespace Provision.Segments

variable {isSeparator : Char → Bool}

/-- A segment of a text has characters of the text only, and none that separates. -/
theorem of_mem_split {s segment : List Char} (h : segment ∈ split isSeparator s) :
  ∀ c ∈ segment, c ∈ s ∧ isSeparator c = false
  := by
  induction s generalizing segment with
  | nil =>
      obtain rfl := List.mem_singleton.mp h
      simp
  | cons c rest ih =>
      rw [split] at h
      split_ifs at h with hc
      · obtain rfl | h := List.mem_cons.mp h
        · simp
        · intro d hd
          obtain ⟨hmem, hsep⟩ := ih h d hd
          use List.mem_cons_of_mem c hmem, hsep
      · cases hrest : split isSeparator rest with
        | nil => exact absurd hrest (split_ne_nil _ _)
        | cons first others =>
            rw [hrest] at h ih
            intro d hd
            obtain rfl | h := List.mem_cons.mp h
            · obtain rfl | hd := List.mem_cons.mp hd
              · use List.mem_cons_self
                simpa using hc
              · obtain ⟨hmem, hsep⟩ := ih List.mem_cons_self d hd
                use List.mem_cons_of_mem c hmem, hsep
            · obtain ⟨hmem, hsep⟩ := ih (List.mem_cons_of_mem first h) d hd
              use List.mem_cons_of_mem c hmem, hsep

/-- A text without separators is a segment by itself. -/
theorem split_of_forall {s : List Char} (h : ∀ c ∈ s, isSeparator c = false) :
  split isSeparator s = [s]
  := by
  induction s with
  | nil => rfl
  | cons c rest ih =>
      rw [split, h c List.mem_cons_self, ih fun d hd => h d (List.mem_cons_of_mem c hd)]
      rfl

/-- The text up to the first separator is the first segment. -/
theorem split_append_cons {segment rest : List Char} {separator : Char}
    (h : ∀ c ∈ segment, isSeparator c = false) (hsep : isSeparator separator = true) :
  split isSeparator (segment ++ separator :: rest) = segment :: split isSeparator rest
  := by
  induction segment with
  | nil => rw [List.nil_append, split, if_pos hsep]
  | cons c segment ih =>
      rw [List.cons_append, split, h c List.mem_cons_self,
        ih fun d hd => h d (List.mem_cons_of_mem c hd)]
      rfl

/-- The text up to any separator is split by itself. -/
theorem split_append_separator {separator : Char} (hsep : isSeparator separator = true)
    (s rest : List Char) :
  split isSeparator (s ++ separator :: rest) = split isSeparator s ++ split isSeparator rest
  := by
  induction s with
  | nil => simp [split, hsep]
  | cons c s ih =>
      rw [List.cons_append, split, split]
      split_ifs
      · rw [ih, List.cons_append]
      · cases hs : split isSeparator s with
        | nil => exact absurd hs (split_ne_nil _ _)
        | cons segment segments =>
            rw [ih, hs]
            rfl

/-- The first segment is what stands in front of the first separator. -/
theorem exists_split_eq_takeWhile_cons (s : List Char) :
  ∃ more, split isSeparator s = s.takeWhile (!isSeparator ·) :: more
  := by
  induction s with
  | nil => exact ⟨[], rfl⟩
  | cons c s ih =>
      obtain ⟨more, hmore⟩ := ih
      rw [split]
      split_ifs with hc
      · use split isSeparator s
        rw [List.takeWhile_cons_of_neg (by simp [hc])]
      · use more
        rw [hmore, List.takeWhile_cons_of_pos (by simp [hc])]

/-- Splitting gives the segments that were joined. -/
theorem split_join {separator : Char} (hsep : isSeparator separator = true)
    {segments : List (List Char)} (hne : segments ≠ [])
    (h : ∀ segment ∈ segments, ∀ c ∈ segment, isSeparator c = false) :
  split isSeparator (join [separator] segments) = segments
  := by
  induction segments with
  | nil => exact absurd rfl hne
  | cons segment rest ih =>
      have hsegment := h segment List.mem_cons_self
      by_cases hrest : rest = []
      · subst hrest
        apply split_of_forall hsegment
      · rw [join_cons hrest, List.append_assoc, List.singleton_append,
          split_append_cons hsegment hsep,
          ih hrest fun next hnext => h next (List.mem_cons_of_mem segment hnext)]

/-- Leading every segment with the separator is leading the joined text with it. -/
theorem joinLed_eq_cons_join {separator : Char} {segments : List (List Char)}
    (h : segments ≠ []) :
  joinLed separator segments = separator :: join [separator] segments
  := by
  induction segments with
  | nil => exact absurd rfl h
  | cons segment rest ih =>
      by_cases hrest : rest = []
      · subst hrest
        simp [joinLed, join]
      · rw [joinLed, List.flatMap_cons, ← joinLed, ih hrest, join_cons hrest]
        simp

/-- A joined text has the characters of its segments and the separator. -/
theorem of_mem_join {separator c : Char} {segments : List (List Char)}
    (h : c ∈ join [separator] segments) :
  c = separator ∨ ∃ segment ∈ segments, c ∈ segment
  := by
  induction segments with
  | nil => cases h
  | cons segment rest ih =>
      by_cases hrest : rest = []
      · subst hrest
        right
        use segment, List.mem_cons_self, h
      · rw [join_cons hrest, List.append_assoc, List.mem_append, List.mem_append,
          List.mem_singleton] at h
        obtain h | rfl | h := h
        · right
          use segment, List.mem_cons_self, h
        · left
          rfl
        · obtain rfl | ⟨next, hnext, hc⟩ := ih h
          · left
            rfl
          · right
            use next, List.mem_cons_of_mem segment hnext, hc

/-- Apart from the separator, the characters of a joined text are those of its segments. -/
theorem mem_join_iff {separator c : Char} (hne : c ≠ separator) {segments : List (List Char)} :
  c ∈ join [separator] segments ↔ ∃ segment ∈ segments, c ∈ segment
  := by
  constructor
  · intro h
    obtain rfl | hsegment := of_mem_join h
    · exact absurd rfl hne
    · apply hsegment
  · rintro ⟨segment, hsegment, hc⟩
    induction segments with
    | nil => cases hsegment
    | cons first others ih =>
        by_cases hothers : others = []
        · subst hothers
          obtain rfl := List.mem_singleton.mp hsegment
          apply hc
        · rw [join_cons hothers, List.append_assoc, List.mem_append, List.mem_append]
          obtain rfl | hsegment := List.mem_cons.mp hsegment
          · left
            apply hc
          · right
            right
            apply ih hsegment

/-- A character that is in no part of a text between separators is not in the text. -/
theorem notMem_of_split {separator c : Char} (hne : c ≠ separator) {s : List Char}
    (h : ∀ part ∈ split (· == separator) s, c ∉ part) :
  c ∉ s
  := by
  intro hmem
  rw [← join_split separator s, mem_join_iff hne] at hmem
  obtain ⟨part, hpart, hc⟩ := hmem
  apply h part hpart hc

/-! ### Segments that are not empty -/

/-- The text is a segment of its own between slashes. -/
def IsSegment (segment : List Char) : Prop :=
  segment ≠ [] ∧ '/' ∉ segment

variable {segments : List (List Char)}

theorem split_join_of_isSegment (hne : segments ≠ [])
    (h : ∀ segment ∈ segments, IsSegment segment) :
  split (· == '/') (join ['/'] segments) = segments
  := by
  apply split_join (by simp) hne
  intro segment hsegment c hc
  rw [beq_eq_false_iff_ne]
  rintro rfl
  apply (h segment hsegment).2 hc

theorem join_eq_nil_iff (h : ∀ segment ∈ segments, IsSegment segment) :
  join ['/'] segments = [] ↔ segments = []
  := by
  constructor
  · intro hjoin
    by_contra hne
    have hsplit := split_join_of_isSegment hne h
    rw [hjoin] at hsplit
    apply (h [] (by simp [← hsplit, split])).1 rfl
  · rintro rfl
    rfl

/-- The segments that are not empty of a joined text are those that were joined, also when
there are none. -/
theorem filter_split_join (h : ∀ segment ∈ segments, IsSegment segment) :
  (split (· == '/') (join ['/'] segments)).filter (fun segment => !segment.isEmpty) = segments
  := by
  by_cases hne : segments = []
  · subst hne
    rfl
  · rw [split_join_of_isSegment hne h, List.filter_eq_self]
    intro segment hsegment
    simpa using (h segment hsegment).1

/-- A joined text does not begin with a slash. -/
theorem head?_join_ne (h : ∀ segment ∈ segments, IsSegment segment) :
  (join ['/'] segments).head? ≠ some '/'
  := by
  intro hhead
  have hne : segments ≠ [] := by
    rintro rfl
    cases hhead
  obtain ⟨rest, hrest⟩ := List.head?_eq_some_iff.mp hhead
  have hsplit := split_join_of_isSegment hne h
  rw [hrest, split, if_pos (by simp)] at hsplit
  apply (h [] (by simp [← hsplit])).1 rfl

/-- A joined text does not end in a slash. -/
theorem getLast?_join_ne (h : ∀ segment ∈ segments, IsSegment segment) :
  (join ['/'] segments).getLast? ≠ some '/'
  := by
  intro hlast
  have hne : segments ≠ [] := by
    rintro rfl
    cases hlast
  obtain ⟨front, hfront⟩ := List.getLast?_eq_some_iff.mp hlast
  have hsplit := split_join_of_isSegment hne h
  rw [hfront, split_append_separator (by simp)] at hsplit
  apply (h [] (by simp [← hsplit, split])).1 rfl

/-- A joined text has no two slashes in a row. -/
theorem not_isInfix_join (h : ∀ segment ∈ segments, IsSegment segment) :
  ¬ ['/', '/'] <:+: join ['/'] segments
  := by
  rintro ⟨front, back, hjoin⟩
  have hne : segments ≠ [] := by
    rintro rfl
    simp [join] at hjoin
  have hsplit := split_join_of_isSegment hne h
  rw [← hjoin, List.append_assoc, List.cons_append, split_append_separator (by simp),
    List.cons_append, split, if_pos (by simp)] at hsplit
  apply (h [] (by simp [← hsplit])).1 rfl

theorem join_eq_intercalate (separator : List Char) (segments : List (List Char)) :
  join separator segments = separator.intercalate segments
  := by
  induction segments with
  | nil => rfl
  | cons segment rest ih =>
      by_cases hrest : rest = []
      · subst hrest
        simp [join]
      · rw [join_cons hrest, ih, List.intercalate_cons_of_ne_nil hrest, List.append_assoc]

theorem split_eq_splitOn (separator : Char) (s : List Char) :
  split (· == separator) s = s.splitOn separator
  := by
  have hparts : ∀ part ∈ split (· == separator) s, separator ∉ part := by
    intro part hpart hmem
    have hsep := (of_mem_split hpart separator hmem).2
    simp at hsep
  have hjoin := join_split separator s
  rw [join_eq_intercalate] at hjoin
  have hsplitOn := List.splitOn_intercalate separator hparts (split_ne_nil _ s)
  rw [hjoin] at hsplitOn
  rw [hsplitOn]

/-! ### Cutting a text in two -/

variable {p : Char → Bool} {s rest : List Char}

/-- What is taken while a condition holds ends where a text begins that does not meet it. -/
theorem takeWhile_append_of_head? (h : ∀ c ∈ s, p c = true)
    (hrest : ∀ c, rest.head? = some c → p c = false) :
  (s ++ rest).takeWhile p = s
  := by
  rw [List.takeWhile_append_of_pos h]
  cases rest with
  | nil => rw [List.takeWhile_nil, List.append_nil]
  | cons c rest =>
      rw [List.takeWhile_cons_of_neg (by simp [hrest c rfl]), List.append_nil]

theorem dropWhile_append_of_head? (h : ∀ c ∈ s, p c = true)
    (hrest : ∀ c, rest.head? = some c → p c = false) :
  (s ++ rest).dropWhile p = rest
  := by
  rw [List.dropWhile_append_of_pos h]
  cases rest with
  | nil => rfl
  | cons c rest => rw [List.dropWhile_cons_of_neg (by simp [hrest c rfl])]

end Provision.Segments
