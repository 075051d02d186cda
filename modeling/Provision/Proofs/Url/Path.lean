import Mathlib
import Provision.Proofs.Text.Segments
import Provision.Proofs.Url.Percent
import Provision.Url.Parser

/-!
# Paths that read as themselves

The segments that are read from a text are escaped, have no slash in them, and none of them
is a dot segment. Segments of this kind, written one after the other, are read as
themselves.
-/

namespace Provision.Url

/-! ### Escaped parts of a URL -/

theorem lt_toNat_of_also {chars : List Char} {c : Char} (hspace : ' ' ∈ chars)
    (hlt : c.toNat < 0x80)
    (h : Percent.controls.also chars (UInt8.ofNat c.toNat) = false) :
  0x20 < c.toNat
  := by
  obtain ⟨hcontrols, hchars⟩ := Percent.of_also_eq_false hlt h
  apply Nat.lt_of_le_of_ne (Percent.le_toNat_of_controls hlt hcontrols)
  intro heq
  apply hchars
  have hc : c = ' ' := by
    rw [← Char.ofNat_toNat c, ← heq]
  rwa [hc]

/-- No character of an escaped path is a blank or ends the path. -/
theorem of_isPlain_path {s : List Char} (h : Percent.IsPlain Percent.path s) :
  ∀ c ∈ s, 0x20 < c.toNat ∧ startsQuery c = false
  := by
  intro c hc
  obtain ⟨hlt, hplain⟩ := h c hc
  obtain ⟨hfragment, hchars⟩ := Percent.of_also_eq_false hlt hplain
  use lt_toNat_of_also (by simp) hlt hfragment
  simp only [List.mem_cons, List.not_mem_nil, or_false, not_or] at hchars
  simp [startsQuery, hchars]

/-- The bytes that are escaped in a query. -/
def escapedInQuery (kind : SchemeKind) : Percent.Escaped :=
  if kind.isSpecial then Percent.specialQuery else Percent.query

theorem escapedInQuery_isStable (kind : SchemeKind) :
  (escapedInQuery kind).IsStable
  := by
  rw [escapedInQuery]
  split_ifs
  · apply Percent.specialQuery_isStable
  · apply Percent.query_isStable

/-- No character of an escaped query is a blank or starts a fragment. -/
theorem of_isPlain_query {kind : SchemeKind} {s : List Char}
    (h : Percent.IsPlain (escapedInQuery kind) s) :
  ∀ c ∈ s, 0x20 < c.toNat ∧ c ≠ '#'
  := by
  intro c hc
  obtain ⟨hlt, hplain⟩ := h c hc
  have hquery : Percent.query (UInt8.ofNat c.toNat) = false := by
    rw [escapedInQuery] at hplain
    split_ifs at hplain
    · apply (Percent.of_also_eq_false hlt hplain).1
    · apply hplain
  obtain ⟨-, hchars⟩ := Percent.of_also_eq_false hlt hquery
  use lt_toNat_of_also (by simp) hlt hquery
  simp only [List.mem_cons, List.not_mem_nil, or_false, not_or] at hchars
  apply hchars.2.2.1

namespace Path

variable {kind : SchemeKind} {segment : List Char} {segments walked : List (List Char)}

/-! ### Segments -/

/-- The segment is escaped and has no slash in it. -/
structure IsClean (kind : SchemeKind) (segment : List Char) : Prop where
  isPlain : Percent.IsPlain Percent.path segment
  not_isSlash : ∀ c ∈ segment, isSlash kind c = false

/-- The segment is no dot segment. -/
def IsName (segment : List Char) : Prop :=
  isDot segment = false ∧ isDotDot segment = false

theorem isName_nil :
  IsName []
  := by
  constructor <;> rfl

theorem isClean_nil :
  IsClean kind []
  := by
  constructor
  · intro c hc
    cases hc
  · intro c hc
    cases hc

/-- A clean segment stays clean when characters are taken away. -/
theorem IsClean.of_subset {other : List Char} (h : IsClean kind segment)
    (hsubset : other ⊆ segment) :
  IsClean kind other
  := by
  constructor
  · intro c hc
    apply h.isPlain c (hsubset hc)
  · intro c hc
    apply h.not_isSlash c (hsubset hc)

/-- A part between two slashes is clean once it is escaped. -/
theorem isClean_encode {part : List Char} (h : ∀ c ∈ part, isSlash kind c = false) :
  IsClean kind (Percent.encode Percent.path part)
  := by
  have hescapes : ∀ c ∈ Percent.escapeChars, c ≠ '/' ∧ c ≠ '\\' :=
    Percent.forall_mem_escapeChars (by decide)
  constructor
  · apply Percent.isPlain_encode Percent.path_isStable
  · intro c hc
    obtain hescape | ⟨hmem, -⟩ := Percent.of_mem_encode Percent.path_isStable hc
    · simp [isSlash, hescapes c hescape]
    · apply h c hmem

/-! ### Walking -/

theorem of_mem_up (h : segment ∈ up walked) :
  segment ∈ walked
  := by
  cases walked with
  | nil => cases h
  | cons last rest =>
      rw [up] at h
      split_ifs at h
      · apply h
      · apply List.mem_cons_of_mem last h

theorem of_mem_enter {next : List Char} (h : segment ∈ enter walked next) :
  segment ∈ walked ∨ segment = next ∧ IsName next
  := by
  rw [enter] at h
  split_ifs at h with hdotdot hdot
  · left
    apply of_mem_up h
  · left
    apply h
  · obtain rfl | h := List.mem_cons.mp h
    · right
      use rfl, by simpa using hdot
      simpa using hdotdot
    · left
      apply h

theorem of_mem_arrive {next : List Char} (h : segment ∈ arrive walked next) :
  segment ∈ walked ∨ segment = [] ∨ segment = next ∧ IsName next
  := by
  rw [arrive] at h
  split_ifs at h with hdotdot hdot
  · obtain rfl | h := List.mem_cons.mp h
    · right
      left
      rfl
    · left
      apply of_mem_up h
  · obtain rfl | h := List.mem_cons.mp h
    · right
      left
      rfl
    · left
      apply h
  · obtain rfl | h := List.mem_cons.mp h
    · right
      right
      use rfl, by simpa using hdot
      simpa using hdotdot
    · left
      apply h

/-- A walk leads through segments that it was given and that are names; the last one may be
empty. -/
theorem of_mem_walk (h : segment ∈ walk walked segments) :
  segment ∈ walked ∨ segment = [] ∨ segment ∈ segments ∧ IsName segment
  := by
  fun_induction walk walked segments with
  | case1 walked =>
      left
      apply h
  | case2 walked next =>
      obtain h | h | ⟨rfl, hname⟩ := of_mem_arrive h
      · left
        apply h
      · right
        left
        apply h
      · right
        right
        use List.mem_singleton_self _
  | case3 walked next rest hrest ih =>
      obtain h | h | ⟨h, hname⟩ := ih h
      · obtain h | ⟨rfl, hname⟩ := of_mem_enter h
        · left
          apply h
        · right
          right
          use List.mem_cons_self
      · right
        left
        apply h
      · right
        right
        use List.mem_cons_of_mem next h

theorem enter_of_isName (h : IsName segment) :
  enter walked segment = segment :: walked
  := by
  simp [enter, h.1, h.2]

theorem arrive_of_isName (h : IsName segment) :
  arrive walked segment = segment :: walked
  := by
  simp [arrive, h.1, h.2]

/-- A walk through names leads through all of them. -/
theorem walk_of_forall (h : ∀ segment ∈ segments, IsName segment) :
  walk walked segments = segments.reverse ++ walked
  := by
  fun_induction walk walked segments with
  | case1 walked => rfl
  | case2 walked next => apply arrive_of_isName (h next List.mem_cons_self)
  | case3 walked next rest hrest ih =>
      rw [ih fun segment hsegment => h segment (List.mem_cons_of_mem next hsegment),
        enter_of_isName (h next List.mem_cons_self), List.reverse_cons, List.append_assoc]
      rfl

/-! ### Texts -/

/-- The segments that a text is read as are clean and are names. -/
theorem of_mem_ofText {s : List Char} (h : segment ∈ ofText kind s) :
  IsClean kind segment ∧ IsName segment
  := by
  rw [ofText, List.mem_reverse] at h
  obtain h | rfl | ⟨hmem, hname⟩ := of_mem_walk h
  · cases h
  · use isClean_nil
    apply isName_nil
  · obtain ⟨part, hpart, rfl⟩ := List.mem_map.mp hmem
    use isClean_encode fun c hc => (Segments.of_mem_split hpart c hc).2

theorem map_encode_of_isClean (h : ∀ segment ∈ segments, IsClean kind segment) :
  segments.map (Percent.encode Percent.path) = segments
  := by
  apply Eq.trans _ (List.map_id _)
  apply List.map_congr_left
  intro segment hsegment
  apply Percent.encode_of_isPlain (h segment hsegment).isPlain

theorem split_join_of_isClean (hne : segments ≠ [])
    (h : ∀ segment ∈ segments, IsClean kind segment) :
  Segments.split (isSlash kind) (Segments.join ['/'] segments) = segments
  := by
  apply Segments.split_join (by simp [isSlash]) hne
  intro segment hsegment
  apply (h segment hsegment).not_isSlash

/-- Clean names are read as themselves. -/
theorem ofText_join (hne : segments ≠ []) (hclean : ∀ segment ∈ segments, IsClean kind segment)
    (hname : ∀ segment ∈ segments, IsName segment) :
  ofText kind (Segments.join ['/'] segments) = segments
  := by
  have hsplit := split_join_of_isClean hne hclean
  have hencode := map_encode_of_isClean hclean
  change (walk [] ((Segments.split (isSlash kind) (Segments.join ['/'] segments)).map
    (Percent.encode Percent.path))).reverse = segments
  rw [hsplit, hencode, walk_of_forall hname, List.append_nil, List.reverse_reverse]

/-- A clean text without slashes is read as a single segment, which is empty if the text is a dot
segment. -/
theorem ofText_of_isClean (h : IsClean kind segment) :
  ofText kind segment = [if isDot segment || isDotDot segment then [] else segment]
  := by
  have hsplit : Segments.split (isSlash kind) segment = [segment] :=
    Segments.split_of_forall h.not_isSlash
  have harrive : arrive [] segment
      = [if isDot segment || isDotDot segment then [] else segment] := by
    rw [arrive]
    cases isDotDot segment <;> cases isDot segment <;> rfl
  change (walk [] ((Segments.split (isSlash kind) segment).map
    (Percent.encode Percent.path))).reverse = _
  rw [hsplit, List.map_singleton, Percent.encode_of_isPlain h.isPlain, walk, harrive,
    List.reverse_singleton]

theorem of_mem_joinLed {c : Char} (h : c ∈ Segments.joinLed '/' segments) :
  c = '/' ∨ ∃ segment ∈ segments, c ∈ segment
  := by
  obtain ⟨segment, hsegment, hc⟩ := List.mem_flatMap.mp h
  obtain rfl | hc := List.mem_cons.mp hc
  · left
    rfl
  · right
    use segment, hsegment

/-- No character of a written path is a blank or ends the path. -/
theorem of_mem_text (h : ∀ segment ∈ segments, IsClean kind segment) {c : Char}
    (hc : c ∈ (Path.rooted segments).text) :
  0x20 < c.toNat ∧ startsQuery c = false
  := by
  obtain rfl | ⟨segment, hsegment, hc⟩ := of_mem_joinLed hc
  · decide
  · apply of_isPlain_path (h segment hsegment).isPlain c hc

/-! ### Dot segments -/

/-- The texts that stand for a dot in a segment. -/
def dots : List (List Char) :=
  [['.'], ['%', '2', 'e'], ['%', '2', 'E']]

theorem withDots_eq_nil_iff {s : List Char} :
  withDots s = [] ↔ s = []
  := by
  fun_cases withDots s <;> simp

/-- A dot stands in front exactly if one of the texts that stand for a dot does. -/
theorem withDots_eq_cons_iff {s rest : List Char} :
  withDots s = '.' :: rest ↔ ∃ dot ∈ dots, ∃ after, s = dot ++ after ∧ withDots after = rest
  := by
  simp only [dots, List.mem_cons, List.not_mem_nil, or_false, exists_eq_or_imp, exists_eq_left]
  fun_cases withDots s with
  | case1 after => simp
  | case2 after => simp
  | case3 c after hlower hupper =>
      constructor
      · intro h
        obtain ⟨rfl, hrest⟩ := List.cons.inj h
        left
        use after
        simpa using hrest
      · rintro (⟨_, hs, rfl⟩ | ⟨_, hs, -⟩ | ⟨_, hs, -⟩)
        · obtain ⟨rfl, rfl⟩ := List.cons.inj hs
          rfl
        · obtain ⟨hc, hafter⟩ := List.cons.inj hs
          exact absurd hafter (hlower _ hc)
        · obtain ⟨hc, hafter⟩ := List.cons.inj hs
          exact absurd hafter (hupper _ hc)
  | case4 => simp

theorem isDot_iff :
  isDot segment = true ↔ segment ∈ dots
  := by
  rw [isDot, beq_iff_eq, withDots_eq_cons_iff]
  simp [withDots_eq_nil_iff]

theorem isDotDot_iff :
  isDotDot segment = true ↔ ∃ first ∈ dots, ∃ second ∈ dots, segment = first ++ second
  := by
  rw [isDotDot, beq_iff_eq, withDots_eq_cons_iff]
  simp [withDots_eq_cons_iff, withDots_eq_nil_iff, and_comm]

/-- A segment is a name unless it is written with one or two dots. -/
theorem isName_iff :
  IsName segment
    ↔ segment ∉ dots ∧ ∀ first ∈ dots, ∀ second ∈ dots, segment ≠ first ++ second
  := by
  rw [IsName, ← Bool.not_eq_true, ← Bool.not_eq_true, isDot_iff, isDotDot_iff]
  simp

end Path

end Provision.Url
