import Mathlib
import Provision.Proofs.Resource.Listing

/-!
# Normal forms of resource paths

A resource path is read segment by segment, so a path behind another one names what the segments
of both name, one after the other. Each path that does not lead out of the root has a normal
form, which is its own normal form. In a name space the double colons of the name count as
slashes, and those of the path do not.
-/

namespace Provision

namespace ResourcePath

variable {path front back text : String} {place first second : List String}

/-! ### Segments -/

/-- The segments of a path that count. -/
def counted (path : String) : List (List Char) :=
  (path.toList.splitOn '/').filter fun segment => segment ≠ [] ∧ segment ≠ ['.']

/-- The path has no segment that leads up, and no backslash, which some systems take for a slash. -/
def StaysInside (path : String) : Prop :=
  '\\' ∉ path.toList ∧ ['.', '.'] ∉ path.toList.splitOn '/'

theorem segments_eq_splitOn (s : List Char) :
  segments s = s.splitOn '/'
  := Segments.split_eq_splitOn '/' s

theorem filter_segments (path : String) :
  (segments path.toList).filter (!isIdle ·) = counted path
  := by
  rw [counted, segments_eq_splitOn]
  apply List.filter_congr
  intro segment _
  rw [isIdle, Bool.eq_iff_iff]
  simp

/-- A path is read as a place if it stays inside and the segments that count are its names. -/
theorem reads_iff :
  Reads path place ↔ StaysInside path ∧ counted path = place.map String.toList
  := by
  rw [Reads, read, filter_segments, segments_eq_splitOn, StaysInside]
  simp only [List.contains_iff_mem]
  split_ifs with hbackslash hparent
  · simp [hbackslash]
  · simp [hparent]
  · simp [hbackslash, hparent]

/-- Exactly the paths that stay inside have a normal form. -/
theorem exists_normalize_iff :
  (∃ text, normalize path = .ok text) ↔ StaysInside path
  := by
  constructor
  · rintro ⟨text, htext⟩
    obtain ⟨place, hread, -⟩ := exists_reads_of_normalize htext
    apply (reads_iff.mp hread).1
  · intro hinside
    use textOf ((counted path).map String.ofList)
    apply Reads.normalize_eq
    apply reads_iff.mpr
    use hinside
    simp

/-- The normal form of a path has the segments that count, with single slashes between them. -/
theorem toList_of_normalize (h : normalize path = .ok text) :
  text.toList = ['/'].intercalate (counted path)
  := by
  obtain ⟨place, hread, rfl⟩ := exists_reads_of_normalize h
  rw [toList_textOf, Segments.join_eq_intercalate, (reads_iff.mp hread).2]

/-- A normal form is its own normal form. -/
theorem normalize_of_normalize (h : normalize path = .ok text) :
  normalize text = .ok text
  := by
  obtain ⟨place, hread, rfl⟩ := exists_reads_of_normalize h
  apply (reads_textOf hread.isInner).normalize_eq

/-- Slashes stand between segments only: none begins or ends the text, and none is doubled. -/
structure HasSingleSlashes (text : String) : Prop where
  head : text.toList.head? ≠ some '/'
  last : text.toList.getLast? ≠ some '/'
  inner : ¬ ['/', '/'] <:+: text.toList

theorem hasSingleSlashes_of_normalize (h : normalize path = .ok text) :
  HasSingleSlashes text
  := by
  obtain ⟨place, hread, rfl⟩ := exists_reads_of_normalize h
  have hsegments := PathText.isSegment_of_mem_map fun name hname => (hread.isPlace name hname).1
  constructor
  all_goals rw [toList_textOf]
  · apply Segments.head?_join_ne hsegments
  · apply Segments.getLast?_join_ne hsegments
  · apply Segments.not_isInfix_join hsegments

/-! ### A path behind another one -/

theorem counted_append (front back : String) :
  counted (front ++ "/" ++ back) = counted front ++ counted back
  := by
  have htext : (front ++ "/" ++ back).toList = front.toList ++ '/' :: back.toList := by simp
  rw [← filter_segments, htext, segments_append, List.filter_append, filter_segments,
    filter_segments]

theorem staysInside_append_iff :
  StaysInside (front ++ "/" ++ back) ↔ StaysInside front ∧ StaysInside back
  := by
  have htext : (front ++ "/" ++ back).toList = front.toList ++ '/' :: back.toList := by simp
  simp only [StaysInside, ← segments_eq_splitOn, htext, segments_append, List.mem_append,
    List.mem_cons, Char.reduceEq, false_or, not_or]
  tauto

/-- A path behind another one names what both name, one after the other. -/
theorem Reads.append (hfront : Reads front first) (hback : Reads back second) :
  Reads (front ++ "/" ++ back) (first ++ second)
  := by
  obtain ⟨hinside, hfirst⟩ := reads_iff.mp hfront
  obtain ⟨hinside', hsecond⟩ := reads_iff.mp hback
  apply reads_iff.mpr
  use staysInside_append_iff.mpr ⟨hinside, hinside'⟩
  rw [counted_append, hfirst, hsecond, List.map_append]

/-- The normal form of a path behind another one has the segments of both normal forms. -/
theorem exists_normalize_append {text' : String} (hfront : normalize front = .ok text)
    (hback : normalize back = .ok text') :
  ∃ joined, normalize (front ++ "/" ++ back) = .ok joined ∧ parts joined = parts text ++ parts text'
  := by
  obtain ⟨first, hfirst, rfl⟩ := exists_reads_of_normalize hfront
  obtain ⟨second, hsecond, rfl⟩ := exists_reads_of_normalize hback
  have hread := hfirst.append hsecond
  use textOf (first ++ second), hread.normalize_eq
  rw [parts_textOf hread.isPlace, parts_textOf hfirst.isPlace, parts_textOf hsecond.isPlace]

/-! ### Name spaces -/

/-- The text is cut at double colons: at the leftmost one, and then, behind it, in the same way. -/
inductive IsCutAtColons : List Char → List (List Char) → Prop where
  | whole {s : List Char} (h : ¬ [':', ':'] <:+: s) : IsCutAtColons s [s]
  | cut {part rest : List Char} {parts : List (List Char)} (h : ¬ [':', ':'] <:+: part ++ [':'])
      (hrest : IsCutAtColons rest parts) :
    IsCutAtColons (part ++ ':' :: ':' :: rest) (part :: parts)

/-- What stands in front of the leftmost double colon is not longer than what stands in front of
another one. -/
theorem length_le_of_leftmost {part rest part' rest' : List Char}
    (h : ¬ [':', ':'] <:+: part ++ [':'])
    (heq : part ++ ':' :: ':' :: rest = part' ++ ':' :: ':' :: rest') :
  part.length ≤ part'.length
  := by
  by_contra hlonger
  have hwhole : part' ++ [':', ':'] <+: part ++ ':' :: ':' :: rest := by
    rw [heq]
    use rest'
    simp
  have hstart : part ++ [':'] <+: part ++ ':' :: ':' :: rest := by
    use ':' :: rest
    simp
  have hprefix : part' ++ [':', ':'] <+: part ++ [':'] := by
    apply List.prefix_of_prefix_length_le hwhole hstart
    simp only [List.length_append, List.length_cons, List.length_nil]
    omega
  apply h
  apply (List.suffix_append part' [':', ':']).isInfix.trans hprefix.isInfix

/-- There is only one way to cut a text. -/
theorem IsCutAtColons.unique {s : List Char} {parts others : List (List Char)}
    (h : IsCutAtColons s parts) (h' : IsCutAtColons s others) :
  others = parts
  := by
  have hcolons : ∀ part rest : List Char, [':', ':'] <:+: part ++ ':' :: ':' :: rest := by
    intro part rest
    use part, rest
    simp
  induction h generalizing others with
  | whole h =>
      cases h' with
      | whole _ => rfl
      | cut _ _ => exact absurd (hcolons _ _) h
  | @cut part rest parts h hrest ih =>
      generalize hs : part ++ ':' :: ':' :: rest = s at h'
      cases h' with
      | whole h' =>
          rw [← hs] at h'
          exact absurd (hcolons part rest) h'
      | cut h' hrest' =>
          have hlength :=
            le_antisymm (length_le_of_leftmost h hs) (length_le_of_leftmost h' hs.symm)
          obtain ⟨rfl, hbehind⟩ := List.append_inj hs hlength
          obtain rfl := (List.cons.inj (List.cons.inj hbehind).2).2
          rw [ih hrest']

/-- A character in front makes no double colon unless it is a colon before another one. -/
theorem not_isInfix_cons {c : Char} {s : List Char} (hc : ¬ (c = ':' ∧ s.head? = some ':'))
    (h : ¬ [':', ':'] <:+: s) :
  ¬ [':', ':'] <:+: c :: s
  := by
  rw [List.infix_cons_iff, not_or]
  use fun hprefix => hc ?_, h
  obtain ⟨rest, hrest⟩ := hprefix
  obtain ⟨rfl, rfl⟩ := List.cons.inj hrest
  use rfl
  rfl

/-- Every text can be cut, and its parts with slashes between them are the text with a slash for
each double colon. -/
theorem exists_isCutAtColons (s : List Char) :
  ∃ parts, IsCutAtColons s parts ∧ slashed s = ['/'].intercalate parts
  := by
  fun_induction slashed s with
  | case1 rest ih =>
      obtain ⟨parts, hcut, hslashed⟩ := ih
      have hstep : IsCutAtColons ([] ++ ':' :: ':' :: rest) ([] :: parts) := .cut (by decide) hcut
      use [] :: parts, hstep
      rw [hslashed, List.intercalate_cons_of_ne_nil]
      · rfl
      · rintro rfl
        cases hcut
  | case2 c rest hnot ih =>
      obtain ⟨parts, hcut, hslashed⟩ := ih
      have hc : ¬ (c = ':' ∧ rest.head? = some ':') := by
        rintro ⟨rfl, hhead⟩
        obtain ⟨tail, rfl⟩ := List.head?_eq_some_iff.mp hhead
        apply hnot tail rfl rfl
      cases hcut with
      | whole h =>
          use [c :: rest], .whole (not_isInfix_cons hc h)
          rw [hslashed, List.intercalate_singleton, List.intercalate_singleton]
      | @cut part rest parts h hrest =>
          have hpart : ¬ (c = ':' ∧ (part ++ [':']).head? = some ':') := by
            cases part <;> exact hc
          have hstep : IsCutAtColons (c :: part ++ ':' :: ':' :: rest) ((c :: part) :: parts) :=
            .cut (not_isInfix_cons hpart h) hrest
          use (c :: part) :: parts, hstep
          have hne : parts ≠ [] := by
            rintro rfl
            cases hrest
          rw [hslashed, List.intercalate_cons_of_ne_nil hne, List.intercalate_cons_of_ne_nil hne]
          rfl
  | case3 =>
      use [[]], .whole (by decide)
      rfl

/-- A path with a slash in front is outside of every name space. -/
theorem join_of_slash (h : path.toList.head? = some '/') (space : String) :
  join space path = normalize path
  := by
  rw [join, inSpace, if_pos h]

/-- Any other path stands behind the parts of the name space. -/
theorem join_of_isCutAtColons (h : path.toList.head? ≠ some '/') {space : String}
    {parts : List (List Char)} (hcut : IsCutAtColons space.toList parts) :
  join space path = normalize (String.ofList (['/'].intercalate parts) ++ "/" ++ path)
  := by
  obtain ⟨parts', hcut', hslashed⟩ := exists_isCutAtColons space.toList
  obtain rfl := hcut'.unique hcut
  rw [join, inSpace, if_neg h, hslashed]
  congr 1
  simp [← String.toList_inj]

end ResourcePath

/-! ### Reading -/

namespace Bundle

open ResourcePath

variable [DomainNames] {path path' : String}

/-- Paths with the same normal form, or without one, are read as the same text, or fail with errors
of the same kind. -/
theorem readText_congr (h : (normalize path).toOption = (normalize path').toOption) (disk : Disk)
    (bundle : Bundle) :
  (bundle.readText disk path).result.mapError ResourceError.code
    = (bundle.readText disk path').result.mapError ResourceError.code
  := by
  cases hpath : normalize path with
  | error e =>
      rw [hpath] at h
      cases hpath' : normalize path' with
      | ok text =>
          rw [hpath'] at h
          cases h
      | error e' =>
          obtain ⟨fault, rfl, -⟩ := exists_of_normalize_eq_error hpath
          obtain ⟨fault', rfl, -⟩ := exists_of_normalize_eq_error hpath'
          rw [(answers_of_resolve_eq_error (ResourceLocation.resolve_of_error hpath)).2.2,
            (answers_of_resolve_eq_error (ResourceLocation.resolve_of_error hpath')).2.2]
          rfl
  | ok text =>
      have hpath' : normalize path' = .ok text := by
        cases hpath' : normalize path' with
        | error e =>
            rw [hpath, hpath'] at h
            cases h
        | ok text' =>
            rw [hpath, hpath'] at h
            obtain rfl := Option.some.inj h
            rfl
      -- The location depends on the normal form alone, and only its faults quote the path.
      obtain ⟨located, hlocated⟩ : ∃ located : Except PathFault ResourceLocation,
          ∀ p, normalize p = .ok text →
            bundle.resolve p = located.mapError (ResourceError.invalidPath p) := by
        cases hroot : bundle.root with
        | directory home =>
            use ResourceLocation.inDirectory home text
            intro p hp
            rw [resolve, ResourceLocation.resolve, hp, hroot]
            rfl
        | archive archive =>
            use ResourceLocation.inArchive archive text
            intro p hp
            rw [resolve, ResourceLocation.resolve, hp, hroot]
            rfl
      rw [readText, readText, hlocated path hpath, hlocated path' hpath']
      cases located with
      | error fault => rfl
      | ok location =>
          simp only [Except.mapError, Attempt.ofExcept_ok_bind]
          split_ifs
          · rfl
          · rfl

/-- A path in a name space is read as any path is that has the normal form of the two together. -/
theorem readTextIn_congr {space text : String}
    (h : (normalize text).toOption = (join space path).toOption) {disk : Disk} {bundle : Bundle} :
  (bundle.readTextIn disk space path).result.mapError ResourceError.code
    = (bundle.readText disk text).result.mapError ResourceError.code
  := by
  rw [← readText_congr h.symm]
  cases hjoin : normalize (inSpace space path) with
  | error e =>
      rw [readTextIn, join, hjoin,
        (answers_of_resolve_eq_error (ResourceLocation.resolve_of_error hjoin)).2.2]
      rfl
  | ok joined =>
      have hsame : (normalize joined).toOption = (normalize (inSpace space path)).toOption := by
        rw [hjoin, normalize_of_normalize hjoin]
      rw [readTextIn, join, hjoin, Attempt.ofExcept_ok_bind, readText_congr hsame]

end Bundle

namespace ResourcePath

/-- A path has a normal form exactly if it stays inside of the root. The normal form has the
segments that count, with single slashes between them, and is its own normal form. A path behind
another one has a normal form exactly if both have, and its segments are those of both, one after
the other. In a name space a path with a slash in front is what it is by itself; any other stands
behind the name, which is cut at its double colons, each the leftmost behind the one before. Read
in a name space, a path gives the same text, or an error of the same kind, as any spelling of
what the two are joined to. -/
theorem normalize_joins_segments [DomainNames] :
  (∀ path, ((∃ text, normalize path = .ok text) ↔ StaysInside path)
      ∧ ∀ text, normalize path = .ok text →
        text.toList = ['/'].intercalate (counted path)
          ∧ HasSingleSlashes text
          ∧ normalize text = .ok text)
    ∧ (∀ front back : String,
      ((∃ text, normalize (front ++ "/" ++ back) = .ok text)
          ↔ (∃ text, normalize front = .ok text) ∧ ∃ text, normalize back = .ok text)
        ∧ ∀ first second, normalize front = .ok first → normalize back = .ok second →
          ∃ text, normalize (front ++ "/" ++ back) = .ok text
            ∧ parts text = parts first ++ parts second)
    ∧ (∀ space path : String,
      (path.toList.head? = some '/' → join space path = normalize path)
        ∧ (path.toList.head? ≠ some '/' →
          (∃! cut, IsCutAtColons space.toList cut)
            ∧ ∀ cut, IsCutAtColons space.toList cut →
              join space path = normalize (String.ofList (['/'].intercalate cut) ++ "/" ++ path)))
    ∧ ∀ (disk : Disk) (bundle : Bundle) (space path text : String),
      (normalize text).toOption = (join space path).toOption →
        (bundle.readTextIn disk space path).result.mapError ResourceError.code
          = (bundle.readText disk text).result.mapError ResourceError.code
  := by
  refine ⟨?_, ?_, ?_, ?_⟩
  · intro path
    use exists_normalize_iff
    intro text h
    use toList_of_normalize h, hasSingleSlashes_of_normalize h, normalize_of_normalize h
  · intro front back
    constructor
    · simp only [exists_normalize_iff, staysInside_append_iff]
    · intro first second
      apply exists_normalize_append
  · intro space path
    constructor
    · intro h
      apply join_of_slash h
    · intro h
      obtain ⟨cut, hcut, -⟩ := exists_isCutAtColons space.toList
      use ⟨cut, hcut, fun other => hcut.unique⟩
      intro other
      apply join_of_isCutAtColons h
  · intro disk bundle space path text h
    apply Bundle.readTextIn_congr h

attribute [local instance] DomainNames.asciiOnly in
/-- Slashes too many on both sides, and three colons, of which the first two count. -/
theorem normalize_joins_segments_small :
  normalize "./d//" = .ok "d" ∧ normalize "/./b" = .ok "b"
    ∧ HasSingleSlashes "d"
    ∧ (∃ text, normalize ("./d//" ++ "/" ++ "/./b") = .ok text ∧ parts text = ["d", "b"])
    ∧ IsCutAtColons "x:::y".toList [['x'], [':', 'y']]
    ∧ join "x:::y" "::z" = normalize "x/:y/::z"
    ∧ join "x:::y" "/::z" = normalize "/::z"
    ∧ (normalize "d/.//b").toOption = (join "d::." "b").toOption
    ∧ ((Bundle.mk (.directory "/r")).readTextIn Bundle.smallDisk "d::." "b").result.mapError
        ResourceError.code
      = ((Bundle.mk (.directory "/r")).readText Bundle.smallDisk "d/.//b").result.mapError
        ResourceError.code
  := by
  obtain ⟨hnormalize, happend, hjoin, hread⟩ := normalize_joins_segments
  have hfirst : normalize "./d//" = .ok "d" := by decide +kernel
  have hsecond : normalize "/./b" = .ok "b" := by decide +kernel
  have hcut : IsCutAtColons (['x'] ++ ':' :: ':' :: [':', 'y']) [['x'], [':', 'y']] :=
    .cut (by decide) (.whole (by decide))
  have hsame : (normalize "d/.//b").toOption = (join "d::." "b").toOption := by decide +kernel
  obtain ⟨text, htext, hparts⟩ := (happend "./d//" "/./b").2 "d" "b" hfirst hsecond
  use hfirst, hsecond, ((hnormalize "./d//").2 "d" hfirst).2.1, ⟨text, htext, hparts⟩, hcut
  use ((hjoin "x:::y" "::z").2 (by decide)).2 _ hcut, (hjoin "x:::y" "/::z").1 (by decide), hsame
  apply hread Bundle.smallDisk _ "d::." "b" _ hsame

end ResourcePath

end Provision
