import Mathlib
import Provision.Proofs.Resource.Confinement
import Provision.Proofs.Resource.Failures

/-!
# Paths of files below a directory

A location below a directory has the path of the file that was asked for: the names of the
directory and the segments of the resource path, with single slashes between them. The one
exception is a path that ends in a letter and a colon or a bar, like the name of a drive. It gets
a slash at its end, and then leads only to a directory.
-/

namespace Provision

open Segments (IsSegment)

namespace PathText

/-- The last name ends in a letter and a colon or a bar. -/
def EndsInDrive (names : List String) : Prop :=
  ∃ others last front letter mark, names = others ++ [last]
    ∧ last.toList = front ++ [letter, mark]
    ∧ letter.isAlpha = true ∧ (mark = ':' ∨ mark = '|')

variable {names others : List String} {last : String}

theorem endsInDrive_concat_iff :
  EndsInDrive (others ++ [last]) ↔ ∃ front letter mark, last.toList = front ++ [letter, mark]
    ∧ letter.isAlpha = true ∧ (mark = ':' ∨ mark = '|')
  := by
  constructor
  · rintro ⟨others', last', front, letter, mark, hnames, hlast, hdrive⟩
    obtain ⟨-, hsingle⟩ := List.append_inj' hnames rfl
    obtain rfl := List.singleton_inj.mp hsingle
    use front, letter, mark, hlast
  · rintro ⟨front, letter, mark, hlast, hdrive⟩
    use others, last, front, letter, mark, rfl, hlast

/-- In front of the last name of a path stands a slash. -/
theorem exists_rooted_concat (others : List String) (last : String) :
  ∃ front, (rooted (others ++ [last])).toList = front ++ '/' :: last.toList
  := by
  use Segments.joinLed '/' (others.map String.toList)
  have hjoin : Segments.joinLed '/' ((others ++ [last]).map String.toList)
      = '/' :: Segments.join ['/'] ((others ++ [last]).map String.toList) :=
    Segments.joinLed_eq_cons_join (by simp)
  rw [rooted, rootedAs, String.toList_ofList, if_neg Bool.false_ne_true, List.append_nil, ← hjoin]
  simp [Segments.joinLed]

theorem endsInDrive_append {front : List Char} {letter mark : Char} (hne : front ≠ []) :
  Url.endsInDrive (front ++ [letter, mark]) = true
    ↔ letter.isAlpha = true ∧ (mark = ':' ∨ mark = '|')
  := by
  obtain ⟨c, rest, hrest⟩ := List.exists_cons_of_ne_nil (List.reverse_ne_nil_iff.mpr hne)
  have hreverse : (front ++ [letter, mark]).reverse = mark :: letter :: c :: rest := by
    rw [List.reverse_append, hrest]
    rfl
  rw [Url.endsInDrive, hreverse]
  simp

/-- A path ends in the name of a drive exactly if its last name does. -/
theorem endsInDrive_rooted_iff (h : ∀ name ∈ names, IsSegment name.toList) :
  Url.endsInDrive (rooted names).toList = true ↔ EndsInDrive names
  := by
  obtain rfl | ⟨others, last, rfl⟩ := List.eq_nil_or_concat' names
  · simp [EndsInDrive, rooted, rootedAs, Segments.join, Url.endsInDrive]
  · obtain ⟨front, hfront⟩ := exists_rooted_concat others last
    have hsegment := h last (by simp)
    rw [hfront, endsInDrive_concat_iff]
    obtain hnil | ⟨inner, mark, hlast⟩ := List.eq_nil_or_concat' last.toList
    · exact absurd hnil hsegment.1
    obtain rfl | ⟨rest, letter, rfl⟩ := List.eq_nil_or_concat' inner
    · -- In front of a name of one character stands the slash, and not a letter.
      have hshort : ∀ rest letter mark', last.toList ≠ rest ++ [letter, mark'] := by
        intro rest letter mark' heq
        have hlength := congrArg List.length (hlast.symm.trans heq)
        simp at hlength
      have hslash : Url.endsInDrive (front ++ '/' :: last.toList) = false := by
        rw [hlast, List.nil_append, Url.endsInDrive, List.reverse_append]
        cases front.reverse <;> simp
      simp [hslash, hshort]
    · have hwhole : front ++ '/' :: last.toList = (front ++ '/' :: rest) ++ [letter, mark] := by
        simp [hlast]
      rw [hwhole, endsInDrive_append (by simp)]
      constructor
      · intro hdrive
        use rest, letter, mark, by simp [hlast]
      · rintro ⟨rest', letter', mark', hlast', hdrive⟩
        have htwo : rest ++ [letter, mark] = rest' ++ [letter', mark'] := by
          rw [← hlast', hlast, List.append_assoc]
          rfl
        obtain ⟨-, hpair⟩ := List.append_inj' htwo rfl
        obtain ⟨rfl, hmark⟩ := List.cons.inj hpair
        obtain rfl := List.singleton_inj.mp hmark
        apply hdrive

theorem rootedAs_inj {hasSlash hasSlash' : Bool} :
  rootedAs hasSlash names = rootedAs hasSlash' names ↔ hasSlash = hasSlash'
  := by
  cases hasSlash <;> cases hasSlash' <;> simp [rootedAs, ← String.toList_inj]

theorem rootedAs_true (names : List String) :
  rootedAs true names = rooted names ++ "/"
  := by
  rw [← String.toList_inj, String.toList_append, rooted, rootedAs, rootedAs, String.toList_ofList,
    String.toList_ofList, if_pos rfl, if_neg Bool.false_ne_true, List.append_nil]
  rfl

end PathText

namespace Disk

variable {disk : Disk} {path : String} {names : List String} {contents : List UInt8}

theorem exists_place_of_find {node : DiskNode} (h : disk.find path = .ok node) :
  ∃ place, disk.place path = .ok place ∧ disk.node? place = some node
  := by
  rw [find] at h
  cases hplace : disk.place path with
  | error fault =>
      rw [hplace] at h
      cases h
  | ok place =>
      rw [hplace] at h
      simp only [bind, Except.bind] at h
      cases hnode : disk.node? place with
      | none =>
          rw [hnode] at h
          cases h
      | some found =>
          rw [hnode] at h
          obtain rfl := Except.ok.inj h
          use place, rfl

theorem readText_of_file (h : disk.find path = .ok (.file contents)) :
  disk.readText path
    = match Utf8.decode? contents with
      | some text => .ok (String.ofList text)
      | none => .error .invalidData
  := by
  rw [readText, readBytes, h]
  rfl

theorem contains_of_file (h : disk.find path = .ok (.file contents)) :
  disk.contains path = true
  := by
  rw [contains, h]
  rfl

/-- A slash behind the path of a file asks for a directory, and there is none. -/
theorem exists_fault_of_file (hnames : ∀ name ∈ names, IsSegment name.toList)
    (h : disk.find (PathText.rooted names) = .ok (.file contents)) :
  ∃ fault, fault ≠ .notFound ∧ disk.place (PathText.rootedAs true names) = .error fault
  := by
  obtain ⟨place, hplace, hnode⟩ := exists_place_of_find h
  rw [PathText.rooted, place_rootedAs disk false hnames] at hplace
  rw [place_rootedAs disk true hnames]
  simp only [Bool.false_eq_true, if_false, if_true] at hplace ⊢
  split_ifs at hplace with hnul hlong
  rw [if_neg hnul]
  split_ifs with hlong'
  · use .nameTooLong, by simp
  · have hwalk : names.foldlM disk.enter [] = .ok place := by
      rw [← hplace]
      symm
      apply bind_pure
    use .notDirectory, by simp
    rw [hwalk]
    change disk.enter place "." = _
    rw [enter, hnode]

/-- A file is there under its own path, but not under that of a directory. -/
theorem contains_rootedAs_of_file (hasSlash : Bool) (hnames : ∀ name ∈ names, IsSegment name.toList)
    (h : disk.find (PathText.rooted names) = .ok (.file contents)) :
  disk.contains (PathText.rootedAs hasSlash names) = !hasSlash
  := by
  cases hasSlash with
  | false => apply contains_of_file h
  | true =>
      obtain ⟨fault, -, hplace⟩ := exists_fault_of_file hnames h
      rw [contains_of_place hplace]
      rfl

/-- A file can be read under its own path. Under that of a directory it is not missing either. -/
theorem readText_rootedAs_of_file (hasSlash : Bool) (hnames : ∀ name ∈ names, IsSegment name.toList)
    (h : disk.find (PathText.rooted names) = .ok (.file contents)) {found : List Char}
    (hdecode : Utf8.decode? contents = some found) (text : String) :
  (disk.readText (PathText.rootedAs hasSlash names)).mapError (ResourceError.ofAccess text)
    = if hasSlash then .error (.unreadable text) else .ok (String.ofList found)
  := by
  cases hasSlash with
  | false =>
      rw [← PathText.rooted, readText_of_file h, hdecode]
      rfl
  | true =>
      obtain ⟨fault, hfault, hplace⟩ := exists_fault_of_file hnames h
      rw [readText_of_place hplace, if_pos rfl, ← Bundle.ofAccess_of_ne hfault]
      rfl

end Disk

namespace ResourceLocation

open ResourcePath

variable {home path text : String}

/-- A location below a directory has the path of the names of the directory and the segments of
the resource path, with a slash at its end exactly if the last of them ends like the name of a
drive. The disk is asked for that path, and so a file is served exactly if its path does not
end in this way. -/
theorem filePath_resolve [DomainNames] (hhome : PathText.isAbsolute home = true)
    (htext : normalize path = .ok text) :
  let names := PathText.names home ++ parts text
  let bundle := Bundle.mk (.directory home)
  ∃ location file, resolve (.directory home) path = .ok location
    ∧ location.filePath = .ok file
    ∧ (file = PathText.rooted names ↔ ¬ PathText.EndsInDrive names)
    ∧ (file = PathText.rooted names ++ "/" ↔ PathText.EndsInDrive names)
    ∧ ∀ disk : Disk,
      (bundle.list disk path).result
          = ((disk.list file).map (·.getD [])).mapError (ResourceError.ofAccess text)
        ∧ (bundle.probe disk path).result = .ok (disk.contains file)
        ∧ (text ≠ "" → (bundle.readText disk path).result
          = (disk.readText file).mapError (ResourceError.ofAccess text))
        ∧ ∀ contents, disk.find (PathText.rooted names) = .ok (.file contents) →
          ((bundle.probe disk path).result = .ok true ↔ ¬ PathText.EndsInDrive names)
            ∧ ∀ found, text ≠ "" → Utf8.decode? contents = some found →
              (¬ PathText.EndsInDrive names →
                  (bundle.readText disk path).result = .ok (String.ofList found))
                ∧ (PathText.EndsInDrive names →
                  (bundle.readText disk path).result = .error (.unreadable text))
  := by
  intro names bundle
  obtain ⟨place, hread, rfl⟩ := exists_reads_of_normalize htext
  have hplace := hread.isPlace
  obtain ⟨location, hresolve, hpath, hserving, hfile⟩ := Bundle.resolve_directory hread hhome
  have hnames : names = PathText.names home ++ place := by
    simp only [names, parts_textOf hplace]
  have hsegment : ∀ name ∈ names, IsSegment name.toList := by
    rw [hnames]
    apply ResourceTree.isSegment_of_mem_append hplace
  rw [← hnames] at hfile
  have hdrive := PathText.endsInDrive_rooted_iff hsegment
  generalize Url.endsInDrive (PathText.rooted names).toList = hasSlash at hfile hdrive
  use location, PathText.rootedAs hasSlash names, hresolve, hfile
  refine ⟨?_, ?_, ?_⟩
  · rw [PathText.rooted, PathText.rootedAs_inj, ← hdrive, Bool.not_eq_true]
  · rw [← PathText.rootedAs_true, ← hdrive, PathText.rootedAs_inj]
  · intro disk
    have hlist := Bundle.result_list_plain disk hresolve hserving hfile
    have hprobe := Bundle.result_probe_plain disk hresolve hserving hfile
    have hreadText := Bundle.result_readText_plain disk hresolve hserving hfile
    rw [hpath] at hlist hreadText
    refine ⟨hlist, hprobe, ?_, ?_⟩
    · intro hne
      rw [hreadText, if_neg (by simpa using hne)]
    · intro contents hfound
      rw [hprobe, Disk.contains_rootedAs_of_file hasSlash hsegment hfound, ← hdrive]
      constructor
      · cases hasSlash <;> simp
      · intro found hne hdecode
        rw [hreadText, if_neg (by simpa using hne),
          Disk.readText_rootedAs_of_file hasSlash hsegment hfound hdecode]
        cases hasSlash <;> simp

attribute [local instance] DomainNames.asciiOnly in
/-- A file whose name has a sign of a query, a colon and a bar is read, but not one whose name
ends in a letter and a colon. -/
theorem filePath_resolve_small :
  let disk : Disk :=
    { nodes := [(["r"], .directory), (["r", "x?:|"], .file [0x78]), (["r", "a:"], .file [0x78])]
      current := [] }
  let bundle := Bundle.mk (.directory "/r")
  (bundle.readText disk "./x?:|").result = .ok "x"
    ∧ (bundle.readText disk "a:").result = .error (.unreadable "a:")
  := by
  intro disk bundle
  have hhome : PathText.isAbsolute "/r" = true := by decide +kernel
  constructor
  · have htext : normalize "./x?:|" = .ok "x?:|" := by decide +kernel
    obtain ⟨location, file, -, -, -, -, hdisk⟩ := filePath_resolve hhome htext
    obtain ⟨-, -, -, hfile⟩ := hdisk disk
    obtain ⟨-, hread⟩ := hfile [0x78] (by decide +kernel)
    apply (hread ['x'] (by decide) (by decide +kernel)).1
    have hnames : PathText.names "/r" ++ parts "x?:|" = ["r"] ++ ["x?:|"] := by decide +kernel
    rw [hnames, PathText.endsInDrive_concat_iff]
    rintro ⟨front, letter, mark, hlast, hletter, -⟩
    obtain ⟨-, hpair⟩ := List.append_inj' (show ['x', '?'] ++ [':', '|'] = _ from hlast) rfl
    obtain ⟨rfl, -⟩ := List.cons.inj hpair
    cases hletter
  · have htext : normalize "a:" = .ok "a:" := by decide +kernel
    obtain ⟨location, file, -, -, -, -, hdisk⟩ := filePath_resolve hhome htext
    obtain ⟨-, -, -, hfile⟩ := hdisk disk
    obtain ⟨-, hread⟩ := hfile [0x78] (by decide +kernel)
    apply (hread ['x'] (by decide) (by decide +kernel)).2
    use ["r"], "a:", [], 'a', ':'
    decide +kernel

end ResourceLocation
end Provision
