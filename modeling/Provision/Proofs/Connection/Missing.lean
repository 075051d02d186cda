import Mathlib
import Provision.Connection.Document
import Provision.Proofs.Connection.Failure
import Provision.Proofs.Connection.Reference

/-!
# Variables that are not found

A text is cut into pieces from the left, and each piece stands somewhere in the text as it is
written. A variable is reported as not found for the first reference that has no meaning. Then the
variable is not set, or it is set to the empty text and referred to in braces with a colon and
behind it a character that asks for nothing known.
-/

namespace Provision

namespace Reference

variable {s body rest written modifier name : List Char} {demanded : Demand} {piece : Piece}

/-! ### Pieces as they are written -/

/-- The text is cut off as one piece if the given text follows it. -/
inductive IsCut (rest : List Char) : List Char → Piece → Prop where
  | char {c : Char} (h : c ≠ '$') : IsCut rest [c] (.char c)
  | doubled : IsCut rest ['$', '$'] (.char '$')
  | dollar (h : Token.dollar.EndsAt rest) : IsCut rest ['$'] (.char '$')
  | simple {name : List Char} (h : (Token.simple name).EndsAt rest) :
    IsCut rest ('$' :: name) (.reference name .plain)
  | braced {body : List Char} (h : '\x7d' ∉ body) :
    IsCut rest ('$' :: '\x7b' :: (body ++ ['\x7d'])) (braced body true)
  | unterminated {body : List Char} (hrest : rest = []) (h : '\x7d' ∉ body) :
    IsCut rest ('$' :: '\x7b' :: body) (braced body false)

/-- Without a closing brace, all the rest of the text is a piece. -/
theorem pieces_unterminated (h : '\x7d' ∉ body) :
  pieces ('$' :: '\x7b' :: body) = [braced body false]
  := by
  have hbody : ∀ c ∈ body, (c != '\x7d') = true := by
    intro c hc
    rw [bne_iff_ne]
    rintro rfl
    apply h hc
  have htake := List.takeWhile_eq_self_iff.mpr hbody
  have hdrop := List.dropWhile_eq_nil_iff.mpr hbody
  rw [pieces, htake]
  split
  · rfl
  · rename_i c after hafter
    rw [hdrop] at hafter
    cases hafter

/-- What is cut off is the first piece, and the others are those of the text behind it. -/
theorem pieces_of_isCut (h : IsCut rest written piece) :
  pieces (written ++ rest) = piece :: pieces rest
  := by
  cases h with
  | char h => apply pieces_char h
  | doubled =>
      change pieces ('$' :: '$' :: rest) = _
      rw [pieces]
  | dollar h => apply pieces_dollar h
  | simple h => apply pieces_simple h
  | @braced body h =>
      rw [← pieces_braced h]
      simp
  | unterminated hrest h =>
      subst hrest
      rw [List.append_nil, pieces_unterminated h, pieces]

/-- A piece is cut off in the same way if less of the text follows it. -/
theorem IsCut.of_isPrefix {fewer : List Char} (h : IsCut rest written piece)
    (hfewer : fewer <+: rest) :
  IsCut fewer written piece
  := by
  obtain ⟨others, rfl⟩ := hfewer
  cases h with
  | char h => apply IsCut.char h
  | doubled => apply IsCut.doubled
  | dollar h =>
      apply IsCut.dollar
      cases fewer with
      | nil => simp [Token.EndsAt]
      | cons c fewer => apply h
  | simple h =>
      apply IsCut.simple
      cases fewer with
      | nil => exact ⟨h.1, h.2.1, rfl⟩
      | cons c fewer => apply h
  | braced h => apply IsCut.braced h
  | unterminated hrest h => apply IsCut.unterminated (List.append_eq_nil_iff.mp hrest).1 h

/-- A dollar sign begins a name up to the first character that does not continue it. -/
theorem endsAt_takeWhile (h : rest.head?.any startsName = true) :
  (Token.simple (rest.takeWhile continuesName)).EndsAt (rest.dropWhile continuesName)
  := by
  cases rest with
  | nil => cases h
  | cons c rest =>
      have hc : startsName c = true := h
      rw [List.takeWhile_cons_of_pos (continuesName_of_startsName hc)]
      use hc
      constructor
      · rw [List.tail_cons, List.all_eq_true]
        intro d hd
        apply List.mem_takeWhile_imp hd
      · have hnot := List.head?_dropWhile_not continuesName (c :: rest)
        cases hdrop : (List.dropWhile continuesName (c :: rest)).head? with
        | none => rfl
        | some d =>
            rw [hdrop] at hnot
            exact hnot

/-- Of any text that is not empty a piece is cut off. -/
theorem exists_isCut (h : s ≠ []) :
  ∃ piece written rest, s = written ++ rest ∧ IsCut rest written piece
  := by
  obtain ⟨c, s, rfl⟩ := List.exists_cons_of_ne_nil h
  by_cases hc : c = '$'
  · subst hc
    by_cases hdollar : s.head? = some '$'
    · obtain ⟨rest, rfl⟩ := List.head?_eq_some_iff.mp hdollar
      use .char '$', ['$', '$'], rest, rfl, IsCut.doubled
    · by_cases hbrace : s.head? = some '\x7b'
      · obtain ⟨behind, rfl⟩ := List.head?_eq_some_iff.mp hbrace
        by_cases hclosed : '\x7d' ∈ behind
        · obtain ⟨body, rest, rfl, hbody⟩ := List.eq_append_cons_of_mem hclosed
          use braced body true, '$' :: '\x7b' :: (body ++ ['\x7d']), rest, by simp
          apply IsCut.braced hbody
        · use braced behind false, '$' :: '\x7b' :: behind, [], by simp
          apply IsCut.unterminated rfl hclosed
      · cases hstart : s.head?.any startsName with
        | true =>
            use .reference (s.takeWhile continuesName) .plain, '$' :: s.takeWhile continuesName,
              s.dropWhile continuesName, by simp
            apply IsCut.simple (endsAt_takeWhile hstart)
        | false =>
            use .char '$', ['$'], s, rfl
            apply IsCut.dollar ⟨hdollar, hbrace, hstart⟩
  · use .char c, [c], s, rfl, IsCut.char hc

/-- The first piece of a text is cut off, and the others are those of the text behind it. -/
theorem exists_of_pieces_eq_cons {back : List Piece} (h : pieces s = piece :: back) :
  ∃ written rest, s = written ++ rest ∧ IsCut rest written piece ∧ pieces rest = back
  := by
  have hne : s ≠ [] := by
    rintro rfl
    rw [pieces] at h
    cases h
  obtain ⟨first, written, rest, rfl, hcut⟩ := exists_isCut hne
  rw [pieces_of_isCut hcut] at h
  obtain ⟨rfl, hrest⟩ := List.cons.inj h
  use written, rest, rfl, hcut

/-- Each piece of a text is cut off where the text in front of it has been cut into the pieces
before it, and the text behind it is cut into those after it. -/
theorem exists_of_pieces_eq {front back : List Piece}
    (h : pieces s = front ++ piece :: back) :
  ∃ before written after, s = before ++ written ++ after ∧ IsCut after written piece
    ∧ pieces before = front ∧ pieces after = back
  := by
  induction front generalizing s with
  | nil =>
      obtain ⟨written, after, rfl, hcut, hafter⟩ := exists_of_pieces_eq_cons h
      use [], written, after, rfl, hcut
      rw [pieces]
      use rfl
  | cons first front ih =>
      obtain ⟨written, rest, rfl, hcut, hrest⟩ := exists_of_pieces_eq_cons h
      obtain ⟨before, next, after, rfl, hnext, hbefore, hafter⟩ := ih hrest
      use written ++ before, next, after, by simp, hnext
      have hfirst : IsCut before written first := by
        apply hcut.of_isPrefix
        rw [List.append_assoc]
        apply List.prefix_append
      rw [pieces_of_isCut hfirst, hbefore]
      use rfl

/-! ### References as they are written -/

/-- The text is that of a reference to the name, if the given text follows it. -/
inductive IsReference (rest : List Char) : List Char → List Char → Demand → Prop where
  /-- A name right after a dollar sign. -/
  | simple {name : List Char} (h : (Token.simple name).EndsAt rest) :
    IsReference rest ('$' :: name) name .plain
  /-- A name in braces, with a colon after it or without. -/
  | plain {name : List Char} (h : Token.IsBraced name) (hasColon : Bool) :
    IsReference rest (Token.inBraces name (if hasColon then [':'] else [])) name .plain
  /-- A name in braces and a text to take instead. -/
  | default {name text : List Char} (h : Token.IsBraced name) (htext : '\x7d' ∉ text) :
    IsReference rest (Token.inBraces name (':' :: '-' :: text)) name (.default text)
  /-- A name in braces and a message. -/
  | required {name message : List Char} (h : Token.IsBraced name) (htext : '\x7d' ∉ message) :
    IsReference rest (Token.inBraces name (':' :: '?' :: message)) name (.required message)
  /-- A name in braces, and behind the colon a character that asks for neither. -/
  | unknown {name text : List Char} {c : Char} (h : Token.IsBraced name) (hdash : c ≠ '-')
      (hmark : c ≠ '?') (htext : '\x7d' ∉ c :: text) :
    IsReference rest (Token.inBraces name (':' :: c :: text)) name .unknown

/-- A name with a modifier in braces is a reference that demands what the modifier says. -/
theorem isReference_inBraces (hname : Token.IsBraced name)
    (hmodifier : ∀ c, modifier.head? = some c → c = ':') (hbrace : '\x7d' ∉ modifier)
    (rest : List Char) :
  IsReference rest (Token.inBraces name modifier) name (demand modifier)
  := by
  cases modifier with
  | nil => apply IsReference.plain hname false
  | cons colon text =>
      obtain rfl := hmodifier colon rfl
      have htext : '\x7d' ∉ text := fun hmem => hbrace (List.mem_cons_of_mem _ hmem)
      cases text with
      | nil => apply IsReference.plain hname true
      | cons c text =>
          by_cases hdash : c = '-'
          · subst hdash
            apply IsReference.default hname
            intro hmem
            apply htext (List.mem_cons_of_mem _ hmem)
          · by_cases hmark : c = '?'
            · subst hmark
              apply IsReference.required hname
              intro hmem
              apply htext (List.mem_cons_of_mem _ hmem)
            · have hdemand : demand (':' :: c :: text) = .unknown := by
                rw [demand] <;> grind
              rw [hdemand]
              apply IsReference.unknown hname hdash hmark htext

/-- What stands in braces is the text of a reference if it is read as one. -/
theorem isReference_of_braced (hbody : '\x7d' ∉ body)
    (h : braced body true = .reference name demanded) (rest : List Char) :
  IsReference rest ('$' :: '\x7b' :: (body ++ ['\x7d'])) name demanded
  := by
  have hsplit : body.takeWhile (· != ':') ++ body.dropWhile (· != ':') = body :=
    List.takeWhile_append_dropWhile
  simp only [braced, Bool.not_true, Bool.false_eq_true, if_false] at h
  split_ifs at h with hempty
  obtain ⟨rfl, rfl⟩ := Piece.reference.inj h
  have hname : Token.IsBraced (body.takeWhile (· != ':')) := by
    refine ⟨by simpa using hempty, ?_, ?_⟩
    · intro hmem
      simpa using List.mem_takeWhile_imp hmem
    · intro hmem
      apply hbody ((List.takeWhile_sublist _).mem hmem)
  have hmodifier : ∀ c, (body.dropWhile (· != ':')).head? = some c → c = ':' := by
    intro c hc
    have hnot := List.head?_dropWhile_not (· != ':') body
    rw [hc] at hnot
    simpa using hnot
  have hbrace : '\x7d' ∉ body.dropWhile (· != ':') := by
    intro hmem
    apply hbody ((List.dropWhile_sublist _).mem hmem)
  have htext : '$' :: '\x7b' :: (body ++ ['\x7d'])
      = Token.inBraces (body.takeWhile (· != ':')) (body.dropWhile (· != ':')) := by
    rw [Token.inBraces, hsplit]
  rw [htext]
  apply isReference_inBraces hname hmodifier hbrace

/-- A piece that is a reference is written as one. -/
theorem IsCut.isReference (h : IsCut rest written (.reference name demanded)) :
  IsReference rest written name demanded
  := by
  generalize hpiece : Piece.reference name demanded = piece at h
  cases h with
  | char _ | doubled | dollar _ => cases hpiece
  | simple h =>
      obtain ⟨rfl, rfl⟩ := Piece.reference.inj hpiece
      apply IsReference.simple h
  | braced h => apply isReference_of_braced h hpiece.symm
  | unterminated hrest h => cases hpiece

/-- Behind the given text, where all of that has been read, a text has a reference to the name. -/
def RefersAt (text before name : List Char) (demanded : Demand) : Prop :=
  ∃ written after, text = before ++ written ++ after ∧ IsReference after written name demanded
    ∧ pieces text = pieces before ++ .reference name demanded :: pieces after

/-- Each reference among the pieces of a text stands in the text. -/
theorem exists_refersAt {front back : List Piece}
    (h : pieces s = front ++ .reference name demanded :: back) :
  ∃ before, RefersAt s before name demanded ∧ pieces before = front
  := by
  obtain ⟨before, written, after, rfl, hcut, rfl, rfl⟩ := exists_of_pieces_eq h
  use before
  constructor
  · use written, after, rfl, hcut.isReference
  · rfl

/-! ### Variables without a value -/

variable {environment : Environment} {n : String}

/-- A reference to a variable with the given value cannot do without it: it is not set, or it is
empty and nothing known stands behind the colon. -/
def Lacks (value : Option String) : Demand → Prop
  | .plain => value = none
  | .unknown => value = none ∨ value = some ""
  | .default _ | .required _ => False

theorem resolve_unknown (name : List Char) :
  resolve environment name .unknown
    = match Token.value? environment name with
      | some value => .ok value.toList
      | none => .error (.variableNotFound (String.ofList name))
  := by
  unfold resolve
  simp only [filter_isEmpty_eq]
  cases Token.value? environment name <;> rfl

/-- A reference is to a variable that is not found exactly if it cannot do without a value and
has none. -/
theorem resolve_eq_variableNotFound_iff :
  resolve environment name demanded = .error (.variableNotFound n)
    ↔ String.ofList name = n ∧ Lacks (environment.lookup n) demanded
  := by
  have hown : resolve environment name demanded = .error (.variableNotFound n)
      ↔ String.ofList name = n ∧ Lacks (environment.lookup (String.ofList name)) demanded := by
    cases demanded with
    | plain =>
        rw [resolve]
        cases environment.lookup (String.ofList name) <;> simp [Lacks]
    | default text =>
        rw [resolve_default, Token.meaning]
        cases Token.value? environment name <;> simp [Lacks]
    | required message =>
        rw [resolve_required, Token.meaning]
        cases Token.value? environment name <;> simp [Lacks]
    | unknown =>
        rw [resolve_unknown, Token.value?]
        cases environment.lookup (String.ofList name) with
        | none => simp [Lacks]
        | some value => by_cases hempty : value = "" <;> simp [Lacks, Option.filter, hempty]
  rw [hown]
  apply and_congr_right
  rintro rfl
  rfl

/-- A piece that means that a variable is not found is a reference to it. -/
theorem meaning_eq_variableNotFound_iff :
  meaning environment piece = .error (.variableNotFound n)
    ↔ ∃ demanded, piece = .reference n.toList demanded ∧ Lacks (environment.lookup n) demanded
  := by
  cases piece with
  | char c => simp [meaning]
  | unterminated name => simp [meaning]
  | nameless => simp [meaning]
  | reference name demanded =>
      rw [meaning, resolve_eq_variableNotFound_iff]
      constructor
      · rintro ⟨rfl, h⟩
        use demanded
        simpa using h
      · rintro ⟨other, hpiece, h⟩
        obtain ⟨rfl, rfl⟩ := Piece.reference.inj hpiece
        use String.ofList_toList, h

/-! ### References without a meaning -/

/-- A text cannot be resolved because of its first piece that has no meaning. -/
theorem expand_eq_error_iff {text : String} {e : ConfigError} :
  expand environment text = .error e
    ↔ ∃ front piece back, pieces text.toList = front ++ piece :: back
      ∧ (∀ other ∈ front, ∃ value, meaning environment other = .ok value)
      ∧ meaning environment piece = .error e
  := by
  rw [← mapM_eq_error_iff, expand]
  cases (pieces text.toList).mapM (meaning environment) <;> simp [Except.map]

/-- A list is mapped exactly if each of its elements is. -/
theorem exists_mapM_eq_ok_iff {α β ε : Type} {f : α → Except ε β} {l : List α} :
  (∃ r, l.mapM f = .ok r) ↔ ∀ a ∈ l, ∃ b, f a = .ok b
  := by
  induction l with
  | nil => simp [pure, Except.pure]
  | cons a l ih =>
      rw [List.forall_mem_cons, ← ih]
      cases ha : f a with
      | error e => simp [mapM_cons_of_error ha]
      | ok b =>
          rw [mapM_cons_of_ok ha]
          cases l.mapM f <;> simp [Except.map]

/-- A text can be resolved exactly if each of its pieces has a meaning. -/
theorem exists_expand_eq_ok_iff {text : String} :
  (∃ s, expand environment text = .ok s)
    ↔ ∀ piece ∈ pieces text.toList, ∃ value, meaning environment piece = .ok value
  := by
  rw [← exists_mapM_eq_ok_iff, expand]
  cases (pieces text.toList).mapM (meaning environment) <;> simp [Except.map]

/-- A variable is reported as not found exactly for a reference to it that cannot do without a
value and has none, if the text in front of the reference can be resolved. -/
theorem expand_eq_variableNotFound_iff {text : String} :
  expand environment text = .error (.variableNotFound n)
    ↔ ∃ before demanded, RefersAt text.toList before n.toList demanded
      ∧ (∃ s, expand environment (String.ofList before) = .ok s)
      ∧ Lacks (environment.lookup n) demanded
  := by
  rw [expand_eq_error_iff]
  constructor
  · rintro ⟨front, piece, back, hpieces, hfront, hpiece⟩
    obtain ⟨demanded, rfl, hlacks⟩ := meaning_eq_variableNotFound_iff.mp hpiece
    obtain ⟨before, hrefers, rfl⟩ := exists_refersAt hpieces
    use before, demanded, hrefers
    constructor
    · rw [exists_expand_eq_ok_iff, String.toList_ofList]
      apply hfront
    · apply hlacks
  · rintro ⟨before, demanded, ⟨written, after, -, -, hpieces⟩, hbefore, hlacks⟩
    rw [exists_expand_eq_ok_iff, String.toList_ofList] at hbefore
    use pieces before, .reference n.toList demanded, pieces after, hpieces, hbefore
    apply meaning_eq_variableNotFound_iff.mpr
    use demanded, rfl, hlacks

/-- None of the references of a text that can be resolved lacks a value. -/
theorem not_lacks_of_expand_eq_ok {text s : String} {before : List Char}
    (h : expand environment text = .ok s)
    (hrefers : RefersAt text.toList before n.toList demanded) :
  ¬ Lacks (environment.lookup n) demanded
  := by
  intro hlacks
  obtain ⟨written, after, -, -, hpieces⟩ := hrefers
  obtain ⟨value, hvalue⟩ := exists_expand_eq_ok_iff.mp ⟨s, h⟩ (.reference n.toList demanded)
    (by simp [hpieces])
  rw [meaning_eq_variableNotFound_iff.mpr ⟨demanded, rfl, hlacks⟩] at hvalue
  cases hvalue

end Reference

/-! ### Documents -/

/-- The texts of a document in which references are resolved. -/
def Document.texts (document : Document) : List String :=
  document.url.toList ++ (document.username.toList ++ (document.password.toList
    ++ (document.table.toList ++ document.dataSource.toList)))

variable {environment : Environment} {α β : Type} {texts others : List String}
  {x : Except ConfigError α} {f : α → Except ConfigError β}

/-- What comes about comes about only if all the texts can be resolved, and if a variable is
reported as not found, it is for one of the texts. -/
structure IsOwed (environment : Environment) (texts : List String) (x : Except ConfigError α) :
    Prop where
  ok : ∀ a, x = .ok a → ∀ text ∈ texts, ∃ s, Reference.expand environment text = .ok s
  variableNotFound : ∀ n, x = .error (.variableNotFound n) →
    ∃ text ∈ texts, Reference.expand environment text = .error (.variableNotFound n)

namespace IsOwed

theorem ofOk (a : α) :
  IsOwed environment [] (.ok a)
  := by
  constructor <;> simp

theorem expand (text : String) :
  IsOwed environment [text] (Reference.expand environment text)
  := by
  constructor
  · intro s h
    simp [h]
  · intro n h
    simp [h]

theorem bind (hx : IsOwed environment texts x) (hf : ∀ a, IsOwed environment others (f a)) :
  IsOwed environment (texts ++ others) (x >>= f)
  := by
  cases x with
  | error e =>
      constructor
      · intro b h
        cases h
      · intro n h
        obtain rfl : e = .variableNotFound n := Except.error.inj h
        obtain ⟨text, htext, hexpand⟩ := hx.variableNotFound n rfl
        use text, List.mem_append_left others htext
  | ok a =>
      constructor
      · intro b h text htext
        obtain htext | htext := List.mem_append.mp htext
        · apply hx.ok a rfl text htext
        · apply (hf a).ok b h text htext
      · intro n h
        obtain ⟨text, htext, hexpand⟩ := (hf a).variableNotFound n h
        use text, List.mem_append_right texts htext

theorem map (hx : IsOwed environment texts x) (g : α → β) :
  IsOwed environment texts (x.map g)
  := by
  have hmap : x.map g = x >>= fun a => .ok (g a) := by cases x <;> rfl
  rw [hmap, ← List.append_nil texts]
  apply hx.bind fun a => ofOk (g a)

end IsOwed

namespace Config

theorem isOwed_withText (set : Config → String → Config) (text : Option String) (c : Config) :
  IsOwed environment text.toList (c.withText environment set text)
  := by
  cases text with
  | none => apply IsOwed.ofOk
  | some text => apply (IsOwed.expand text).map

theorem isOwed_withTexts (document : Document) (c : Config) :
  IsOwed environment (document.username.toList ++ (document.password.toList
    ++ (document.table.toList ++ document.dataSource.toList))) (c.withTexts environment document)
  := by
  apply (isOwed_withText _ _ _).bind
  intro c
  apply (isOwed_withText _ _ _).bind
  intro c
  apply (isOwed_withText _ _ _).bind
  intro c
  apply isOwed_withText

theorem parse_ne_variableNotFound (text n : String) :
  Document.parse text ≠ .error (.variableNotFound n)
  := by
  rw [Document.parse]
  split <;> simp

section

variable [DomainNames] {document : Document} {text : String}

theorem isOwed_setUrl (raw : String) (c : Config) :
  IsOwed environment [] (c.setUrl raw).result
  := by
  rw [result_setUrl]
  cases hparse : ConnectionUrl.parse raw with
  | error e =>
      obtain ⟨fault, rfl⟩ := ConnectionUrl.exists_of_parse_eq_error hparse
      constructor <;> simp [Except.map]
  | ok url => apply IsOwed.ofOk

theorem isOwed_ofDocument (document : Document) :
  IsOwed environment document.texts (ofDocument environment document).result
  := by
  rw [ofDocument, Document.texts]
  have hrest (c : Config) :
      IsOwed environment (document.username.toList ++ (document.password.toList
        ++ (document.table.toList ++ document.dataSource.toList)))
        ((c.withTexts environment document).map (·.withNumbers document)) :=
    (isOwed_withTexts document c).map (·.withNumbers document)
  cases document.url with
  | none =>
      simp only [Attempt.result_bind, Attempt.result_pure]
      apply hrest empty
  | some url =>
      simp only [Attempt.result_bind]
      apply (IsOwed.expand url).bind
      intro raw
      apply (isOwed_setUrl raw empty).bind hrest

theorem result_ofToml (environment : Environment) (text : String) :
  (ofToml environment text).result
    = (Document.parse text).bind fun document => (ofDocument environment document).result
  := Attempt.result_bind _ _

/-- From the text of a document a configuration comes about only if all the texts in it can be
resolved, and a variable is reported as not found only for one of the texts in it. -/
theorem ofToml_owed (environment : Environment) (text : String) :
  (∀ c, (ofToml environment text).result = .ok c → ∃ document, Document.parse text = .ok document
      ∧ ∀ written ∈ document.texts, ∃ s, Reference.expand environment written = .ok s)
    ∧ ∀ n, (ofToml environment text).result = .error (.variableNotFound n) →
      ∃ document, Document.parse text = .ok document ∧ ∃ written ∈ document.texts,
        Reference.expand environment written = .error (.variableNotFound n)
  := by
  rw [result_ofToml]
  cases hparse : Document.parse text with
  | error e =>
      constructor
      · intro c h
        cases h
      · intro n h
        obtain rfl : e = .variableNotFound n := Except.error.inj h
        exact absurd hparse (parse_ne_variableNotFound text n)
  | ok document =>
      have howed : IsOwed environment document.texts (ofDocument environment document).result :=
        isOwed_ofDocument document
      constructor
      · intro c h
        use document, rfl
        apply howed.ok c h
      · intro n h
        use document, rfl
        apply howed.variableNotFound n h

/-! ### What is reported -/

/-- A variable is reported as not found exactly for the first reference without a meaning, if that
is to a variable that is not set, or to an empty one in braces with nothing known behind the colon.
If nothing fails, every variable that is referred to plainly is set. The same holds of the texts in
the text of a document. -/
theorem reports_missing_variables (environment : Environment) (text : String) :
  (∀ n, Reference.expand environment text = .error (.variableNotFound n)
      ↔ ∃ before demanded, Reference.RefersAt text.toList before n.toList demanded
        ∧ (∃ s, Reference.expand environment (String.ofList before) = .ok s)
        ∧ Reference.Lacks (environment.lookup n) demanded)
    ∧ (∀ s, Reference.expand environment text = .ok s →
      ∀ before n, Reference.RefersAt text.toList before n.toList .plain →
        ∃ value, environment.lookup n = some value)
    ∧ (∀ n, (ofToml environment text).result = .error (.variableNotFound n) →
      ∃ document, Document.parse text = .ok document ∧ ∃ written ∈ document.texts,
        ∃ before demanded, Reference.RefersAt written.toList before n.toList demanded
          ∧ Reference.Lacks (environment.lookup n) demanded)
    ∧ ∀ c, (ofToml environment text).result = .ok c →
      ∃ document, Document.parse text = .ok document ∧ ∀ written ∈ document.texts,
        ∀ before n, Reference.RefersAt written.toList before n.toList .plain →
          ∃ value, environment.lookup n = some value
  := by
  have hset : ∀ {written s : String} {before : List Char} {n : String},
      Reference.expand environment written = .ok s →
      Reference.RefersAt written.toList before n.toList .plain →
      ∃ value, environment.lookup n = some value := by
    intro written s before n hexpand hrefers
    apply Option.ne_none_iff_exists'.mp
    apply Reference.not_lacks_of_expand_eq_ok hexpand hrefers
  obtain ⟨hok, hmissing⟩ := ofToml_owed environment text
  use fun n => Reference.expand_eq_variableNotFound_iff, fun s hs before n => hset hs
  constructor
  · intro n h
    obtain ⟨document, hparse, written, hwritten, hexpand⟩ := hmissing n h
    use document, hparse, written, hwritten
    obtain ⟨before, demanded, hrefers, -, hlacks⟩ :=
      Reference.expand_eq_variableNotFound_iff.mp hexpand
    use before, demanded
  · intro c h
    obtain ⟨document, hparse, htexts⟩ := hok c h
    use document, hparse
    intro written hwritten before n
    obtain ⟨s, hs⟩ := htexts written hwritten
    apply hset hs

end

attribute [local instance] DomainNames.asciiOnly in
/-- A variable that is set, to the empty text, is reported as not found, by itself and in a
document. With only a colon behind its name it is not. -/
theorem reports_missing_variables_small :
  let environment := Environment.ofPairs [("EMPTY", ""), ("SET", "v")]
  let known := "$\x7bEMPTY:\x7d$SET"
  let unknown := "$SET$\x7bEMPTY:x\x7d"
  let failing := "table = \x22$SET$\x7bEMPTY:x\x7d\x22"
  let loaded := "table = \x22$\x7bEMPTY:\x7d$SET\x22"
  environment.lookup "EMPTY" = some ""
    ∧ Reference.expand environment unknown = .error (.variableNotFound "EMPTY")
    ∧ Reference.expand environment known = .ok "v"
    ∧ (∃ value, environment.lookup "EMPTY" = some value)
    ∧ (ofToml environment failing).result = .error (.variableNotFound "EMPTY")
    ∧ (∃ document, Document.parse failing = .ok document ∧ ∃ written ∈ document.texts,
      ∃ before demanded, Reference.RefersAt written.toList before "EMPTY".toList demanded
        ∧ Reference.Lacks (environment.lookup "EMPTY") demanded)
    ∧ (ofToml environment loaded).result.isOk
    ∧ ∃ document, Document.parse loaded = .ok document ∧ ∀ written ∈ document.texts,
      ∀ before n, Reference.RefersAt written.toList before n.toList .plain →
        ∃ value, environment.lookup n = some value
  := by
  intro environment known unknown failing loaded
  have hlookup : environment.lookup "EMPTY" = some "" := by decide +kernel
  have hname : Reference.Token.IsBraced "EMPTY".toList := by
    simp [Reference.Token.IsBraced]
  have hknown : Reference.expand environment known = .ok "v" := by decide +kernel
  have hfailing : (ofToml environment failing).result = .error (.variableNotFound "EMPTY") := by
    decide +kernel
  have hloaded : (ofToml environment loaded).result.isOk := by decide +kernel
  have hplain : Reference.RefersAt known.toList [] "EMPTY".toList .plain := by
    use "$\x7bEMPTY:\x7d".toList, "$SET".toList, by decide +kernel
    use Reference.IsReference.plain hname true
    decide +kernel
  have hunknown : Reference.RefersAt unknown.toList "$SET".toList "EMPTY".toList .unknown := by
    use "$\x7bEMPTY:x\x7d".toList, [], by decide +kernel
    have hmodifier : '\x7d' ∉ ['x'] := by decide
    use Reference.IsReference.unknown hname (by decide) (by decide) hmodifier
    decide +kernel
  use hlookup
  constructor
  · apply ((reports_missing_variables environment unknown).1 "EMPTY").mpr
    use "$SET".toList, .unknown, hunknown
    use ⟨"v", by decide +kernel⟩
    rw [hlookup]
    right
    rfl
  · use hknown, (reports_missing_variables environment known).2.1 "v" hknown [] "EMPTY" hplain
    use hfailing, (reports_missing_variables environment failing).2.2.1 "EMPTY" hfailing, hloaded
    cases hresult : (ofToml environment loaded).result with
    | error e =>
        rw [hresult] at hloaded
        cases hloaded
    | ok c => apply (reports_missing_variables environment loaded).2.2.2 c hresult

end Config

end Provision
