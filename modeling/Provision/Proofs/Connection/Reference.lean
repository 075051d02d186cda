import Mathlib
import Provision.Connection.Reference
import Provision.Proofs.Text.Segments

/-!
# The grammar of references

A text with references to variables is a list of tokens, one after the other, in which a name
without braces and a dollar sign by itself end where the next token begins. Each token has a
meaning by itself, and what a text is resolved to is what its tokens mean, in their order. So
nothing that comes from a variable or a default is read again.
-/

namespace Provision.Reference

/-! ### Tokens -/

/-- A part of a text with references. -/
inductive Token where
  /-- Text without a dollar sign. -/
  | literal (run : List Char)
  /-- Two dollar signs, which stand for one. -/
  | doubled
  /-- A name in braces, with a colon after it or without. -/
  | plain (name : List Char) (hasColon : Bool)
  /-- A name in braces, and a text to take if the variable is not set or empty. -/
  | default (name text : List Char)
  /-- A name in braces, and a message for a variable that is not set or empty. -/
  | required (name message : List Char)
  /-- A name right after a dollar sign. -/
  | simple (name : List Char)
  /-- A dollar sign that begins nothing. -/
  | dollar
deriving DecidableEq, Repr

namespace Token

/-- A name with a modifier after it in braces. -/
def inBraces (name modifier : List Char) : List Char :=
  '$' :: '\x7b' :: (name ++ modifier ++ ['\x7d'])

/-- The token as it is written. -/
def text : Token → List Char
  | literal run => run
  | doubled => ['$', '$']
  | plain name hasColon => inBraces name (if hasColon then [':'] else [])
  | default name text => inBraces name (':' :: '-' :: text)
  | required name message => inBraces name (':' :: '?' :: message)
  | simple name => '$' :: name
  | dollar => ['$']

/-- A name that can stand in braces. -/
def IsBraced (name : List Char) : Prop :=
  name ≠ [] ∧ ':' ∉ name ∧ '\x7d' ∉ name

/-- The token is well formed and ends where the given text begins. -/
def EndsAt (rest : List Char) : Token → Prop
  | literal run => '$' ∉ run
  | doubled => True
  | plain name _ => IsBraced name
  | default name text => IsBraced name ∧ '\x7d' ∉ text
  | required name message => IsBraced name ∧ '\x7d' ∉ message
  | simple name =>
    name.head?.any startsName = true ∧ name.tail.all continuesName = true
      ∧ rest.head?.any continuesName = false
  | dollar =>
    rest.head? ≠ some '$' ∧ rest.head? ≠ some '\x7b' ∧ rest.head?.any startsName = false

instance (rest : List Char) : (token : Token) → Decidable (token.EndsAt rest)
  | literal run => inferInstanceAs (Decidable ('$' ∉ run))
  | doubled => inferInstanceAs (Decidable True)
  | plain name _ => inferInstanceAs (Decidable (name ≠ [] ∧ ':' ∉ name ∧ '\x7d' ∉ name))
  | default name text | required name text =>
    inferInstanceAs (Decidable ((name ≠ [] ∧ ':' ∉ name ∧ '\x7d' ∉ name) ∧ '\x7d' ∉ text))
  | simple name =>
    inferInstanceAs (Decidable (name.head?.any startsName = true
      ∧ name.tail.all continuesName = true ∧ rest.head?.any continuesName = false))
  | dollar =>
    inferInstanceAs (Decidable (rest.head? ≠ some '$' ∧ rest.head? ≠ some '\x7b'
      ∧ rest.head?.any startsName = false))

/-- What is wrong if a required variable is not set or empty. -/
def fault (message : List Char) : ReferenceFault :=
  if message = [] then .required else .described (String.ofList message)

/-- The value of a variable that is set and not empty. -/
def value? (environment : Environment) (name : List Char) : Option String :=
  (environment.lookup (String.ofList name)).filter (· ≠ "")

/-- What the token means in an environment. -/
def meaning (environment : Environment) : Token → Except ConfigError (List Char)
  | literal run => .ok run
  | doubled | dollar => .ok ['$']
  | plain name _ | simple name =>
    match environment.lookup (String.ofList name) with
    | some value => .ok value.toList
    | none => .error (.variableNotFound (String.ofList name))
  | default name text =>
    match value? environment name with
    | some value => .ok value.toList
    | none => .ok text
  | required name message =>
    match value? environment name with
    | some value => .ok value.toList
    | none => .error (.invalidReference (String.ofList name) (fault message))

/-- The pieces that the token is cut into. -/
def pieces : Token → List Piece
  | literal run => run.map .char
  | doubled | dollar => [.char '$']
  | plain name _ | simple name => [.reference name .plain]
  | default name text => [.reference name (.default text)]
  | required name message => [.reference name (.required message)]

end Token

/-- The text of tokens, one after the other. -/
def textOf (tokens : List Token) : List Char :=
  tokens.flatMap Token.text

/-- Each of the tokens ends where the text of the others begins. -/
def AreSeparated : List Token → Prop
  | [] => True
  | token :: rest => token.EndsAt (textOf rest) ∧ AreSeparated rest

instance decidableAreSeparated : (tokens : List Token) → Decidable (AreSeparated tokens)
  | [] => inferInstanceAs (Decidable True)
  | token :: rest =>
    let _ : Decidable (AreSeparated rest) := decidableAreSeparated rest
    inferInstanceAs (Decidable (token.EndsAt (textOf rest) ∧ AreSeparated rest))

/-! ### Cutting a text into pieces -/

variable {name body rest : List Char}

theorem startsName_dollar :
  startsName '$' = false
  := by decide +kernel

theorem startsName_brace :
  startsName '\x7b' = false
  := by decide +kernel

theorem continuesName_of_startsName {c : Char} (h : startsName c = true) :
  continuesName c = true
  := by
  rw [startsName, Bool.or_eq_true] at h
  rw [continuesName]
  obtain h | h := h
  · rw [h, Bool.true_or, Bool.true_or]
  · rw [h, Bool.or_true]

/-- Text up to the closing brace is a piece by itself. -/
theorem pieces_braced (h : '\x7d' ∉ body) :
  pieces ('$' :: '\x7b' :: (body ++ '\x7d' :: rest)) = braced body true :: pieces rest
  := by
  have hbody : ∀ c ∈ body, (c != '\x7d') = true := by
    intro c hc
    rw [bne_iff_ne]
    rintro rfl
    apply h hc
  have hbrace : ∀ c, ('\x7d' :: rest).head? = some c → (c != '\x7d') = false := by
    intro c hc
    obtain rfl := Option.some.inj hc
    rfl
  rw [pieces, Segments.takeWhile_append_of_head? hbody hbrace]
  split
  · rename_i hnil
    rw [Segments.dropWhile_append_of_head? hbody hbrace] at hnil
    cases hnil
  · rename_i c after hafter
    rw [Segments.dropWhile_append_of_head? hbody hbrace] at hafter
    obtain rfl := (List.cons.inj hafter).2
    rfl

theorem pieces_char {c : Char} (h : c ≠ '$') :
  pieces (c :: rest) = .char c :: pieces rest
  := by
  rw [pieces]
  · simp [h]
  · rintro s rfl
    exact absurd rfl h
  · rintro s rfl
    exact absurd rfl h

/-- After a dollar sign that is not doubled and opens no brace, a name is looked for. -/
theorem pieces_dollar_cons (hdollar : rest.head? ≠ some '$') (hbrace : rest.head? ≠ some '\x7b') :
  pieces ('$' :: rest)
    = if rest.head?.any startsName then
        .reference (rest.takeWhile continuesName) .plain :: pieces (rest.dropWhile continuesName)
      else .char '$' :: pieces rest
  := by
  rw [pieces]
  · rfl
  · rintro s - rfl
    apply hdollar rfl
  · rintro s - rfl
    apply hbrace rfl

/-- A dollar sign before a character that begins nothing is a piece by itself. -/
theorem pieces_dollar (h : Token.dollar.EndsAt rest) :
  pieces ('$' :: rest) = .char '$' :: pieces rest
  := by
  obtain ⟨hdollar, hbrace, hstart⟩ := h
  rw [pieces_dollar_cons hdollar hbrace, hstart]
  rfl

/-- A name without braces is a piece up to the first character that does not continue it. -/
theorem pieces_simple (h : (Token.simple name).EndsAt rest) :
  pieces ('$' :: (name ++ rest)) = .reference name .plain :: pieces rest
  := by
  obtain ⟨hstart, hcontinue, hrest⟩ := h
  cases name with
  | nil => cases hstart
  | cons first others =>
      have hfirst : startsName first = true := hstart
      have hname : ∀ c ∈ first :: others, continuesName c = true := by
        intro c hc
        obtain rfl | hc := List.mem_cons.mp hc
        · apply continuesName_of_startsName hfirst
        · apply List.all_eq_true.mp hcontinue c hc
      have hend : ∀ c, rest.head? = some c → continuesName c = false := by
        intro c hc
        rw [hc] at hrest
        apply hrest
      have hne : ∀ c, startsName c = false → (first :: others ++ rest).head? ≠ some c := by
        rintro c hc hhead
        obtain rfl : first = c := Option.some.inj hhead
        rw [hfirst] at hc
        cases hc
      rw [pieces_dollar_cons (hne '$' startsName_dollar) (hne '\x7b' startsName_brace),
        Segments.takeWhile_append_of_head? hname hend,
        Segments.dropWhile_append_of_head? hname hend]
      apply if_pos hfirst

/-- Of a text in braces the name ends at the first colon. -/
theorem braced_append (hname : Token.IsBraced name) {modifier : List Char}
    (hmodifier : ∀ c, modifier.head? = some c → c = ':') :
  braced (name ++ modifier) true = .reference name (demand modifier)
  := by
  obtain ⟨hne, hcolon, -⟩ := hname
  have hall : ∀ c ∈ name, (c != ':') = true := by
    intro c hc
    rw [bne_iff_ne]
    rintro rfl
    apply hcolon hc
  have hhead : ∀ c, modifier.head? = some c → (c != ':') = false := by
    intro c hc
    rw [hmodifier c hc]
    rfl
  have hempty : name.isEmpty = false := by simpa using hne
  rw [braced, Segments.takeWhile_append_of_head? hall hhead,
    Segments.dropWhile_append_of_head? hall hhead, hempty]
  rfl

/-- A name with a modifier in braces is a reference that demands what the modifier says. -/
theorem pieces_inBraces (hname : Token.IsBraced name) {modifier : List Char}
    (hmodifier : ∀ c, modifier.head? = some c → c = ':') (hbrace : '\x7d' ∉ modifier) :
  pieces (Token.inBraces name modifier ++ rest) = .reference name (demand modifier) :: pieces rest
  := by
  have hbody : '\x7d' ∉ name ++ modifier := by
    rw [List.mem_append, not_or]
    use hname.2.2
  have htext : Token.inBraces name modifier ++ rest
      = '$' :: '\x7b' :: (name ++ modifier ++ '\x7d' :: rest) := by
    simp [Token.inBraces]
  rw [htext, pieces_braced hbody, braced_append hname hmodifier]

/-- A token is cut into its own pieces, whatever follows it. -/
theorem pieces_text_append {token : Token} (h : token.EndsAt rest) :
  pieces (token.text ++ rest) = token.pieces ++ pieces rest
  := by
  cases token with
  | literal run =>
      induction run with
      | nil => rfl
      | cons c run ih =>
          obtain ⟨hc, hrun⟩ : c ≠ '$' ∧ '$' ∉ run := by
            constructor
            · rintro rfl
              apply h List.mem_cons_self
            · intro hmem
              apply h (List.mem_cons_of_mem c hmem)
          change pieces (c :: (run ++ rest)) = .char c :: (run.map .char ++ pieces rest)
          rw [pieces_char hc]
          congr 1
          apply ih hrun
  | doubled =>
      change pieces ('$' :: '$' :: rest) = _
      rw [pieces]
      rfl
  | plain name hasColon =>
      cases hasColon with
      | false => apply pieces_inBraces h <;> simp
      | true => apply pieces_inBraces h <;> simp
  | default name text =>
      apply pieces_inBraces h.1
      · simp
      · simpa using h.2
  | required name message =>
      apply pieces_inBraces h.1
      · simp
      · simpa using h.2
  | simple name => apply pieces_simple h
  | dollar => apply pieces_dollar h

/-- A text of tokens is cut into the pieces of its tokens. -/
theorem pieces_textOf {tokens : List Token} (h : AreSeparated tokens) :
  pieces (textOf tokens) = tokens.flatMap Token.pieces
  := by
  induction tokens with
  | nil => 
      rw [textOf, List.flatMap_nil, pieces]
      rfl
  | cons token rest ih =>
      obtain ⟨htoken, hrest⟩ := h
      rw [textOf, List.flatMap_cons, ← textOf, pieces_text_append htoken, ih hrest,
        List.flatMap_cons]

/-! ### Meanings -/

variable (environment : Environment)

/-- What pieces mean one after the other. -/
def meaningOf (pieces : List Piece) : Except ConfigError (List Char) :=
  (pieces.mapM (Reference.meaning environment)).map List.flatten

theorem meaningOf_append (front back : List Piece) :
  meaningOf environment (front ++ back)
    = (meaningOf environment front).bind fun s => (meaningOf environment back).map (s ++ ·)
  := by
  rw [meaningOf, List.mapM_append, meaningOf, meaningOf]
  cases front.mapM (meaning environment) with
  | error e => rfl
  | ok found =>
      cases back.mapM (meaning environment) with
      | error e => rfl
      | ok others => simp [Except.map, Except.bind, bind, pure, Except.pure]

theorem meaningOf_singleton (piece : Piece) :
  meaningOf environment [piece] = Reference.meaning environment piece
  := by
  rw [meaningOf, List.mapM_cons]
  cases Reference.meaning environment piece with
  | error e => rfl
  | ok s => simp [Except.map, bind, Except.bind, pure, Except.pure]

theorem resolve_plain (name : List Char) :
  resolve environment name .plain = (Token.simple name).meaning environment
  := by
  rw [resolve, Token.meaning]
  cases environment.lookup (String.ofList name) <;> rfl

theorem filter_isEmpty_eq (name : List Char) :
  (environment.lookup (String.ofList name)).filter (!·.isEmpty) = Token.value? environment name
  := by
  rw [Token.value?]
  congr 1
  funext value
  rw [Bool.eq_iff_iff]
  simp

theorem resolve_default (name text : List Char) :
  resolve environment name (.default text) = (Token.default name text).meaning environment
  := by
  unfold resolve
  simp only [filter_isEmpty_eq, Token.meaning]
  cases Token.value? environment name <;> rfl

theorem resolve_required (name message : List Char) :
  resolve environment name (.required message) = (Token.required name message).meaning environment
  := by
  unfold resolve
  simp only [filter_isEmpty_eq, Token.meaning]
  cases Token.value? environment name with
  | some value => rfl
  | none => cases message <;> rfl

/-- A token means what its pieces mean. -/
theorem meaningOf_pieces (token : Token) :
  meaningOf environment token.pieces = token.meaning environment
  := by
  cases token with
  | literal run =>
      induction run with
      | nil => rfl
      | cons c run ih =>
          change meaningOf environment ([.char c] ++ run.map .char) = .ok (c :: run)
          change meaningOf environment (run.map .char) = .ok run at ih
          rw [meaningOf_append, meaningOf_singleton, ih]
          rfl
  | doubled => rfl
  | dollar => rfl
  | plain name _ | simple name =>
      apply (meaningOf_singleton environment _).trans
      apply resolve_plain
  | default name text =>
      apply (meaningOf_singleton environment _).trans
      apply resolve_default
  | required name message =>
      apply (meaningOf_singleton environment _).trans
      apply resolve_required

/-- What the pieces of tokens mean is what the tokens mean. -/
theorem meaningOf_flatMap (tokens : List Token) :
  meaningOf environment (tokens.flatMap Token.pieces)
    = (tokens.mapM (Token.meaning environment)).map List.flatten
  := by
  induction tokens with
  | nil => rfl
  | cons token rest ih =>
      rw [List.flatMap_cons, meaningOf_append, meaningOf_pieces, ih, List.mapM_cons]
      cases token.meaning environment with
      | error e => rfl
      | ok s =>
          cases rest.mapM (Token.meaning environment) <;> rfl

theorem expand_eq (text : String) :
  expand environment text = (meaningOf environment (pieces text.toList)).map String.ofList
  := by
  rw [expand, meaningOf]
  cases (pieces text.toList).mapM (Reference.meaning environment) <;> rfl

/-- A text of tokens is resolved to what its tokens mean. -/
theorem expand_textOf {tokens : List Token} (h : AreSeparated tokens) :
  expand environment (String.ofList (textOf tokens))
    = (tokens.mapM (Token.meaning environment)).map (String.ofList ·.flatten)
  := by
  rw [expand_eq, String.toList_ofList, pieces_textOf h, meaningOf_flatMap]
  cases tokens.mapM (Token.meaning environment) <;> rfl

/-! ### The first failure -/

section

variable {α β ε : Type} {f : α → Except ε β} {a : α} {l : List α}

theorem mapM_cons_of_ok {b : β} (h : f a = .ok b) :
  (a :: l).mapM f = (l.mapM f).map (b :: ·)
  := by
  rw [List.mapM_cons, h]
  cases l.mapM f <;> rfl

theorem mapM_cons_of_error {e : ε} (h : f a = .error e) :
  (a :: l).mapM f = .error e
  := by
  rw [List.mapM_cons, h]
  rfl

/-- A list is mapped if each of its elements is. -/
theorem mapM_eq_ok_iff {r : List β} :
  l.mapM f = .ok r ↔ l.map f = r.map .ok
  := by
  induction l generalizing r with
  | nil => cases r <;> simp [pure, Except.pure]
  | cons a l ih =>
      cases ha : f a with
      | error e =>
          rw [mapM_cons_of_error ha, List.map_cons, ha]
          cases r <;> simp
      | ok b =>
          rw [mapM_cons_of_ok ha, List.map_cons, ha]
          cases r with
          | nil => cases l.mapM f <;> simp [Except.map]
          | cons c r =>
              rw [List.map_cons, List.cons.injEq, ← ih]
              cases l.mapM f <;> simp [Except.map]

/-- A list fails to be mapped with the error of the first element that fails. -/
theorem mapM_eq_error_iff {e : ε} :
  l.mapM f = .error e
    ↔ ∃ front a back, l = front ++ a :: back ∧ (∀ b ∈ front, ∃ c, f b = .ok c) ∧ f a = .error e
  := by
  constructor
  · intro h
    induction l with
    | nil => cases h
    | cons a l ih =>
        cases ha : f a with
        | error e' =>
            rw [mapM_cons_of_error ha] at h
            obtain rfl := Except.error.inj h
            use [], a, l, rfl, by simp, ha
        | ok b =>
            rw [mapM_cons_of_ok ha] at h
            have hl : l.mapM f = .error e := by
              cases hmap : l.mapM f with
              | error e' => 
                  rw [hmap] at h
                  apply h
              | ok r =>
                  rw [hmap] at h
                  cases h
            obtain ⟨front, first, back, rfl, hfront, hfirst⟩ := ih hl
            use a :: front, first, back, rfl
            use by simpa using ⟨⟨b, ha⟩, hfront⟩
  · rintro ⟨front, a, back, rfl, hfront, ha⟩
    induction front with
    | nil => apply mapM_cons_of_error ha
    | cons first front ih =>
        obtain ⟨b, hb⟩ := hfront first List.mem_cons_self
        rw [List.cons_append, mapM_cons_of_ok hb,
          ih fun b hb => hfront b (List.mem_cons_of_mem first hb)]
        rfl

end

/-- A text of tokens is resolved to the meanings of its tokens, one after the other, if each of
them has one, and otherwise fails with the error of the first that has none. A required variable
that is missing is reported with the message of its token, or with one that names it. -/
theorem expand_tokens {tokens : List Token} (h : AreSeparated tokens) :
  (∀ s, expand environment (String.ofList (textOf tokens)) = .ok s
      ↔ ∃ values : List (List Char), tokens.map (Token.meaning environment) = values.map .ok
        ∧ s = String.ofList values.flatten)
    ∧ (∀ e, expand environment (String.ofList (textOf tokens)) = .error e
      ↔ ∃ front token back, tokens = front ++ token :: back
        ∧ (∀ t ∈ front, ∃ value, t.meaning environment = .ok value)
        ∧ token.meaning environment = .error e)
    ∧ ∀ name message, (Token.fault message).message name
      = if message = [] then "required variable \x60" ++ name ++ "\x60 is not set"
        else String.ofList message
  := by
  rw [expand_textOf environment h]
  constructor
  · intro s
    simp only [← mapM_eq_ok_iff]
    cases tokens.mapM (Token.meaning environment) with
    | error e => simp [Except.map]
    | ok values => simp [Except.map, eq_comm]
  · constructor
    · intro e
      rw [← mapM_eq_error_iff]
      cases tokens.mapM (Token.meaning environment) <;> simp [Except.map]
    · intro name message
      rw [Token.fault]
      split_ifs <;> rfl

/-- A value and a default are not read again, and of two variables without a value the first one
is reported. -/
theorem expand_tokens_small :
  let environment := Environment.ofPairs [("HOST", "$USER"), ("EMPTY", "")]
  let host := "HOST".toList
  let resolved : List Token :=
    [.literal "pg://".toList, .plain host true, .default "EMPTY".toList ":$\x7b".toList, .doubled,
      .dollar, .literal "5/".toList, .simple host]
  let failing : List Token :=
    [.simple host, .literal "/".toList, .required "EMPTY".toList [], .simple "MISSING".toList]
  AreSeparated resolved
    ∧ expand environment (String.ofList (textOf resolved)) = .ok "pg://$USER:$\x7b$$5/$USER"
    ∧ AreSeparated failing
    ∧ expand environment (String.ofList (textOf failing))
      = .error (.invalidReference "EMPTY" .required)
  := by
  intro environment host resolved failing
  have hresolved : AreSeparated resolved := by decide +kernel
  have hfailing : AreSeparated failing := by decide +kernel
  use hresolved
  constructor
  · apply ((expand_tokens environment hresolved).1 _).mpr
    use ["pg://".toList, "$USER".toList, ":$\x7b".toList, ['$'], ['$'], "5/".toList, "$USER".toList]
    decide +kernel
  · use hfailing
    apply ((expand_tokens environment hfailing).2.1 _).mpr
    use [.simple host, .literal "/".toList], .required "EMPTY".toList [], [.simple "MISSING".toList]
    use rfl
    constructor
    · intro token htoken
      obtain rfl | htoken := List.mem_cons.mp htoken
      · use "$USER".toList
        decide +kernel
      · obtain rfl := List.mem_singleton.mp htoken
        use "/".toList
        rfl
    · decide +kernel

end Provision.Reference
