import Mathlib
import Provision.Proofs.Connection.NormalForm
import Provision.Proofs.Url.Escapes

/-!
# Credentials and names in the clear

The user, the password and the database of a URL are what the encoded parts of the URL stand
for, with their escapes resolved. Signs are read as well: a plus sign and a digit behind a
percent sign count as an escape, and are not left as they are. In a part without them, escapes
are percent signs with two hexadecimal digits and nothing else.
-/

namespace Provision

open Url.Percent

namespace ConnectionUrl

/-- The text is what an encoded part stands for: its escapes are resolved, those with a sign
among them. These make a difference, so the text is the one that two digits alone would give
exactly if there are none. Without any escape the part stands for itself. -/
structure IsDecoded (encoded : List Char) (decoded : String) : Prop where
  resolves : ∃ bytes, (∀ other, Resolves IsPairOrSigned (Utf8.encode encoded) other ↔ other = bytes)
    ∧ decoded = String.ofList (Utf8.decodeLossy bytes)
  resolves_digits_iff : (∃ bytes, Resolves IsPair (Utf8.encode encoded) bytes
    ∧ decoded = String.ofList (Utf8.decodeLossy bytes)) ↔ ¬ HasEscape AreSigned encoded
  eq_of_not_hasEscape : ¬ HasEscape AreDigits encoded → ¬ HasEscape AreSigned encoded →
    decoded = String.ofList encoded

theorem isDecoded_decode (part : List Char) :
  IsDecoded part (decode part)
  := by
  constructor
  case resolves =>
    use decodeBytes signedPair? (Utf8.encode part)
    constructor
    · intro other
      apply resolves_iff signedPair?_eq_some_iff
    · rfl
  case resolves_digits_iff =>
    rw [← decode_signedPair?_eq_iff]
    constructor
    · rintro ⟨bytes, hbytes, hdecoded⟩
      rw [resolves_iff pair?_eq_some_iff] at hbytes
      subst hbytes
      apply String.ofList_injective hdecoded
    · intro heq
      use decodeBytes pair? (Utf8.encode part)
      rw [resolves_iff pair?_eq_some_iff, decode, heq]
      constructor <;> rfl
  case eq_of_not_hasEscape =>
    intro hdigits hsigned
    have hself := resolves_self_of_not_hasEscape hdigits hsigned
    rw [resolves_iff signedPair?_eq_some_iff] at hself
    rw [decode, Url.Percent.decode, ← hself, Utf8.decodeLossy_encode]

/-- The path of a connection URL is a slash and the encoded name of the database. -/
theorem exists_database_eq {url : Url} {connection : ConnectionUrl}
    (h : ofUrl? url = some connection) :
  ∃ name, url.path.text = '/' :: name ∧ connection.database = decode name
  := by
  obtain ⟨segments, hpath, hne⟩ := exists_rooted_of_ofUrl? h
  obtain ⟨first, rest, rfl⟩ := List.exists_cons_of_ne_nil hne
  rw [ofUrl?_rooted hpath hne] at h
  obtain rfl := Option.some.inj h
  use Segments.join ['/'] (first :: rest)
  have htext : url.path.text = '/' :: Segments.join ['/'] (first :: rest) := by
    rw [hpath, Url.text_rooted hne]
  use htext
  rw [database, ← hpath, htext, String.toList_ofList]
  rfl

/-- The encoded user of a URL that has a user or a password. -/
def user? (url : Url) : Option (List Char) :=
  url.authority.bind fun authority =>
    if authority.username = [] ∧ authority.password = none then none else some authority.username

theorem isDecoded_username {url : Url} {connection : ConnectionUrl}
    (h : ofUrl? url = some connection) :
  Option.Rel IsDecoded (user? url) connection.username
  := by
  obtain ⟨segments, hrooted, hne⟩ := exists_rooted_of_ofUrl? h
  rw [ofUrl?_rooted hrooted hne] at h
  obtain rfl := Option.some.inj h
  rw [user?]
  cases url.authority with
  | none => apply Option.Rel.none
  | some authority =>
      simp only [Option.bind_some, Option.map_some, Option.getD_some]
      split_ifs
      · apply Option.Rel.none
      · apply Option.Rel.some (isDecoded_decode authority.username)

theorem isDecoded_password {url : Url} {connection : ConnectionUrl}
    (h : ofUrl? url = some connection) :
  Option.Rel IsDecoded (url.authority.bind (·.password)) connection.password
  := by
  obtain ⟨segments, hrooted, hne⟩ := exists_rooted_of_ofUrl? h
  rw [ofUrl?_rooted hrooted hne] at h
  obtain rfl := Option.some.inj h
  cases url.authority.bind (·.password) with
  | none => apply Option.Rel.none
  | some password => apply Option.Rel.some (isDecoded_decode password)

/-- For every part, and so for the user, the password and the database that a connection URL has,
the text in the clear is the one that the encoded part stands for. These are what a configuration
has from the URL; a user and a password that the URL does not have stay as they were. -/
theorem decode_resolves_escapes [DomainNames] (part : List Char) (start : Config) (input : String) :
  IsDecoded part (decode part)
    ∧ ∀ connection, parse input = .ok connection →
      ∃ url c, Url.parse (withoutPrefix input) = .ok url
        ∧ Option.Rel IsDecoded (user? url) connection.username
        ∧ Option.Rel IsDecoded (url.authority.bind (·.password)) connection.password
        ∧ (∃ path, url.path.text = '/' :: path ∧ IsDecoded path connection.database)
        ∧ (start.setUrl input).result = .ok c
        ∧ c.username = connection.username.or start.username
        ∧ c.password = connection.password.getD start.password
        ∧ c.database = some connection.database
  := by
  constructor
  · apply isDecoded_decode
  · intro connection hparse
    obtain ⟨url, hurl, hof⟩ := parse_eq_ok_iff.mp hparse
    obtain ⟨path, hpath, hdatabase⟩ := exists_database_eq hof
    use url, start.withUrl input connection, hurl, isDecoded_username hof, isDecoded_password hof
    refine ⟨⟨path, hpath, ?_⟩, ?_, ?_, rfl, rfl⟩
    · rw [hdatabase]
      apply isDecoded_decode
    · rw [Config.result_setUrl, hparse]
      rfl
    · apply Option.orElse_eq_or

attribute [local instance] DomainNames.asciiOnly in
/-- A user with both kinds of escapes, a password with neither and a database with a percent sign
at its end. -/
theorem decode_resolves_escapes_small :
  let input := "postgres://a%2B%+f:%zz@h/x%"
  let connection : ConnectionUrl :=
    { scheme := "postgresql", username := some "a+\x0f", password := some "%zz",
      host := some "h", port := none, path := "/x%", query := none }
  parse input = .ok connection
    ∧ IsDecoded "a%2B%+f".toList "a+\x0f"
    ∧ (¬ ∃ bytes, Resolves IsPair (Utf8.encode "a%2B%+f".toList) bytes
      ∧ "a+\x0f" = String.ofList (Utf8.decodeLossy bytes))
    ∧ IsDecoded "%zz".toList "%zz"
    ∧ IsDecoded "x%".toList "x%"
  := by
  intro input connection
  let url : Url :=
    { scheme := "postgres".toList
      authority := some
        { username := "a%2B%+f".toList, password := some "%zz".toList,
          host := some (.name "h".toList), port := none }
      path := .rooted ["x%".toList]
      query := none
      fragment := none }
  have hconnection : parse input = .ok connection := by decide +kernel
  have hparse : Url.parse (withoutPrefix input) = .ok url := by decide +kernel
  have huser : user? url = some "a%2B%+f".toList := by decide +kernel
  have hdatabase : connection.database = "x%" := by decide +kernel
  have hpath : url.path.text = '/' :: "x%".toList := by decide +kernel
  have hsigned : HasEscape AreSigned "a%2B%+f".toList := by
    use "a%2B".toList, '+', 'f', [], by decide +kernel, rfl, 15
    decide +kernel
  obtain ⟨url', c, hparse', hname, hpassword, ⟨path, hpath', hdecoded⟩, -⟩ :=
    (decode_resolves_escapes [] Config.empty input).2 connection hconnection
  obtain rfl : url = url' := Except.ok.inj (hparse.symm.trans hparse')
  obtain rfl : "x%".toList = path := (List.cons.inj (hpath.symm.trans hpath')).2
  rw [huser] at hname
  rw [hdatabase] at hdecoded
  obtain hname | - := hname
  obtain hpassword | - := hpassword
  use hconnection, hname
  constructor
  · apply mt hname.resolves_digits_iff.mp
    rw [not_not]
    apply hsigned
  · use hpassword

end ConnectionUrl
end Provision
