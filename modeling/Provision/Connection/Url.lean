import Provision.Connection.Error
import Provision.Url.Parser

/-!
# Connection URLs

A `ConnectionUrl` holds what a database driver needs to know of a URL: a scheme, the
credentials in the clear, a host, a port, the path that names the database and a query.
`ConnectionUrl.parse` reads it from a text with or without the prefix `jdbc:`, and
`ConnectionUrl.text` writes its normal form, which never has credentials.
-/

namespace Provision

/-- The parts of a connection URL. The path and the query are in their escaped form. -/
structure ConnectionUrl where
  scheme : String
  username : Option String
  password : Option String
  host : Option String
  port : Option UInt16
  path : String
  query : Option String
deriving DecidableEq, Repr

namespace ConnectionUrl

variable [DomainNames]

/-- The prefix of a normal form, which an input may lack. -/
def jdbcPrefix : String := "jdbc:"

/-- The names under which drivers register schemes that have another name as well. -/
def schemeAliases : List (String × String) :=
  [("postgres", "postgresql")]

/-- The name of a scheme under which its driver is registered. -/
def driverScheme (scheme : String) : String :=
  ((schemeAliases.find? (·.1 == scheme)).map (·.2)).getD scheme

/-- A part of a URL with its escapes resolved. An escape that cannot be read stays. -/
def decode (part : List Char) : String :=
  String.ofList (Url.Percent.decode Url.Percent.signedPair? part)

/-- The connection URL of a URL that has a path of segments. -/
def ofUrl? (url : Url) : Option ConnectionUrl :=
  match url.path with
  | .plain _ | .rooted [] => none
  | .rooted _ =>
    let username := (url.authority.map (·.username)).getD []
    let password := url.authority.bind (·.password)
    some
      { scheme := driverScheme (String.ofList url.scheme)
        username := if username.isEmpty ∧ password.isNone then none else some (decode username)
        password := password.map decode
        host := url.host.map fun host => String.ofList host.text
        port := url.port.map UInt16.ofNat
        path := String.ofList url.path.text
        query := (url.query.filter (!·.isEmpty)).map String.ofList }

/-- The connection URL written by a text. -/
def parse (input : String) : Except ConfigError ConnectionUrl :=
  let text := (jdbcPrefix.toList.isPrefixOf? input.toList).getD input.toList
  match Url.parse text with
  | .error fault => .error (.invalidUri input (.malformed fault))
  | .ok url =>
    match ofUrl? url with
    | none => .error (.invalidUri input .noDatabasePath)
    | some connection => .ok connection

/-- The name of the database: the path after its slash. -/
def database (url : ConnectionUrl) : String :=
  let path := url.path.toList
  decode ((['/'].isPrefixOf? path).getD path)

/-- The host and the port after two slashes. Without a host, the slashes still stand in
front of a path that begins with two slashes itself. -/
def placeText (url : ConnectionUrl) : String :=
  match url.host with
  | some host =>
    "//" ++ host ++ (url.port.elim "" fun port =>
      ":" ++ String.ofList (Digits.decimal port.toNat))
  | none => if ['/', '/'].isPrefixOf url.path.toList then "//" else ""

/-- The normal form of the URL. -/
def text (url : ConnectionUrl) : String :=
  jdbcPrefix ++ url.scheme ++ ":" ++ url.placeText ++ url.path ++ url.query.elim "" ("?" ++ ·)

end ConnectionUrl

end Provision
