import Provision.Url.Host
import Provision.Url.Path

/-!
# URLs

An absolute URL in its parts, each held in its escaped form, and the text it is written as.
-/

namespace Provision

namespace Url

/-- What stands between the two slashes after the scheme and the path. -/
structure Authority where
  username : List Char
  password : Option (List Char)
  host : Option Host
  port : Option Nat
deriving DecidableEq, Repr

namespace Authority

/-- The credentials in front of the host, with the sign that ends them. -/
def userinfo (a : Authority) : List Char :=
  let password := a.password.elim [] (':' :: ·)
  if a.username.isEmpty && a.password.isNone then [] else a.username ++ password ++ ['@']

def text (a : Authority) : List Char :=
  a.userinfo ++ a.host.elim [] Host.text ++ a.port.elim [] (':' :: Digits.decimal ·)

end Authority

end Url

/-- An absolute URL. -/
structure Url where
  scheme : List Char
  authority : Option Url.Authority
  path : Url.Path
  query : Option (List Char)
  fragment : Option (List Char)
deriving DecidableEq, Repr

namespace Url

/-- A part that is written after a sign if it is there. -/
def optionalPart (sign : Char) : Option (List Char) → List Char
  | none => []
  | some part => sign :: part

/-- The authority after two slashes. Without one, a path that begins with two slashes is
marked by `/.`, so that its first segment does not read as an authority. -/
def authorityText (url : Url) : List Char :=
  match url.authority with
  | some authority => '/' :: '/' :: authority.text
  | none => if ['/', '/'].isPrefixOf url.path.text then ['/', '.'] else []

def text (url : Url) : List Char :=
  url.scheme ++ ':' :: (url.authorityText ++ url.path.text
    ++ optionalPart '?' url.query ++ optionalPart '#' url.fragment)

def host (url : Url) : Option Host :=
  url.authority.bind (·.host)

def port (url : Url) : Option Nat :=
  url.authority.bind (·.port)

end Url

end Provision
