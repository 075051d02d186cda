import Provision.Url.Address
import Provision.Url.DomainNames
import Provision.Url.Error
import Provision.Url.Percent

/-!
# Hosts

The host of a URL is a name, a version 4 address or a version 6 address in brackets. In a
special scheme a name is a domain name: escapes in it are resolved, it is brought into ASCII,
and a name that ends in a number must be a version 4 address. In any other scheme a name is
kept as it stands, its unprintable bytes escaped.
-/

namespace Provision.Url

/-- The host of a URL. -/
inductive Host where
  | name (text : List Char)
  | v4 (address : Nat)
  | v6 (groups : List Nat)
deriving DecidableEq, Repr

namespace Host

def text : Host → List Char
  | .name text => text
  | .v4 address => Address.writeV4 address
  | .v6 groups => '[' :: (Address.writeV6 groups ++ [']'])

/-- The characters that no plain name has. -/
def isForbidden (c : Char) : Bool :=
  ['\x00', '\t', '\n', '\r'].contains c || reserved.contains c

/-- The version 6 address of a text that begins with a bracket. -/
def bracketed (s : List Char) : Except Fault Host :=
  if s.getLast? = some ']' then
    match Address.v6? (s.drop 1).dropLast with
    | some groups => .ok (.v6 groups)
    | none => .error .invalidIpv6
  else .error .invalidIpv6

/-- The host of a special scheme. -/
def ofDomain [DomainNames] (s : List Char) : Except Fault Host :=
  if s.head? = some '[' then bracketed s
  else
    match DomainNames.toAscii? (Percent.decode Percent.pair? s) with
    | none => .error .invalidInternationalName
    | some ascii =>
      if ascii.isEmpty then .error .emptyHost
      else if Address.endsInNumber ascii then
        match Address.v4? ascii with
        | some address => .ok (.v4 address)
        | none => .error .invalidIpv4
      else .ok (.name ascii)

/-- The host of a scheme that is not special. -/
def ofPlain (s : List Char) : Except Fault Host :=
  if s.head? = some '[' then bracketed s
  else if s.any isForbidden then .error .invalidDomainCharacter
  else .ok (.name (Percent.encode Percent.controls s))

end Host

end Provision.Url
