import Provision.Text.Segments

/-!
# Domain names in ASCII

The host of a special scheme is a domain name, which may have letters of any script. It is brought
into ASCII before it is used: the tables of a version of Unicode say how letters are mapped, and
which names are refused. These tables are not part of a URL. `DomainNames` is a way of bringing
names into ASCII, and `LawfulDomainNames` is what every such way has to obey, whatever its tables
say.
-/

namespace Provision

namespace Url.Host

/-- The characters that end a host or a URL part and so belong to no host. -/
def reserved : List Char :=
  [' ', '#', '/', ':', '<', '>', '?', '@', '[', '\\', ']', '^', '|']

/-- The characters that no domain name has once it has been brought into ASCII: the reserved
ones, all controls, the percent sign and whatever is not ASCII. -/
def isForbiddenInDomain (c : Char) : Bool :=
  c.toNat < 0x20 || 0x7F ≤ c.toNat || c == '%' || reserved.contains c

end Url.Host

open Url.Host (isForbiddenInDomain)

/-- A way of bringing domain names into ASCII. -/
class DomainNames where
  /-- The form in ASCII of a name, unless the name is refused. -/
  toAscii? : List Char → Option (List Char)

namespace DomainNames

/-- The name is in ASCII, and none of its labels stands for one that is not. Such a label begins
with `xn--`. -/
def isPlain (name : List Char) : Bool :=
  let lower := name.map Char.toLower
  lower.all (·.toNat < 0x80)
    && (Segments.split (· == '.') lower).all (!"xn--".toList.isPrefixOf ·)

end DomainNames

open DomainNames (toAscii? isPlain)

/-- What holds whatever the tables say. -/
class LawfulDomainNames [DomainNames] : Prop where
  /-- No table is needed for a plain name: it is brought into lower case. -/
  toAscii?_of_isPlain {name : List Char} : isPlain name = true →
    toAscii? name
      = if (name.map Char.toLower).any isForbiddenInDomain then none
        else some (name.map Char.toLower)
  /-- The form of a name has no character that is forbidden. -/
  isForbiddenInDomain_eq_false {name ascii : List Char} : toAscii? name = some ascii →
    ∀ c ∈ ascii, isForbiddenInDomain c = false
  /-- The form of a name is its own form. -/
  toAscii?_ascii {name ascii : List Char} : toAscii? name = some ascii →
    toAscii? ascii = some ascii
  /-- The sign that ends the credentials is not mapped to anything, so it is refused. -/
  toAscii?_of_mem {name : List Char} : '@' ∈ name → toAscii? name = none

namespace DomainNames

/-- A name that is not plain, and its form in ASCII. -/
structure International where
  name : List Char
  ascii : List Char
  notMem : '@' ∉ name
  allowed : ascii.any isForbiddenInDomain = false
  lower : ascii.map Char.toLower = ascii
  encoded : isPlain ascii = false

/-- The names that are plain or in a table. A name in the table may be given by its form as
well. -/
@[reducible] def ofTable (table : List International) : DomainNames where
  toAscii? name :=
    let lower := name.map Char.toLower
    if isPlain name then if lower.any isForbiddenInDomain then none else some lower
    else if table.any (·.ascii == lower) then some lower
    else (table.find? (·.name == lower)).map (·.ascii)

/-- Plain names only. -/
@[reducible] def asciiOnly : DomainNames :=
  ofTable []

end DomainNames

end Provision
