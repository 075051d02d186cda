/-!
# Bytes of an archive

The fields of a record are numbers, least byte first, at fixed places. A place outside the
file has no record.
-/

namespace Provision.Zip

/-- The contents of a file. -/
abbrev Bytes := List UInt8

namespace Bytes

/-- The number of bytes, least byte first. -/
def toNumber (bytes : Bytes) : Nat :=
  bytes.foldr (fun b n => b.toNat + 256 * n) 0

/-- The number in a field of a record. -/
def number (record : Bytes) (start width : Nat) : Nat :=
  toNumber ((record.drop start).take width)

/-- So many bytes from a place on, if the file has them. -/
def slice? (file : Bytes) (start length : Nat) : Option Bytes :=
  let bytes := (file.drop start).take length
  if bytes.length = length then some bytes else none

/-- The places at which a mark begins, in order. -/
def placesFrom (mark : Bytes) (place : Nat) : Bytes → List Nat
  | [] => []
  | b :: rest =>
    if mark.isPrefixOf (b :: rest) then place :: placesFrom mark (place + 1) rest
    else placesFrom mark (place + 1) rest

/-- The places at which a mark begins and ends before a bound, in order. -/
def places (mark file : Bytes) (bound : Nat) : List Nat :=
  placesFrom mark 0 (file.take bound)

end Bytes

end Provision.Zip
