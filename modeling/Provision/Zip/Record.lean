import Provision.Text.Utf8
import Provision.Zip.Bytes
import Provision.Zip.Checksum
import Provision.Zip.CodePage
import Provision.Zip.Fault

/-!
# Records of the directory of an archive

Each entry of an archive has a record in the directory: the name, how the data is packed,
and where it is. Extra fields may widen the numbers and replace the name and the comment.
-/

namespace Provision.Zip

/-- The record of an entry. -/
structure Record where
  name : List Char
  /-- The bytes of the name in the directory. -/
  rawName : Bytes
  comment : List Char
  isEncrypted : Bool
  method : Nat
  /-- The entry is encrypted in the newer way. -/
  isStronglyEncrypted : Bool
  checksum : UInt32
  packedSize : Nat
  size : Nat
  /-- The place of the header in front of the data. -/
  headerPlace : Nat
deriving DecidableEq, Repr

namespace Record

/-- What an extra field leaves: the record, and the bytes after it unless they have run
out. -/
abbrev Extra := Except Fault (Record × Option Bytes)

/-- A number that does not fit into its field of 32 bits and stands in an extra field. -/
def overflowMark : Nat := 0xFFFFFFFF

/-- The numbers that an extra field may widen, in the order in which they stand there. -/
def wideNumbers : List ((Record → Nat) × (Record → Nat → Record)) :=
  [(size, fun r n => { r with size := n }),
    (packedSize, fun r n => { r with packedSize := n }),
    (headerPlace, fun r n => { r with headerPlace := n })]

/-- The record with its numbers widened, and the bytes after them unless they have run out.
Either all numbers are there or those that do not fit. -/
def widen (all : Bool) : List ((Record → Nat) × (Record → Nat → Record)) → Record → Bytes →
    Record × Option Bytes
  | [], r, bytes => (r, some bytes)
  | (get, set) :: more, r, bytes =>
    if all || get r == overflowMark then
      if bytes.length < 8 then (r, none)
      else widen all more (set r (Bytes.number bytes 0 8)) (bytes.drop 8)
    else widen all more r bytes

/-- The bytes after so many of them, unless they run out. -/
def skip (length : Nat) (bytes : Bytes) : Option Bytes :=
  if bytes.length < length then none else some (bytes.drop length)

def wideExtra (r : Record) (length : Nat) (bytes : Bytes) : Extra :=
  match widen (length ≥ 24) wideNumbers r bytes with
  | (r, none) => .ok (r, none)
  | (r, some rest) =>
    let used := bytes.length - rest.length
    if length < used then .error .invalid else .ok (r, skip (length - used) rest)

/-- Times of one file system. They do not matter, but must have the right form. -/
def ntfsExtra (r : Record) (length : Nat) (bytes : Bytes) : Extra :=
  if length ≠ 32 then .error .unsupported
  else if bytes.length < 6 then .ok (r, none)
  else if Bytes.number bytes 4 2 ≠ 1 then .error .unsupported
  else if bytes.length < 8 then .ok (r, none)
  else if Bytes.number bytes 6 2 ≠ 24 then .error .unsupported
  else .ok (r, skip 32 bytes)

/-- The number of times that follow the flags of a field of times. -/
def timeCount (length flags : Nat) : Nat :=
  if length = 5 then 1 else ([0, 1, 2].filter flags.testBit).length

/-- Times by flags, of which there are three. They do not matter, but must be as many as the
flags say. -/
def timesExtra (r : Record) (length : Nat) : Bytes → Extra
  | [] => .ok (r, none)
  | flags :: rest =>
    let marked := ((List.range 8).filter flags.toNat.testBit).length
    if length ≠ 5 ∧ length ≠ 1 + 4 * marked then .error .unsupported
    else if flags.toNat ≥ 8 then .error .unsupported
    else .ok (r, skip (4 * timeCount length flags.toNat) rest)

/-- The way in which the entry is encrypted and packed. -/
def encryptionExtra (r : Record) (length : Nat) (bytes : Bytes) : Extra :=
  if length ≠ 7 then .error .unsupported
  else if bytes.length < 7 then .ok (r, none)
  else
    let version := Bytes.number bytes 0 2
    let strength := Bytes.number bytes 4 1
    if Bytes.number bytes 2 2 ≠ 0x4541 then .error .invalid
    else if ¬ (1 ≤ version ∧ version ≤ 2) then .error .invalid
    else if ¬ (1 ≤ strength ∧ strength ≤ 3) then .error .invalid
    else
      .ok ({ r with method := Bytes.number bytes 5 2, isStronglyEncrypted := true },
        some (bytes.drop 7))

/-- The bytes that replace a text, if their checksum says that it is this text they
replace, and what follows them. -/
def replacement (replaced : Bytes) (length : Nat) (bytes : Bytes) :
    Except Fault (Option (Bytes × Bytes)) :=
  if bytes.length < 5 then .ok none
  else if length < 5 then .error .invalid
  else if bytes.length < length then .ok none
  else if Bytes.number bytes 1 4 ≠ (Checksum.crc32 replaced).toNat then .error .invalid
  else .ok (some ((bytes.take length).drop 5, bytes.drop length))

def commentExtra (r : Record) (length : Nat) (bytes : Bytes) : Extra := do
  match ← replacement (Utf8.encode r.comment) length bytes with
  | none => return (r, none)
  | some (text, rest) =>
    match Utf8.decode? text with
    | none => throw .invalid
    | some comment => return ({ r with comment }, some rest)

def nameExtra (r : Record) (length : Nat) (bytes : Bytes) : Extra := do
  match ← replacement r.rawName length bytes with
  | none => return (r, none)
  | some (text, rest) =>
    match Utf8.decode? text with
    | none => throw .invalid
    | some name => return ({ r with name, rawName := text }, some rest)

/-- The record after one extra field of a kind. -/
def withExtra (r : Record) (kind length : Nat) (bytes : Bytes) : Extra :=
  match kind with
  | 0x0001 => wideExtra r length bytes
  | 0x000A => ntfsExtra r length bytes
  | 0x9901 => encryptionExtra r length bytes
  | 0x5455 => timesExtra r length bytes
  | 0x6375 => commentExtra r length bytes
  | 0x7075 => nameExtra r length bytes
  | _ => .ok (r, skip length bytes)

/-- The record after its extra fields, up to where they break off. -/
def withExtras (r : Record) (bytes : Bytes) : Except Fault Record :=
  if bytes.length < 4 then .ok r
  else
    match r.withExtra (Bytes.number bytes 0 2) (Bytes.number bytes 2 2) (bytes.drop 4) with
    | .error fault => .error fault
    | .ok (r, none) => .ok r
    | .ok (r, some rest) => if rest.length < bytes.length then r.withExtras rest else .ok r
termination_by bytes.length

/-- The method that stands for encryption and not for a way of packing. -/
def encryptionMethod : Nat := 99

/-- The text of bytes, which is marked as Unicode or not. -/
def decodeText (isUnicode : Bool) (bytes : Bytes) : List Char :=
  if isUnicode then Utf8.decodeLossy bytes else CodePage.decode bytes

/-- The mark in front of a record. -/
def mark : Bytes := [0x50, 0x4B, 0x01, 0x02]

/-- The number of bytes of the fields that all records have. -/
def fixedLength : Nat := 46

/-- The record of its fixed fields, its name and its comment. -/
def ofFields (fields name comment : Bytes) : Record :=
  let flags := Bytes.number fields 8 2
  let isUnicode := flags.testBit 11
  { name := decodeText isUnicode name
    rawName := name
    comment := decodeText isUnicode comment
    isEncrypted := flags.testBit 0
    method := Bytes.number fields 10 2
    isStronglyEncrypted := false
    checksum := UInt32.ofNat (Bytes.number fields 16 4)
    packedSize := Bytes.number fields 20 4
    size := Bytes.number fields 24 4
    headerPlace := Bytes.number fields 42 4 }

/-- The record at a place, and the place after it. All places in it are shifted by the
length of what stands in front of the archive. -/
def read (file : Bytes) (shift place : Nat) : Except Fault (Record × Nat) := do
  let some fields := Bytes.slice? file place fixedLength | throw (.access .unexpectedEnd)
  if fields.take 4 ≠ mark then throw .invalid
  let nameLength := Bytes.number fields 28 2
  let extraLength := Bytes.number fields 30 2
  let commentLength := Bytes.number fields 32 2
  let length := nameLength + extraLength + commentLength
  let some texts := Bytes.slice? file (place + fixedLength) length | throw (.access .unexpectedEnd)
  let name := texts.take nameLength
  let extra := (texts.drop nameLength).take extraLength
  let comment := texts.drop (nameLength + extraLength)
  let r ← (ofFields fields name comment).withExtras extra
  if r.method = encryptionMethod ∧ ¬ r.isStronglyEncrypted then throw .invalid
  if r.headerPlace + shift ≥ 0x10000000000000000 then throw .invalid
  return ({ r with headerPlace := r.headerPlace + shift }, place + fixedLength + length)

end Record

end Provision.Zip
