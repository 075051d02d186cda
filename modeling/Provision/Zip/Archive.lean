import Provision.Zip.Directory
import Provision.Zip.Inflate

/-!
# Archives

An archive is a file with a directory. Names are unique: of several records with one name,
the last one counts, in the position of the first. The contents of an entry are there only
if their checksum is right.
-/

namespace Provision.Zip

/-- An archive that has been opened. -/
structure Archive where
  file : Bytes
  records : List Record
deriving Repr

namespace Archive

/-- The records with one more. -/
def insert (records : List Record) (record : Record) : List Record :=
  if records.any (·.name == record.name) then
    records.map fun old => if old.name == record.name then record else old
  else records ++ [record]

/-- The archive in a file. -/
def read (file : Bytes) : Except Fault Archive :=
  (Directory.read file).map fun records => ⟨file, records.foldl insert []⟩

/-- The names of the entries. -/
def names (archive : Archive) : List String :=
  archive.records.map fun record => String.ofList record.name

/-- The record of a name. -/
def find? (archive : Archive) (name : String) : Option Record :=
  archive.records.find? (·.name == name.toList)

/-- The mark in front of the header of an entry. -/
def headerMark : Bytes := [0x50, 0x4B, 0x03, 0x04]

/-- The packed data of an entry, up to the end of the file at most. -/
def packed (archive : Archive) (record : Record) : Except Fault Bytes :=
  match Bytes.slice? archive.file record.headerPlace 30 with
  | none => .error (.access .unexpectedEnd)
  | some header =>
    if header.take 4 ≠ headerMark then .error .invalid
    else
      let start :=
        record.headerPlace + 30 + Bytes.number header 26 2 + Bytes.number header 28 2
      .ok ((archive.file.drop start).take record.packedSize)

end Archive

/-- The two ways in which the data of an entry can be packed. -/
inductive Method where
  | stored
  | deflated
deriving DecidableEq, Repr

/-- The method of a number. -/
def Method.ofNumber? : Nat → Option Method
  | 0 => some stored
  | 8 => some deflated
  | _ => none

/-- Data unpacked by a method: as it is, or inflated. -/
def Method.unpack (data : Bytes) : Method → Except Fault Bytes
  | stored => .ok data
  | deflated => (Inflate.inflate data).mapError fun _ => .access .invalidData

/-- An entry that has been found and can be read. -/
structure Entry where
  record : Record
  method : Method
  data : Bytes
deriving Repr

namespace Entry

/-- The entry is that of a directory: a slash of either kind ends its name. -/
def isDirectory (entry : Entry) : Bool :=
  entry.record.name.getLast?.any fun c => c == '/' || c == '\\'

/-- The contents of an entry. -/
def contents (entry : Entry) : Except Fault Bytes := do
  let output ← entry.method.unpack entry.data
  if Checksum.crc32 output = entry.record.checksum then return output
  else throw (.access .other)

end Entry

namespace Archive

/-- The entry of a record, with data that are packed by a method which is known and are not
encrypted. -/
def openRecord (archive : Archive) (record : Record) : Except Fault Entry := do
  if record.isEncrypted ∨ record.isStronglyEncrypted then throw .unsupported
  let data ← archive.packed record
  match Method.ofNumber? record.method with
  | some method => return { record, method, data }
  | none => throw .unsupported

/-- The entry of a name. -/
def openEntry (archive : Archive) (name : String) : Except Fault Entry :=
  match archive.find? name with
  | none => .error .noSuchEntry
  | some record => archive.openRecord record

end Archive

end Provision.Zip
