import Provision.Zip.EndRecord
import Provision.Zip.Record

/-!
# The directory of an archive

An archive is found from its end: a record there says where the directory is and how many
records it has. Other bytes may stand in front of the archive, and then all places are
shifted. A file may hold several marks of an end record; the last one from which a whole
directory can be read counts.
-/

namespace Provision.Zip

/-- Where the records of an archive are. -/
structure Directory where
  shift : Nat
  start : Nat
  count : Nat
deriving DecidableEq, Repr

namespace Directory

/-- The places of a mark between two bounds. -/
def placesBetween (mark file : Bytes) (low high : Nat) : List Nat :=
  (Bytes.places mark file high).filter (low ≤ ·)

/-- The number of bytes in front of an archive. In an archive with entries, the first mark
of a record from the given place of the directory on tells it. -/
def shift? (file : Bytes) (place : Nat) (record : EndRecord) : Option Nat :=
  if record.count = 0 then some (place - record.offset)
  else if place ≤ record.offset then none
  else ((placesBetween Record.mark file record.offset place).head?).map (· - record.offset)

/-- The directory of an end record. -/
def ofEnd? (file : Bytes) (place : Nat) (record : EndRecord) : Option Directory := do
  let shift ← shift? file place record
  if record.disk = record.directoryDisk then
    some { shift, start := record.offset + shift, count := record.countOnDisk }
  else none

/-- A wide end record that fills the bytes up to its locator and leaves room for its
directory in front of it. -/
def fits (locator : Locator) (locatorPlace place : Nat) (record : WideEndRecord) : Bool :=
  WideEndRecord.length ≤ record.size + WideEndRecord.sizeEnd
    && record.size + WideEndRecord.sizeEnd == locatorPlace - place
    && record.directoryDisk == locator.disk
    && record.count * Record.fixedLength + record.offset ≤ place

/-- The wide end record that a locator means and its place: the first one that fits. -/
def wideEnd? (file : Bytes) (locator : Locator) (locatorPlace : Nat) :
    Option (WideEndRecord × Nat) :=
  (placesBetween WideEndRecord.mark file locator.offset locatorPlace).findSome? fun place =>
    ((WideEndRecord.read? file place).filter (fits locator locatorPlace place)).map (·, place)

/-- The directory of a wide end record. -/
def ofWideEnd? (file : Bytes) (locator : Locator) (locatorPlace : Nat) :
    Option Directory := do
  guard (locator.offset < locatorPlace ∧ locator.disks ≤ 1)
  let (record, place) ← wideEnd? file locator locatorPlace
  guard (record.countOnDisk ≤ record.count ∧ record.needed ≤ record.madeBy
    ∧ record.disk = record.directoryDisk)
  let shift := place - locator.offset
  return { shift, start := record.offset + shift, count := record.count }

/-- The locator in front of an end record, if there may be one. -/
def locator? (file : Bytes) (place : Nat) (record : EndRecord) : Option Locator :=
  if record.mayBeWide ∧ Locator.length ≤ place then Locator.read? file (place - Locator.length)
  else none

/-- The directory of the end record at a place. -/
def atEnd? (file : Bytes) (place : Nat) : Option Directory := do
  let record ← EndRecord.read? file place
  match locator? file place record with
  | none => ofEnd? file place record
  | some locator => ofWideEnd? file locator (place - Locator.length)

/-- The record at a place of the directory, and the place after it. The header of an entry
stands in front of the directory. -/
def record (file : Bytes) (directory : Directory) (place : Nat) :
    Except Fault (Record × Nat) := do
  let (record, next) ← Record.read file directory.shift place
  if record.headerPlace ≥ directory.start then throw .invalid
  return (record, next)

/-- So many records of the directory from a place on. -/
def recordsFrom (file : Bytes) (directory : Directory) :
    Nat → Nat → Except Fault (List Record)
  | 0, _ => .ok []
  | count + 1, place => do
    let (record, next) ← directory.record file place
    return record :: (← recordsFrom file directory count next)

/-- The records of the directory. -/
def records (file : Bytes) (directory : Directory) : Except Fault (List Record) :=
  recordsFrom file directory directory.count directory.start

/-- The records of the last directory that can be read. -/
def read (file : Bytes) : Except Fault (List Record) :=
  let readAt := fun place =>
    (atEnd? file place).bind fun directory => (directory.records file).toOption
  match (Bytes.places EndRecord.mark file file.length).reverse.findSome? readAt with
  | some records => .ok records
  | none => .error .invalid

end Directory

end Provision.Zip
