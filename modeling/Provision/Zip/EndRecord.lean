import Provision.Zip.Bytes

/-!
# End records

The records at the end of an archive, from which its directory is found: an end record, and
for archives too large for its fields a wide end record with a locator that says where it
is.
-/

namespace Provision.Zip

/-- The bytes of a fixed record at a place, if its mark is there. -/
def markedRecord? (mark file : Bytes) (place length : Nat) : Option Bytes :=
  (Bytes.slice? file place length).filter (·.take 4 == mark)

/-- The record at the end of an archive. -/
structure EndRecord where
  disk : Nat
  directoryDisk : Nat
  countOnDisk : Nat
  count : Nat
  /-- The place of the directory, as far as nothing stands in front of the archive. -/
  offset : Nat
  commentLength : Nat
deriving DecidableEq, Repr

namespace EndRecord

def mark : Bytes := [0x50, 0x4B, 0x05, 0x06]

/-- The number of bytes without the comment. -/
def length : Nat := 22

/-- The end record at a place. The file must have room for its comment. -/
def read? (file : Bytes) (place : Nat) : Option EndRecord := do
  let fields ← markedRecord? mark file place length
  let record :=
    { disk := Bytes.number fields 4 2
      directoryDisk := Bytes.number fields 6 2
      countOnDisk := Bytes.number fields 8 2
      count := Bytes.number fields 10 2
      offset := Bytes.number fields 16 4
      commentLength := Bytes.number fields 20 2 : EndRecord }
  if place + length + record.commentLength ≤ file.length then some record else none

/-- A field is as large as it can be, so that the true number may stand elsewhere. -/
def mayBeWide (record : EndRecord) : Bool :=
  record.count == 0xFFFF || record.offset == 0xFFFFFFFF

end EndRecord

/-- The record that locates a wide end record. -/
structure Locator where
  disk : Nat
  /-- The place of the wide end record, as far as nothing stands in front of the archive. -/
  offset : Nat
  disks : Nat
deriving DecidableEq, Repr

namespace Locator

def mark : Bytes := [0x50, 0x4B, 0x06, 0x07]

def length : Nat := 20

/-- The locator at a place. -/
def read? (file : Bytes) (place : Nat) : Option Locator := do
  let fields ← markedRecord? mark file place length
  return { disk := Bytes.number fields 4 4
           offset := Bytes.number fields 8 8
           disks := Bytes.number fields 16 4 }

end Locator

/-- An end record with fields wide enough for any archive. -/
structure WideEndRecord where
  /-- The number of bytes of the record after this field. -/
  size : Nat
  madeBy : Nat
  needed : Nat
  disk : Nat
  directoryDisk : Nat
  countOnDisk : Nat
  count : Nat
  offset : Nat
deriving DecidableEq, Repr

namespace WideEndRecord

def mark : Bytes := [0x50, 0x4B, 0x06, 0x06]

/-- The number of bytes of the fields. -/
def length : Nat := 56

/-- The number of bytes up to the field of the size and with it. -/
def sizeEnd : Nat := 12

/-- The wide end record at a place. -/
def read? (file : Bytes) (place : Nat) : Option WideEndRecord := do
  let fields ← markedRecord? mark file place length
  return { size := Bytes.number fields 4 8
           madeBy := Bytes.number fields 12 2
           needed := Bytes.number fields 14 2
           disk := Bytes.number fields 16 4
           directoryDisk := Bytes.number fields 20 4
           countOnDisk := Bytes.number fields 24 8
           count := Bytes.number fields 32 8
           offset := Bytes.number fields 48 8 }

end WideEndRecord

end Provision.Zip
