/-!
# The checksum of archives

The cyclic redundancy check of 32 bits, with the polynomial `0xEDB88320`, least bit first.
-/

namespace Provision.Zip.Checksum

/-- One step of the division by the polynomial. -/
def shift (r : UInt32) : UInt32 :=
  if r &&& 1 = 1 then (r >>> 1) ^^^ 0xEDB88320 else r >>> 1

/-- The remainder after a byte. -/
def update (r : UInt32) (b : UInt8) : UInt32 :=
  Nat.repeat shift 8 (r ^^^ b.toUInt32)

/-- The checksum of bytes. -/
def crc32 (bytes : List UInt8) : UInt32 :=
  bytes.foldl update 0xFFFFFFFF ^^^ 0xFFFFFFFF

end Provision.Zip.Checksum
