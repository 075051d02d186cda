/-!
# UTF-8

Bytes are read one at a time by a machine whose state is the sequence begun so far, if
any. `Utf8.scan` gives the characters read and, in place of each longest run of bytes that
begins a sequence and cannot be completed, a fault. `decode?` is strict about faults and
`decodeLossy` writes the replacement character for each.
-/

namespace Provision.Utf8

/-- The UTF-8 encoding of a text. -/
def encode (s : List Char) : List UInt8 :=
  s.flatMap String.utf8EncodeChar

/-- A sequence that has begun: the bits read, the number of bytes still missing after the
next one, and the bounds of the next one. -/
structure Begun where
  bits : Nat
  missing : Nat
  low : UInt8
  high : UInt8
deriving DecidableEq, Repr

/-- What a byte at the start of a sequence is. -/
inductive Lead where
  | whole (c : Char)
  | begins (sequence : Begun)
  | faulty

/-- The reading of a byte at the start of a sequence. The bounds of the second byte leave
out overlong forms, surrogates and numbers that are no code points. -/
def lead (b : UInt8) : Lead :=
  if b < 0x80 then .whole (Char.ofNat b.toNat)
  else if b < 0xC2 then .faulty
  else if b < 0xE0 then .begins ⟨b.toNat % 32, 0, 0x80, 0xBF⟩
  else if b = 0xE0 then .begins ⟨0, 1, 0xA0, 0xBF⟩
  else if b = 0xED then .begins ⟨13, 1, 0x80, 0x9F⟩
  else if b < 0xF0 then .begins ⟨b.toNat % 16, 1, 0x80, 0xBF⟩
  else if b = 0xF0 then .begins ⟨0, 2, 0x90, 0xBF⟩
  else if b < 0xF4 then .begins ⟨b.toNat % 8, 2, 0x80, 0xBF⟩
  else if b = 0xF4 then .begins ⟨4, 2, 0x80, 0x8F⟩
  else .faulty

/-- The output and the next state after a byte at the start of a sequence. -/
def start (b : UInt8) : List (Option Char) × Option Begun :=
  match lead b with
  | .whole c => ([some c], none)
  | .begins sequence => ([], some sequence)
  | .faulty => ([none], none)

/-- The output and the next state after a byte. -/
def step (state : Option Begun) (b : UInt8) : List (Option Char) × Option Begun :=
  match state with
  | none => start b
  | some s =>
    if s.low ≤ b ∧ b ≤ s.high then
      let bits := s.bits * 64 + b.toNat % 64
      match s.missing with
      | 0 => ([some (Char.ofNat bits)], none)
      | missing + 1 => ([], some ⟨bits, missing, 0x80, 0xBF⟩)
    else (none :: (start b).1, (start b).2)

/-- The characters and faults read from a state on. -/
def scanFrom (state : Option Begun) : List UInt8 → List (Option Char)
  | [] => if state.isSome then [none] else []
  | b :: rest => (step state b).1 ++ scanFrom (step state b).2 rest

/-- The characters of the bytes, with `none` for each fault. -/
def scan (bytes : List UInt8) : List (Option Char) :=
  scanFrom none bytes

/-- The text of the bytes, when they have no fault. -/
def decode? (bytes : List UInt8) : Option (List Char) :=
  (scan bytes).mapM id

/-- The text of the bytes, with the replacement character for each fault. -/
def decodeLossy (bytes : List UInt8) : List Char :=
  (scan bytes).map (·.getD '\uFFFD')

end Provision.Utf8
