/-!
# Inflating

The format of deflated data is a sequence of blocks of bits, each either bytes as they are
or tokens in two prefix codes: a literal byte, a copy of earlier output, or the end of the
block. Inflating gives the output up to the end of the last block, and nothing if the data
ends before or makes no sense.
-/

namespace Provision.Zip.Inflate

/-- Bits in the order in which they are read. -/
abbrev Bits := List Bool

/-- Why data cannot be inflated. -/
inductive Flaw where
  /-- The data ends before the last block does. -/
  | cutShort
  | corrupt
deriving DecidableEq, Repr

/-- The bits of a byte, least one first. -/
def bitsOfByte (b : UInt8) : Bits :=
  (List.range 8).map b.toNat.testBit

def bitsOf (bytes : List UInt8) : Bits :=
  bytes.flatMap bitsOfByte

/-- A number of so many bits, least one first, and the bits after it. -/
def number : Nat → Bits → Except Flaw (Nat × Bits)
  | 0, bits => .ok (0, bits)
  | _ + 1, [] => .error .cutShort
  | width + 1, bit :: bits =>
    match number width bits with
    | .ok (n, rest) => .ok (bit.toNat + 2 * n, rest)
    | .error e => .error e

theorem length_number_le {width n : Nat} {bits rest : Bits}
    (h : number width bits = .ok (n, rest)) :
  rest.length ≤ bits.length
  := by
  induction width generalizing bits n with
  | zero =>
    simp only [number, Except.ok.injEq, Prod.mk.injEq] at h
    simp [h.2]
  | succ width ih =>
    cases bits with
    | nil => simp [number] at h
    | cons bit bits =>
      simp only [number] at h
      split at h
      · next m tail hm =>
        simp only [Except.ok.injEq, Prod.mk.injEq] at h
        obtain ⟨-, rfl⟩ := h
        have := ih hm
        simp only [List.length_cons]
        omega
      · cases h

/-! ### Prefix codes -/

/-- A prefix code: for each length from one on, the symbols whose code has that length, in
the order of their codes. -/
abbrev Code := List (List Nat)

/-- The longest code of a symbol. -/
def maxLength : Nat := 15

/-- The code in which each symbol has the given length, zero for none. -/
def Code.ofLengths (lengths : List Nat) : Code :=
  (List.range maxLength).map fun n =>
    (List.range lengths.length).filter fun symbol => lengths.getD symbol 0 == n + 1

/-- The share of all codes that a code uses, in units of the longest code. -/
def Code.weight (code : Code) : Nat :=
  ((List.range maxLength).map fun n =>
    (code.getD n []).length * Nat.pow 2 (maxLength - 1 - n)).foldl (· + ·) 0

/-- The code uses all codes. -/
def Code.isFull (code : Code) : Bool :=
  code.weight == Nat.pow 2 maxLength

/-- The code of the lengths, if it uses all codes. -/
def Code.full? (lengths : List Nat) : Option Code :=
  some (Code.ofLengths lengths) |>.filter Code.isFull

/-- The code of the lengths, if it uses all codes, has no symbol or has a single one whose
code is one bit. -/
def Code.ofLengths? (lengths : List Nat) : Option Code :=
  some (Code.ofLengths lengths) |>.filter fun code => code.isFull || lengths.foldl (· + ·) 0 ≤ 1

/-- The symbol whose code stands in front of bits: `read` is the number read so far, and
`first` the least code of the length. -/
def Code.symbolFrom (read first : Nat) : Code → Bits → Except Flaw (Nat × Bits)
  | [], _ => .error .corrupt
  | _ :: _, [] => .error .cutShort
  | symbols :: longer, bit :: bits =>
    let read := 2 * read + bit.toNat
    let first := 2 * first
    match symbols[read - first]? with
    | some symbol => .ok (symbol, bits)
    | none => symbolFrom read (first + symbols.length) longer bits

def Code.symbol (code : Code) (bits : Bits) : Except Flaw (Nat × Bits) :=
  code.symbolFrom 0 0 bits

theorem Code.length_symbolFrom_lt {code : Code} {read first symbol : Nat} {bits rest : Bits}
    (h : code.symbolFrom read first bits = .ok (symbol, rest)) :
  rest.length < bits.length
  := by
  induction code generalizing read first bits with
  | nil => simp [symbolFrom] at h
  | cons symbols longer ih =>
    cases bits with
    | nil => simp [symbolFrom] at h
    | cons bit bits =>
      simp only [symbolFrom] at h
      split at h
      · simp only [Except.ok.injEq, Prod.mk.injEq] at h
        simp [← h.2]
      · have := ih h
        simp only [List.length_cons]
        omega

/-! ### Tokens -/

/-- A step of the output. -/
inductive Token where
  | literal (b : UInt8)
  | copy (length distance : Nat)
  | stop
deriving DecidableEq, Repr

/-- The least value and the number of further bits of each symbol for a length. -/
def lengthRanges : List (Nat × Nat) :=
  [(3, 0), (4, 0), (5, 0), (6, 0), (7, 0), (8, 0), (9, 0), (10, 0), (11, 1), (13, 1), (15, 1),
    (17, 1), (19, 2), (23, 2), (27, 2), (31, 2), (35, 3), (43, 3), (51, 3), (59, 3), (67, 4),
    (83, 4), (99, 4), (115, 4), (131, 5), (163, 5), (195, 5), (227, 5), (258, 0)]

/-- The least value and the number of further bits of each symbol for a distance. -/
def distanceRanges : List (Nat × Nat) :=
  [(1, 0), (2, 0), (3, 0), (4, 0), (5, 1), (7, 1), (9, 2), (13, 2), (17, 3), (25, 3), (33, 4),
    (49, 4), (65, 5), (97, 5), (129, 6), (193, 6), (257, 7), (385, 7), (513, 8), (769, 8),
    (1025, 9), (1537, 9), (2049, 10), (3073, 10), (4097, 11), (6145, 11), (8193, 12),
    (12289, 12), (16385, 13), (24577, 13)]

/-- The value of a symbol with further bits. -/
def ranged (ranges : List (Nat × Nat)) (symbol : Nat) (bits : Bits) :
    Except Flaw (Nat × Bits) :=
  match ranges[symbol]? with
  | none => .error .corrupt
  | some (least, width) =>
    match number width bits with
    | .ok (more, rest) => .ok (least + more, rest)
    | .error e => .error e

theorem length_ranged_le {ranges : List (Nat × Nat)} {symbol n : Nat} {bits rest : Bits}
    (h : ranged ranges symbol bits = .ok (n, rest)) :
  rest.length ≤ bits.length
  := by
  unfold ranged at h
  split at h
  · cases h
  · split at h
    · next hn =>
      simp only [Except.ok.injEq, Prod.mk.injEq] at h
      rw [← h.2]
      exact length_number_le hn
    · cases h

/-- The copy whose length has the symbol. -/
def copyToken (distances : Code) (symbol : Nat) (bits : Bits) : Except Flaw (Token × Bits) :=
  match ranged lengthRanges (symbol - 257) bits with
  | .error e => .error e
  | .ok (length, bits) =>
    match distances.symbol bits with
    | .error e => .error e
    | .ok (symbol, bits) =>
      match ranged distanceRanges symbol bits with
      | .error e => .error e
      | .ok (distance, bits) => .ok (.copy length distance, bits)

/-- The token in front of bits. -/
def token (literals distances : Code) (bits : Bits) : Except Flaw (Token × Bits) :=
  match literals.symbol bits with
  | .error e => .error e
  | .ok (symbol, bits) =>
    if symbol < 256 then .ok (.literal (UInt8.ofNat symbol), bits)
    else if symbol = 256 then .ok (.stop, bits)
    else copyToken distances symbol bits

theorem length_copyToken_le {distances : Code} {symbol : Nat} {t : Token} {bits rest : Bits}
    (h : copyToken distances symbol bits = .ok (t, rest)) :
  rest.length ≤ bits.length
  := by
  unfold copyToken at h
  split at h
  · cases h
  · next hlength =>
    have h1 := length_ranged_le hlength
    split at h
    · cases h
    · next hsymbol =>
      have h2 := Code.length_symbolFrom_lt hsymbol
      split at h
      · cases h
      · next hdistance =>
        have h3 := length_ranged_le hdistance
        simp only [Except.ok.injEq, Prod.mk.injEq] at h
        rw [← h.2]
        omega

theorem length_token_lt {literals distances : Code} {t : Token} {bits rest : Bits}
    (h : token literals distances bits = .ok (t, rest)) :
  rest.length < bits.length
  := by
  unfold token at h
  split at h
  · cases h
  · next hsymbol =>
    have h1 := Code.length_symbolFrom_lt hsymbol
    split at h
    · simp only [Except.ok.injEq, Prod.mk.injEq] at h
      rw [← h.2]
      exact h1
    · split at h
      · simp only [Except.ok.injEq, Prod.mk.injEq] at h
        rw [← h.2]
        exact h1
      · have := length_copyToken_le h
        omega

/-! ### Blocks -/

/-- The byte at a distance behind the end of the output. Zeros stand in front of the
output. -/
def byteBehind (output : Array UInt8) (distance : Nat) : UInt8 :=
  if distance ≤ output.size then output.getD (output.size - distance) 0 else 0

/-- The output after a copy of earlier output, which may overlap what it adds. -/
def copy (distance : Nat) : Nat → Array UInt8 → Array UInt8
  | 0, output => output
  | length + 1, output => copy distance length (output.push (byteBehind output distance))

/-- The output and the bits that are left. -/
abbrev Progress := Except Flaw (Array UInt8 × Bits)

/-- The output of the tokens up to the end of a block. -/
def tokens (literals distances : Code) (output : Array UInt8) (bits : Bits) : Progress :=
  match _h : token literals distances bits with
  | .error flaw => .error flaw
  | .ok (.stop, rest) => .ok (output, rest)
  | .ok (.literal b, rest) => tokens literals distances (output.push b) rest
  | .ok (.copy length distance, rest) =>
    tokens literals distances (copy distance length output) rest
termination_by bits.length
decreasing_by
  · exact length_token_lt _h
  · exact length_token_lt _h

/-- So many bytes as they are. -/
def storedBytes : Nat → Array UInt8 → Bits → Progress
  | 0, output, bits => .ok (output, bits)
  | count + 1, output, bits =>
    match number 8 bits with
    | .error flaw => .error flaw
    | .ok (b, rest) => storedBytes count (output.push (UInt8.ofNat b)) rest

/-- A block of bytes as they are. It begins at the next whole byte with its length and the
complement of its length. -/
def stored (output : Array UInt8) (bits : Bits) : Progress := do
  let (length, bits) ← number 16 (bits.drop (bits.length % 8))
  let (complement, bits) ← number 16 bits
  if length + complement ≠ 65535 then throw .corrupt
  storedBytes length output bits

/-- The code of literals and lengths that needs no description. -/
def fixedLiterals : Code :=
  Code.ofLengths (List.replicate 144 8 ++ List.replicate 112 9 ++ List.replicate 24 7
    ++ List.replicate 8 8)

/-- The code of distances that needs no description. -/
def fixedDistances : Code :=
  Code.ofLengths (List.replicate 30 5)

/-- The order in which the lengths of the code of code lengths come. -/
def lengthOrder : List Nat :=
  [16, 17, 18, 0, 8, 7, 9, 6, 10, 5, 11, 4, 12, 3, 13, 2, 14, 1, 15]

/-- So many numbers of a width. -/
def numbers (width : Nat) : Nat → Bits → Except Flaw (List Nat × Bits)
  | 0, bits => .ok ([], bits)
  | count + 1, bits => do
    let (n, bits) ← number width bits
    let (more, bits) ← numbers width count bits
    return (n :: more, bits)

/-- The run of code lengths that a symbol stands for, after the given last length. -/
def lengthRun (last? : Option Nat) (symbol : Nat) (bits : Bits) :
    Except Flaw (List Nat × Bits) :=
  if symbol < 16 then .ok ([symbol], bits)
  else if symbol = 16 then
    match last? with
    | none => .error .corrupt
    | some last => do
      let (n, bits) ← number 2 bits
      return (List.replicate (n + 3) last, bits)
  else do
    let (width, least) := if symbol = 17 then (3, 3) else (7, 11)
    let (n, bits) ← number width bits
    return (List.replicate (n + least) 0, bits)

/-- The code lengths read, last one first, until there are so many. Each symbol adds at
least one, so as many symbols as lengths are enough. -/
def codeLengths (code : Code) (wanted : Nat) :
    Nat → List Nat → Bits → Except Flaw (List Nat × Bits)
  | 0, read, bits => .ok (read, bits)
  | steps + 1, read, bits =>
    if read.length = wanted then .ok (read, bits)
    else if wanted < read.length then .error .corrupt
    else do
      let (symbol, bits) ← code.symbol bits
      let (run, bits) ← lengthRun read.head? symbol bits
      codeLengths code wanted steps (run ++ read) bits

/-- The largest number of literals and lengths that a block may describe. -/
def maxLiterals : Nat := 286

/-- The largest number of distances that a block may describe. -/
def maxDistances : Nat := 30

/-- The two codes that a block describes. -/
def describedCodes (bits : Bits) : Except Flaw (Code × Code × Bits) := do
  let (moreLiterals, bits) ← number 5 bits
  let (moreDistances, bits) ← number 5 bits
  let (moreLengths, bits) ← number 4 bits
  if maxLiterals < moreLiterals + 257 ∨ maxDistances < moreDistances + 1 then throw .corrupt
  let (given, bits) ← numbers 3 (moreLengths + 4) bits
  let ordered := (List.range 19).map fun symbol =>
    ((lengthOrder.zip given).lookup symbol).getD 0
  let some code := Code.full? ordered | throw .corrupt
  let wanted := moreLiterals + 257 + (moreDistances + 1)
  let (read, bits) ← codeLengths code wanted (wanted + 1) [] bits
  let lengths := read.reverse
  if lengths.length ≠ wanted then throw .corrupt
  let some literals := Code.ofLengths? (lengths.take (moreLiterals + 257)) | throw .corrupt
  let some distances := Code.ofLengths? (lengths.drop (moreLiterals + 257)) | throw .corrupt
  return (literals, distances, bits)

/-- The block of a kind in front of bits. -/
def block (kind : Nat) (output : Array UInt8) (bits : Bits) : Progress :=
  match kind with
  | 0 => stored output bits
  | 1 => tokens fixedLiterals fixedDistances output bits
  | 2 => do
    let (literals, distances, bits) ← describedCodes bits
    tokens literals distances output bits
  | _ => .error .corrupt

/-- Whether a block is the last one, its kind, and the bits after its header. -/
def blockHeader (bits : Bits) : Except Flaw (Bool × Nat × Bits) := do
  let (last, bits) ← number 1 bits
  let (kind, bits) ← number 2 bits
  return (last == 1, kind, bits)

/-- The output of the blocks from here to the last one. -/
def blocks (output : Array UInt8) (bits : Bits) : Except Flaw (Array UInt8) := do
  let (isLast, kind, rest) ← blockHeader bits
  let (output, rest) ← block kind output rest
  if isLast then return output
  else if rest.length < bits.length then blocks output rest
  else throw .corrupt
termination_by bits.length

/-- The output of deflated bytes. -/
def inflate (bytes : List UInt8) : Except Flaw (List UInt8) :=
  (blocks #[] (bitsOf bytes)).map Array.toList

end Provision.Zip.Inflate
