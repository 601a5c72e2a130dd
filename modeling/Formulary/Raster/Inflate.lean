import Formulary.Raster.Checksum

/-!
# Deflated data — bytes in blocks of prefix codes

Deflated data is a stream of bits, each byte from its lowest bit on. A block holds bytes as they
stand, or symbols of a canonical prefix code: bytes, and copies of what has been read before.

* `bitsOf`, `takeNumber` — the bits of bytes, and numbers made of bits.
* `PrefixCode.ofLengths`, `PrefixCode.symbol?` — the canonical code with given lengths.
* `inflate?` — the bytes of a stream, and the bits behind it.
* `unpack?` — the bytes of a stream with its header and checksum.
* `packStored` — bytes as a stream of blocks that hold them as they stand.
-/

namespace Formulary.Raster

/-- The bits of a byte, the lowest first. -/
def byteBits (b : UInt8) : List Bool := (List.range 8).map fun i => b.toNat.testBit i

/-- The bits of bytes. -/
def bitsOf (bytes : List UInt8) : List Bool := bytes.flatMap byteBits

/-- The number made of the next `n` bits, the lowest first. -/
def takeNumber : Nat → List Bool → Option (Nat × List Bool)
  | 0, bits => some (0, bits)
  | _ + 1, [] => none
  | n + 1, bit :: rest =>
    (takeNumber n rest).map fun (high, rest) => (2 * high + bit.toNat, rest)

/-- A canonical prefix code: how many codes have each length from one on, and the symbols in the
order of their codes. -/
structure PrefixCode where
  counts : List Nat
  symbols : Array Nat

namespace PrefixCode

/-- The symbols whose code has a length. -/
def symbolsOfLength (lengths : List Nat) (length : Nat) : List Nat :=
  (lengths.zipIdx.filter fun (l, _) => l == length).map Prod.snd

/-- The code in which symbol `i` has the `i`th length; length zero means that there is none. -/
def ofLengths (lengths : List Nat) : PrefixCode :=
  let groups := (List.range 15).map fun i => symbolsOfLength lengths (i + 1)
  ⟨groups.map List.length, groups.flatten.toArray⟩

/-- Reads a symbol: `code` is what has been read, `first` the first code of its length, and `index`
the number of shorter codes. -/
def symbolFrom (symbols : Array Nat) (code first index : Nat) :
    List Nat → List Bool → Option (Nat × List Bool)
  | [], _ => none
  | _, [] => none
  | count :: counts, bit :: rest =>
    let code := code + bit.toNat
    if code < first + count then
      (symbols[index + (code - first)]?).map fun symbol => (symbol, rest)
    else symbolFrom symbols (2 * code) (2 * (first + count)) (index + count) counts rest

/-- The next symbol of a stream. -/
def symbol? (c : PrefixCode) (bits : List Bool) : Option (Nat × List Bool) :=
  symbolFrom c.symbols 0 0 0 c.counts bits

end PrefixCode

/-- The least length of each symbol for a copy, and the bits that are added to it. -/
def copyLengths : List (Nat × Nat) :=
  [(3, 0), (4, 0), (5, 0), (6, 0), (7, 0), (8, 0), (9, 0), (10, 0), (11, 1), (13, 1), (15, 1),
    (17, 1), (19, 2), (23, 2), (27, 2), (31, 2), (35, 3), (43, 3), (51, 3), (59, 3), (67, 4),
    (83, 4), (99, 4), (115, 4), (131, 5), (163, 5), (195, 5), (227, 5), (258, 0)]

/-- The least distance of each symbol for a distance, and the bits that are added to it. -/
def copyDistances : List (Nat × Nat) :=
  [(1, 0), (2, 0), (3, 0), (4, 0), (5, 1), (7, 1), (9, 2), (13, 2), (17, 3), (25, 3), (33, 4),
    (49, 4), (65, 5), (97, 5), (129, 6), (193, 6), (257, 7), (385, 7), (513, 8), (769, 8),
    (1025, 9), (1537, 9), (2049, 10), (3073, 10), (4097, 11), (6145, 11), (8193, 12), (12289, 12),
    (16385, 13), (24577, 13)]

/-- The number that a symbol of a table stands for. -/
def tableNumber? (table : List (Nat × Nat)) (symbol : Nat) (bits : List Bool) :
    Option (Nat × List Bool) := do
  let (least, extra) ← table[symbol]?
  let (more, bits) ← takeNumber extra bits
  return (least + more, bits)

/-- Appends `n` bytes, each the one `distance` before it. -/
def copyBack (distance : Nat) : Nat → Array UInt8 → Array UInt8
  | 0, out => out
  | n + 1, out => copyBack distance n (out.push (out[out.size - distance]?.getD 0))

/-- Reads the symbols of a block up to its end. -/
def inflateSymbols (literals distances : PrefixCode) :
    Nat → Array UInt8 → List Bool → Option (Array UInt8 × List Bool)
  | 0, _, _ => none
  | fuel + 1, out, bits => do
    let (symbol, bits) ← literals.symbol? bits
    if symbol < 256 then inflateSymbols literals distances fuel (out.push (UInt8.ofNat symbol)) bits
    else if symbol = 256 then return (out, bits)
    else
      let (length, bits) ← tableNumber? copyLengths (symbol - 257) bits
      let (symbol, bits) ← distances.symbol? bits
      let (distance, bits) ← tableNumber? copyDistances symbol bits
      if out.size < distance then none
      else inflateSymbols literals distances fuel (copyBack distance length out) bits

/-- The lengths of the code that needs no table. -/
def fixedLengths : List Nat :=
  List.replicate 144 8 ++ List.replicate 112 9 ++ List.replicate 24 7 ++ List.replicate 8 8

/-- The order in which the lengths of the code for lengths are given. -/
def lengthOrder : List Nat := [16, 17, 18, 0, 8, 7, 9, 6, 10, 5, 11, 4, 12, 3, 13, 2, 14, 1, 15]

/-- Reads `n` numbers of three bits. -/
def takeTriples : Nat → List Bool → Option (List Nat × List Bool)
  | 0, bits => some ([], bits)
  | n + 1, bits => do
    let (number, bits) ← takeNumber 3 bits
    let (numbers, bits) ← takeTriples n bits
    return (number :: numbers, bits)

/-- Reads lengths until there are `total`; `read` holds those read, the last one first. -/
def takeLengths (code : PrefixCode) (total : Nat) :
    Nat → List Nat → List Bool → Option (List Nat × List Bool)
  | 0, _, _ => none
  | fuel + 1, read, bits =>
    if total < read.length then none
    else if read.length = total then some (read.reverse, bits)
    else do
      let (symbol, bits) ← code.symbol? bits
      if symbol < 16 then takeLengths code total fuel (symbol :: read) bits
      else
        let (value, least, extra) : Nat × Nat × Nat ←
          if symbol = 16 then read.head?.map fun last => (last, 3, 2)
          else if symbol = 17 then some (0, 3, 3)
          else some (0, 11, 7)
        let (more, bits) ← takeNumber extra bits
        takeLengths code total fuel (List.replicate (least + more) value ++ read) bits

/-- Reads the two codes of a block that gives them. -/
def takeCodes (bits : List Bool) : Option (PrefixCode × PrefixCode × List Bool) := do
  let (literals, bits) ← takeNumber 5 bits
  let (distances, bits) ← takeNumber 5 bits
  let (count, bits) ← takeNumber 4 bits
  let (triples, bits) ← takeTriples (count + 4) bits
  let given := lengthOrder.zip triples
  let code := PrefixCode.ofLengths ((List.range 19).map fun i => (given.lookup i).getD 0)
  let (lengths, bits) ← takeLengths code (literals + 257 + distances + 1) (bits.length + 1) [] bits
  return (.ofLengths (lengths.take (literals + 257)), .ofLengths (lengths.drop (literals + 257)), bits)

/-- Reads `n` bytes as they stand. -/
def takeBytes : Nat → Array UInt8 → List Bool → Option (Array UInt8 × List Bool)
  | 0, out, bits => some (out, bits)
  | n + 1, out, bits => do
    let (byte, bits) ← takeNumber 8 bits
    takeBytes n (out.push (UInt8.ofNat byte)) bits

/-- Reads blocks up to the last one. -/
def inflateBlocks : Nat → Array UInt8 → List Bool → Option (Array UInt8 × List Bool)
  | 0, _, _ => none
  | fuel + 1, out, bits => do
    let (last, bits) ← takeNumber 1 bits
    let (kind, bits) ← takeNumber 2 bits
    let (out, bits) ←
      match kind with
      | 0 =>
        let aligned := bits.drop (bits.length % 8)
        let (length, bits) ← takeNumber 16 aligned
        let (inverse, bits) ← takeNumber 16 bits
        if length + inverse != 65535 then none else takeBytes length out bits
      | 1 =>
        inflateSymbols (.ofLengths fixedLengths) (.ofLengths (List.replicate 30 5)) (bits.length + 1)
          out bits
      | 2 =>
        let (literals, distances, bits) ← takeCodes bits
        inflateSymbols literals distances (bits.length + 1) out bits
      | _ => none
    if last = 1 then return (out, bits) else inflateBlocks fuel out bits

/-- The bytes of a stream, and the bits behind it. -/
def inflate? (bits : List Bool) : Option (Array UInt8 × List Bool) :=
  inflateBlocks (bits.length + 1) #[] bits

/-- The bytes of a stream with a header of two bytes in front and a checksum behind; the checksum
has to be there and is not compared. -/
def unpack? (bytes : List UInt8) : Option (List UInt8) :=
  match bytes with
  | method :: flags :: rest =>
    let m := method.toNat
    if m % 16 != 8 || 7 < m / 16 || (m * 256 + flags.toNat) % 31 != 0 || flags &&& 0x20 != 0 then none
    else do
      let (out, left) ← inflate? (bitsOf rest)
      if left.length < 32 then none else return out.toList
  | _ => none

/-- Bytes in blocks that hold them as they stand. -/
def storedBlocks : Nat → List UInt8 → List UInt8
  | 0, _ => []
  | fuel + 1, bytes =>
    let block := bytes.take 65535
    let rest := bytes.drop 65535
    (if rest.isEmpty then 1 else 0) :: littleEndian16 block.length ++
      littleEndian16 (65535 - block.length) ++ block ++
      (if rest.isEmpty then [] else storedBlocks fuel rest)

/-- Bytes as a stream with header and checksum, in blocks that hold them as they stand. -/
def packStored (bytes : List UInt8) : List UInt8 :=
  [0x78, 0x01] ++ storedBlocks (bytes.length / 65535 + 1) bytes ++ bigEndian (adler32 bytes)

end Formulary.Raster
