/-!
# Checksums — sums that guard bytes

* `crc32` — the remainder of the bytes as a polynomial over two elements, by 32 bits.
* `adler32` — two sums modulo 65521.
-/

namespace Formulary.Raster

/-- One bit of the remainder. -/
def crcBit (r : UInt32) : UInt32 :=
  if r &&& 1 = 1 then (0xEDB88320 : UInt32) ^^^ (r >>> 1) else r >>> 1

/-- The remainder after one more byte. -/
def crcByte (r : UInt32) (b : UInt8) : UInt32 :=
  (List.range 8).foldl (fun r _ => crcBit r) (r ^^^ b.toUInt32)

/-- The polynomial remainder of bytes. -/
def crc32 (bytes : List UInt8) : UInt32 := (bytes.foldl crcByte 0xFFFFFFFF) ^^^ 0xFFFFFFFF

/-- The two sums of bytes as one word. -/
def adler32 (bytes : List UInt8) : UInt32 :=
  let (a, b) := bytes.foldl (fun (a, b) byte =>
    let a := (a + byte.toNat) % 65521
    (a, (b + a) % 65521)) (1, 0)
  UInt32.ofNat (b * 65536 + a)

/-- The four bytes of a word, the highest first. -/
def bigEndian (n : UInt32) : List UInt8 :=
  [(n >>> 24).toUInt8, (n >>> 16).toUInt8, (n >>> 8).toUInt8, n.toUInt8]

/-- The two bytes of a number below 65536, the lowest first. -/
def littleEndian16 (n : Nat) : List UInt8 := [UInt8.ofNat n, UInt8.ofNat (n / 256)]

/-- The number whose digits in base 256 are given, the highest first. -/
def ofBigEndian (bytes : List UInt8) : Nat := bytes.foldl (fun n b => n * 256 + b.toNat) 0

/-- The number whose digits in base 256 are given, the lowest first. -/
def ofLittleEndian (bytes : List UInt8) : Nat := ofBigEndian bytes.reverse

end Formulary.Raster
