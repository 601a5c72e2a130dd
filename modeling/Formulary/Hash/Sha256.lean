/-!
# SHA-256 — the digest of 32 bytes

The message is filled up to whole blocks of 64 bytes: one bit, zeros, and its length in bits. Each
block is stretched to 64 words, and 64 rounds mix them into a state of eight words.

* `Sha256.pad` — the message in whole blocks.
* `Sha256.stretch` — the 64 words of a block.
* `Sha256.digest` — the digest.
-/

namespace Formulary.Sha256

/-- The words that the rounds add: the first 32 bits behind the point of the cube roots of the first
64 primes. -/
def roundWords : List UInt32 :=
  [0x428a2f98, 0x71374491, 0xb5c0fbcf, 0xe9b5dba5, 0x3956c25b, 0x59f111f1, 0x923f82a4, 0xab1c5ed5,
    0xd807aa98, 0x12835b01, 0x243185be, 0x550c7dc3, 0x72be5d74, 0x80deb1fe, 0x9bdc06a7, 0xc19bf174,
    0xe49b69c1, 0xefbe4786, 0x0fc19dc6, 0x240ca1cc, 0x2de92c6f, 0x4a7484aa, 0x5cb0a9dc, 0x76f988da,
    0x983e5152, 0xa831c66d, 0xb00327c8, 0xbf597fc7, 0xc6e00bf3, 0xd5a79147, 0x06ca6351, 0x14292967,
    0x27b70a85, 0x2e1b2138, 0x4d2c6dfc, 0x53380d13, 0x650a7354, 0x766a0abb, 0x81c2c92e, 0x92722c85,
    0xa2bfe8a1, 0xa81a664b, 0xc24b8b70, 0xc76c51a3, 0xd192e819, 0xd6990624, 0xf40e3585, 0x106aa070,
    0x19a4c116, 0x1e376c08, 0x2748774c, 0x34b0bcb5, 0x391c0cb3, 0x4ed8aa4a, 0x5b9cca4f, 0x682e6ff3,
    0x748f82ee, 0x78a5636f, 0x84c87814, 0x8cc70208, 0x90befffa, 0xa4506ceb, 0xbef9a3f7, 0xc67178f2]

/-- Eight words. -/
structure State where
  a : UInt32
  b : UInt32
  c : UInt32
  d : UInt32
  e : UInt32
  f : UInt32
  g : UInt32
  h : UInt32
deriving DecidableEq, Repr

/-- The first 32 bits behind the point of the square roots of the first eight primes. -/
def start : State :=
  ⟨0x6a09e667, 0xbb67ae85, 0x3c6ef372, 0xa54ff53a, 0x510e527f, 0x9b05688c, 0x1f83d9ab, 0x5be0cd19⟩

/-- Turns a word to the right by `n` bits. -/
def rotate (x : UInt32) (n : UInt32) : UInt32 := (x >>> n) ||| (x <<< (32 - n))

/-- Zeros that fill a message of `n` bytes, its mark and its length up to whole blocks. -/
def zeros (n : Nat) : Nat := (119 - n % 64) % 64

/-- The message in whole blocks: the message, one bit, zeros, and the length in bits. -/
def pad (message : List UInt8) : List UInt8 :=
  let bits := 8 * message.length
  let size : List UInt8 := (List.range 8).map fun i => UInt8.ofNat (bits >>> (8 * (7 - i)))
  message ++ 0x80 :: List.replicate (zeros message.length) 0 ++ size

theorem length_pad (message : List UInt8) : (pad message).length % 64 = 0 := by
  simp only [pad, zeros, List.length_append, List.length_cons, List.length_replicate,
    List.length_map, List.length_range]
  omega

/-- Bytes in groups of four as words, the highest byte first. -/
def words : List UInt8 → List UInt32
  | a :: b :: c :: d :: rest =>
    ((a.toUInt32 <<< 24) ||| (b.toUInt32 <<< 16) ||| (c.toUInt32 <<< 8) ||| d.toUInt32) :: words rest
  | _ => []

/-- The word that follows words listed from the last one back. -/
def nextWord (back : List UInt32) : UInt32 :=
  let word (i : Nat) : UInt32 := back.getD i 0
  let s₀ := rotate (word 14) 7 ^^^ rotate (word 14) 18 ^^^ (word 14 >>> 3)
  let s₁ := rotate (word 1) 17 ^^^ rotate (word 1) 19 ^^^ (word 1 >>> 10)
  word 15 + s₀ + word 6 + s₁

/-- Words listed from the last one back, with `n` more in front. -/
def extend (back : List UInt32) : Nat → List UInt32
  | 0 => back
  | n + 1 => extend (nextWord back :: back) n

/-- The 64 words of a block of 16. -/
def stretch (block : List UInt32) : List UInt32 := (extend block.reverse 48).reverse

/-- One round with its word and the word of the block. -/
def round (s : State) (roundWord word : UInt32) : State :=
  let s₁ := rotate s.e 6 ^^^ rotate s.e 11 ^^^ rotate s.e 25
  let choice := (s.e &&& s.f) ^^^ (~~~s.e &&& s.g)
  let t₁ := s.h + s₁ + choice + roundWord + word
  let s₀ := rotate s.a 2 ^^^ rotate s.a 13 ^^^ rotate s.a 22
  let majority := (s.a &&& s.b) ^^^ (s.a &&& s.c) ^^^ (s.b &&& s.c)
  ⟨t₁ + s₀ + majority, s.a, s.b, s.c, s.d + t₁, s.e, s.f, s.g⟩

/-- Mixes a block into a state. -/
def compress (s : State) (block : List UInt32) : State :=
  let t := (roundWords.zip (stretch block)).foldl (fun s w => round s w.1 w.2) s
  ⟨s.a + t.a, s.b + t.b, s.c + t.c, s.d + t.d, s.e + t.e, s.f + t.f, s.g + t.g, s.h + t.h⟩

/-- Mixes `n` blocks of words into a state. -/
def compressBlocks (s : State) (ws : List UInt32) : Nat → State
  | 0 => s
  | n + 1 => compressBlocks (compress s (ws.take 16)) (ws.drop 16) n

/-- The bytes of a word, the highest first. -/
def bytesOfWord (w : UInt32) : List UInt8 :=
  [(w >>> 24).toUInt8, (w >>> 16).toUInt8, (w >>> 8).toUInt8, w.toUInt8]

/-- The digest of a message. -/
def digest (message : List UInt8) : List UInt8 :=
  let ws := words (pad message)
  let s := compressBlocks start ws (ws.length / 16)
  [s.a, s.b, s.c, s.d, s.e, s.f, s.g, s.h].flatMap bytesOfWord

theorem length_digest (message : List UInt8) : (digest message).length = 32 := by
  simp [digest, bytesOfWord]

end Formulary.Sha256
