/-!
# UTF-8 — bytes of characters and characters of bytes

Texts leave the library as UTF-8 bytes and enter it as bytes that need not be well formed. Reading
is lenient: the longest part of an ill-formed sequence that could have begun a character stands for
one replacement character.

* `encodeChar` — the bytes of one character.
* `decodeStep` — the character at the front of bytes and the number of bytes it takes, well formed
  or not.
* `decodeLossy`, `decode?` — the lenient and the strict reading.
-/

namespace Formulary.Text

/-- The UTF-8 bytes of a character. -/
def encodeChar (c : Char) : List UInt8 := String.utf8EncodeChar c

/-- The UTF-8 bytes of characters. -/
def encodeChars (cs : List Char) : List UInt8 := cs.flatMap encodeChar

/-- What stands in place of bytes that are no character. -/
def replacement : Char := '\ufffd'

/-- Whether a byte continues a character: its two high bits are `10`. -/
def isContinuation (b : UInt8) : Bool := 0x80 ≤ b && b ≤ 0xBF

/-- The range of the second byte of a character and the number of continuation bytes, by the first
byte; nothing when no character starts with it. -/
def leadByte? (b : UInt8) : Option (UInt8 × UInt8 × Nat) :=
  if 0xC2 ≤ b && b ≤ 0xDF then some (0x80, 0xBF, 1)
  else if b == 0xE0 then some (0xA0, 0xBF, 2)
  else if b == 0xED then some (0x80, 0x9F, 2)
  else if 0xE1 ≤ b && b ≤ 0xEF then some (0x80, 0xBF, 2)
  else if b == 0xF0 then some (0x90, 0xBF, 3)
  else if 0xF1 ≤ b && b ≤ 0xF3 then some (0x80, 0xBF, 3)
  else if b == 0xF4 then some (0x80, 0x8F, 3)
  else none

/-- Reads up to `left` continuation bytes into `value`; gives the value, how many were read, and
whether all were there. -/
def continuations (left : Nat) (value count : Nat) : List UInt8 → Nat × Nat × Bool
  | b :: rest =>
    match left with
    | 0 => (value, count, true)
    | left + 1 =>
      if isContinuation b then
        continuations left (value * 64 + (b.toNat - 0x80)) (count + 1) rest
      else (value, count, false)
  | [] => (value, count, left == 0)

/-- The character at the front of bytes, if they begin with a well-formed one, and the number of
bytes that belong together. -/
def decodeStep (b : UInt8) (rest : List UInt8) : Option Char × Nat :=
  if b < 0x80 then (some (Char.ofNat b.toNat), 1)
  else
    match leadByte? b, rest with
    | some (low, high, more), second :: rest =>
      if low ≤ second && second ≤ high then
        let lead := b.toNat % (if more == 1 then 32 else if more == 2 then 16 else 8)
        let (value, count, complete) :=
          continuations (more - 1) (lead * 64 + (second.toNat - 0x80)) 2 rest
        if complete then (some (Char.ofNat value), count) else (none, count)
      else (none, 1)
    | _, _ => (none, 1)

/-- Reads bytes, `skip` of which belong to the character before; `acc` holds what was read, last
first. -/
def decodeLossyFrom (skip : Nat) (acc : List Char) : List UInt8 → List Char
  | [] => acc.reverse
  | b :: rest =>
    match skip with
    | skip + 1 => decodeLossyFrom skip acc rest
    | 0 =>
      let (c?, count) := decodeStep b rest
      decodeLossyFrom (count - 1) (c?.getD replacement :: acc) rest

/-- The characters of bytes, a replacement character for each ill-formed part. -/
def decodeLossy (bytes : List UInt8) : List Char := decodeLossyFrom 0 [] bytes

/-- The text of bytes, a replacement character for each ill-formed part. -/
def lossyText (bytes : ByteArray) : String := String.ofList (decodeLossy bytes.toList)

/-- The text of bytes that are well formed. -/
def text? (bytes : ByteArray) : Option String := String.fromUTF8? bytes

end Formulary.Text
