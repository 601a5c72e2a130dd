import Formulary.Text.Utf8
import Formulary.Text.Digits

/-!
# Percent encoding — bytes of an address written as digits

A character that may not stand in a part of an address is written as its UTF-8 bytes, each a
percent sign and two upper-case hexadecimal digits. Each part has its own set of such characters.

* `inFragment`, `inPath`, `inUserInfo`, `inQuery` — the characters that are encoded in a part.
* `encode` — writes characters; `decodeBytes` — reads the bytes back.
-/

namespace Formulary.Url

/-- Controls and all that is not ASCII are encoded everywhere. -/
def isControl (c : Char) : Bool := c.toNat < 0x20 || 0x7F ≤ c.toNat

/-- What is encoded in a fragment. -/
def inFragment (c : Char) : Bool := isControl c || " \"<>`".contains c

/-- What is encoded in a path. -/
def inPath (c : Char) : Bool := inFragment c || "#?\x7b\x7d".contains c

/-- What is encoded in a user name or a password. -/
def inUserInfo (c : Char) : Bool := inPath c || "/:;=@[\\]^|".contains c

/-- What is encoded in the query of a web address. -/
def inQuery (c : Char) : Bool := isControl c || " \"#<>'".contains c

/-- The upper-case hexadecimal digit of a number below sixteen. -/
def upperHexDigit (n : Nat) : Char :=
  if n < 10 then Char.ofNat ('0'.toNat + n) else Char.ofNat ('A'.toNat + (n - 10))

/-- A byte as a percent sign and two digits. -/
def encodeByte (b : UInt8) : List Char :=
  ['%', upperHexDigit (b.toNat / 16), upperHexDigit (b.toNat % 16)]

/-- The written form of a character in a part of an address. -/
def encodeChar (inSet : Char → Bool) (c : Char) : List Char :=
  if inSet c then (Text.encodeChar c).flatMap encodeByte else [c]

/-- The written form of characters in a part of an address. -/
def encode (inSet : Char → Bool) (cs : List Char) : List Char := cs.flatMap (encodeChar inSet)

/-- The bytes of a text in which a percent sign with two digits stands for a byte; `acc` holds the
bytes read so far. -/
def decodeBytes (acc : ByteArray) (cs : List Char) : ByteArray :=
  match cs with
  | [] => acc
  | '%' :: a :: b :: rest =>
    match Text.hexValue? a, Text.hexValue? b with
    | some x, some y => decodeBytes (acc.push (UInt8.ofNat (16 * x + y))) rest
    | _, _ => decodeBytes (acc.push 0x25) (a :: b :: rest)
  | c :: rest => decodeBytes ((Text.encodeChar c).foldl ByteArray.push acc) rest
termination_by cs.length

end Formulary.Url
