/-!
# Digits — numbers written in base ten and sixteen

Readers and writers of digit texts, shared by colours, source ranges, identifiers and settings.

* `decimalValue?`, `hexValue?` — the value of one digit.
* `foldDigits` — the value of a run of digits in a base, the most significant digit first.
* `decimalBelow?` — an optional plus sign, then one or more digits, with a bound on the value.
* `hexPair` — the two lower-case hexadecimal digits of a byte.
-/

namespace Formulary.Text

/-- The value of a decimal digit. -/
def decimalValue? (c : Char) : Option Nat :=
  if '0' ≤ c ∧ c ≤ '9' then some (c.toNat - '0'.toNat) else none

/-- The value of a hexadecimal digit of either case. -/
def hexValue? (c : Char) : Option Nat :=
  if '0' ≤ c ∧ c ≤ '9' then some (c.toNat - '0'.toNat)
  else if 'a' ≤ c ∧ c ≤ 'f' then some (c.toNat - 'a'.toNat + 10)
  else if 'A' ≤ c ∧ c ≤ 'F' then some (c.toNat - 'A'.toNat + 10)
  else none

/-- Whether a character is a decimal digit of the ASCII class. -/
def isDigit (c : Char) : Bool := '0' ≤ c && c ≤ '9'

/-- The value of a run of digits continued from `acc`, or nothing at a character that is no digit. -/
def foldDigits (base : Nat) (digit? : Char → Option Nat) : Nat → List Char → Option Nat
  | acc, [] => some acc
  | acc, c :: rest =>
    match digit? c with
    | some d => foldDigits base digit? (acc * base + d) rest
    | none => none

/-- The value of one or more digits after an optional plus sign. -/
def unsigned? (base : Nat) (digit? : Char → Option Nat) (cs : List Char) : Option Nat :=
  match cs with
  | '+' :: c :: rest => foldDigits base digit? 0 (c :: rest)
  | [] => none
  | cs => foldDigits base digit? 0 cs

/-- An unsigned decimal number below `bound`. -/
def decimalBelow? (bound : Nat) (cs : List Char) : Option Nat :=
  (unsigned? 10 decimalValue? cs).filter (· < bound)

/-- The lower-case hexadecimal digit of a number below sixteen. -/
def hexDigit (n : Nat) : Char :=
  if n < 10 then Char.ofNat ('0'.toNat + n) else Char.ofNat ('a'.toNat + (n - 10))

/-- The two lower-case hexadecimal digits of a byte. -/
def hexPair (b : UInt8) : List Char := [hexDigit (b.toNat / 16), hexDigit (b.toNat % 16)]

/-- The lower-case hexadecimal digits of a number, at least one. -/
def hexDigits (n : Nat) : List Char := (Nat.toDigits 16 n)

/-- The bytes of a list as lower-case hexadecimal digits, two for each byte. -/
def hexText (bytes : List UInt8) : String := String.ofList (bytes.flatMap hexPair)

/-- Reads pairs of hexadecimal digits as bytes; a digit left over or a character that is no digit
fails. -/
def bytesOfHex? (cs : List Char) (acc : ByteArray) : Option ByteArray :=
  match cs with
  | [] => some acc
  | a :: b :: rest =>
    match hexValue? a, hexValue? b with
    | some x, some y => bytesOfHex? rest (acc.push (UInt8.ofNat (16 * x + y)))
    | _, _ => none
  | [_] => none

/-- A text padded on the left with `fill` to `width` characters. -/
def padLeft (width : Nat) (fill : Char) (cs : List Char) : List Char :=
  List.replicate (width - cs.length) fill ++ cs

/-- A text padded on the right with `fill` to `width` characters. -/
def padRight (width : Nat) (fill : Char) (cs : List Char) : List Char :=
  cs ++ List.replicate (width - cs.length) fill

end Formulary.Text
