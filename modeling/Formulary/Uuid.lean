import Formulary.Text.Digits

/-!
# Identifiers — 128-bit numbers that stand for math spans

An identifier is written as 32 hexadecimal digits in five groups. It is read in four forms: the
groups with hyphens between them, these between braces or behind `urn:uuid:`, and the digits alone;
digits of either case are accepted.

* `Uuid.hyphenated`, `Uuid.simple` — written forms.
* `Uuid.parse?` — reads any of the four forms.
* `Uuid.numbered` — the supply of identifiers that counts.
-/

namespace Formulary

/-- An identifier of 128 bits. -/
structure Uuid where
  bits : BitVec 128
deriving DecidableEq, Repr, Inhabited

namespace Uuid

/-- The identifier whose bits are all zero. -/
def nil : Uuid := ⟨0⟩

/-- The 32 digits of an identifier. -/
def digits (id : Uuid) : List Char :=
  (List.range 32).map fun i => Text.hexDigit ((id.bits.toNat >>> (4 * (31 - i))) % 16)

/-- The digits without hyphens. -/
def simple (id : Uuid) : String := String.ofList id.digits

/-- The characters of the form with hyphens. -/
def toChars (id : Uuid) : List Char :=
  let ds := id.digits
  ds.take 8 ++ '-' :: (ds.drop 8).take 4 ++ '-' :: (ds.drop 12).take 4 ++
    '-' :: (ds.drop 16).take 4 ++ '-' :: ds.drop 20

/-- The form with hyphens, 36 characters long. -/
def hyphenated (id : Uuid) : String := String.ofList id.toChars

instance : ToString Uuid := ⟨hyphenated⟩

/-- The identifier of exactly 32 digits. -/
def ofDigits? (cs : List Char) : Option Uuid :=
  if cs.length = 32 then
    (Text.foldDigits 16 Text.hexValue? 0 cs).map fun n => ⟨BitVec.ofNat 128 n⟩
  else none

/-- The identifier of five groups with hyphens between them. -/
def ofGroups? (cs : List Char) : Option Uuid :=
  if cs.length = 36 ∧ [8, 13, 18, 23].all (cs[·]? == some '-') then
    ofDigits? (cs.take 8 ++ (cs.drop 9).take 4 ++ (cs.drop 14).take 4 ++ (cs.drop 19).take 4 ++
      cs.drop 24)
  else none

/-- Reads an identifier in any of its forms. -/
def ofChars? (cs : List Char) : Option Uuid :=
  match cs with
  | '\x7b' :: rest => if rest.getLast? = some '\x7d' then ofGroups? rest.dropLast else none
  | 'u' :: 'r' :: 'n' :: ':' :: 'u' :: 'u' :: 'i' :: 'd' :: ':' :: rest => ofGroups? rest
  | cs => (ofDigits? cs).or (ofGroups? cs)

/-- Reads an identifier from a text. -/
def parse? (s : String) : Option Uuid := ofChars? s.toList

/-- The `n`-th identifier of a supply that counts in decimal digits behind a fixed front. -/
def numbered (n : Nat) : Uuid :=
  let count := (Nat.toDigits 10 n).foldl (fun acc d => acc * 16 + (Text.hexValue? d).getD 0) 0
  ⟨BitVec.ofNat 128 (0x00000000000040008000000000000000 + count)⟩

end Uuid
end Formulary
