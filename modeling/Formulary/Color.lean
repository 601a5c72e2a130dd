import Formulary.Text.Digits
import Formulary.Text.Whitespace

/-!
# Colours — four channels and their written form

A colour has four channels of eight bits, alpha last. It is written `#rrggbb` when it is opaque
and `#rrggbbaa` otherwise.

* `Color.toString` — the written form.
* `Color.parse` — reads six or eight digits behind any number of `#` signs, blanks around them
  ignored. A channel is two characters that read as a hexadecimal number, so that a plus sign may
  stand in place of a leading digit.
-/

namespace Formulary

/-- A colour of straight alpha. -/
structure Color where
  red : UInt8
  green : UInt8
  blue : UInt8
  alpha : UInt8 := 255
deriving DecidableEq, Repr, Inhabited

namespace Color

/-- Opaque black. -/
def black : Color := ⟨0, 0, 0, 255⟩

/-- The characters of the written form. -/
def toChars (c : Color) : List Char :=
  let opaquePart := '#' :: (Text.hexPair c.red ++ Text.hexPair c.green ++ Text.hexPair c.blue)
  if c.alpha = 255 then opaquePart else opaquePart ++ Text.hexPair c.alpha

/-- The written form: `#rrggbb` for an opaque colour, else `#rrggbbaa`. -/
protected def toString (c : Color) : String := String.ofList c.toChars

instance : ToString Color := ⟨Color.toString⟩

/-- A text that is no colour. -/
structure ParseError where
  input : String
deriving DecidableEq, Repr

/-- The text of the error. -/
def ParseError.message (e : ParseError) : String :=
  "invalid colour `" ++ e.input ++ "`: expected #RRGGBB or #RRGGBBAA"

/-- The channel that two characters stand for. -/
def channel? (a b : Char) : Option UInt8 :=
  (Text.unsigned? 16 Text.hexValue? [a, b]).map UInt8.ofNat

/-- The colour of exactly six or eight channel characters. -/
def ofHex? (cs : List Char) : Option Color :=
  match cs with
  | [r₁, r₂, g₁, g₂, b₁, b₂] => do
    return ⟨← channel? r₁ r₂, ← channel? g₁ g₂, ← channel? b₁ b₂, 255⟩
  | [r₁, r₂, g₁, g₂, b₁, b₂, a₁, a₂] => do
    return ⟨← channel? r₁ r₂, ← channel? g₁ g₂, ← channel? b₁ b₂, ← channel? a₁ a₂⟩
  | _ => none

/-- Reads a written colour. -/
def parse (s : String) : Except ParseError Color :=
  match ofHex? ((Text.trimChars s.toList).dropWhile (· == '#')) with
  | some c => .ok c
  | none => .error ⟨s⟩

end Color
end Formulary
