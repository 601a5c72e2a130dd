import Formulary.Number.Binary

/-!
# Single numbers — the numbers of 32 bits that font sizes are

A single number is its 32 bits: a sign, eight bits of exponent and 23 bits of integer.

* `Binary32.value`, `Binary32.ofValue` — between bits and values.
* `Binary32.parse?`, `Binary32.toString` — the decimal text.
* `Binary32.isPositive` — whether it is a finite number above zero.
* `Binary32.roundToNat` — the nearest natural number, a half away from zero.
-/

namespace Formulary

/-- A number of 32 bits. -/
structure Binary32 where
  bits : UInt32
deriving DecidableEq, Repr, Inhabited

namespace Binary32

/-- The value of the bits. -/
def value (x : Binary32) : Binary.Value :=
  let n := x.bits.toNat
  let negative := n / 0x80000000 == 1
  let field : Nat := n / 0x800000 % 256
  let integer := n % 0x800000
  if field = 255 then if integer = 0 then .infinite negative else .nan
  else if field = 0 then .finite negative integer (-149)
  else .finite negative (integer + 0x800000) ((field : Int) - 150)

/-- The bits of a value of the single format. -/
def ofValue : Binary.Value → Binary32
  | .nan => ⟨0x7FC00000⟩
  | .infinite negative => ⟨if negative then 0xFF800000 else 0x7F800000⟩
  | .finite negative m q =>
    let sign := if negative then 0x80000000 else 0
    let magnitude := if m < 0x800000 then m else (q + 150).toNat * 0x800000 + (m - 0x800000)
    ⟨UInt32.ofNat (sign + magnitude)⟩

/-- The single number nearest to a value. -/
def nearest (v : Binary.Value) : Binary32 := ofValue (v.roundTo Binary.single)

/-- A natural number as a single number. -/
def ofNat (n : Nat) : Binary32 := nearest (.finite false n 0)

/-- Reads a decimal text. -/
def parse? (s : String) : Option Binary32 := (Binary.parse? Binary.single s.toList).map ofValue

/-- The shortest text that is read back. -/
protected def toString (x : Binary32) : String :=
  String.ofList (Binary.write Binary.single x.value)

instance : ToString Binary32 := ⟨Binary32.toString⟩

/-- Whether the number is finite and above zero. -/
def isPositive (x : Binary32) : Bool :=
  match x.value with
  | .finite false m _ => m != 0
  | _ => false

/-- The nearest natural number up to `bound`, a half away from zero. -/
def roundToNat (bound : Nat) (x : Binary32) : Nat := x.value.roundToNat bound

/-- The four bytes of the bits, the lowest first. -/
def bytes (x : Binary32) : List UInt8 :=
  [x.bits.toUInt8, (x.bits >>> 8).toUInt8, (x.bits >>> 16).toUInt8, (x.bits >>> 24).toUInt8]

end Binary32
end Formulary
