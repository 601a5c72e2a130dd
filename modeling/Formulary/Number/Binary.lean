import Formulary.Text.Digits

/-!
# Binary numbers — rounding, reading and the shortest writing

A binary format holds the numbers `m · 2^q` whose integer `m` has at most `precision` bits and whose
exponent `q` lies in a range. Any ratio is rounded to the nearest number of a format, of two equally
near ones to that with an even integer. A number is written with the fewest decimal digits that are
rounded back to it, without an exponent.

* `Binary.Format` — the single and the double format.
* `Binary.Value` — a number, an infinity, or no number.
* `Binary.Format.ofRatio`, `Value.roundTo` — rounding.
* `Value.roundToNat`, `Format.ofInt` — to and from integers.
* `Binary.parse?` — reads a decimal text.
* `Binary.shortest`, `Binary.write` — the digits of a number and its written form.
-/

namespace Formulary.Binary

/-- A binary format: the bits of the integer and the range of the exponent. -/
structure Format where
  precision : Nat
  minExponent : Int
  maxExponent : Int
deriving DecidableEq, Repr

/-- The format of 32 bits. -/
def single : Format := ⟨24, -149, 104⟩

/-- The format of 64 bits. -/
def double : Format := ⟨53, -1074, 971⟩

/-- A value: no number, an infinity, or `± m · 2^q`. -/
inductive Value where
  | nan
  | infinite (negative : Bool)
  | finite (negative : Bool) (m : Nat) (q : Int)
deriving DecidableEq, Repr, Inhabited

/-- The quotient of two numbers rounded to the nearest integer, a half to the even one. -/
def roundHalfEven (num den : Nat) : Nat :=
  let quotient := num / den
  let rest := 2 * (num % den)
  if rest > den || (rest == den && quotient % 2 == 1) then quotient + 1 else quotient

/-- The quotient of two numbers rounded to the nearest integer, a half upwards. -/
def roundHalfUp (num den : Nat) : Nat := (2 * num + den) / (2 * den)

/-- A ratio times a power of two, as a ratio. -/
def scaleTwo (num den : Nat) (e : Int) : Nat × Nat :=
  if 0 ≤ e then (num <<< e.toNat, den) else (num, den <<< (-e).toNat)

/-- A ratio times a power of ten, as a ratio. -/
def scaleTen (num den : Nat) (e : Int) : Nat × Nat :=
  if 0 ≤ e then (num * Nat.pow 10 e.toNat, den) else (num, den * Nat.pow 10 (-e).toNat)

/-- The exponent of the greatest power of two that is not above a ratio. -/
def floorLog2 (num den : Nat) : Int :=
  let guess : Int := (Nat.log2 num : Int) - (Nat.log2 den : Int)
  let (n, d) := scaleTwo num den (-guess)
  if n < d then guess - 1 else guess

/-- The value of a format nearest to a ratio. -/
def Format.ofRatio (fmt : Format) (negative : Bool) (num den : Nat) : Value :=
  if num = 0 then .finite negative 0 fmt.minExponent
  else
    let q := max (floorLog2 num den - (fmt.precision - 1 : Nat)) fmt.minExponent
    let (n, d) := scaleTwo num den (-q)
    let m := roundHalfEven n d
    let (m, q) := if m = 1 <<< fmt.precision then (1 <<< (fmt.precision - 1), q + 1) else (m, q)
    if q > fmt.maxExponent then .infinite negative else .finite negative m q

/-- The value of a format nearest to a value. -/
def Value.roundTo (fmt : Format) : Value → Value
  | .finite negative m q =>
    let (n, d) := scaleTwo m 1 q
    fmt.ofRatio negative n d
  | v => v

/-- The nearest natural number, a half away from zero; what is negative or no number gives zero,
and what is above `bound` gives `bound`. -/
def Value.roundToNat (bound : Nat) : Value → Nat
  | .finite false m q =>
    let (n, d) := scaleTwo m 1 q
    min bound (roundHalfUp n d)
  | .infinite false => bound
  | _ => 0

/-- The value of a format nearest to an integer. -/
def Format.ofInt (fmt : Format) (n : Int) : Value := fmt.ofRatio (n < 0) n.natAbs 1

/-- The value of a format nearest to `digits · 10^e`. Exponents far out of the range of the format
are decided without a power of ten. -/
def Format.ofDecimal (fmt : Format) (negative : Bool) (digits : Nat) (e : Int) : Value :=
  let size : Int := (Nat.toDigits 10 digits).length
  if digits = 0 then .finite negative 0 fmt.minExponent
  else if size + e > 400 then .infinite negative
  else if size + e < -400 then .finite negative 0 fmt.minExponent
  else
    let (n, d) := scaleTen digits 1 e
    fmt.ofRatio negative n d

/-- Reads a signed decimal exponent. -/
def exponent? (cs : List Char) : Option Int :=
  match cs with
  | '-' :: rest => if rest.isEmpty then none
    else (Text.foldDigits 10 Text.decimalValue? 0 rest).map fun n => -(n : Int)
  | '+' :: rest => if rest.isEmpty then none
    else (Text.foldDigits 10 Text.decimalValue? 0 rest).map fun n => (n : Int)
  | [] => none
  | cs => (Text.foldDigits 10 Text.decimalValue? 0 cs).map fun n => (n : Int)

/-- Reads a decimal number without a sign: digits with at most one point among them or at their
ends, and an exponent. -/
def magnitude? (cs : List Char) : Option (Nat × Int) := do
  let whole := cs.takeWhile Text.isDigit
  let rest := cs.drop whole.length
  let (fraction, rest) :=
    match rest with
    | '.' :: rest =>
      let fraction := rest.takeWhile Text.isDigit
      (fraction, rest.drop fraction.length)
    | rest => ([], rest)
  if whole.isEmpty && fraction.isEmpty then none
  else
    let digits ← Text.foldDigits 10 Text.decimalValue? 0 (whole ++ fraction)
    let e ←
      match rest with
      | [] => some 0
      | c :: rest => if c = 'e' ∨ c = 'E' then exponent? rest else none
    return (digits, e - fraction.length)

/-- Reads a number of a format: an optional sign and a decimal number, or the name of an infinity
or of no number in either case. -/
def parse? (fmt : Format) (cs : List Char) : Option Value :=
  let (negative, rest) :=
    match cs with
    | '-' :: rest => (true, rest)
    | '+' :: rest => (false, rest)
    | cs => (false, cs)
  match String.ofList (rest.map Char.toLower) with
  | "inf" | "infinity" => some (.infinite negative)
  | "nan" => some .nan
  | _ => (magnitude? rest).map fun (digits, e) => fmt.ofDecimal negative digits e

/-- The exponent of the greatest power of ten that is not above a ratio; `guess` is at or above
it. -/
def floorLog10 (num den : Nat) (guess : Int) : Nat → Int
  | 0 => guess
  | fuel + 1 =>
    let (n, d) := scaleTen num den (-guess)
    if n < d then floorLog10 num den (guess - 1) fuel else guess

/-- Whether the grid point `point · 10^k` is rounded to `m · 2^q`. -/
def readsBack (fmt : Format) (m : Nat) (q : Int) (point : Nat) (k : Int) : Bool :=
  let (n, d) := scaleTen point 1 k
  fmt.ofRatio false n d == .finite false m q

/-- The fewest digits, as an integer and an exponent of ten, that are rounded to `m · 2^q`; `count`
is the number of digits tried next and `fuel` bounds them. -/
def shortestFrom (fmt : Format) (m : Nat) (q : Int) (top : Int) (count : Nat) : Nat → Nat × Int
  | 0 => (0, 0)
  | fuel + 1 =>
    let k : Int := top - (count - 1 : Nat)
    let (num, den) := scaleTwo m 1 q
    let (n, d) := scaleTen num den (-k)
    let below := n / d
    let nearBelow := 2 * (n % d) < d
    let lowHit := readsBack fmt m q below k
    let highHit := readsBack fmt m q (below + 1) k
    if lowHit && (nearBelow || !highHit) then (below, k)
    else if highHit then (below + 1, k)
    else shortestFrom fmt m q top (count + 1) fuel

/-- The fewest digits that are rounded to a positive number of a format. -/
def shortest (fmt : Format) (m : Nat) (q : Int) : Nat × Int :=
  let (num, den) := scaleTwo m 1 q
  let guess : Int := (Nat.toDigits 10 num).length - (Nat.toDigits 10 den).length
  shortestFrom fmt m q (floorLog10 num den guess 3) 1 20

/-- An integer times a power of ten in positional notation. -/
def positional (digits : Nat) (k : Int) : List Char :=
  let ds := Nat.toDigits 10 digits
  if 0 ≤ k then ds ++ List.replicate k.toNat '0'
  else
    let places := (-k).toNat
    let ds := Text.padLeft (places + 1) '0' ds
    let fraction := ((ds.drop (ds.length - places)).reverse.dropWhile (· == '0')).reverse
    ds.take (ds.length - places) ++ (if fraction.isEmpty then [] else '.' :: fraction)

/-- The shortest written form of a value of a format. -/
def write (fmt : Format) : Value → List Char
  | .nan => "NaN".toList
  | .infinite negative => (if negative then "-" else "").toList ++ "inf".toList
  | .finite negative m q =>
    (if negative then ['-'] else []) ++
      if m = 0 then ['0']
      else
        let (digits, k) := shortest fmt m q
        positional digits k

end Formulary.Binary
