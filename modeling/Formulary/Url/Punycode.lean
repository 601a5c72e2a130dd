/-!
# Punycode — labels of any script in letters, digits and hyphens

A label is written as its ASCII characters, a hyphen if there are any, and a run of digits in base
36 that says where the other characters stand. The digits are differences, and the weight of the
digits adapts to the sizes met so far.

* `encode` — the written form of a label, without its prefix.
* `decode?` — the label of a written form.
-/

namespace Formulary.Url.Punycode

/-- The digit of a number below 36: a letter, then the ten figures. -/
def digit (d : Nat) : Char :=
  if d < 26 then Char.ofNat (0x61 + d) else Char.ofNat (0x30 + (d - 26))

/-- The number that a digit stands for. -/
def digitValue? (c : Char) : Option Nat :=
  let n := c.toNat
  if 0x61 ≤ n && n ≤ 0x7A then some (n - 0x61)
  else if 0x41 ≤ n && n ≤ 0x5A then some (n - 0x41)
  else if 0x30 ≤ n && n ≤ 0x39 then some (n - 0x30 + 26)
  else none

/-- The threshold of the digit at weight position `k`. -/
def threshold (k bias : Nat) : Nat :=
  if k ≤ bias then 1 else if bias + 26 ≤ k then 26 else k - bias

theorem threshold_pos (k bias : Nat) : 0 < threshold k bias := by
  simp only [threshold]
  split
  · omega
  · split <;> omega

/-- Divides `delta` by 35 until it is at most 455, counting 36 for each division. -/
def adaptLoop (delta k : Nat) : Nat × Nat :=
  if delta > 455 then adaptLoop (delta / 35) (k + 36) else (delta, k)
termination_by delta
decreasing_by omega

/-- The bias after a difference of `delta`. -/
def adapt (delta points : Nat) (first : Bool) : Nat :=
  let delta := if first then delta / 700 else delta / 2
  let (delta, k) := adaptLoop (delta + delta / points) 0
  k + 36 * delta / (delta + 38)

/-- The digits of a difference, last first in `acc`. -/
def encodeDigits (acc : List Char) (q k bias : Nat) : List Char :=
  if q < threshold k bias then digit q :: acc
  else
    let left := q - threshold k bias
    let base := 36 - threshold k bias
    encodeDigits (digit (threshold k bias + left % base) :: acc) (left / base) (k + 36) bias
termination_by q
decreasing_by
  have := threshold_pos k bias
  have : (q - threshold k bias) / (36 - threshold k bias) ≤ q - threshold k bias :=
    Nat.div_le_self _ _
  omega

/-- The state of writing: what was written, last first, the next code point to place, the
difference so far, the bias, and the number of characters placed. -/
structure Writing where
  out : List Char
  delta : Nat
  bias : Nat
  placed : Nat

/-- Passes over the label and places every occurrence of the code point `n`. -/
def placeAll (basic n : Nat) (w : Writing) : List Char → Writing
  | [] => w
  | c :: rest =>
    let m := c.toNat
    if m < n then placeAll basic n { w with delta := w.delta + 1 } rest
    else if m = n then
      placeAll basic n
        { out := encodeDigits w.out w.delta 36 w.bias
          delta := 0
          bias := adapt w.delta (w.placed + 1) (w.placed == basic)
          placed := w.placed + 1 } rest
    else placeAll basic n w rest

/-- Places the code points of `points`, which increase, one after the other; `n` is the least that
is not placed. -/
def encodeLoop (label : List Char) (basic : Nat) (n : Nat) (w : Writing) : List Nat → Writing
  | [] => w
  | m :: rest =>
    let w := placeAll basic m { w with delta := w.delta + (m - n) * (w.placed + 1) } label
    encodeLoop label basic (m + 1) { w with delta := w.delta + 1 } rest

/-- The written form of a label. -/
def encode (label : List Char) : List Char :=
  let ascii := label.filter (·.toNat < 128)
  let points := ((label.filter (128 ≤ ·.toNat)).map Char.toNat).mergeSort.eraseReps
  let start := if ascii.isEmpty then [] else '-' :: ascii.reverse
  (encodeLoop label ascii.length 128 ⟨start, 0, 72, ascii.length⟩ points).out.reverse

/-- Reads the digits of one difference: its value and the digits left. -/
def decodeDigits? (value weight k bias : Nat) : List Char → Option (Nat × List Char)
  | [] => none
  | c :: rest =>
    match digitValue? c with
    | none => none
    | some d =>
      let t := threshold k bias
      let value := value + d * weight
      if d < t then some (value, rest)
      else decodeDigits? value (weight * (36 - t)) (k + 36) bias rest

/-- Reads differences and inserts characters until the digits end; `fuel` bounds their number. -/
def decodeLoop? (fuel : Nat) (out : List Char) (n i bias : Nat) (cs : List Char) :
    Option (List Char) :=
  match cs, fuel with
  | [], _ => some out
  | _, 0 => none
  | cs, fuel + 1 =>
    match decodeDigits? i 1 36 bias cs with
    | none => none
    | some (value, rest) =>
      let size := out.length + 1
      let n := n + value / size
      let place := value % size
      if n < 0x110000 && !(0xD800 ≤ n && n < 0xE000) then
        decodeLoop? fuel (out.insertIdx place (Char.ofNat n)) n (place + 1)
          (adapt (value - i) size (i == 0)) rest
      else none

/-- The label of a written form. -/
def decode? (cs : List Char) : Option (List Char) :=
  let tail := (cs.reverse.takeWhile (· != '-')).reverse
  let front := cs.take (cs.length - tail.length - 1)
  if front.all (·.toNat < 128) then decodeLoop? (tail.length + 1) front 128 0 72 tail else none

end Formulary.Url.Punycode
