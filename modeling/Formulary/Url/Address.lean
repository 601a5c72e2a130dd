import Formulary.Text.Digits
import Formulary.Url.Domain

/-!
# Host addresses — numbers that stand for hosts

A host name whose last label is a number is an address of four bytes, whose parts may be decimal,
octal or hexadecimal and the last of which fills the bytes left. A host in brackets is an address
of eight 16-bit pieces, in which one run of zeros may be left out.

* `parseV4?`, `writeV4` — four-byte addresses.
* `parseV6?`, `writeV6` — addresses of eight pieces.
-/

namespace Formulary.Url

/-- The number that a part of a four-byte address stands for; parts without digits are no
numbers. -/
def number? (part : List Char) : Option Nat :=
  let digits (base : Nat) (cs : List Char) : Option Nat :=
    Text.foldDigits base
      (fun c => (Text.hexValue? c).filter (· < base)) 0 cs
  match part with
  | [] => none
  | '0' :: 'x' :: rest => digits 16 rest
  | '0' :: 'X' :: rest => digits 16 rest
  | '0' :: c :: rest => digits 8 (c :: rest)
  | part => digits 10 part

/-- Whether the last label of a name is a number; a single dot behind it does not count. -/
def endsInNumber (host : List Char) : Bool :=
  let parts := (Text.split '.' host).reverse
  let last :=
    match parts with
    | [] :: last :: _ => last
    | [[]] => []
    | last :: _ => last
    | [] => []
  (!last.isEmpty && last.all Text.isDigit) || (number? last).isSome

/-- The number of a four-byte address. -/
def parseV4? (host : List Char) : Option Nat := do
  let parts := Text.split '.' host
  let parts := if parts.getLast? = some [] then parts.dropLast else parts
  if parts.length > 4 then none
  else
    let numbers ← parts.mapM number?
    let last ← numbers.getLast?
    let front := numbers.dropLast
    if 1 <<< (32 - 8 * front.length) ≤ last || front.any (· > 255) then none
    else some (front.zipIdx.foldl (fun total (n, i) => total + n <<< (8 * (3 - i))) last)

/-- An address of four bytes, as decimal numbers between dots. -/
def writeV4 (n : Nat) : List Char :=
  List.intercalate ['.'] ([n >>> 24 % 256, n >>> 16 % 256, n >>> 8 % 256, n % 256].map
    (Nat.toDigits 10))

/-- Reads up to `left` hexadecimal digits: the value, the number of digits, and what follows. -/
def hexPiece (left value count : Nat) (cs : List Char) : Nat × Nat × List Char :=
  match left, cs with
  | left + 1, c :: rest =>
    match Text.hexValue? c with
    | some d => hexPiece left (value * 16 + d) (count + 1) rest
    | none => (value, count, cs)
  | _, _ => (value, count, cs)

/-- Reads the decimal part of four bytes: no leading zeros, at most 255. -/
def byteGroup? (value : Option Nat) : List Char → Option (Nat × List Char)
  | [] => value.map (·, [])
  | c :: rest =>
    match Text.decimalValue? c with
    | some d =>
      match value with
      | none => byteGroup? (some d) rest
      | some 0 => none
      | some v => if v * 10 + d > 255 then none else byteGroup? (some (v * 10 + d)) rest
    | none => value.map (·, c :: rest)

/-- Four bytes between dots that end an address, as two pieces. -/
def embeddedV4? (cs : List Char) : Option (List Nat) := do
  let (a, cs) ← byteGroup? none cs
  let cs ← match cs with | '.' :: cs => some cs | _ => none
  let (b, cs) ← byteGroup? none cs
  let cs ← match cs with | '.' :: cs => some cs | _ => none
  let (c, cs) ← byteGroup? none cs
  let cs ← match cs with | '.' :: cs => some cs | _ => none
  let (d, cs) ← byteGroup? none cs
  if cs.isEmpty then some [a * 256 + b, c * 256 + d] else none

/-- Reads pieces: `pieces` holds those read, last first, with one zero for a run left out, and `gap`
says how many stand in front of the rest of the run. `fuel` bounds the number of pieces. -/
def pieces? (fuel : Nat) (pieces : List Nat) (gap : Option Nat) (cs : List Char) :
    Option (List Nat × Option Nat) :=
  match fuel, cs with
  | _, [] => some (pieces, gap)
  | 0, _ => none
  | fuel + 1, cs =>
    if pieces.length = 8 then none
    else
      match cs with
      | ':' :: rest =>
        if gap.isSome then none else pieces? fuel (0 :: pieces) (some (pieces.length + 1)) rest
      | cs =>
        let (value, count, rest) := hexPiece 4 0 0 cs
        match rest with
        | '.' :: _ =>
          if count = 0 || pieces.length > 6 then none
          else (embeddedV4? cs).map fun two => (two.reverse ++ pieces, gap)
        | ':' :: rest =>
          if rest.isEmpty then none
          else pieces? fuel (value :: pieces) gap rest
        | [] => some (value :: pieces, gap)
        | _ => none

/-- The eight pieces of an address, written between brackets. -/
def parseV6? (cs : List Char) : Option (List Nat) := do
  let (pieces, gap) ←
    match cs with
    | ':' :: ':' :: rest => pieces? 20 [0] (some 1) rest
    | [] | ':' :: _ => none
    | cs => pieces? 20 [] none cs
  let pieces := pieces.reverse
  match gap with
  | some gap =>
    some (pieces.take gap ++ List.replicate (8 - pieces.length) 0 ++ pieces.drop gap)
  | none => if pieces.length = 8 then some pieces else none

/-- The start and length of the first longest run of zeros. -/
def longestZeros (pieces : List Nat) : Nat × Nat :=
  let runs := (List.range pieces.length).map fun i =>
    (i, ((pieces.drop i).takeWhile (· == 0)).length)
  runs.foldl (fun best run => if run.2 > best.2 then run else best) (0, 0)

/-- An address of eight pieces: the first longest run of two or more zeros is left out. -/
def writeV6 (pieces : List Nat) : List Char :=
  let join (ps : List Nat) := List.intercalate [':'] (ps.map Text.hexDigits)
  let (start, length) := longestZeros pieces
  if length < 2 then join pieces
  else join (pieces.take start) ++ "::".toList ++ join (pieces.drop (start + length))

end Formulary.Url
