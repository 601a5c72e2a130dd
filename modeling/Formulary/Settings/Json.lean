import Formulary.Settings.Toml

/-!
# JSON — settings as one object

A file of this format is one object. Of two members of one name the last one holds.

* `Json.string?`, `Json.number?` — strings with their escapes, and numbers.
* `Json.parse` — a whole file.
-/

namespace Formulary.Settings.Json

/-- The blanks between the parts of a file. -/
def isBlank (c : Char) : Bool := c == ' ' || c == '\t' || c == '\n' || c == '\r'

/-- What is behind blanks. -/
def skip (cs : List Char) : List Char := cs.dropWhile isBlank

/-- The character that a letter behind a backslash stands for. -/
def escape? : Char → Option Char
  | '/' => some '/'
  | c => Toml.escape? c

/-- The number of four hexadecimal digits. -/
def unit? (a b c d : Char) : Option Nat := Text.foldDigits 16 Text.hexValue? 0 [a, b, c, d]

/-- The character of a pair of surrogates. -/
def pair? (high low : Nat) : Option Char :=
  if 0xD800 ≤ high ∧ high < 0xDC00 ∧ 0xDC00 ≤ low ∧ low < 0xE000 then
    some (Char.ofNat (0x10000 + (high - 0xD800) * 0x400 + (low - 0xDC00)))
  else none

/-- The string up to its closing quote; `read` holds what was read, the last character first. A
character outside the first plane may be written as two surrogates. -/
def string? (read : List Char) : List Char → Option (String × List Char)
  | [] => none
  | '"' :: rest => some (String.ofList read.reverse, rest)
  | '\\' :: 'u' :: a :: b :: c :: d :: rest =>
    match Toml.scalar? [a, b, c, d], unit? a b c d, rest with
    | some char, _, rest => string? (char :: read) rest
    | none, some high, '\\' :: 'u' :: e :: f :: g :: h :: rest =>
      match (unit? e f g h).bind (pair? high) with
      | some char => string? (char :: read) rest
      | none => none
    | _, _, _ => none
  | '\\' :: c :: rest =>
    match escape? c with
    | some char => string? (char :: read) rest
    | none => none
  | c :: rest => if '\x20' ≤ c ∧ c ≠ '\\' then string? (c :: read) rest else none

/-- Whether a character may stand in a number. -/
def isNumberChar (c : Char) : Bool :=
  Text.isDigit c || c == '-' || c == '+' || c == '.' || c == 'e' || c == 'E'

/-- A number: an integer if it is written without a point and an exponent and has 64 bits. -/
def number? (cs : List Char) : Option Value := do
  let (negative, digits) :=
    match cs with
    | '-' :: rest => (true, rest)
    | cs => (false, cs)
  let whole := digits.takeWhile Text.isDigit
  if whole.isEmpty || (whole.head? == some '0' && whole.length != 1) then none
  let rest := digits.drop whole.length
  let fraction := match rest with
    | '.' :: rest => rest.takeWhile Text.isDigit
    | _ => []
  if rest.head? == some '.' && fraction.isEmpty then none
  match ← Binary.parse? Binary.double digits with
  | .finite _ m q =>
    let asNumber := Value.number (.finite negative m q)
    if rest.isEmpty then
      let n ← Text.foldDigits 10 Text.decimalValue? 0 whole
      if negative && n == 0 then asNumber
      else (Toml.bounded? (if negative then -(n : Int) else n)).getD asNumber
    else asNumber
  | _ => none

/-- A word or a number. -/
def word? (cs : List Char) : Option (Value × List Char) :=
  if "true".toList.isPrefixOf cs then some (.boolean true, cs.drop 4)
  else if "false".toList.isPrefixOf cs then some (.boolean false, cs.drop 5)
  else if "null".toList.isPrefixOf cs then some (.null, cs.drop 4)
  else
    let body := cs.takeWhile isNumberChar
    (number? body).map fun v => (v, cs.drop body.length)

mutual

/-- A value. -/
def value? (cs : List Char) : Nat → Option (Value × List Char)
  | 0 => none
  | fuel + 1 =>
    match skip cs with
    | [] => none
    | '"' :: rest => (string? [] rest).map fun (s, rest) => (.text s, rest)
    | '[' :: rest =>
      match skip rest with
      | ']' :: rest => some (.list [], rest)
      | rest => (items? [] rest fuel).map fun (vs, rest) => (.list vs, rest)
    | c :: rest =>
      if c = '\x7b' then
        match skip rest with
        | d :: more =>
          if d = '\x7d' then some (.table [], more)
          else (members? [] (d :: more) fuel).map fun (es, rest) => (.table es, rest)
        | [] => none
      else word? (c :: rest)

/-- The items of a list up to its closing bracket. -/
def items? (read : List Value) (cs : List Char) : Nat → Option (List Value × List Char)
  | 0 => none
  | fuel + 1 => do
    let (v, rest) ← value? cs fuel
    match skip rest with
    | ',' :: rest => items? (v :: read) rest fuel
    | ']' :: rest => return ((v :: read).reverse, rest)
    | _ => none

/-- The members of an object up to its closing brace. -/
def members? (read : Layer) (cs : List Char) : Nat → Option (Layer × List Char)
  | 0 => none
  | fuel + 1 => do
    match skip cs with
    | '"' :: rest =>
      let (key, rest) ← string? [] rest
      match skip rest with
      | ':' :: rest =>
        let (v, rest) ← value? rest fuel
        let es := Table.setEntry key v read
        match skip rest with
        | ',' :: rest => members? es rest fuel
        | c :: rest => if c = '\x7d' then return (es, rest) else none
        | [] => none
      | _ => none
    | _ => none

end

/-- Reads a whole file. -/
def parse (text : String) : Option Layer :=
  let cs := text.toList
  match value? cs (2 * cs.length + 2) with
  | some (.table es, rest) => if (skip rest).isEmpty then some es else none
  | _ => none

end Formulary.Settings.Json
