import Formulary.Settings.Value

/-!
# TOML — tables under headings, one key and value on a line

A file of this format is read into a layer of settings, or refused. A table may be opened by one
heading only, and a key may be set once; both are seen from how each table came to be.

* `Node`, `Origin` — the tables of a file while it is read.
* `Node.toValue` — the value of a node when all is read.
* `Reader` functions — strings, numbers, times, lists and keys.
* `Toml.parse` — a whole file.
-/

namespace Formulary.Settings.Toml

/-! ## The tables of a file -/

/-- How a table came to be. -/
inductive Origin where
  /-- It was passed through by a heading. -/
  | passed
  /-- It was passed through by a dotted key. -/
  | dotted
  /-- A heading opened it. -/
  | heading
deriving DecidableEq, Repr

/-- A value, a table that may still grow, or a list of tables with the last one in front. -/
inductive Node where
  | leaf (value : Value)
  | table (origin : Origin) (entries : List (String × Node))
  | tables (items : List (List (String × Node)))
deriving Inhabited

/-- The nodes of a table under their keys. -/
abbrev Nodes := List (String × Node)

mutual

/-- The value of a node. -/
def Node.toValue : Node → Value
  | .leaf v => v
  | .table _ es => .table (valuesOf es)
  | .tables items => .list (tablesOf items).reverse

/-- The values of the nodes of a table. -/
def valuesOf : Nodes → Layer
  | [] => []
  | (k, n) :: rest => (k, n.toValue) :: valuesOf rest

/-- The values of several tables. -/
def tablesOf : List Nodes → List Value
  | [] => []
  | es :: rest => .table (valuesOf es) :: tablesOf rest

end

/-- Sets a new key in a table, through tables that its dots pass. -/
def setKey (value : Value) (nodes : Nodes) : List String → Option Nodes
  | [] => none
  | [key] =>
    match nodes.lookup key with
    | none => some (nodes ++ [(key, .leaf value)])
    | some _ => none
  | key :: rest =>
    match nodes.lookup key with
    | none => (setKey value [] rest).map fun es => nodes ++ [(key, .table .dotted es)]
    | some (.table origin es) =>
      if origin = .heading then none
      else (setKey value es rest).map fun es => Table.setEntry key (.table origin es) nodes
    | some _ => none

/-- Changes the table that a path leads to; in a list of tables that is the last one. -/
def changeAt (f : Nodes → Option Nodes) (nodes : Nodes) : List String → Option Nodes
  | [] => f nodes
  | key :: rest =>
    match nodes.lookup key with
    | none => (changeAt f [] rest).map fun es => nodes ++ [(key, .table .passed es)]
    | some (.table origin es) =>
      (changeAt f es rest).map fun es => Table.setEntry key (.table origin es) nodes
    | some (.tables (last :: items)) =>
      (changeAt f last rest).map fun es => Table.setEntry key (.tables (es :: items)) nodes
    | some _ => none

/-- Opens a table under a key: it must be new or only passed through before. -/
def openTable (key : String) (nodes : Nodes) : Option Nodes :=
  match nodes.lookup key with
  | none => some (nodes ++ [(key, .table .heading [])])
  | some (.table .passed es) => some (Table.setEntry key (.table .heading es) nodes)
  | some _ => none

/-- Adds a table to the list of tables under a key. -/
def addTable (key : String) (nodes : Nodes) : Option Nodes :=
  match nodes.lookup key with
  | none => some (nodes ++ [(key, .tables [[]])])
  | some (.tables items) => some (Table.setEntry key (.tables ([] :: items)) nodes)
  | some _ => none

/-! ## Blanks and ends of lines -/

/-- A space or a tab. -/
def isGap (c : Char) : Bool := c == ' ' || c == '\t'

/-- Whether a character may stand in a comment or a literal string. -/
def isPlain (c : Char) : Bool := c == '\t' || ('\x20' ≤ c && c != '\x7f')

/-- What is behind spaces and tabs. -/
def skipGaps (cs : List Char) : List Char := cs.dropWhile isGap

/-- What is behind a comment, if one starts here. -/
def skipComment : List Char → List Char
  | '#' :: rest => rest.dropWhile isPlain
  | cs => cs

/-- What is behind the end of a line. -/
def lineBreak? : List Char → Option (List Char)
  | '\n' :: rest => some rest
  | '\r' :: '\n' :: rest => some rest
  | _ => none

/-- What is behind the rest of a line, which holds at most a comment. -/
def lineEnd? (cs : List Char) : Option (List Char) :=
  match skipComment (skipGaps cs) with
  | [] => some []
  | cs => lineBreak? cs

/-- What is behind blanks, comments and ends of lines. -/
def skipLines (cs : List Char) : Nat → List Char
  | 0 => cs
  | fuel + 1 =>
    let rest := skipComment (skipGaps cs)
    match lineBreak? rest with
    | some rest => skipLines rest fuel
    | none => rest

/-! ## Strings -/

/-- The character that a letter behind a backslash stands for. -/
def escape? : Char → Option Char
  | 'b' => some '\x08'
  | 't' => some '\t'
  | 'n' => some '\n'
  | 'f' => some '\x0c'
  | 'r' => some '\r'
  | '"' => some '"'
  | '\\' => some '\\'
  | _ => none

/-- The character whose number some digits are. -/
def scalar? (digits : List Char) : Option Char := do
  let n ← Text.foldDigits 16 Text.hexValue? 0 digits
  if n < 0xD800 ∨ (0xDFFF < n ∧ n < 0x110000) then some (Char.ofNat n) else none

/-- The string up to its closing quote; `read` holds what was read, the last character first. -/
def basicString (read : List Char) : List Char → Option (String × List Char)
  | [] => none
  | '"' :: rest => some (String.ofList read.reverse, rest)
  | '\\' :: 'u' :: a :: b :: c :: d :: rest =>
    match scalar? [a, b, c, d] with
    | some char => basicString (char :: read) rest
    | none => none
  | '\\' :: 'U' :: a :: b :: c :: d :: e :: f :: g :: h :: rest =>
    match scalar? [a, b, c, d, e, f, g, h] with
    | some char => basicString (char :: read) rest
    | none => none
  | '\\' :: c :: rest =>
    match escape? c with
    | some char => basicString (char :: read) rest
    | none => none
  | c :: rest => if isPlain c && c != '\\' then basicString (c :: read) rest else none

/-- The quotes at the start of a text, at most `n`. -/
def quotes (quote : Char) : Nat → List Char → Nat
  | n + 1, c :: rest => if c = quote then quotes quote n rest + 1 else 0
  | _, _ => 0

/-- Whether a backslash before a text ends its line. -/
def endsLine (cs : List Char) : Bool := (lineBreak? (skipGaps cs)).isSome

/-- The string of several lines up to its three closing quotes, of which up to two more belong to
the string. Behind a backslash at the end of a line all blanks are left out. -/
def basicLines (skipping : Bool) (read : List Char) : List Char → Option (String × List Char)
  | [] => none
  | '"' :: '"' :: '"' :: rest =>
    let more := quotes '"' 2 rest
    some (String.ofList (read.reverse ++ List.replicate more '"'), rest.drop more)
  | '\\' :: 'u' :: a :: b :: c :: d :: rest =>
    match scalar? [a, b, c, d] with
    | some char => basicLines false (char :: read) rest
    | none => none
  | '\\' :: 'U' :: a :: b :: c :: d :: e :: f :: g :: h :: rest =>
    match scalar? [a, b, c, d, e, f, g, h] with
    | some char => basicLines false (char :: read) rest
    | none => none
  | '\\' :: c :: rest =>
    match escape? c with
    | some char => basicLines false (char :: read) rest
    | none => if endsLine (c :: rest) then basicLines true read rest else none
  | '\r' :: '\n' :: rest => basicLines skipping (if skipping then read else '\n' :: read) rest
  | c :: rest =>
    if c = '\n' ∨ isGap c then basicLines skipping (if skipping then read else c :: read) rest
    else if isPlain c && c != '\\' then basicLines false (c :: read) rest
    else none

/-- The literal string up to its closing quote. -/
def literalString (cs : List Char) : Option (String × List Char) :=
  let body := cs.takeWhile fun c => isPlain c && c != '\''
  match cs.drop body.length with
  | '\'' :: rest => some (String.ofList body, rest)
  | _ => none

/-- The literal string of several lines up to its three closing quotes. -/
def literalLines (read : List Char) : List Char → Option (String × List Char)
  | [] => none
  | '\'' :: '\'' :: '\'' :: rest =>
    let more := quotes '\'' 2 rest
    some (String.ofList (read.reverse ++ List.replicate more '\''), rest.drop more)
  | '\r' :: '\n' :: rest => literalLines ('\n' :: read) rest
  | c :: rest => if c = '\n' ∨ isPlain c then literalLines (c :: read) rest else none

/-- What is behind the end of a line, if the text starts with one. -/
def skipLineBreak (cs : List Char) : List Char := (lineBreak? cs).getD cs

/-- A string of any of the four kinds. -/
def string? : List Char → Option (String × List Char)
  | '"' :: '"' :: '"' :: rest => basicLines false [] (skipLineBreak rest)
  | '\'' :: '\'' :: '\'' :: rest => literalLines [] (skipLineBreak rest)
  | '"' :: rest => basicString [] rest
  | '\'' :: rest => literalString rest
  | _ => none

/-! ## Numbers and times -/

/-- Digits without the single underscores between them; other underscores are refused. -/
def joinDigits (isDigit : Char → Bool) : List Char → Option (List Char)
  | [] => none
  | [c] => if isDigit c then some [c] else none
  | c :: '_' :: rest => if isDigit c then (joinDigits isDigit rest).map (c :: ·) else none
  | c :: rest => if isDigit c then (joinDigits isDigit rest).map (c :: ·) else none

/-- Decimal digits that do not start with a zero unless they are just one zero. -/
def wholeDigits? (cs : List Char) : Option (List Char) := do
  let ds ← joinDigits Text.isDigit cs
  if ds.head? = some '0' ∧ ds.length ≠ 1 then none else some ds

/-- A sign and what is behind it. -/
def sign (cs : List Char) : Bool × List Char :=
  match cs with
  | '-' :: rest => (true, rest)
  | '+' :: rest => (false, rest)
  | cs => (false, cs)

/-- An integer of 64 bits. -/
def bounded? (n : Int) : Option Value :=
  if -0x8000000000000000 ≤ n ∧ n < 0x8000000000000000 then some (.integer n) else none

/-- The value of digits of a base. -/
def based? (base : Nat) (cs : List Char) : Option Value := do
  let digit? (c : Char) : Option Nat := (Text.hexValue? c).filter (· < base)
  let ds ← joinDigits (fun c => (digit? c).isSome) cs
  bounded? (← Text.foldDigits base digit? 0 ds)

/-- An integer. -/
def integer? (cs : List Char) : Option Value :=
  match cs with
  | '0' :: 'x' :: rest => based? 16 rest
  | '0' :: 'o' :: rest => based? 8 rest
  | '0' :: 'b' :: rest => based? 2 rest
  | cs => do
    let (negative, rest) := sign cs
    let n ← Text.foldDigits 10 Text.decimalValue? 0 (← wholeDigits? rest)
    bounded? (if negative then -(n : Int) else n)

/-- A number with a point or an exponent, an infinity, or no number. -/
def float? (cs : List Char) : Option Value := do
  let (negative, rest) := sign cs
  if rest = "inf".toList then return .number (.infinite negative)
  if rest = "nan".toList then return .number .nan
  let isExponent (c : Char) : Bool := c == 'e' || c == 'E'
  let mantissa := rest.takeWhile fun c => !isExponent c
  let exponent ← match rest.drop mantissa.length with
    | [] => some []
    | _ :: cs => (joinDigits Text.isDigit (sign cs).2).map fun ds =>
      'e' :: (if (sign cs).1 then '-' :: ds else ds)
  let whole := mantissa.takeWhile (· != '.')
  let fraction ← match mantissa.drop whole.length with
    | [] => some []
    | _ :: cs => (joinDigits Text.isDigit cs).map ('.' :: ·)
  if fraction.isEmpty && exponent.isEmpty then none
  let digits := (← wholeDigits? whole) ++ fraction ++ exponent
  match ← Binary.parse? Binary.double digits with
  | .finite _ m q => return .number (.finite negative m q)
  | .infinite _ => if negative then return .number (.infinite true) else none
  | .nan => none

/-- A number of exactly `width` digits in a range. -/
def field? (width low high : Nat) (cs : List Char) : Option Nat := do
  if cs.length ≠ width then none
  let n ← Text.foldDigits 10 Text.decimalValue? 0 cs
  if low ≤ n ∧ n ≤ high then some n else none

/-- The number of days of a month. -/
def daysOf (year month : Nat) : Nat :=
  if month = 2 then
    if (year % 4 = 0 ∧ year % 100 ≠ 0) ∨ year % 400 = 0 then 29 else 28
  else if month = 4 ∨ month = 6 ∨ month = 9 ∨ month = 11 then 30
  else 31

/-- Whether a text is a date. -/
def isDate (cs : List Char) : Bool :=
  match Text.split '-' cs with
  | [year, month, day] =>
    match field? 4 0 9999 year, field? 2 1 12 month with
    | some y, some m => (field? 2 1 (daysOf y m) day).isSome
    | _, _ => false
  | _ => false

/-- The written form of a time of day. -/
def time? (cs : List Char) : Option (List Char) :=
  let clock := cs.takeWhile (· != '.')
  match Text.split ':' clock, cs.drop clock.length with
  | [hour, minute, second], rest => do
    let _ ← field? 2 0 23 hour
    let _ ← field? 2 0 59 minute
    let _ ← field? 2 0 60 second
    match rest with
    | [] => some clock
    | _ :: digits =>
      if digits.isEmpty || !digits.all Text.isDigit then none
      else
        let kept := ((digits.take 9).reverse.dropWhile (· == '0')).reverse
        some (clock ++ if kept.isEmpty then [] else '.' :: kept)
  | _, _ => none

/-- Whether a text is the distance of a time zone. -/
def isOffset (cs : List Char) : Bool :=
  match Text.split ':' cs with
  | [hour, minute] => (field? 2 0 23 hour).isSome && (field? 2 0 59 minute).isSome
  | _ => false

/-- The written form of a time of day with its zone, if it has one. -/
def zonedTime? (cs : List Char) : Option (List Char) :=
  let clock := cs.takeWhile fun c => Text.isDigit c || c == ':' || c == '.'
  match cs.drop clock.length with
  | [] => time? clock
  | [c] => if c = 'Z' ∨ c = 'z' then (time? clock).map (· ++ ['Z']) else none
  | c :: zone =>
    if (c = '+' ∨ c = '-') ∧ isOffset zone = true then (time? clock).map (· ++ c :: zone) else none

/-- A date, a time of day, or both; it stands for its written form. -/
def moment? (cs : List Char) : Option Value :=
  let date := cs.take 10
  if isDate date then
    match cs.drop 10 with
    | [] => some (.text (String.ofList date))
    | c :: rest =>
      if c = 'T' ∨ c = 't' ∨ c = ' ' then
        (zonedTime? rest).map fun time => .text (String.ofList (date ++ 'T' :: time))
      else none
  else (time? cs).map fun time => .text (String.ofList time)

/-- Whether a character ends a word. -/
def endsWord (c : Char) : Bool :=
  isGap c || c == '\n' || c == '\r' || c == ',' || c == ']' || c == '\x7d' || c == '#'

/-- The value of a word. -/
def word? (cs : List Char) : Option Value :=
  if cs = "true".toList then some (.boolean true)
  else if cs = "false".toList then some (.boolean false)
  else ((integer? cs).or (float? cs)).or (moment? cs)

/-- A value without quotes; a time may stand one space behind a date. -/
def bareValue? (cs : List Char) : Option (Value × List Char) :=
  let head := cs.takeWhile fun c => !endsWord c
  let rest := cs.drop head.length
  match rest with
  | ' ' :: c :: _ =>
    if isDate head && Text.isDigit c then
      let time := (rest.drop 1).takeWhile fun c => !endsWord c
      (word? (head ++ ' ' :: time)).map fun v => (v, rest.drop (time.length + 1))
    else (word? head).map fun v => (v, rest)
  | rest => (word? head).map fun v => (v, rest)

/-! ## Keys and values -/

/-- Whether a character may stand in a key without quotes. -/
def isBareKey (c : Char) : Bool := c.isAlphanum || c == '_' || c == '-'

/-- One part of a key. -/
def keyPart? (cs : List Char) : Option (String × List Char) :=
  match cs with
  | '"' :: rest => basicString [] rest
  | '\'' :: rest => literalString rest
  | cs =>
    let body := cs.takeWhile isBareKey
    if body.isEmpty then none else some (String.ofList body, cs.drop body.length)

/-- A key of several parts between dots, and what is behind it and its blanks. -/
def key? (cs : List Char) : Nat → Option (List String × List Char)
  | 0 => none
  | fuel + 1 => do
    let (part, rest) ← keyPart? (skipGaps cs)
    match skipGaps rest with
    | '.' :: rest =>
      let (parts, rest) ← key? rest fuel
      return (part :: parts, rest)
    | rest => return ([part], rest)

mutual

/-- A value. -/
def value? (cs : List Char) : Nat → Option (Value × List Char)
  | 0 => none
  | fuel + 1 =>
    match cs with
    | '[' :: rest => (items? [] rest fuel).map fun (vs, rest) => (.list vs, rest)
    | c :: rest =>
      if c = '\x7b' then
        match skipGaps rest with
        | d :: more =>
          if d = '\x7d' then some (.table [], more)
          else (pairs? [] rest fuel).map fun (es, rest) => (.table (valuesOf es), rest)
        | [] => none
      else if c = '"' ∨ c = '\'' then (string? cs).map fun (s, rest) => (.text s, rest)
      else bareValue? cs
    | [] => none

/-- The items of a list up to its closing bracket. -/
def items? (read : List Value) (cs : List Char) : Nat → Option (List Value × List Char)
  | 0 => none
  | fuel + 1 =>
    match skipLines cs cs.length with
    | ']' :: rest => some (read.reverse, rest)
    | cs => do
      let (v, rest) ← value? cs fuel
      match skipLines rest rest.length with
      | ',' :: rest => items? (v :: read) rest fuel
      | ']' :: rest => return ((v :: read).reverse, rest)
      | _ => none

/-- The keys and values of a table on one line up to its closing brace. -/
def pairs? (read : Nodes) (cs : List Char) : Nat → Option (Nodes × List Char)
  | 0 => none
  | fuel + 1 => do
    let (nodes, rest) ← pair? read cs fuel
    match skipGaps rest with
    | ',' :: rest => pairs? nodes rest fuel
    | c :: rest => if c = '\x7d' then return (nodes, rest) else none
    | [] => none

/-- One key and its value, set in a table. -/
def pair? (nodes : Nodes) (cs : List Char) : Nat → Option (Nodes × List Char)
  | 0 => none
  | fuel + 1 => do
    let (path, rest) ← key? cs (cs.length + 1)
    match rest with
    | '=' :: rest =>
      let (v, rest) ← value? (skipGaps rest) fuel
      return (← setKey v nodes path, rest)
    | _ => none

end

/-! ## Files -/

/-- The lines of a file from some table on. -/
def lines? (root : Nodes) (current : List String) (cs : List Char) : Nat → Option Nodes
  | 0 => none
  | fuel + 1 =>
    match skipLines cs cs.length with
    | [] => some root
    | '[' :: '[' :: rest => do
      let (path, rest) ← key? rest (rest.length + 1)
      match path.getLast?, rest with
      | some last, ']' :: ']' :: rest =>
        let root ← changeAt (addTable last) root path.dropLast
        lines? root path (← lineEnd? rest) fuel
      | _, _ => none
    | '[' :: rest => do
      let (path, rest) ← key? rest (rest.length + 1)
      match path.getLast?, rest with
      | some last, ']' :: rest =>
        let root ← changeAt (openTable last) root path.dropLast
        lines? root path (← lineEnd? rest) fuel
      | _, _ => none
    | cs => do
      let (path, rest) ← key? cs (cs.length + 1)
      match rest with
      | '=' :: rest =>
        let (v, rest) ← value? (skipGaps rest) (2 * rest.length + 2)
        let root ← changeAt (fun nodes => setKey v nodes path) root current
        lines? root current (← lineEnd? rest) fuel
      | _ => none

/-- Reads a whole file. -/
def parse (text : String) : Option Layer :=
  let cs := text.toList
  (lines? [] [] cs (cs.length + 1)).map valuesOf

end Formulary.Settings.Toml
