import Formulary.Settings.Toml
import Formulary.Text.Whitespace

/-!
# YAML — tables by indentation

A file of this format is read as far as settings need it: a key and its value stand on one line, and
the keys of a table below its own key stand further right. Lists, anchors and texts of several lines
are refused.

* `Yaml.plain` — the value of a text without quotes.
* `Yaml.scalar?`, `Yaml.key?` — a value and a key on a line.
* `Yaml.parse` — a whole file.
-/

namespace Formulary.Settings.Yaml

/-- A line that says something: the number of blanks in front, and its text. -/
structure Row where
  indent : Nat
  text : List Char
deriving Repr, Inhabited

/-- What is behind blanks. -/
def skip (cs : List Char) : List Char := cs.dropWhile Toml.isGap

/-- Whether nothing but a comment is left of a line. -/
def isDone (cs : List Char) : Bool := (skip cs).head?.all (· == '#')

/-- The rows of a text; a blank line and a comment are none. -/
def rows (text : List Char) : List Row :=
  (Text.split '\n' text).filterMap fun line =>
    let line := if line.getLast? = some '\r' then line.dropLast else line
    if isDone line then none
    else
      let indent := (line.takeWhile (· == ' ')).length
      some ⟨indent, line.drop indent⟩

/-- The text up to a closing quote, which is doubled where it belongs to the text. -/
def singleQuoted (read : List Char) : List Char → Option (List Char × List Char)
  | [] => none
  | '\'' :: '\'' :: rest => singleQuoted ('\'' :: read) rest
  | '\'' :: rest => some (read.reverse, rest)
  | c :: rest => singleQuoted (c :: read) rest

/-- A text between quotes of either kind. -/
def quoted? : List Char → Option (String × List Char)
  | '"' :: rest => Toml.basicString [] rest
  | '\'' :: rest => (singleQuoted [] rest).map fun (cs, rest) => (String.ofList cs, rest)
  | _ => none

/-- Whether a text without quotes may start with a character. -/
def startsPlain (c : Char) : Bool := !"[]\x7b\x7d&*!|>'\"%@`,#".contains c

/-- The part of a text in front of a comment, without the blanks behind it. -/
def beforeComment : List Char → List Char
  | [] => []
  | c :: rest =>
    if Toml.isGap c && isDone rest then []
    else c :: beforeComment rest

/-- The value of an integer in a text, which may have a sign or be of another base. -/
def integer? (cs : List Char) : Option Value :=
  let decimal (negative : Bool) (cs : List Char) : Option Value :=
    if cs.isEmpty then none
    else (Text.foldDigits 10 Text.decimalValue? 0 cs).bind fun n =>
      Toml.bounded? (if negative then -(n : Int) else n)
  match cs with
  | '0' :: 'x' :: rest => Toml.based? 16 rest
  | '0' :: 'o' :: rest => Toml.based? 8 rest
  | '-' :: rest => decimal true rest
  | '+' :: rest => decimal false rest
  | cs => decimal false cs

/-- The value of a text without quotes. -/
def plain (cs : List Char) : Value :=
  let s := String.ofList cs
  if ["", "~", "null"].contains s then .null
  else if ["true", "True", "TRUE"].contains s then .boolean true
  else if ["false", "False", "FALSE"].contains s then .boolean false
  else
    match integer? cs with
    | some v => v
    | none =>
      match if cs.any Text.isDigit then Binary.parse? Binary.double cs else none with
      | some v => .number v
      | none => .text s

/-- The value behind a key, where there is nothing when the line ends. -/
def scalar? (cs : List Char) : Option (Option Value) :=
  match skip cs with
  | [] => some none
  | c :: rest =>
    if isDone (c :: rest) then some none
    else if c = '"' || c = '\'' then
      (quoted? (c :: rest)).bind fun (s, rest) => if isDone rest then some (some (.text s)) else none
    else if startsPlain c && !(c = '-' && rest.head?.all Toml.isGap) then
      let text := beforeComment (c :: rest)
      if (text.zip (text.drop 1)).any fun (a, b) => a == ':' && Toml.isGap b then none
      else some (some (plain text))
    else none

/-- What is in front of a colon that ends a key, and what is behind it. -/
def splitKey : List Char → Option (List Char × List Char)
  | [] => none
  | c :: rest =>
    if c = ':' && rest.head?.all Toml.isGap then some ([], rest)
    else (splitKey rest).map fun (a, b) => (c :: a, b)

/-- A key, and what is behind its colon. -/
def key? (cs : List Char) : Option (String × List Char) :=
  match quoted? cs with
  | some (key, rest) =>
    match splitKey (skip rest) with
    | some ([], rest) => some (key, rest)
    | _ => none
  | none =>
    if cs.head?.any fun c => startsPlain c && c != '-' && c != '?' then
      (splitKey cs).map fun (key, rest) => (Text.trim (String.ofList key), rest)
    else none

/-- The entries of the table whose keys stand at an indentation, each key once. -/
def entries? (indent : Nat) (read : Layer) (rows : List Row) : Nat → Option (Layer × List Row)
  | 0 => none
  | fuel + 1 =>
    match rows with
    | [] => some (read, [])
    | row :: rest =>
      if row.indent < indent then some (read, row :: rest)
      else if indent < row.indent then none
      else do
        let (key, behind) ← key? row.text
        if (read.lookup key).isSome then none
        match ← scalar? behind with
        | some v => entries? indent (read ++ [(key, v)]) rest fuel
        | none =>
          if rest.head?.any fun next => indent < next.indent then
            let (es, rest) ← entries? ((rest.head?.map Row.indent).getD 0) [] rest fuel
            entries? indent (read ++ [(key, .table es)]) rest fuel
          else entries? indent (read ++ [(key, .null)]) rest fuel

/-- Reads a whole file, which may start with a line of three hyphens. -/
def parse (text : String) : Option Layer :=
  let rows := match rows text.toList with
    | row :: rest => if row.text = "---".toList then rest else row :: rest
    | [] => []
  match entries? ((rows.head?.map Row.indent).getD 0) [] rows (rows.length + 1) with
  | some (es, []) => some es
  | _ => none

end Formulary.Settings.Yaml
