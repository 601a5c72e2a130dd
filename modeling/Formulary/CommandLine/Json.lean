import Formulary.Text.Digits

/-!
# JSON output — results for other programs

* `Json` — the values that results are made of.
* `Json.pretty` — a value over several lines, two spaces for each level.
-/

namespace Formulary.CommandLine

/-- A value of a result. -/
inductive Json where
  | number (n : Nat)
  | text (s : String)
  | list (items : List Json)
  | object (members : List (String × Json))
deriving Inhabited

namespace Json

/-- The characters that a character of a string is written as. -/
def escape (c : Char) : List Char :=
  match c with
  | '"' => ['\\', '"']
  | '\\' => ['\\', '\\']
  | '\x08' => ['\\', 'b']
  | '\x0c' => ['\\', 'f']
  | '\n' => ['\\', 'n']
  | '\r' => ['\\', 'r']
  | '\t' => ['\\', 't']
  | c => if c < ' ' then "\\u00".toList ++ Text.hexPair (UInt8.ofNat c.toNat) else [c]

/-- A string between quotes. -/
def quote (s : String) : String := String.ofList ('"' :: (s.toList.flatMap escape ++ ['"']))

/-- The start of a line at a level. -/
def indent (level : Nat) : String := String.ofList ('\n' :: List.replicate (2 * level) ' ')

/-- Written parts between brackets, each on a line of its own. -/
def enclose (opening closing : String) (level : Nat) (parts : List String) : String :=
  if parts.isEmpty then opening ++ closing
  else opening ++ indent (level + 1) ++ String.intercalate ("," ++ indent (level + 1)) parts ++
    indent level ++ closing

mutual

/-- A value written at a level. -/
def write (level : Nat) : Json → String
  | number n => toString n
  | text s => quote s
  | list items => enclose "[" "]" level (writeItems (level + 1) items)
  | object members => enclose "\x7b" "\x7d" level (writeMembers (level + 1) members)

/-- The items of a list written at a level. -/
def writeItems (level : Nat) : List Json → List String
  | [] => []
  | item :: rest => write level item :: writeItems level rest

/-- The members of an object written at a level. -/
def writeMembers (level : Nat) : List (String × Json) → List String
  | [] => []
  | (name, value) :: rest => (quote name ++ ": " ++ write level value) :: writeMembers level rest

end

/-- A value over several lines. -/
def pretty (j : Json) : String := j.write 0

end Json
end Formulary.CommandLine
