import Formulary.Settings.Value
import Formulary.Text.Whitespace

/-!
# INI — sections of keys and texts

A file of this format has a heading in brackets for each section, and a key with its text on each
line. All values are texts.

* `Ini.row?` — what a line says.
* `Ini.parse` — a whole file.
-/

namespace Formulary.Settings.Ini

/-- What a line says. -/
inductive Row where
  | heading (name : String)
  | entry (key text : String)
  | nothing
deriving Repr, Inhabited

/-- A text without the quotes around it. -/
def unquote (cs : List Char) : List Char :=
  match cs, cs.getLast? with
  | '"' :: (_ :: _), some '"' | '\'' :: (_ :: _), some '\'' => (cs.drop 1).dropLast
  | _, _ => cs

/-- The characters as a text without blanks around it. -/
def trimmed (cs : List Char) : String := String.ofList (Text.trimChars cs)

/-- What a line says, or nothing when it is not understood. -/
def row? (line : List Char) : Option Row :=
  let cs := Text.trimChars line
  match cs with
  | [] | ';' :: _ | '#' :: _ => some .nothing
  | '[' :: rest =>
    (Text.splitOnce ']' rest).bind fun (name, behind) =>
      if (Text.trimChars behind).isEmpty then some (.heading (trimmed name)) else none
  | cs =>
    let key := cs.takeWhile fun c => c != '=' && c != ':'
    match cs.drop key.length with
    | [] => none
    | _ :: value => some (.entry (trimmed key) (String.ofList (unquote (Text.trimChars value))))

/-- The path of a key in a section. -/
def pathIn (heading : Option String) (key : String) : List String := heading.toList ++ [key]

/-- Lays the lines of a file over what was read, below the last heading. -/
def readRows (read : Layer) (heading : Option String) : List Row → Layer
  | [] => read
  | .nothing :: rest => readRows read heading rest
  | .heading name :: rest =>
    readRows (Table.setEntry name (.table (((read.lookup name).map Value.entries).getD [])) read)
      (some name) rest
  | .entry key text :: rest =>
    readRows ((Value.table read).assign (.text text) (pathIn heading key)).entries heading rest

/-- Reads a whole file. -/
def parse (text : String) : Option Layer :=
  ((Text.split '\n' text.toList).mapM row?).map (readRows [] none)

end Formulary.Settings.Ini
