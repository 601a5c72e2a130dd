import Formulary.Markdown.EntityNames
import Formulary.Markdown.Glyph
import Formulary.Text.CaseFold
import Formulary.Text.Whitespace

/-!
# Escapes — characters written in another way

A character reference is an ampersand, a name or a number, and a semicolon. A backslash in front of
punctuation takes its meaning away. Link targets, titles and info texts resolve both.

* `reference?` — the character reference behind an ampersand.
* `resolveReferences`, `resolveBackslashes` — texts without them.
* `linkTarget`, `linkTitle`, `infoText` — the parts of links and of fences.
* `labelKey` — what two labels of the same link definition have in common.
-/

namespace Formulary.Markdown

/-- The character of a number, or the replacement character where there is none. -/
def codePoint (n : Nat) : Char :=
  if n = 0 || (0xD800 ≤ n && n < 0xE000) || 0x110000 ≤ n then '\ufffd' else Char.ofNat n

/-- The number that digits followed by a semicolon denote, at most `limit` of them, and how many
digits there are. -/
def numberBefore (base limit : Nat) (digit? : Char → Option Nat) (cs : List Char) :
    Option (Char × Nat) :=
  let digits := cs.takeWhile fun c => (digit? c).isSome
  if digits.isEmpty || limit < digits.length || cs[digits.length]? != some ';' then none
  else (Text.foldDigits base digit? 0 digits).map fun n => (codePoint n, digits.length)

/-- The character reference at the start of the text behind an ampersand: the characters it stands
for, and its length up to the semicolon. -/
def reference? (cs : List Char) : Option (List Char × Nat) :=
  match cs with
  | '#' :: 'x' :: rest | '#' :: 'X' :: rest =>
    (numberBefore 16 6 Text.hexValue? rest).map fun (c, n) => ([c], n + 3)
  | '#' :: rest => (numberBefore 10 7 Text.decimalValue? rest).map fun (c, n) => ([c], n + 2)
  | _ =>
    let name := (cs.take 32).takeWhile fun c => c != ';' && c != ' '
    if name.length < 2 || 31 < name.length || cs[name.length]? != some ';' then none
    else (entityText? name).map fun text => (text, name.length + 1)

/-- Characters with their references resolved; `skip` characters belong to one resolved before. -/
def resolveReferencesFrom (skip : Nat) : List Char → List Char
  | [] => []
  | c :: rest =>
    match skip with
    | skip + 1 => resolveReferencesFrom skip rest
    | 0 =>
      if c = '&' then
        match reference? rest with
        | some (text, n) => text ++ resolveReferencesFrom n rest
        | none => c :: resolveReferencesFrom 0 rest
      else c :: resolveReferencesFrom 0 rest

/-- Characters with their references resolved. -/
def resolveReferences (cs : List Char) : List Char := resolveReferencesFrom 0 cs

/-- Characters without the backslashes in front of punctuation. -/
def resolveBackslashes : List Char → List Char
  | '\\' :: c :: rest =>
    if isAsciiPunctuation c then c :: resolveBackslashes rest
    else '\\' :: resolveBackslashes (c :: rest)
  | c :: rest => c :: resolveBackslashes rest
  | [] => []

/-- The target of a link as written. -/
def linkTarget (cs : List Char) : String :=
  String.ofList (resolveBackslashes (resolveReferences (trimAscii cs)))

/-- The title of a link as written, quotes or parentheses around it. -/
def linkTitle (cs : List Char) : String :=
  let inner := match cs.head?, cs.getLast? with
    | some '"', some '"' | some '\'', some '\'' | some '(', some ')' => (cs.drop 1).dropLast
    | _, _ => cs
  String.ofList (resolveBackslashes (resolveReferences inner))

/-- The info text of a fence as written. -/
def infoText (cs : List Char) : String :=
  Text.trim (String.ofList (resolveBackslashes (trimAscii (resolveReferences cs))))

/-- What two labels of the same link definition have in common: case and runs of blanks make no
difference. -/
def labelKey (cs : List Char) : List Char :=
  Text.foldCase (Text.normalize (String.ofList cs)).toList

end Formulary.Markdown
