import Formulary.Text.Hidden
import Formulary.Text.Combining
import Formulary.Text.Digits

/-!
# Quoted text — a text between quotes with what is not seen made visible

Messages and listings show texts of the user between double quotes. Quotes and backslashes are
escaped by a backslash, the common controls by a letter, and every hidden or combining character by
its code point.

* `escape` — the characters that stand for one character.
* `quote`, `quoteList` — a text between quotes, and texts between quotes between brackets.
-/

namespace Formulary.Text

/-- The characters that a character is shown as inside quotes. -/
def escape (c : Char) : List Char :=
  match c with
  | '\x00' => ['\\', '0']
  | '\t' => ['\\', 't']
  | '\r' => ['\\', 'r']
  | '\n' => ['\\', 'n']
  | '"' => ['\\', '"']
  | '\\' => ['\\', '\\']
  | c =>
    if ' ' ≤ c ∧ c ≤ '~' then [c]
    else if combining.contains c || hidden.contains c then
      '\\' :: 'u' :: '\x7b' :: (hexDigits c.toNat ++ ['\x7d'])
    else [c]

/-- A text between double quotes. -/
def quote (s : String) : String := String.ofList ('"' :: (s.toList.flatMap escape ++ ['"']))

/-- Texts between double quotes, separated by commas, between square brackets. -/
def quoteList (texts : List String) : String := "[" ++ String.intercalate ", " (texts.map quote) ++ "]"

end Formulary.Text
