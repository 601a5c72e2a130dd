/-!
# Splitting — texts cut at a character

* `Text.splitOnce` — the part before the first occurrence, and the part behind it.
* `Text.split` — all parts between the occurrences.
-/

namespace Formulary.Text

/-- The part of a text before the first `sep` and the part behind it. -/
def splitOnce (sep : Char) : List Char → Option (List Char × List Char)
  | [] => none
  | c :: rest =>
    if c = sep then some ([], rest)
    else (splitOnce sep rest).map fun (a, b) => (c :: a, b)

/-- The parts of a text between the occurrences of `sep`; there is always one. -/
def split (sep : Char) (cs : List Char) : List (List Char) :=
  cs.foldr (fun c parts =>
    if c = sep then [] :: parts
    else match parts with
      | part :: rest => (c :: part) :: rest
      | [] => [[c]]) [[]]

end Formulary.Text
