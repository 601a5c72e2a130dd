/-!
# Formulas that can be set — braces that match

A brace behind a backslash is a sign of the formula; all other braces come in pairs.

* `Latex.isBalanced` — whether every brace of a formula has its partner.
-/

namespace Formulary.Latex

/-- The number of braces left open behind characters, if none was closed too early. -/
def depthAfter (depth : Nat) : List Char → Option Nat
  | [] => some depth
  | ['\\'] => none
  | '\\' :: _ :: rest => depthAfter depth rest
  | c :: rest =>
    if c = '\x7b' then depthAfter (depth + 1) rest
    else if c = '\x7d' then (if depth = 0 then none else depthAfter (depth - 1) rest)
    else depthAfter depth rest

/-- Whether every brace has its partner. -/
def isBalanced (latex : String) : Bool := depthAfter 0 latex.toList == some 0

end Formulary.Latex
