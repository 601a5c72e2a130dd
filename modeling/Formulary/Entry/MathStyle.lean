/-!
# Math styles — how a formula is set

A formula stands in a line of text (`inline`) or on lines of its own (`display`).
-/

namespace Formulary

/-- The two ways to set a formula. -/
inductive MathStyle where
  | inline
  | display
deriving DecidableEq, Repr, Inhabited

/-- The name of a style. -/
def MathStyle.name : MathStyle → String
  | inline => "inline"
  | display => "display"

end Formulary
