import Formulary.Color
import Formulary.Entry.MathStyle
import Formulary.Number.Binary32

/-!
# Math requests — what a formula is drawn from

* `MathRequest` — the source, the style, the font size and the colour of a formula.
-/

namespace Formulary

/-- What a formula is drawn from. -/
structure MathRequest where
  latex : String
  style : MathStyle
  fontSize : Binary32
  color : Color
deriving DecidableEq, Repr, Inhabited

end Formulary
