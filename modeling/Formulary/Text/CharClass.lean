/-!
# Character classes — sets of code points given by their bounds

A class is an increasing array of the code points at which membership changes: the first starts a
range of members, the next ends it, and so on. A code point is a member when an odd number of
bounds is at or below it.

* `CharClass.countUpTo` — how many bounds are at or below a number, by bisection.
* `CharClass.contains` — membership.
-/

namespace Formulary.Text

/-- The points at which membership of a class changes, in increasing order. -/
structure CharClass where
  bounds : Array Nat

namespace CharClass

/-- The number of bounds at or below `n`, known to lie between `low` and `high`. -/
def countUpTo (bounds : Array Nat) (n low high : Nat) : Nat :=
  if _h : low < high then
    let middle := (low + high) / 2
    match bounds[middle]? with
    | some bound =>
      if bound ≤ n then countUpTo bounds n (middle + 1) high else countUpTo bounds n low middle
    | none => countUpTo bounds n low middle
  else low
termination_by high - low

/-- Whether a character is a member. -/
def contains (cls : CharClass) (c : Char) : Bool :=
  countUpTo cls.bounds c.toNat 0 cls.bounds.size % 2 == 1

end CharClass
end Formulary.Text
