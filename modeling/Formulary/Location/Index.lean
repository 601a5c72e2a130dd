import Formulary.Location.Range

/-!
# Location index — from written ranges back to ranges

An index holds ranges under their keys, each key once. Jobs carry keys, and the index says which
range of the document a key stands for, if any.

* `LocationIndex.insert` — adds a range and says whether its key was new.
* `LocationIndex.lookup` — the range held under a key.
-/

namespace Formulary

/-- Ranges held under their keys. -/
structure LocationIndex where
  entries : List (String × SourceRange) := []
deriving DecidableEq, Repr, Inhabited

namespace LocationIndex

/-- The index without ranges. -/
def empty : LocationIndex := ⟨[]⟩

/-- The range held under a key. -/
def lookup (index : LocationIndex) (key : String) : Option SourceRange :=
  index.entries.lookup key

/-- Adds a range under its key, unless the key is there already; the flag says whether it was new. -/
def insert (index : LocationIndex) (range : SourceRange) : Bool × LocationIndex :=
  match index.lookup range.key with
  | some _ => (false, index)
  | none => (true, ⟨(range.key, range) :: index.entries⟩)

/-- The number of ranges held. -/
def size (index : LocationIndex) : Nat := index.entries.length

/-- Whether no range is held. -/
def isEmpty (index : LocationIndex) : Bool := index.entries.isEmpty

end LocationIndex
end Formulary
