import Formulary.Table
import Formulary.Uuid

/-!
# Placeholders — identifiers that stand for inline formulas

While a document is read as markup, each inline formula is replaced by an identifier. The table
keeps the formula of every identifier until it is taken back.

* `PlaceholderTable.mint` — a new identifier from a supply.
* `PlaceholderTable.take` — the formula of an identifier, which the table then no longer holds.
* `PlaceholderTable.remainingSources` — the formulas not taken back, by their place in the document.
-/

namespace Formulary.Markup

/-- The source of a formula and the byte offset where it stood. -/
structure Placeholder where
  latex : String
  offset : Nat
deriving DecidableEq, Repr, Inhabited

/-- The formulas that identifiers stand for, each identifier once, and the number of identifiers
minted. -/
structure PlaceholderTable where
  entries : Table Uuid Placeholder := Table.empty
  minted : Nat := 0
deriving Inhabited

namespace PlaceholderTable

/-- The table without entries. -/
def empty : PlaceholderTable := {}

/-- The formula of an identifier. -/
def get? (table : PlaceholderTable) (id : Uuid) : Option Placeholder := table.entries.get? id

/-- Whether an identifier stands for a formula. -/
def contains (table : PlaceholderTable) (id : Uuid) : Bool := (table.get? id).isSome

/-- Takes the next identifier of a supply and keeps a formula under it. -/
def mint (ids : Nat → Uuid) (table : PlaceholderTable) (latex : String) (offset : Nat) :
    Uuid × PlaceholderTable :=
  let id := ids table.minted
  (id, ⟨table.entries.set id ⟨latex, offset⟩, table.minted + 1⟩)

/-- Takes the formula of an identifier out of the table. -/
def take (table : PlaceholderTable) (id : Uuid) : Option Placeholder × PlaceholderTable :=
  (table.get? id, { table with entries := table.entries.erase id })

/-- The number of identifiers that stand for a formula. -/
def size (table : PlaceholderTable) : Nat := table.entries.size

/-- Whether no identifier stands for a formula. -/
def isEmpty (table : PlaceholderTable) : Bool := table.entries.isEmpty

/-- The formulas of the table by increasing offset. -/
def remainingSources (table : PlaceholderTable) : List String :=
  (table.entries.values.mergeSort fun a b => a.offset ≤ b.offset).map (·.latex)

end PlaceholderTable
end Formulary.Markup
