import Formulary.Number.Binary
import Formulary.Table
import Formulary.Text.Split

/-!
# Setting values — what configuration files and the environment say

Every source of settings gives a table of values. Later sources are laid over earlier ones: tables
are merged key by key, and any other value replaces what was there.

* `Value` — what a source may hold.
* `Value.merge` — a value laid over another.
* `Layer.assign` — a value laid over what a dotted key names.
-/

namespace Formulary.Settings

/-- A value of a source of settings; numbers are of the double format. -/
inductive Value where
  | null
  | boolean (b : Bool)
  | integer (n : Int)
  | number (v : Binary.Value)
  | text (s : String)
  | list (items : List Value)
  | table (entries : List (String × Value))
deriving Inhabited

/-- The values of a source under their keys. -/
abbrev Layer := List (String × Value)

namespace Value

/-- The entries of a table; any other value has none. -/
def entries : Value → Layer
  | table es => es
  | _ => []

mutual

/-- A value laid over another: tables are merged, and all else replaces what was there. -/
def merge (old : Value) : Value → Value
  | table es => table (mergeEntries old.entries es)
  | new => new

/-- Entries laid over a table one after the other. -/
def mergeEntries (old : Layer) : Layer → Layer
  | [] => old
  | (key, value) :: rest =>
    mergeEntries (Table.setEntry key (merge ((old.lookup key).getD (table [])) value) old) rest

end

/-- A value laid over what a path leads to; what is in the way becomes a table. -/
def assign (old : Value) (new : Value) : List String → Value
  | [] => old.merge new
  | key :: rest =>
    table (Table.setEntry key (assign ((old.entries.lookup key).getD (table [])) new rest) old.entries)

end Value

namespace Layer

/-- Whether a character may stand in a part of a dotted key. -/
def isKeyChar (c : Char) : Bool := c.isAlphanum || c == '_' || c == '-'

/-- The parts of a dotted key; a key that is not dotted in this way is a part by itself. -/
def pathOf (key : String) : List String :=
  let parts := Text.split '.' key.toList
  if parts.all fun p => !p.isEmpty && p.all isKeyChar then parts.map String.ofList else [key]

/-- A value laid over what a dotted key names. -/
def assign (layer : Layer) (key : String) (value : Value) : Layer :=
  ((Value.table layer).assign value (pathOf key)).entries

/-- The entries of a source laid over those of the sources before it. -/
def overlay (layer source : Layer) : Layer := source.foldl (fun l e => l.assign e.1 e.2) layer

end Layer
end Formulary.Settings
