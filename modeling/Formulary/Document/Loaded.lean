import Formulary.Markup.Extraction
import Formulary.Markup.Outline
import Formulary.Markup.Reformat

/-!
# Loaded documents — what is known of a text before anything is drawn

Loading cuts a text into segments, reads the reformatted text as markup, and finds the entries in
the tree. It fails when the reader did not keep every identifier exactly once, or when two entries
stand at one place. Any reader of markup will do; nothing is assumed of the trees it makes.

* `LoadedDocument.load` — the document of a text.
-/

namespace Formulary

open Markup

/-- A text, what was read of it, and its entries and headings. -/
structure LoadedDocument where
  source : String
  reformatted : String
  tree : Node
  extraction : Extraction
  outline : List Heading
deriving Inhabited

namespace LoadedDocument

/-- Loads a text with a reader of markup and a supply of identifiers. -/
def load (ids : Nat → Uuid) (reader : String → Node) (text : String) :
    Except ConsistencyError LoadedDocument := do
  let reformatted := reformat ids text
  let tree := reader reformatted.text
  let extraction ← extract tree reformatted.placeholders
  return { source := text, reformatted := reformatted.text, tree, extraction
           outline := Markup.outline tree extraction.math }

/-- The segments of the text. -/
def segments (d : LoadedDocument) : List Segment := Markup.segments d.source

end LoadedDocument
end Formulary
