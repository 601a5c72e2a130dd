/-!
# Keys — under which bitmaps are kept

* `DocumentId` — the number of a loaded document.
* `RenderKey` — a document and the key of a place in it.
-/

namespace Formulary

/-- The number of a loaded document. -/
structure DocumentId where
  number : Nat
deriving DecidableEq, Repr, Inhabited

/-- A place of a document. -/
structure RenderKey where
  document : DocumentId
  location : String
deriving DecidableEq, Repr, Inhabited

end Formulary
