import Formulary.Entry.MathStyle
import Formulary.Location.Range
import Formulary.Url.WebUrl

/-!
# Entries — the formulas and images of a document

* `MathEntry` — a formula, its style and where it stands.
* `ImageReference` — where an image comes from: a web address is fetched, and any other text names
  a resource.
* `ImageEntry` — an image and where it stands.
-/

namespace Formulary

/-- A formula of a document. -/
structure MathEntry where
  range : SourceRange
  latex : String
  style : MathStyle
deriving DecidableEq, Repr, Inhabited

/-- Where an image comes from. -/
inductive ImageReference where
  | remote (url : WebUrl)
  | resource (name : String)
deriving DecidableEq, Repr, Inhabited

namespace ImageReference

/-- A web address is remote, and any other text is the name of a resource. -/
def classify (source : String) : ImageReference :=
  match WebUrl.parse? source with
  | some url => remote url
  | none => resource source

/-- Whether the image is fetched. -/
def isRemote : ImageReference → Bool
  | remote _ => true
  | resource _ => false

/-- The address or the name. -/
protected def toString : ImageReference → String
  | remote url => url.toString
  | resource name => name

instance : ToString ImageReference := ⟨ImageReference.toString⟩

end ImageReference

/-- An image of a document. -/
structure ImageEntry where
  range : SourceRange
  reference : ImageReference
deriving DecidableEq, Repr, Inhabited

end Formulary
