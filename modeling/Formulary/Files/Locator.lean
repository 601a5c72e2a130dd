import Formulary.Files.Tree
import Formulary.Text.Whitespace

/-!
# Locators — resources by their names below one directory

A name is first taken as a path below the directory, unless it starts at the top or leads up
somewhere. After that the file of the same last name is looked for in the directory itself. Nothing
outside the directory is ever read.

* `Locator.candidates` — the paths below the directory that a name may stand for, in order.
* `Locator.locate` — the content of the first of them that can be read.
-/

namespace Formulary.Locator

/-- The mark that a name may start with. -/
def scheme : List Char := "file://".toList

/-- The path that a name stands for, its mark and the blanks around it left out. -/
def pathOf (name : String) : Path :=
  let cs := name.toList
  let cs := if scheme.isPrefixOf cs then cs.drop scheme.length else cs
  Path.ofText (String.ofList (Text.trimChars cs))

/-- The path of a name as it is, if it cannot leave the directory. -/
def contained? (p : Path) : Option (List String) :=
  if p.absolute || p.parts.contains Path.up || p.parts.isEmpty then none else some p.parts

/-- The last name of a path alone. -/
def lastName? (p : Path) : Option (List String) :=
  match p.parts.getLast? with
  | some name => if name = Path.up then none else some [name]
  | none => none

/-- The paths below the directory that a name may stand for, in order. -/
def candidates (name : String) : List (List String) :=
  let p := pathOf name
  let first := contained? p
  first.toList ++ (lastName? p).toList.filter fun parts => first != some parts

/-- The content of the first candidate that can be read below a directory. -/
def locate (t : FileTree) (base : Place) (root : Path) (name : String) : Option ByteArray :=
  (candidates name).findSome? fun parts => (t.read base (root.append parts)).toOption

end Formulary.Locator
