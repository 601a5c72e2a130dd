import Formulary.Text.Split

/-!
# Paths — where a file is looked for

A written path is cut at its slashes. Empty parts and single dots say nothing and are left out; two
dots lead one directory up. A path that ends in a slash or in a dot names a directory.

* `Path.ofText` — the path of a text.
* `Path.parent` — the directory in which a path lies.
* `Path.joinText` — the text of a name in a directory.
-/

namespace Formulary

/-- The way to a file: from the top or from the directory at hand, and by which parts. -/
structure Path where
  absolute : Bool
  parts : List String
  /-- Whether only a directory may stand there. -/
  isDirectory : Bool := false
deriving DecidableEq, Repr, Inhabited

namespace Path

/-- The part that leads one directory up. -/
def up : String := ".."

/-- Whether a piece of a path says nothing. -/
def isIdle (piece : List Char) : Bool := piece == [] || piece == ['.']

/-- The path of a text. -/
def ofText (s : String) : Path :=
  let pieces := Text.split '/' s.toList
  { absolute := s.toList.head? == some '/'
    parts := (pieces.filter fun p => !isIdle p).map String.ofList
    isDirectory := (pieces.getLast?.map isIdle).getD false }

/-- The directory in which a path lies. -/
def parent (p : Path) : Path := { p with parts := p.parts.dropLast, isDirectory := true }

/-- A path that goes on by more parts. -/
def append (p : Path) (parts : List String) : Path :=
  { p with parts := p.parts ++ parts, isDirectory := false }

/-- The text of a name in a directory. -/
def joinText (directory name : String) : String :=
  if directory.toList.getLast?.all (· == '/') then directory ++ name else directory ++ "/" ++ name

end Path
end Formulary
