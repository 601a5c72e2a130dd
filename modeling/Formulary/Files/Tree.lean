import Formulary.Files.Path
import Formulary.Table

/-!
# File trees — files and directories by the names that lead to them

A place is the list of names from the top; the empty place is the top itself, which is a directory.
A tree says what stands at each place.

* `FileTree.locate?`, `FileTree.read` — following a path and reading a file.
* `FileTree.write`, `FileTree.remove`, `FileTree.createDirectories` — changing the tree.
* `FileTree.list` — the names in a directory.
-/

namespace Formulary

/-- The names from the top to a file. -/
abbrev Place := List String

/-- What stands at a place. -/
inductive FileNode where
  | file (content : ByteArray) (executable : Bool)
  | directory
deriving Inhabited

/-- Whether a file holds a content. -/
def FileNode.holds (content : ByteArray) : FileNode → Bool
  | file own _ => own.data == content.data
  | directory => false

/-- Why a file cannot be used. -/
inductive FileError where
  | notFound
  | permissionDenied
  | alreadyExists
  | notDirectory
  | isDirectory
deriving DecidableEq, Repr, Inhabited

/-- The text of an error. -/
def FileError.message : FileError → String
  | notFound => "No such file or directory (os error 2)"
  | permissionDenied => "Permission denied (os error 13)"
  | alreadyExists => "File exists (os error 17)"
  | notDirectory => "Not a directory (os error 20)"
  | isDirectory => "Is a directory (os error 21)"

/-- What stands at each place. -/
structure FileTree where
  nodes : Table Place FileNode := Table.empty

namespace FileTree

/-- The tree that holds nothing. -/
def empty : FileTree := {}

instance : Inhabited FileTree := ⟨empty⟩

/-- What stands at a place. -/
def node? (t : FileTree) (place : Place) : Option FileNode :=
  if place = [] then some .directory else t.nodes.get? place

/-- Puts something at a place. -/
def set (t : FileTree) (place : Place) (node : FileNode) : FileTree := ⟨t.nodes.set place node⟩

/-- Takes away what stands at a place. -/
def remove (t : FileTree) (place : Place) : FileTree := ⟨t.nodes.erase place⟩

/-- The place that parts lead to from a place; everything before the last part is a directory. -/
def follow (t : FileTree) (place : Place) : List String → Except FileError Place
  | [] => .ok place
  | part :: rest =>
    match t.node? place with
    | none => .error .notFound
    | some (.file ..) => .error .notDirectory
    | some .directory => t.follow (if part = Path.up then place.dropLast else place ++ [part]) rest

/-- What a path leads to from a place. -/
def find (t : FileTree) (base : Place) (path : Path) : Except FileError (Place × FileNode) := do
  let place ← t.follow (if path.absolute then [] else base) path.parts
  match t.node? place with
  | none => .error .notFound
  | some (.file content executable) =>
    if path.isDirectory then .error .notDirectory else .ok (place, .file content executable)
  | some .directory => .ok (place, .directory)

/-- The content of the file at a path. -/
def read (t : FileTree) (base : Place) (path : Path) : Except FileError ByteArray := do
  match ← t.find base path with
  | (_, .file content _) => .ok content
  | (_, .directory) => .error .isDirectory

/-- Writes a file at a path, whose directory has to be there. -/
def write (t : FileTree) (base : Place) (path : Path) (content : ByteArray) :
    Except FileError FileTree := do
  let (directory, node) ← t.find base path.parent
  match node, path.parts.getLast? with
  | .file .., _ => .error .notDirectory
  | .directory, none => .error .isDirectory
  | .directory, some name =>
    match t.node? (directory ++ [name]) with
    | some .directory => .error .isDirectory
    | some (.file _ executable) => .ok (t.set (directory ++ [name]) (.file content executable))
    | none => .ok (t.set (directory ++ [name]) (.file content false))

/-- Makes the directories that parts lead through from a place. -/
def createFrom (t : FileTree) (place : Place) : List String → Except FileError (Place × FileTree)
  | [] => .ok (place, t)
  | part :: rest =>
    if part = Path.up then t.createFrom place.dropLast rest
    else
      let next := place ++ [part]
      match t.node? next with
      | some .directory => t.createFrom next rest
      | some (.file ..) => .error (if rest = [] then .alreadyExists else .notDirectory)
      | none => (t.set next .directory).createFrom next rest

/-- Makes a directory and those above it, where they are not there yet; its place comes back. -/
def createDirectories (t : FileTree) (base : Place) (path : Path) :
    Except FileError (Place × FileTree) :=
  t.createFrom (if path.absolute then [] else base) path.parts

/-- Adds a file and the directories above it; nothing changes when something is in the way. -/
def add (t : FileTree) (base : Place) (path : Path) (node : FileNode) : FileTree :=
  match t.createDirectories base path.parent, path.parts.getLast? with
  | .ok (directory, t), some name => t.set (directory ++ [name]) node
  | _, _ => t

/-- The names in a directory, in the order of their characters. -/
def list (t : FileTree) (place : Place) : List String :=
  let names := t.nodes.keys.filterMap fun k => if k.dropLast = place then k.getLast? else none
  names.mergeSort fun a b => decide (a ≤ b)

end FileTree
end Formulary
