import Formulary.Files.Tree
import Formulary.Settings.Conversion
import Formulary.Settings.Ini
import Formulary.Settings.Json
import Formulary.Settings.Yaml
import Formulary.Text.Utf8

/-!
# Sources of settings — files and the environment, one laid over the other

Two files are looked for in the working directory, then one that was asked for is read, and then the
environment. A file is found by its name, or by its name with the ending of a format behind it.

* `Format`, `formats` — the formats of files by their endings.
* `readFile?` — the layer of a file that may be missing or must be there.
* `fileNames`, `variableNames` — the files and the variables that count.
* `environment` — the layer of the variables of the environment.
* `load?` — the wishes of all sources.
-/

namespace Formulary.Settings

/-- A format of files: its reader. -/
abbrev Format := String → Option Layer

/-- The formats by the endings of file names. -/
def formats : List (String × Format) := [("toml", Toml.parse), ("json", Json.parse),
  ("yaml", Yaml.parse), ("yml", Yaml.parse), ("ini", Ini.parse)]

/-- The ending of a file name behind its last dot. -/
def ending? (name : String) : Option String :=
  let cs := ((Text.split '/' name.toList).getLast?.getD []).reverse
  let tail := cs.takeWhile (· != '.')
  if (cs.drop (tail.length + 1)).isEmpty then none else some (String.ofList tail.reverse)

/-- The text of a file, a mark of its encoding left out. -/
def fileText (content : ByteArray) : String :=
  let bytes := content.toList
  let bytes := if [0xEF, 0xBB, 0xBF].isPrefixOf bytes then bytes.drop 3 else bytes
  String.ofList (Text.decodeLossy bytes)

/-- The content of the regular file of a name. -/
def content? (files : FileTree) (base : Place) (name : String) : Option ByteArray :=
  (files.read base (Path.ofText name)).toOption

/-- A file that was found: its content, and its format if it is known. -/
def found? (files : FileTree) (base : Place) (name : String) : Option (ByteArray × Option Format) :=
  match content? files base name with
  | some content => some (content, (ending? name).bind fun suffix => formats.lookup suffix)
  | none => formats.findSome? fun (suffix, format) =>
    (content? files base (name ++ "." ++ suffix)).map fun content => (content, some format)

/-- The layer of a file. A file that may be missing is left aside when it is not found or has no
known format. -/
def readFile? (files : FileTree) (base : Place) (required : Bool) (name : String) : Option Layer :=
  match found? files base name with
  | some (content, some format) => format (fileText content)
  | _ => if required then none else some []

/-- The start of the names of variables that hold settings. -/
def variablePrefix : List Char := "mathmark__".toList

/-- The dotted key of the characters of a variable's name; two underscores stand for a dot. -/
def keyOf : List Char → List Char
  | '_' :: '_' :: rest => '.' :: keyOf rest
  | c :: rest => c :: keyOf rest
  | [] => []

/-- The layer of the variables of the environment, whose names count in either case. -/
def environment (vars : List (String × String)) : Layer :=
  vars.filterMap fun (name, value) =>
    let cs := name.toList.map Char.toLower
    if variablePrefix.isPrefixOf cs then
      some (String.ofList (keyOf (cs.drop variablePrefix.length)), .text value)
    else none

/-- The files that are looked for in the working directory. -/
def usualFiles : List String := ["config/default", "mathmark"]

/-- The names under which files are looked for, one of which may have been asked for. -/
def fileNames (file : Option String) : List String :=
  (usualFiles ++ file.toList).flatMap fun name =>
    name :: formats.map fun (suffix, _) => name ++ "." ++ suffix

/-- The names of the variables that hold the known settings. -/
def variableNames : List String :=
  sections.flatMap fun (name, keys) =>
    keys.map fun key => String.ofList (variablePrefix ++ (name ++ "__" ++ key).toList |>.map Char.toUpper)

/-- The wishes of all sources, or nothing when one cannot be read or converted. -/
def load? (files : FileTree) (base : Place) (vars : List (String × String))
    (file : Option String) : Option Wishes := do
  let usual ← usualFiles.mapM (readFile? files base false)
  let asked ← file.toList.mapM (readFile? files base true)
  let layer := (usual ++ asked ++ [environment vars]).foldl Layer.overlay []
  Layer.wishes? layer

end Formulary.Settings
