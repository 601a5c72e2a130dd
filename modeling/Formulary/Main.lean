import Formulary.CommandLine.Inputs

/-!
# The command line

The files that the program reads are gathered first, then the program runs on them, and then the
files that it has changed are written. Commands are not run, and servers are not asked.
-/

namespace Formulary.CommandLine

/-- The text of a place. -/
def placeText (place : Place) : String := "/" ++ String.intercalate "/" place

/-- The files, and those that can be read at paths. -/
def gather (base : Place) (files : FileTree) (paths : List Path) : IO FileTree :=
  paths.foldlM (fun files path => do
    let place := (if path.absolute then [] else base) ++ path.parts
    try
      let content ← IO.FS.readBinFile (placeText place)
      return files.add base path (.file content false)
    catch _ => return files) files

/-- Writes the files that are not what they were before. -/
def keepChanges (old new : FileTree) : IO Unit :=
  (old.changes new).forM fun (place, content) => do
    IO.FS.createDirAll (placeText place.dropLast)
    IO.FS.writeBinFile (placeText place) content

end Formulary.CommandLine

open Formulary CommandLine

/-- The program in its environment. -/
def main (arguments : List String) : IO UInt32 := do
  let base := (Path.ofText (toString (← IO.currentDir))).parts
  let vars ← (configVariable :: Settings.variableNames).filterMapM fun name =>
    return (← IO.getEnv name).map fun value => (name, value)
  let first ← IO.rand 0 999999
  let directory := (FileTree.empty.createDirectories [] ⟨true, base, true⟩).toOption
  let mut env : Environment :=
    { vars, base, files := (directory.map Prod.snd).getD .empty, ids := fun n => .numbered (first + n) }
  for _ in [0:3] do
    env := { env with files := ← gather base env.files (Program.inputs env arguments) }
  let ending := Program.run env arguments
  IO.print ending.output
  ending.complaints.forM fun s => IO.eprintln s
  keepChanges env.files ending.files
  return UInt32.ofNat ending.status
