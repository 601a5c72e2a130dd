import Formulary.CommandLine.Program

/-!
# Inputs — the files that the program reads

Which files are read follows from the arguments, from the settings and from the document, so that it
is known step by step: the files of the settings first, then the document, and then its resources
and the kept files of its formulas.

* `Program.inputs` — the paths of the files that are read, as far as the files at hand tell.
* `FileTree.changes` — the files that are not what they were before.
-/

namespace Formulary

namespace CommandLine.Program

open Render

/-- The paths of the resources and of the kept files of a document. -/
def documentInputs (settings : Settings) (path : String) (document : OpenDocument) : List Path :=
  let plan := Plan.ofExtraction document.loaded.extraction settings.render.fontSize settings.render.color
  let root := resourceRoot settings path
  plan.jobs.flatMap fun job =>
    match job.task with
    | .fetch _ => []
    | .load name => (Locator.candidates name).map root.append
    | .draw request => [(Path.ofText settings.render.mathDirectory).append [cacheName request]]

/-- The paths of the files that are read, as far as the files at hand tell. -/
def inputs (env : Environment) (arguments : List String) : List Path :=
  match Invocation.parse env.vars arguments with
  | .error _ => []
  | .ok inv =>
    let known := (inv.file :: Settings.fileNames inv.configFile).map Path.ofText
    match settings env inv with
    | .error _ => known
    | .ok settings =>
      let opened := do
        let content ← (env.files.read env.base (Path.ofText inv.file)).toOption
        (open' env settings (← Text.text? content)).toOption
      known ++ (opened.map fun (_, document) => documentInputs settings inv.file document).getD []

end CommandLine.Program

/-- The files of a tree that another tree does not hold as they are. -/
def FileTree.changes (old new : FileTree) : List (Place × ByteArray) :=
  new.nodes.entries.filterMap fun (place, node) =>
    match node with
    | .directory => none
    | .file content _ =>
      if (old.node? place).any (FileNode.holds content) then none else some (place, content)

end Formulary
