import Formulary.CommandLine.Arguments
import Formulary.CommandLine.Report
import Formulary.Files.Locator
import Formulary.Markdown.Document
import Formulary.Render.Fetcher
import Formulary.Render.Rasteriser
import Formulary.Session.Resolve
import Formulary.Session.Run
import Formulary.Settings.Sources

/-!
# The program — from arguments and files to a status, a text and files

The program reads its settings, then a document, and prints what its command asks for. What it does
to files is kept also when it ends with an error.

* `Environment` — what the program is started in.
* `Work` — the actions of the program: they change files and print, and may fail.
* `Program.run` — the whole program.
-/

namespace Formulary.CommandLine

open Render

/-- What the program is started in. -/
structure Environment where
  /-- The variables by their names. -/
  vars : List (String × String) := []
  files : FileTree := FileTree.empty
  /-- The working directory. -/
  base : Place := []
  /-- The commands that can be run, by the paths that name them. -/
  commands : List (String × (MathRequest → CommandResult)) := []
  /-- The supply of identifiers. -/
  ids : Nat → Uuid := Uuid.numbered
  /-- Those who read the images. -/
  readers : Raster.Readers := .basic

/-- The files, and what was printed. -/
structure Desk where
  files : FileTree
  output : String := ""
deriving Inhabited

/-- What the program ends with; `complaints` are for the one who started it. -/
structure Ending where
  status : Nat
  output : String
  files : FileTree
  complaints : List String := []
deriving Inhabited

/-- An action of the program. -/
abbrev Work := ExceptT ApplicationError (StateM Desk)

/-- Prints a text. -/
def say (s : String) : Work Unit := modify fun d => { d with output := d.output ++ s }

/-- The text of the version. -/
def versionText : String := "mathmark 0.1.0\n"

/-- The text of the help. -/
def helpText : String := Report.lines [
  "Render the math and images of a markdown document",
  "",
  "Usage: mathmark [OPTIONS] <COMMAND>",
  "",
  "Commands:",
  "  segments  Print the segment list and the reformatted text",
  "  toc       Print the document outline",
  "  render    Render every math span and image, then report per-location status",
  "  help      Print this message or the help of the given subcommand(s)"]

namespace Program

/-- The text of the document at a path. -/
def document (env : Environment) (path : String) : Work String := do
  match (← get).files.read env.base (Path.ofText path) with
  | .error e => throw (.input path e.message)
  | .ok content =>
    match Text.text? content with
    | some text => return text
    | none => throw (.input path "stream did not contain valid UTF-8")

/-- The command that a path names. One that cannot be run is not there or must not be run. -/
def command (env : Environment) (path : String) : MathRequest → CommandResult :=
  match env.commands.lookup path with
  | some run => run
  | none => fun _ => .unavailable <|
    if path.toList.contains '/' then
      match env.files.find env.base (Path.ofText path) with
      | .error e => e
      | .ok _ => .permissionDenied
    else .notFound

/-- What every drawn bitmap goes through. -/
def finish (settings : Settings) (bitmap : Bitmap) : Answer Bitmap :=
  if settings.render.roundTrips then
    match Raster.roundTrip bitmap with
    | .ok bitmap => .given bitmap
    | .error e => .failed e
  else .given bitmap

/-- The answer that a result is. -/
def answer {α : Type} : Except JobError α → Answer α
  | .ok a => .given a
  | .error e => .failed e

/-- Those who work for the program; they act on its files. -/
def collaborators (env : Environment) (settings : Settings) (fetcher : Fetcher)
    (renderer : MathRenderer) (root : Path) : Collaborators FileTree where
  fetch url files := ({ answer := fetcher.fetch url.toString }, files)
  draw request files :=
    let (outcome, _, files) := renderer.draw files request
    ({ answer := answer outcome }, files)
  find name files := ({ answer := .given (Locator.locate files env.base root name) }, files)
  finish := finish settings
  decode := env.readers.decode

/-- The number of the one document of the program. -/
def only : DocumentId := ⟨0⟩

/-- The session of the program. -/
def session (settings : Settings) : Session := Session.new {
  fontSize := settings.render.fontSize
  color := settings.render.color
  bounds := settings.bounds
  fetchBound := settings.render.fetchBound
  drawBound := settings.render.drawBound }

/-- Loads the one document of the program. -/
def open' (env : Environment) (settings : Settings) (text : String) :
    Except ApplicationError (Session × OpenDocument) :=
  match (session settings).load only env.ids Markdown.parse text with
  | .error e => .error (.document e)
  | .ok s =>
    match s.documents.get? only with
    | some document => .ok (s, document)
    | none => .error (.unexpected "the document is gone")

/-- Sets up those who fetch and draw, and loads a document. -/
def load (env : Environment) (settings : Settings) (path : String) :
    Work (Fetcher × MathRenderer × Session × OpenDocument) := do
  let text ← document env path
  let fetcher ← match Fetcher.make settings.render.userAgent with
    | .ok fetcher => pure fetcher
    | .error e => throw (.service e)
  let (renderer, files) := MathRenderer.prepare (← get).files env.base
    (Path.ofText settings.render.mathDirectory) fun directory => {
      directory
      command := command env settings.render.command
      validates := settings.render.validatesMath
      limit := settings.bounds.maxBytes
      decode := env.readers.decode }
  modify fun d => { d with files }
  match open' env settings text with
  | .error e => throw e
  | .ok (s, document) => return (fetcher, renderer, s, document)

/-- Prints the segments of a document. -/
def segments (env : Environment) (inv : Invocation) : Work Unit := do
  let text ← document env inv.file
  let reformatted := (Markup.reformat env.ids text).text
  let ss := Markup.segments text
  say (if inv.json then Report.segmentsJson ss reformatted else Report.segments ss reformatted)

/-- Prints the outline of a document. -/
def toc (env : Environment) (settings : Settings) (inv : Invocation) : Work Unit := do
  let (_, _, _, document) ← load env settings inv.file
  let hs := document.loaded.outline
  say (if inv.json then Report.outlineJson hs else Report.outline hs)

/-- The name of the file of a place. -/
def fileName (range : SourceRange) : String :=
  String.ofList (range.toChars.map fun c => if c = ':' then '_' else c) ++ ".png"

/-- Writes the bitmap of a placement into a directory; its path comes back. -/
def write (env : Environment) (directory : String) (range : SourceRange) (bitmap : Bitmap) :
    Work String := do
  let path := Path.joinText directory (fileName range)
  match Raster.Png.encode? bitmap with
  | none => throw (.output ("failed to encode " ++ path ++ ": " ++ Raster.fileDetails))
  | some bytes =>
    match (← get).files.write env.base (Path.ofText path) ⟨bytes.toArray⟩ with
    | .error e => throw (.output (path ++ ": " ++ e.message))
    | .ok files =>
      modify fun d => { d with files }
      return path

/-- The row of a placement, whose bitmap is written if there is a directory for it. -/
def row (env : Environment) (directory : Option String) (p : Placement) : Work Report.Row := do
  match p.resolution, directory with
  | .rendered bitmap, some directory =>
    return { placement := p, file := some (← write env directory p.range bitmap) }
  | _, _ => return { placement := p }

/-- The directory of resources: the one of the settings, or else that of the document. -/
def resourceRoot (settings : Settings) (path : String) : Path :=
  match settings.resources with
  | some directory => Path.ofText directory
  | none => (Path.ofText path).parent

/-- Renders a document and prints what became of it. -/
def render (env : Environment) (settings : Settings) (inv : Invocation) : Work Unit := do
  let (fetcher, renderer, s, opened) ← load env settings inv.file
  match s.request only with
  | none => throw (.unexpected "the document is gone")
  | some (batch, s) =>
    let work := collaborators env settings fetcher renderer (resourceRoot settings inv.file)
    let run := Run.settle work { session := s, world := (← get).files }
    modify fun d => { d with files := run.world }
    let result := run.session.resultWithin batch (Duration.ofSeconds (max 1 inv.timeout))
    if let some directory := inv.output then
      match (← get).files.createDirectories env.base (Path.ofText directory) with
      | .error e => throw (.output (directory ++ ": " ++ e.message))
      | .ok (_, files) => modify fun d => { d with files }
    let (placements, s) := run.session.placements only
    let rows ← placements.mapM (row env inv.output)
    let phase := ((s.documents.get? only).map OpenDocument.phase).getD .extracted
    let total := opened.loaded.extraction.jobCount
    say (if inv.json then Report.renderingJson phase total result.toOption rows
      else Report.rendering phase rows)
    match result with
    | .ok _ => return
    | .error e => throw (.batch e)

/-- The settings of an invocation: its options come before all sources. -/
def settings (env : Environment) (inv : Invocation) : Except SettingsError Settings :=
  match Settings.load? env.files env.base env.vars inv.configFile with
  | none => .error (.build "a source cannot be read or converted")
  | some wishes => (inv.wishes.before wishes).settle

/-- Does what an invocation asks for. -/
def perform (env : Environment) (inv : Invocation) : Work Unit := do
  match settings env inv with
  | .error e => throw (.settings e)
  | .ok settings =>
    match inv.command with
    | .segments => segments env inv
    | .toc => toc env settings inv
    | .render => render env settings inv

/-- The whole program. Help and the version are printed; other arguments that are not understood
end it with status 2. -/
def run (env : Environment) (arguments : List String) : Ending :=
  match Invocation.parse env.vars arguments with
  | .error .help => ⟨0, helpText, env.files, []⟩
  | .error .version => ⟨0, versionText, env.files, []⟩
  | .error e => ⟨2, "", env.files, ["arguments are not understood: " ++ e.name]⟩
  | .ok inv =>
    let (result, desk) := (perform env inv).run.run { files := env.files }
    match result with
    | .ok () => ⟨0, desk.output, desk.files, []⟩
    | .error e => ⟨e.exitStatus, desk.output, desk.files, e.chain⟩

end Program
end Formulary.CommandLine
