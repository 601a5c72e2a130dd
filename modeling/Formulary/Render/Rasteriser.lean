import Formulary.Files.Tree
import Formulary.Hash.Sha256
import Formulary.Raster.Decode
import Formulary.Render.Latex
import Formulary.Render.Request

/-!
# Rasterisers — formulas drawn by a command, and kept in a directory

A command draws one formula into a file. The files of commands that succeeded are kept in a
directory under a name that depends on everything that is drawn, so that the same formula is drawn
once. A kept file that is no image is thrown away and drawn again.

* `cacheKey`, `cacheName` — the bytes that tell formulas apart, and the name of the kept file.
* `Rasteriser.draw` — a formula from its kept file, or else from the command.
* `MathRenderer` — a rasteriser, or nothing but the reason why there is none.
-/

namespace Formulary.Render

/-- How running a command ended. -/
inductive CommandResult where
  /-- It could not be started. -/
  | unavailable (error : FileError)
  /-- It ended with a status, unless it was killed, left messages, and maybe a file. -/
  | finished (status : Option Nat) (messages : ByteArray) (output : Option ByteArray)
deriving Inhabited

/-- Why a formula could not be drawn. -/
inductive MathError where
  | directory (cause : FileError)
  | temporary (cause : FileError)
  | rejected (reason : String)
  | failed (status : Option Nat) (messages : String)
  | noCommand (cause : FileError)
  | noOutput (cause : FileError)
  | noImage (cause : JobError)
deriving DecidableEq, Repr

namespace MathError

/-- The text of a status. -/
def statusText : Option Nat → String
  | some status => "Some(" ++ toString status ++ ")"
  | none => "None"

/-- The text of an error. -/
def message : MathError → String
  | directory cause => "failed to prepare cache directory: " ++ cause.message
  | temporary cause => "failed to write temporary file: " ++ cause.message
  | rejected reason => "LaTeX rejected by KaTeX: " ++ reason
  | failed status messages =>
    "math CLI invocation failed (exit " ++ statusText status ++ "): " ++ messages
  | noCommand cause => "math CLI unavailable: " ++ cause.message
  | noOutput cause => "failed to read rendered output: " ++ cause.message
  | noImage cause => "rendered output is not an image: " ++ cause.message

/-- The error of the job: an output that is no image is told by its own cause. -/
def jobError : MathError → JobError
  | noImage cause => .render cause.message
  | e => .render e.message

end MathError

/-- The arguments of the command for a formula that is read from one file and drawn into another. -/
def arguments (request : MathRequest) (input output : String) : List String :=
  ["--input", input, "--output", output, "--font-size", request.fontSize.toString,
    "--color", request.color.toString] ++
  match request.style with
  | .display => ["--display"]
  | .inline => []

/-- The bytes that tell requests apart: the source, the style, the font size and the colour. -/
def cacheKey (request : MathRequest) : List UInt8 :=
  Text.encodeChars request.latex.toList ++ 0 :: Text.encodeChars request.style.name.toList ++
    0 :: request.fontSize.bytes ++ Text.encodeChars request.color.toChars

/-- The name of the kept file of a request. -/
def cacheName (request : MathRequest) : String :=
  Text.hexText (Sha256.digest (cacheKey request)) ++ ".img"

/-- A command, the place of the directory, whether sources are checked before the command runs, and
how many bytes a bitmap may take. The check of a source in a style gives a reason why it cannot be
set, if there is one. The output of the command is decoded. -/
structure Rasteriser where
  command : MathRequest → CommandResult
  directory : Place
  validates : Bool
  limit : Nat := Raster.defaultLimit
  refusal? : String → MathStyle → Option String :=
    fun latex _ => if Latex.isBalanced latex then none else some Raster.fileDetails
  decode : Raster.Decoder := Raster.decodeImage

/-- What drawing a formula gave, whether the command ran, and the files after it. -/
structure Drawing where
  outcome : Except MathError Bitmap
  ran : Bool
  files : FileTree

namespace Rasteriser

/-- The place of the kept file of a request. -/
def place (r : Rasteriser) (request : MathRequest) : Place := r.directory ++ [cacheName request]

/-- Keeps a file, unless a directory is in its place. -/
def keep (files : FileTree) (place : Place) (content : ByteArray) : FileTree :=
  match files.node? place with
  | some .directory => files
  | _ => files.set place (.file content false)

/-- What the end of a command means, without regard to what is kept. -/
def interpret (r : Rasteriser) : CommandResult → Except MathError (Bitmap × ByteArray)
  | .unavailable .notFound => .error (.noCommand .notFound)
  | .unavailable e => .error (.temporary e)
  | .finished status messages output =>
    if status = some 0 then
      match output with
      | none => .error (.noOutput .notFound)
      | some bytes =>
        match r.decode r.limit bytes with
        | .ok bitmap => .ok (bitmap, bytes)
        | .error e => .error (.noImage e)
    else .error (.failed status (Text.trim (Text.lossyText messages)))

/-- Runs the command and keeps its file if it is an image. -/
def run (r : Rasteriser) (files : FileTree) (request : MathRequest) : Drawing :=
  let result := r.command request
  let ran := match result with
    | .unavailable _ => false
    | .finished .. => true
  match r.interpret result with
  | .ok (bitmap, bytes) => ⟨.ok bitmap, ran, keep files (r.place request) bytes⟩
  | .error e => ⟨.error e, ran, files⟩

/-- Why a formula is not drawn at all, if sources are checked. -/
def rejection? (r : Rasteriser) (request : MathRequest) : Option String :=
  if r.validates then r.refusal? request.latex request.style else none

/-- Draws a formula: the kept file comes first, and the command runs only if it is no image. -/
def draw (r : Rasteriser) (files : FileTree) (request : MathRequest) : Drawing :=
  match r.rejection? request with
  | some reason => ⟨.error (.rejected reason), false, files⟩
  | none =>
    match files.node? (r.place request) with
    | some (.file bytes _) =>
      match r.decode r.limit bytes with
      | .ok bitmap => ⟨.ok bitmap, false, files⟩
      | .error _ => r.run (files.remove (r.place request)) request
    | _ => r.run files request

end Rasteriser

/-- What draws formulas. -/
inductive MathRenderer where
  | disabled (reason : String)
  | rasteriser (r : Rasteriser)

namespace MathRenderer

/-- The renderer over a directory, which is made if it is not there. -/
def prepare (files : FileTree) (base : Place) (directory : Path) (make : Place → Rasteriser) :
    MathRenderer × FileTree :=
  match files.createDirectories base directory with
  | .ok (place, files) => (.rasteriser (make place), files)
  | .error e => (.disabled (MathError.directory e).message, files)

/-- Draws a formula, and says whether the command ran. -/
def draw (m : MathRenderer) (files : FileTree) (request : MathRequest) :
    Except JobError Bitmap × Bool × FileTree :=
  match m with
  | .disabled reason => (.error (.render ("math renderer disabled: " ++ reason)), false, files)
  | .rasteriser r =>
    let drawing := r.draw files request
    (drawing.outcome.mapError MathError.jobError, drawing.ran, drawing.files)

end MathRenderer
end Formulary.Render
