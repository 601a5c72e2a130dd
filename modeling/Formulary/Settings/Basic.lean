import Formulary.Cache
import Formulary.Color
import Formulary.Error.Application
import Formulary.Number.Binary32
import Formulary.Settings.Level

/-!
# Settings — how the program runs

Sources and arguments wish for values; what nobody wishes for has a default. The wishes are checked
in a fixed order, and the first one that is out of range is reported.

* `Settings` — what the program runs with.
* `Wishes` — what sources and arguments ask for.
* `Wishes.settle` — the settings, or the first wish that is out of range.
-/

namespace Formulary

/-- How much is logged, and in which form. -/
structure LoggingSettings where
  level : LogLevel := .info
  json : Bool := false
deriving DecidableEq, Repr, Inhabited

/-- How documents are rendered. -/
structure RenderSettings where
  fontSize : Binary32 := Binary32.ofNat 16
  color : Color := Color.black
  fetchBound : Nat := 12
  /-- Zero leaves drawing unbounded. -/
  drawBound : Nat := 0
  /-- How many seconds an answer of a server may take. -/
  fetchTimeout : Nat := 30
  userAgent : String := "mathmark/0.1.0"
  command : String := "tex2img"
  mathDirectory : String := "/tmp/mathmark-math"
  validatesMath : Bool := true
  roundTrips : Bool := false
deriving DecidableEq, Repr

/-- What the program runs with. -/
structure Settings where
  logging : LoggingSettings := {}
  render : RenderSettings := {}
  bounds : CacheBounds := {}
  /-- The directory of resources; that of the document if there is none. -/
  resources : Option String := none
deriving DecidableEq, Repr

/-- What is asked for; `none` leaves a value as it is. -/
structure Wishes where
  level : Option String := none
  json : Option Bool := none
  fontSize : Option Binary32 := none
  color : Option String := none
  fetchBound : Option Nat := none
  drawBound : Option Nat := none
  fetchTimeout : Option Nat := none
  userAgent : Option String := none
  command : Option String := none
  mathDirectory : Option String := none
  validatesMath : Option Bool := none
  roundTrips : Option Bool := none
  maxItems : Option Nat := none
  maxBytes : Option Nat := none
  resources : Option String := none
deriving Repr

namespace Wishes

/-- Wishes that come before those of others. -/
def before (w others : Wishes) : Wishes where
  level := w.level.or others.level
  json := w.json.or others.json
  fontSize := w.fontSize.or others.fontSize
  color := w.color.or others.color
  fetchBound := w.fetchBound.or others.fetchBound
  drawBound := w.drawBound.or others.drawBound
  fetchTimeout := w.fetchTimeout.or others.fetchTimeout
  userAgent := w.userAgent.or others.userAgent
  command := w.command.or others.command
  mathDirectory := w.mathDirectory.or others.mathDirectory
  validatesMath := w.validatesMath.or others.validatesMath
  roundTrips := w.roundTrips.or others.roundTrips
  maxItems := w.maxItems.or others.maxItems
  maxBytes := w.maxBytes.or others.maxBytes
  resources := w.resources.or others.resources

/-- A number that must not be zero. -/
def positive (key : String) (n : Nat) : Except SettingsError Nat :=
  if n = 0 then .error (.invalid key "must be greater than zero") else .ok n

/-- A path that must not be empty. -/
def somewhere (key path : String) : Except SettingsError String :=
  if path.isEmpty then .error (.invalid key "path must not be empty") else .ok path

/-- The level of a wish. -/
def settleLevel (w : Wishes) (default : LogLevel) : Except SettingsError LogLevel :=
  match w.level with
  | none => .ok default
  | some text =>
    match LogLevel.parse? text with
    | some level => .ok level
    | none => .error (.invalid "logging.level" ("failed to parse: " ++ LogLevel.failure))

/-- The colour of a wish. -/
def settleColor (w : Wishes) (default : Color) : Except SettingsError Color :=
  match w.color with
  | none => .ok default
  | some text => (Color.parse text).mapError fun e => .invalid "render.text_color" e.message

/-- The name that a wish gives to servers; a blank one is no wish. -/
def settleUserAgent (w : Wishes) (default : String) : String :=
  match w.userAgent.map Text.trim with
  | none => default
  | some name => if name.isEmpty then default else name

/-- The settings of a wish, or the first value that is out of range. -/
def settle (w : Wishes) : Except SettingsError Settings := do
  let logging : LoggingSettings := {}
  let render : RenderSettings := {}
  let bounds : CacheBounds := {}
  let level ← w.settleLevel logging.level
  let fontSize := w.fontSize.getD render.fontSize
  if !fontSize.isPositive then .error (.invalid "render.font_size" "must be a positive number")
  let color ← w.settleColor render.color
  let fetchBound ← positive "render.remote_concurrency" (w.fetchBound.getD render.fetchBound)
  let fetchTimeout ← positive "render.fetch_timeout_seconds" (w.fetchTimeout.getD render.fetchTimeout)
  let command ← somewhere "render.math_cli_path" (w.command.getD render.command)
  let mathDirectory ← somewhere "render.math_cache_dir" (w.mathDirectory.getD render.mathDirectory)
  let maxItems ← positive "cache.max_items" (w.maxItems.getD bounds.maxItems)
  let maxBytes ← positive "cache.max_bytes" (w.maxBytes.getD bounds.maxBytes)
  return {
    logging := { level, json := w.json.getD logging.json }
    render := {
      fontSize, color, fetchBound, fetchTimeout, command, mathDirectory
      drawBound := w.drawBound.getD render.drawBound
      userAgent := w.settleUserAgent render.userAgent
      validatesMath := w.validatesMath.getD render.validatesMath
      roundTrips := w.roundTrips.getD render.roundTrips }
    bounds := { maxItems, maxBytes }
    resources := w.resources.filter (!·.isEmpty) }

end Wishes
end Formulary
