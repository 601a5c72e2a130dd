import Formulary.Settings.Basic
import Formulary.Settings.Value

/-!
# Conversions — from setting values to wishes

A value is taken for what is asked for wherever that makes sense: texts are read as numbers and
switches, numbers are rounded to whole ones, and switches count as one and zero. Keys that nobody
asks for are left aside.

* `Value.asFlag?`, `Value.asCount?`, `Value.asNumber?`, `Value.asText?` — the kinds of settings.
* `sections` — the names of all settings.
* `Layer.wishes?` — the wishes of a layer, or nothing when a value does not fit.
-/

namespace Formulary.Settings

/-- Whether a lower-case word switches something on or off. -/
def switch? (word : String) : Option Bool :=
  if ["true", "on", "yes"].contains word then some true
  else if ["false", "off", "no"].contains word then some false
  else none

/-- A text in lower case. -/
def lower (s : String) : String := String.ofList (s.toList.map Char.toLower)

namespace Value

/-- A switch. -/
def asFlag? : Value → Option Bool
  | boolean b => some b
  | integer n => some (n != 0)
  | number (.finite _ m _) => some (m != 0)
  | number _ => some true
  | text s =>
    match lower s with
    | "1" => some true
    | "0" => some false
    | word => switch? word
  | _ => none

/-- A whole number of 64 bits. -/
def asCount? : Value → Option Nat
  | boolean b => some b.toNat
  | integer n => if 0 ≤ n then some n.toNat else none
  | number v => some (v.roundToNat (UInt64.size - 1))
  | text s => ((switch? (lower s)).map Bool.toNat).or (Text.decimalBelow? UInt64.size s.toList)
  | _ => none

/-- A number of the double format. -/
def asNumber? : Value → Option Binary.Value
  | boolean b => some (Binary.double.ofInt b.toNat)
  | integer n => some (Binary.double.ofInt n)
  | number v => some v
  | text s =>
    match switch? (lower s) with
    | some b => some (Binary.double.ofInt b.toNat)
    | none => Binary.parse? Binary.double s.toList
  | _ => none

/-- A text. -/
def asText? : Value → Option String
  | boolean b => some (if b then "true" else "false")
  | integer n => some (toString n)
  | number v => some (String.ofList (Binary.write Binary.double v))
  | text s => some s
  | _ => none

end Value

/-- The settings by their sections, in their order. -/
def sections : List (String × List String) := [
  ("logging", ["level", "json"]),
  ("render", ["font_size", "text_color", "remote_concurrency", "math_concurrency",
    "fetch_timeout_seconds", "user_agent", "math_cli_path", "math_cache_dir", "katex_validation",
    "png_round_trip"]),
  ("cache", ["max_items", "max_bytes"]),
  ("resources", ["directory"])]

namespace Layer

/-- The values of a section under their keys. A list gives them in the order of the settings. -/
def section? (layer : Layer) (name : String) : Option Layer :=
  match layer.lookup name with
  | none => some []
  | some (.table es) => some es
  | some (.list items) => some (((sections.lookup name).getD []).zip items)
  | some _ => none

/-- What a key of a section asks for; nothing is asked for by a key that is not there, and by one
that is there without a value. -/
def wish? {α : Type} (layer : Layer) (name : String) (convert : Value → Option α) :
    Option (Option α) :=
  match layer.lookup name with
  | none => some none
  | some .null => some none
  | some v => (convert v).map some

/-- The wishes of a layer, or nothing when a value does not fit. -/
def wishes? (layer : Layer) : Option Wishes := do
  let logging ← section? layer "logging"
  let render ← section? layer "render"
  let cache ← section? layer "cache"
  let resources ← section? layer "resources"
  return {
    level := ← wish? logging "level" Value.asText?
    json := ← wish? logging "json" Value.asFlag?
    fontSize := (← wish? render "font_size" Value.asNumber?).map Binary32.nearest
    color := ← wish? render "text_color" Value.asText?
    fetchBound := ← wish? render "remote_concurrency" Value.asCount?
    drawBound := ← wish? render "math_concurrency" Value.asCount?
    fetchTimeout := ← wish? render "fetch_timeout_seconds" Value.asCount?
    userAgent := ← wish? render "user_agent" Value.asText?
    command := ← wish? render "math_cli_path" Value.asText?
    mathDirectory := ← wish? render "math_cache_dir" Value.asText?
    validatesMath := ← wish? render "katex_validation" Value.asFlag?
    roundTrips := ← wish? render "png_round_trip" Value.asFlag?
    maxItems := ← wish? cache "max_items" Value.asCount?
    maxBytes := ← wish? cache "max_bytes" Value.asCount?
    resources := ← wish? resources "directory" Value.asText? }

end Layer
end Formulary.Settings
