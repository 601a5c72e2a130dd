import Formulary.Text.Digits

/-!
# Log levels — how much is logged

* `LogLevel.parse?` — a level by its name in either case, or by its number.
-/

namespace Formulary

/-- How much is logged, from nothing to everything. -/
inductive LogLevel where
  | off
  | error
  | warn
  | info
  | debug
  | trace
deriving DecidableEq, Repr, Inhabited

namespace LogLevel

/-- The levels by their numbers. -/
def all : List LogLevel := [off, error, warn, info, debug, trace]

/-- The name of a level. -/
def name : LogLevel → String
  | off => "off"
  | error => "error"
  | warn => "warn"
  | info => "info"
  | debug => "debug"
  | trace => "trace"

/-- The level that a text names; nothing at all names errors. -/
def parse? (s : String) : Option LogLevel :=
  match Text.decimalBelow? UInt64.size s.toList with
  | some n => all[n]?
  | none =>
    if s.isEmpty then some error
    else all.find? fun level => level.name == String.ofList (s.toList.map Char.toLower)

/-- Why a text names no level. -/
def failure : String :=
  "error parsing level filter: expected one of " ++
    "\"off\", \"error\", \"warn\", \"info\", \"debug\", \"trace\", or a number 0-5"

end LogLevel
end Formulary
