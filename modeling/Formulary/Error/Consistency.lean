import Formulary.Location.Range
import Formulary.Text.Quoted
import Formulary.Uuid

/-!
# Consistency errors — when a document does not come back from its reader as it went in

Every inline formula leaves as an identifier and has to come back exactly once, and no two entries
may stand at one place. A document that breaks this is refused.

* `ConsistencyError` — the three causes.
* `ConsistencyError.message`, `ConsistencyError.documentMessage` — their texts.
-/

namespace Formulary

/-- Why a document is refused. -/
inductive ConsistencyError where
  /-- Identifiers that did not come back, with the sources they stand for. -/
  | unresolved (missing total : Nat) (sources : List String)
  /-- An identifier that came back twice. -/
  | duplicated (id : Uuid)
  /-- A place taken by two entries. -/
  | locationCollision (range : SourceRange)
deriving DecidableEq, Repr

namespace ConsistencyError

/-- The text of an error. -/
def message : ConsistencyError → String
  | unresolved missing total sources =>
    "markdown parsing lost " ++ toString missing ++ " of " ++ toString total ++
      " inline math placeholders: " ++ Text.quoteList sources
  | duplicated id => "placeholder " ++ id.hyphenated ++
      " appeared more than once in the parsed document"
  | locationCollision range => "two extracted entries share the location " ++ range.key

/-- The text of an error as the reason why a document could not be loaded. -/
def documentMessage (e : ConsistencyError) : String :=
  "internal consistency violated: " ++ e.message

end ConsistencyError
end Formulary
