/-!
# Phases — how far a document is

A loaded document is extracted. Asking for a batch makes it render-requested, and it is completed
when the batch that was asked for last has completed.

* `Phase.name` — the name in answers.
* `Phase.title` — the name in descriptions.
-/

namespace Formulary

/-- How far a document is. -/
inductive Phase where
  | extracted
  | renderRequested
  | completed
deriving DecidableEq, Repr, Inhabited

namespace Phase

/-- The name in answers. -/
def name : Phase → String
  | extracted => "extracted"
  | renderRequested => "render_requested"
  | completed => "completed"

/-- The name in descriptions. -/
def title : Phase → String
  | extracted => "Extracted"
  | renderRequested => "RenderRequested"
  | completed => "Completed"

end Phase
end Formulary
