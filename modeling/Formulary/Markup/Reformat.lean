import Formulary.Markup.Placeholder
import Formulary.Markup.Segment

/-!
# Reformatting — a text that markup readers leave alone

Before a document is read as markup, its math is put where the reader does not look inside. A block
becomes a fenced code block in the language `math`; an inline formula becomes a code span that
holds a new identifier. Plain text stays as it is.

* `fenceLength` — longer than any run of backticks inside.
* `blockFragment` — a block on lines of its own.
* `reformat` — the fragments of a text, the table of identifiers and the number of blocks.
-/

namespace Formulary.Markup

/-- The length of the longest run of backticks; `run` is the length of the run being read and
`longest` that of the longest before it. -/
def longestRun (run longest : Nat) : List Char → Nat
  | [] => max run longest
  | c :: rest => if c = '`' then longestRun (run + 1) longest rest
    else longestRun 0 (max run longest) rest

/-- The length of the fence around content: three or more, and more than any run inside. -/
def fenceLength (content : List Char) : Nat := max (longestRun 0 0 content) 2 + 1

/-- A block in a fence, with line breaks where the text around it has none. -/
def blockFragment (content : List Char) (breakBefore breakAfter : Bool) : List Char :=
  let fence := List.replicate (fenceLength content) '`'
  (if breakBefore then ['\n'] else []) ++ fence ++ "math\n".toList ++ content ++
    '\n' :: fence ++ (if breakAfter then ['\n'] else [])

/-- A code span that holds an identifier. -/
def tokenFragment (id : Uuid) : List Char := '`' :: (id.toChars ++ ['`'])

/-- Whether the text after `fragment` starts a line, when `atStart` says so of the text before. -/
def lineStartAfter (atStart : Bool) (fragment : List Char) : Bool :=
  match fragment.getLast? with
  | some c => c == '\n'
  | none => atStart

/-- Whether a line break has to follow a block in front of these segments. -/
def needsBreak : List Segment → Bool
  | [] => false
  | s :: _ => !s.chars.head?.any fun c => c == '\n' || c == '\r'

/-- The trimmed content of a segment. -/
def Segment.source (s : Segment) : List Char := Text.trimChars s.content

/-- The fragments of segments; `n` identifiers are minted before them, and `atStart` says whether
they start a line. -/
def fragmentsFrom (ids : Nat → Uuid) (n : Nat) (atStart : Bool) : List Segment → List (List Char)
  | [] => []
  | s :: rest =>
    match s.kind with
    | .plain => s.chars :: fragmentsFrom ids n (lineStartAfter atStart s.chars) rest
    | .block =>
      let fragment := blockFragment s.source (!atStart) (needsBreak rest)
      fragment :: fragmentsFrom ids n (lineStartAfter atStart fragment) rest
    | .quoted | .inline =>
      tokenFragment (ids n) :: fragmentsFrom ids (n + 1) false rest

/-- The segments that an identifier stands for. -/
def spanSegments (segments : List Segment) : List Segment :=
  segments.filter fun s => s.kind == .quoted || s.kind == .inline

/-- The table of the identifiers of segments, minted in their order. -/
def placeholdersOf (ids : Nat → Uuid) (segments : List Segment) : PlaceholderTable :=
  (spanSegments segments).foldl
    (fun table s => (table.mint ids (String.ofList s.source) s.start).2) PlaceholderTable.empty

/-- A text made ready for a markup reader. -/
structure Reformatted where
  placeholders : PlaceholderTable
  fragments : List (List Char)
  blocks : Nat

namespace Reformatted

/-- The fragments one after the other. -/
def text (r : Reformatted) : String := String.ofList r.fragments.flatten

end Reformatted

/-- Reformats segments. -/
def reformatSegments (ids : Nat → Uuid) (segments : List Segment) : Reformatted where
  placeholders := placeholdersOf ids segments
  fragments := fragmentsFrom ids 0 true segments
  blocks := (segments.filter fun s => s.kind == .block).length

/-- Reformats a text. -/
def reformat (ids : Nat → Uuid) (text : String) : Reformatted :=
  reformatSegments ids (segments text)

end Formulary.Markup
