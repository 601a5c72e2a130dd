import Formulary.Markdown.Opening

/-!
# Reading lines — how a document grows

A reader holds the path of open blocks. For each line it finds the blocks that go on, opens what the
line opens inside them, and adds the text that is left. Blocks that do not go on are closed, unless
the text goes on with a paragraph among them.

* `Reader` — the path of open blocks, the definitions read, and where the line before stops.
* `Reader.open?` — what a line opens.
* `Reader.readLine`, `Reader.read` — one line, and all lines.
-/

namespace Formulary.Markdown

/-- The open blocks, the innermost first; the definitions of link labels; the number of the line,
and where the line before stops. -/
structure Reader where
  path : List OpenBlock := [{ kind := .document, start := ⟨1, 1⟩ }]
  definitions : List Definition := []
  line : Nat := 0
  stopBefore : Place := ⟨0, 0⟩
deriving Inhabited

namespace Reader

/-- Closes the innermost block, which stops at a place. -/
def close (r : Reader) (stop : Place) : Reader :=
  match r.path with
  | b :: parent :: rest =>
    let (definitions, block?) := b.close stop
    let parent := match block? with
      | some block => parent.addChild block
      | none => parent
    { r with path := parent :: rest, definitions := r.definitions ++ definitions }
  | _ => r

/-- Closes blocks, which stop with the line before, until `n` are open. -/
def closeTo (n : Nat) : Nat → Reader → Reader
  | 0, r => r
  | fuel + 1, r => if r.path.length ≤ n then r else closeTo n fuel (r.close r.stopBefore)

/-- Closes the blocks of `pending`, which are open inside the path. -/
def settle (r : Reader) (pending : List OpenBlock) : Reader :=
  closeTo r.path.length pending.length { r with path := pending ++ r.path }

/-- Closes the blocks of `pending` but the outermost. -/
def settleInside (r : Reader) (pending : List OpenBlock) : Reader :=
  closeTo (r.path.length + 1) pending.length { r with path := pending ++ r.path }

/-- Closes blocks until the innermost may hold a block of a kind. -/
def makeRoom (kind : BlockKind) : Nat → Reader → Reader
  | 0, r => r
  | fuel + 1, r =>
    match r.path with
    | b :: _ => if b.kind.holds kind then r else makeRoom kind fuel (r.close r.stopBefore)
    | [] => r

/-- Opens a block. -/
def open' (r : Reader) (b : OpenBlock) : Reader :=
  let r := makeRoom b.kind r.path.length r
  { r with path := b :: r.path }

/-- Adds a closed block. -/
def addBlock (r : Reader) (block : RawBlock) : Reader :=
  let r := makeRoom block.kind r.path.length r
  match r.path with
  | b :: rest => { r with path := b.addChild block :: rest }
  | [] => r

/-- What becomes of a line in which something opens: reading goes on, the line is done, or what is
left of it is text. -/
inductive Step where
  | goesOn (r : Reader) (c : Cursor)
  | done (r : Reader)
  | text (r : Reader) (c : Cursor)

/-- Opens what a marker says, after the pending blocks are closed. -/
def apply (r : Reader) (pending : List OpenBlock) (line : List Char) : Opening → Step
  | .blocks opened c => .goesOn (opened.foldl open' (r.settle pending)) c
  | .leaf block => .done ((r.settle pending).addBlock block)
  | .verbatim b first =>
    let r := (r.settle pending).open' (b.addLine first)
    match b.kind with
    | .html kind => .done (if blockEnds kind line then r.close r.stopBefore else r)
    | _ => .done r

/-- Makes the open paragraph a heading, unless it holds definitions alone. -/
def setext? (r : Reader) (c : Cursor) (stop : Place) : Option Step :=
  match r.path with
  | b :: rest =>
    if b.kind = .paragraph then
      (setextLevel? c).map fun level =>
        match b.close stop with
        | (definitions, some (.mk _ start _ content _)) =>
          let r := { r with path := rest, definitions := r.definitions ++ definitions }
          .done (r.addBlock (.mk (.heading level) start stop content []))
        | (definitions, none) =>
          .text { r with
            path := { b with lines := [] } :: rest
            definitions := r.definitions ++ definitions } c
    else none
  | [] => none

/-- Starts a definition whose term is a paragraph, the last block of `parent`. -/
def defineTerm (r : Reader) (parent : OpenBlock) (rest : List OpenBlock) (term : RawBlock)
    (indent : Nat) (place : Place) : Reader :=
  let (list, parent) : OpenBlock × OpenBlock := match parent.children with
    | .mk .definitionList start stop content children :: before =>
      (.reopen (.mk .definitionList start stop content children), { parent with children := before })
    | _ => ({ kind := .definitionList, start := term.start }, parent)
  let item : OpenBlock :=
    { kind := .definitionItem indent, start := term.start
      children := [.mk .term term.start term.stop [] [term]] }
  { r with path := { kind := .details, start := place } :: item :: list :: parent :: rest }

/-- Starts a definition: the paragraph in front of it is its term, or it belongs to the term of the
definition before. -/
def definition? (r : Reader) (pending : List OpenBlock) (c : Cursor) : Option Step := do
  let n ← definitionMarker? c
  let indent := c.indent + n
  let text := (c.toText.skip n).skipOptionalBlank
  match r.path with
  | b :: rest =>
    match b.kind, pending with
    | .paragraph, _ =>
      let parent ← rest.head?
      let (definitions, term) := b.close r.stopBefore
      let r := { r with definitions := r.definitions ++ definitions }
      return .goesOn (r.defineTerm parent (rest.drop 1) (← term) indent c.place) text
    | .definitionList, _ =>
      let isItem : Bool := match pending.getLast? with
        | some p => p.kind.isDefinitionItem
        | none => b.children.head?.any fun child => child.kind.isDefinitionItem
      if isItem then
        let item : OpenBlock := { kind := .definitionItem indent, start := c.place }
        let details : OpenBlock := { kind := .details, start := c.place }
        return .goesOn ([item, details].foldl open' (r.settle pending)) text
      else none
    | _, [] =>
      match b.children with
      | term :: before =>
        if term.kind = .paragraph then
          let parent := { b with children := before }
          return .goesOn (r.defineTerm parent rest term indent c.place) text
        else none
      | [] => none
    | _, _ => none
  | [] => none

/-- The block of a cell of a row that starts at a place. -/
def cellBlock (row : Place) (cell : Cell) : RawBlock :=
  .mk .cell ⟨row.line, row.column + cell.start⟩ ⟨row.line, row.column + cell.stop - 1⟩
    (place row.line (row.column + cell.contentStart) cell.content) []

/-- The block of a row: the cells that the table has room for, and empty ones behind them. -/
def rowBlock (columns : Nat) (cells : List Cell) (start stop : Place) : RawBlock :=
  let blocks := (cells.take columns).map (cellBlock start)
  let behind := ((blocks.getLast?.map fun b => b.stop.column).getD start.column) + 1
  let missing : RawBlock := .mk .cell ⟨start.line, behind⟩ ⟨start.line, behind⟩ [] []
  .mk .row start stop [] (blocks ++ List.replicate (columns - blocks.length) missing)

/-- The paragraph of the lines in front of the head of a table. -/
def paragraphBefore (b : OpenBlock) (lines : List (List Glyph)) : List RawBlock :=
  let content := dropRightWhile isAsciiSpace lines.reverse.flatten
  match content.getLast? with
  | some last => [.mk .paragraph b.start last.lastPlace content []]
  | none => []

/-- Starts a table, whose head is the last line of the open paragraph. -/
def tableHead? (r : Reader) (c : Cursor) : Option Step :=
  match r.path with
  | b :: parent :: rest =>
    match b.kind, b.lines with
    | .paragraph, head :: before =>
      if b.triedTable || 3 < c.indent then none
      else do
        let delimiters ← cells? (charsOf c.text)
        if !isDelimiterRow delimiters then none
        else
          let failed := Step.text { r with path := { b with triedTable := true } :: parent :: rest } c
          match cells? (charsOf head) with
          | none => failed
          | some cells =>
            if cells.length != delimiters.length then failed
            else
              let start : Place := ⟨r.line - 1, b.start.column⟩
              let stop : Place := ⟨start.line, start.column + Text.byteSize (charsOf head) - 2⟩
              let columns := cells.length
              let table : OpenBlock :=
                { kind := .table columns, start, children := [rowBlock columns cells start stop] }
              let parent := (paragraphBefore b before).foldl OpenBlock.addChild parent
              return .done { r with path := table :: parent :: rest }
    | _, _ => none
  | _ => none

/-- Adds a row to the open table. -/
def tableRow? (r : Reader) (c : Cursor) (stop : Place) : Option Step :=
  match r.path with
  | b :: rest =>
    match b.kind with
    | .table columns =>
      if 3 < c.indent then none
      else (cells? (charsOf c.text)).map fun cells =>
        let row := rowBlock columns cells ⟨stop.line, b.start.column⟩ stop
        .done { r with path := b.addChild row :: rest }
    | _ => none
  | [] => none

/-- What a line opens in the innermost block. `isLazy` says that the text may go on with a paragraph,
and `depth` counts what the line has opened. -/
def open? (r : Reader) (pending : List OpenBlock) (c : Cursor) (isLazy : Bool) (depth : Nat)
    (stop : Place) : Option Step :=
  let outer := (r.path.head?.map OpenBlock.kind).getD .document
  let inParagraph : Bool := outer = .paragraph
  let apply (o : Option Opening) := o.map (r.apply pending (charsOf c.text))
  apply (quote? c)
  <|> apply (heading? c stop)
  <|> apply (fence? c)
  <|> apply (html? c inParagraph)
  <|> r.setext? c stop
  <|> apply (thematicBreak? c stop)
  <|> (if depth < 100 then apply (footnote? c) else none)
  <|> r.definition? pending c
  <|> (if depth < 100 then apply (item? c outer) else none)
  <|> (if isLazy then none else apply (indentedCode? c))
  <|> r.tableHead? c
  <|> r.tableRow? c stop

/-- Opens all that a line opens; what is left is text, unless the line is done. The blocks of
`pending` are closed as soon as something opens. -/
def openAll : Nat → Reader → List OpenBlock → Cursor → Bool → Nat → Place →
    Reader × List OpenBlock × Option Cursor
  | 0, r, pending, c, _, _, _ => (r, pending, some c)
  | fuel + 1, r, pending, c, isLazy, depth, stop =>
    if r.path.head?.any (fun b => b.kind.isVerbatim) then (r, pending, some c)
    else
      match r.open? pending c isLazy depth stop with
      | some (.goesOn r c) => openAll fuel r [] c false (depth + 1) stop
      | some (.done r) => (r, [], none)
      | some (.text r c) => (r, [], some c)
      | none => (r, pending, some c)

/-- Adds a line to the innermost block. -/
def addLine (r : Reader) (line : List Glyph) : Reader :=
  match r.path with
  | b :: rest => { r with path := b.addLine line :: rest }
  | [] => r

/-- Adds the text that is left of a line. -/
def addText (r : Reader) (pending : List OpenBlock) (c : Cursor) : Reader :=
  let kind := (r.path.head?.map OpenBlock.kind).getD .document
  if kind.isVerbatim then
    let r := r.addLine c.remaining
    match kind with
    | .html n => if blockEnds n (charsOf c.text) then r.close r.stopBefore else r
    | _ => r
  else if c.isBlank then r.settle pending
  else
    match pending with
    | b :: others =>
      if b.kind = .paragraph then { r with path := b.addLine c.remaining :: others ++ r.path }
      else (r.settle pending).open' { kind := .paragraph, start := c.place, lines := [c.text] }
    | [] =>
      if kind = .paragraph then r.addLine c.text
      else r.open' { kind := .paragraph, start := c.place, lines := [c.text] }

/-- Finds the open blocks, from the document inwards, that go on in a line: those that do and those
that do not, each the innermost first, what is left of the line, and whether the line closes the
outermost of those that do not. -/
def walk (kept : List OpenBlock) (c : Cursor) :
    List OpenBlock → List OpenBlock × List OpenBlock × Cursor × Bool
  | [] => (kept, [], c, false)
  | b :: inner =>
    match b.next (!inner.isEmpty || !b.children.isEmpty) c with
    | .goesOn c => walk (b :: kept) c inner
    | .stops => (kept, (b :: inner).reverse, c, false)
    | .closes => (kept, (b :: inner).reverse, c, true)

/-- The start of a document may hold a mark for the order of bytes. -/
def withoutByteOrderMark (line : Nat) (glyphs : List Glyph) : List Glyph :=
  match glyphs with
  | g :: rest => if line = 0 && g.char = '\ufeff' then rest else glyphs
  | [] => []

/-- Reads one line. -/
def readLine (r : Reader) (line : List Char) : Reader :=
  let start : Cursor := { rest := withoutByteOrderMark r.line (place (r.line + 1) 1 line) }
  let r := { r with line := r.line + 1 }
  let stop : Place := ⟨r.line, lineWidth line⟩
  let isLazy := r.path.head?.any fun b => b.kind = .paragraph
  let (kept, pending, c, closes) := walk [] start r.path.reverse
  let r :=
    if closes then (({ r with path := kept } : Reader).settleInside pending).close stop
    else
      let (r, pending, c) :=
        openAll (line.length + 1) { r with path := kept } pending c isLazy 1 stop
      match c with
      | some c => r.addText pending c
      | none => r
  { r with stopBefore := stop }

/-- Reads lines. -/
def read (lines : List (List Char)) : Reader := lines.foldl readLine {}

/-- The document that has been read. -/
def document (r : Reader) : RawBlock :=
  match (closeTo 1 r.path.length r).path with
  | b :: _ => .mk .document b.start r.stopBefore [] b.children.reverse
  | [] => .mk .document ⟨1, 1⟩ r.stopBefore [] []

/-- The definitions, after all blocks are closed. -/
def allDefinitions (r : Reader) : List Definition := (closeTo 1 r.path.length r).definitions

end Reader
end Formulary.Markdown
