import Formulary.Markdown.Block
import Formulary.Markdown.Cursor
import Formulary.Markdown.Html
import Formulary.Markdown.Row

/-!
# Markers — how blocks open and go on

The start of a line says which open blocks go on, and what opens inside them. Each reader here looks
at a cursor behind the markers of the blocks around.

* `OpenBlock.next` — whether an open block goes on in a line.
* `quote?`, `heading?`, `fence?`, `html?`, `thematicBreak?`, `footnote?`, `item?`, `indentedCode?` —
  what a line opens.
* `setextLevel?` — the level of the heading that a line makes of the paragraph above.
-/

namespace Formulary.Markdown

/-- Whether a block goes on in a line: it does, and what is left of the line; it does not; or the
line closes it. -/
inductive Next where
  | goesOn (c : Cursor)
  | stops
  | closes

/-- The length of a run of a character at the start of characters. -/
def runLength (c : Char) (cs : List Char) : Nat := (cs.takeWhile (· == c)).length

/-- Whether only blanks are left in front of the line end. -/
def isRestBlank (cs : List Char) : Bool := (cs.dropWhile isSpaceOrTab).head?.all isLineEnd

/-- Whether a line holds nothing but a closing fence of at least the given length. -/
def closesFence (c : Cursor) (fence : Char) (length : Nat) : Bool :=
  let cs := charsOf c.text
  let n := runLength fence cs
  c.indent ≤ 3 && 3 ≤ n && length ≤ n && isRestBlank (cs.drop n)

/-- The cursor behind the marker of a quote. -/
def quoteMarker? (c : Cursor) : Option Cursor :=
  if c.indent ≤ 3 && c.text.head?.any (fun g => g.char == '>') then
    some (c.skipColumns (c.indent + 1)).skipOptionalBlank
  else none

/-- Whether an open block goes on in a line; `isInhabited` says that it holds a block. -/
def OpenBlock.next (b : OpenBlock) (isInhabited : Bool) (c : Cursor) : Next :=
  let goesOnIf (p : Bool) : Next := if p then .goesOn c else .stops
  match b.kind with
  | .quote => match quoteMarker? c with
    | some c => .goesOn c
    | none => .stops
  | .fencedQuote length offset =>
    if closesFence c '>' length then .closes else .goesOn (c.skipUpTo offset)
  | .item indent | .definitionItem indent =>
    if indent ≤ c.indent then .goesOn (c.skipColumns indent)
    else if c.isBlank && isInhabited then .goesOn c.toText
    else .stops
  | .footnote _ =>
    if 4 ≤ c.indent then .goesOn (c.skipColumns 4)
    else goesOnIf (c.column == 0 && c.rest.head?.all fun g => isLineEnd g.char)
  | .fencedCode fence length offset _ =>
    if closesFence c fence length then .closes else .goesOn (c.skipUpTo offset)
  | .indentedCode =>
    if 4 ≤ c.indent then .goesOn (c.skipColumns 4)
    else if c.isBlank then .goesOn c.toText
    else .stops
  | .html kind => goesOnIf (kind ≤ 5 || !c.isBlank)
  | .paragraph => goesOnIf (!c.isBlank)
  | .table _ => goesOnIf (cells? (charsOf c.text)).isSome
  | _ => .goesOn c

/-- What a line opens: blocks inside which reading goes on, the outermost first; a block whose lines
are taken as they stand, and what this line adds to it; or a block of this line alone. -/
inductive Opening where
  | blocks (opened : List OpenBlock) (c : Cursor)
  | verbatim (opened : OpenBlock) (line : List Glyph)
  | leaf (block : RawBlock)

/-- Where the text of a line starts. -/
def Cursor.place (c : Cursor) : Place := (c.text.head?.map Glyph.place).getD default

/-- The names of boxes. -/
def boxNames : List String := ["note", "tip", "important", "warning", "caution"]

/-- Whether a name of a box follows. -/
def startsBox (cs : List Char) : Bool :=
  boxNames.any fun name => ("[!" ++ name ++ "]").toList.isPrefixOf (cs.map Char.toLower)

/-- A quote, a quote between fences, or a box, whose title takes the line. -/
def quote? (c : Cursor) : Option Opening :=
  let cs := charsOf c.text
  let n := runLength '>' cs
  let fenced : BlockKind := .fencedQuote n (c.rest.length - c.text.length)
  let opened (kind : BlockKind) : OpenBlock := { kind, start := c.place }
  if 3 < c.indent || n = 0 then none
  else if cs[n]? = some ' ' && startsBox (cs.drop (n + 1)) && n != 2 then
    some (.blocks [opened (if n = 1 then .quote else fenced)] (c.skip c.rest.length))
  else if 3 ≤ n && isRestBlank (cs.drop n) then
    some (.blocks [opened fenced] (c.toText.skip n))
  else some (.blocks [opened .quote] (c.toText.skip 1).skipOptionalBlank)

/-- The text of a heading behind its signs, without the signs that close it. -/
def headingContent (gs : List Glyph) : List Glyph :=
  let gs := dropRightWhile isAsciiSpace gs
  let open' := dropRightWhile (· == '#') gs
  let text := if open'.length < gs.length && open'.getLast?.any (fun g => isSpaceOrTab g.char) then
    dropRightWhile isAsciiSpace open' else gs
  text.dropWhile fun g => isSpaceOrTab g.char

/-- A heading of one to six number signs; the line stops at `stop`. -/
def heading? (c : Cursor) (stop : Place) : Option Opening :=
  let n := runLength '#' (charsOf c.text)
  let behind := c.text.drop n
  if c.indent ≤ 3 && 1 ≤ n && n ≤ 6 &&
      behind.head?.all (fun g => isSpaceOrTab g.char || isLineEnd g.char) then
    some (.leaf (.mk (.heading n) c.place stop (headingContent behind) []))
  else none

/-- A code block between fences. -/
def fence? (c : Cursor) : Option Opening :=
  let cs := charsOf c.text
  let opened (fence : Char) : Option Opening :=
    let n := runLength fence cs
    let info := (cs.drop n).takeWhile fun c => !isLineEnd c
    if n < 3 || (fence = '`' && info.contains '`') then none
    else
      let kind := .fencedCode fence n (c.rest.length - c.text.length) (infoText info)
      some (.verbatim { kind, start := c.place } [])
  if 3 < c.indent then none else (opened '`').or (opened '~')

/-- A block of tags. -/
def html? (c : Cursor) (inParagraph : Bool) : Option Opening :=
  if 3 < c.indent then none
  else (blockStart? inParagraph (charsOf c.text)).map fun kind =>
    .verbatim { kind := .html kind, start := c.place } c.remaining

/-- The level of the heading that a line makes of the paragraph above. -/
def setextLevel? (c : Cursor) : Option Nat :=
  let cs := charsOf c.text
  let isLine (sign : Char) := 1 ≤ runLength sign cs && isRestBlank (cs.drop (runLength sign cs))
  if 3 < c.indent then none
  else if isLine '=' then some 1
  else if isLine '-' then some 2
  else none

/-- A line of three or more equal signs. -/
def thematicBreak? (c : Cursor) (stop : Place) : Option Opening :=
  let cs := (charsOf c.text).filter fun c => !isSpaceOrTab c && !isLineEnd c
  match cs with
  | sign :: _ =>
    if c.indent ≤ 3 && ['*', '-', '_'].contains sign && 3 ≤ cs.length && cs.all (· == sign) then
      some (.leaf (.mk .thematicBreak c.place stop [] []))
    else none
  | [] => none

/-- The definition of a footnote. -/
def footnote? (c : Cursor) : Option Opening :=
  match charsOf c.text with
  | '[' :: '^' :: rest =>
    let label := rest.takeWhile fun c => !"] \r\n\x00\t".contains c
    match rest.drop label.length with
    | ']' :: ':' :: behind =>
      if 3 < c.indent || label.isEmpty then none
      else
        let n := label.length + 4 + (behind.takeWhile isSpaceOrTab).length
        some (.blocks [{ kind := .footnote label, start := c.place }] (c.toText.skip n))
    | _ => none
  | _ => none

/-- The marker of a list item and its length. A list that ends a paragraph has a text, and the
number one if it has numbers. -/
def listMarker? (inParagraph : Bool) (cs : List Char) : Option (ListMarker × Nat) :=
  let found (marker : ListMarker) (n : Nat) : Option (ListMarker × Nat) :=
    let behind := cs.drop n
    if !behind.head?.all isAsciiSpace then none
    else if inParagraph && isRestBlank behind then none
    else some (marker, n)
  match cs with
  | [] => none
  | c :: _ =>
    if ['*', '-', '+'].contains c then found ⟨false, c⟩ 1
    else
      let digits := (cs.take 9).takeWhile Text.isDigit
      if digits.isEmpty then none
      else if inParagraph && Text.decimalBelow? 1000000000 digits != some 1 then none
      else
        match cs[digits.length]? with
        | some '.' => found ⟨true, '.'⟩ (digits.length + 1)
        | some ')' => found ⟨true, ')'⟩ (digits.length + 1)
        | _ => none

/-- The cursor at the text of an item behind its marker, and the columns between: one to four, or
one when there are more or the text is missing. -/
def itemText (c : Cursor) : Cursor × Nat :=
  let text := c.skipUpTo 5
  let n := text.column - c.column
  if 1 ≤ n && n ≤ 4 && !text.rest.head?.all (fun g => isLineEnd g.char) then (text, n)
  else (if 1 ≤ n then c.skipColumns 1 else c, 1)

/-- An item, in the list it goes on with or in a list of its own. -/
def item? (c : Cursor) (outer : BlockKind) : Option Opening :=
  if 3 < c.indent then none
  else (listMarker? (outer = .paragraph) (charsOf c.text)).map fun (marker, n) =>
    let (text, blanks) := itemText (c.toText.skip n)
    let item : OpenBlock := { kind := .item (c.indent + n + blanks), start := c.place }
    let list : OpenBlock := { kind := .list marker, start := c.place }
    .blocks (if outer = .list marker then [item] else [list, item]) text

/-- A code block of indented lines. -/
def indentedCode? (c : Cursor) : Option Opening :=
  if c.indent < 4 || c.isBlank then none
  else
    let c := c.skipColumns 4
    let start := (c.rest.head?.map Glyph.place).getD default
    some (.verbatim { kind := .indentedCode, start } c.remaining)

/-- The length of the marker of a definition. -/
def definitionMarker? (c : Cursor) : Option Nat :=
  match charsOf c.text with
  | sign :: rest =>
    let blanks := (rest.takeWhile isSpaceOrTab).length
    if c.indent ≤ 3 && (sign = ':' || sign = '~') && 1 ≤ blanks then some (1 + blanks) else none
  | [] => none

end Formulary.Markdown
