import Formulary.Markdown.Autolink
import Formulary.Markdown.Emphasis
import Formulary.Markdown.Html
import Formulary.Markdown.Link

/-!
# Inline markup — the pieces inside a paragraph

The content of a paragraph, a heading or a table cell is read from left to right. Brackets open a
level of their own, which becomes a link or an image when its closing bracket is followed by a
target or names a definition, and text otherwise.

* `Scan` — what has been read, the level of brackets, and what is left.
* `Scan.step` — reads one piece.
* `inlines` — all pieces of a content.
-/

namespace Formulary.Markdown

open Markup

/-- A level of brackets: its opening bracket, whether it is an image's, the number of glyphs in
front of its text, whether another bracket has been opened inside, and the items around it, the
last one first. -/
structure Level where
  bracket : List Glyph
  isImage : Bool
  position : Nat
  holdsBracket : Bool := false
  outer : List Item

/-- A content while it is read: the glyphs read and the items made of them, the last ones first;
the levels of brackets, the innermost first; whether the last bracket was an opening one; and
whether a link has been closed, so that brackets opened before it open no link. -/
structure Scan where
  before : List Glyph := []
  after : List Glyph
  items : List Item := []
  levels : List Level := []
  inBrackets : Bool := false
  linkClosed : Bool := false

namespace Scan

/-- Moves over a number of glyphs. -/
def advance (s : Scan) (n : Nat) : Scan :=
  { s with before := (s.after.take n).reverse ++ s.before, after := s.after.drop n }

/-- Adds an item. -/
def push (s : Scan) (i : Item) : Scan := { s with items := i :: s.items }

/-- Adds a text. -/
def pushText (s : Scan) (gs : List Glyph) : Scan :=
  if gs.isEmpty then s else s.push (.piece (.text gs))

/-- Moves over glyphs and adds them as a text. -/
def takeText (s : Scan) (n : Nat) : Scan := (s.advance n).pushText (s.after.take n)

/-- Moves over glyphs and adds a node made of them. -/
def takeNode (s : Scan) (n : Nat) (kind : NodeKind) (children : List Inline := []) : Scan :=
  (s.advance n).push (.piece (.node kind (spanRange (s.after.take n)) children))

/-- Moves over spaces and tabs. -/
def skipBlanks (s : Scan) : Scan :=
  s.advance (s.after.takeWhile fun g => isSpaceOrTab g.char).length

/-- The number of glyphs of the line end in front, or none. -/
def lineEndLength (gs : List Glyph) : Nat :=
  match gs.map Glyph.char |>.take 2 with
  | ['\r', '\n'] => 2
  | c :: _ => if isLineEnd c then 1 else 0
  | [] => 0

/-- Reads a line end; two spaces in front of it belong to the break. -/
def takeLineEnd (s : Scan) : Scan :=
  let n := lineEndLength s.after
  let spaces := match s.before with
    | b :: a :: _ => if a.char = ' ' && b.char = ' ' then [a, b] else []
    | _ => []
  ((s.advance n).push
    (.piece (.node .lineBreak (spanRange (spaces ++ s.after.take n)) []))).skipBlanks

/-- The first run of exactly `n` backticks: the number of glyphs in front of it. -/
def backticks? (n : Nat) (count : Nat) (run : Nat) : List Glyph → Option Nat
  | [] => if run = n then some (count - n) else none
  | g :: rest =>
    if g.char = '`' then backticks? n (count + 1) (run + 1) rest
    else if run = n then some (count - n)
    else backticks? n (count + 1) 0 rest

/-- The literal of a code span: line ends are spaces, and one space is taken off both ends when both
have one and something else stands between. -/
def codeLiteral (content : List Char) : String :=
  let rec spaced : List Char → List Char
    | [] => []
    | '\r' :: '\n' :: rest => ' ' :: spaced rest
    | c :: rest => (if isLineEnd c then ' ' else c) :: spaced rest
  let cs := spaced content
  if cs.any (· != ' ') && cs.head? = some ' ' && cs.getLast? = some ' ' then
    String.ofList (cs.drop 1).dropLast
  else String.ofList cs

/-- Reads a code span, or backticks that open none. -/
def takeCode (s : Scan) : Scan :=
  let n := (s.after.takeWhile fun g => g.char == '`').length
  let rest := s.after.drop n
  match if 80 < n then none else backticks? n 0 0 rest with
  | some m => s.takeNode (n + m + n) (.inlineCode (codeLiteral (charsOf (rest.take m))))
  | none => s.takeText n

/-- Reads a backslash: it escapes punctuation, and in front of a line end it is a line break. -/
def takeBackslash (s : Scan) : Scan :=
  match s.after with
  | slash :: g :: _ =>
    if isAsciiPunctuation g.char then
      (s.advance 2).pushText [{ slash with char := g.char, width := slash.width + g.width }]
    else if isLineEnd g.char then
      (s.takeNode (1 + lineEndLength (s.after.drop 1)) .lineBreak).skipBlanks
    else s.takeText 1
  | _ => s.takeText 1

/-- One glyph for all the glyphs of a character reference; further characters take no place. -/
def referenceGlyphs (source : List Glyph) (text : List Char) : List Glyph :=
  match source.head?, text with
  | some g, c :: rest =>
    let width := source.foldl (fun n g => n + g.width) 0
    { g with char := c, width } ::
      rest.map fun c => { g with char := c, column := g.column + width, width := 0 }
  | _, _ => []

/-- Reads an ampersand. -/
def takeReference (s : Scan) : Scan :=
  match reference? (charsOf ((s.after.drop 1).take 40)) with
  | some (text, n) => (s.advance (n + 1)).pushText (referenceGlyphs (s.after.take (n + 1)) text)
  | none => s.takeText 1

/-- A link around its own address. -/
def linkTo (gs text : List Glyph) : Inline := .link (spanRange gs) [.text text]

/-- The glyphs of a text with its character references resolved. -/
def resolved : Nat → List Glyph → List Glyph
  | 0, gs => gs
  | _, [] => []
  | fuel + 1, g :: rest =>
    match if g.char = '&' then reference? (charsOf rest) else none with
    | some (text, n) =>
      referenceGlyphs (g :: rest.take n) text ++ resolved fuel (rest.drop n)
    | none => g :: resolved fuel rest

/-- Reads an opening angle bracket: an address or a tag. -/
def takeAngle (s : Scan) : Scan :=
  let inside := s.after.drop 1
  let cs := charsOf inside
  match bracketed? cs with
  | some n =>
    (s.advance (n + 2)).push
      (.piece (linkTo (s.after.take (n + 2)) (resolved n (inside.take n))))
  | none =>
    match inlineTag? cs with
    | some rest =>
      let n := 1 + (cs.length - rest.length)
      (s.advance n).push (.piece (.tag (s.after.take n)))
    | none => s.takeText 1

/-- Takes a number of glyphs back that have been added as text. -/
def takeBack (n : Nat) : List Item → List Item
  | .piece (.text gs) :: rest =>
    if n < gs.length then .piece (.text (gs.take (gs.length - n))) :: rest
    else takeBack (n - gs.length) rest
  | items => items

/-- Reads a colon: the scheme in front of it may start an address. -/
def takeColon (s : Scan) : Scan :=
  match if s.inBrackets then none else webAddress? (charsOf (s.before.take 8)) (charsOf s.after) with
  | some (back, n) =>
    let address := (s.before.take back).reverse ++ s.after.take n
    { (s.advance n) with items := .piece (linkTo address address) :: takeBack back s.items }
  | none => s.takeText 1

/-- Reads a letter that may start a host name. -/
def takeHost (s : Scan) : Scan :=
  let before? := s.before.head?.map Glyph.char
  let mayStart := !s.inBrackets && charsOf (s.after.take 4) == "www.".toList
  match if mayStart then hostAddress? before? (charsOf s.after) else none with
  | some n => (s.advance n).push (.piece (linkTo (s.after.take n) (s.after.take n)))
  | none => s.takeText 1

/-- The nearest character that is no tilde, or a line end. -/
def neighbour (gs : List Glyph) : Char :=
  ((gs.find? fun g => g.char != '~').map Glyph.char).getD '\n'

/-- Reads a run of delimiters. A run opens emphasis when text follows it, and closes emphasis when
text stands in front; an underscore does neither inside a word. -/
def takeRun (s : Scan) (c : Char) : Scan :=
  let n := (s.after.takeWhile fun g => g.char == c).length
  let gs := s.after.take n
  let left := neighbour s.before
  let right := neighbour (s.after.drop n)
  let mark (c : Char) := Text.punctuation.contains c
  let opens := !Text.isBlank right && (!mark right || Text.isBlank left || mark left)
  let closes := !Text.isBlank left && (!mark left || Text.isBlank right || mark right)
  let canOpen := opens && (c != '_' || !closes || mark left)
  let canClose := closes && (c != '_' || !opens || mark right)
  if (canOpen || canClose) && !(c = '~' && 2 < n) then
    (s.advance n).push (.run ⟨c, gs, n, canOpen, canClose⟩)
  else (s.advance n).pushText gs

/-- Opens a level of brackets. -/
def openLevel (s : Scan) (n : Nat) (isImage : Bool) : Scan :=
  let levels := match s.levels with
    | l :: rest => { l with holdsBracket := true } :: rest
    | [] => []
  let bracket := s.after.take n
  let s := s.advance n
  { s with
    items := []
    levels := { bracket, isImage, position := s.before.length, outer := s.items } :: levels
    inBrackets := true
    linkClosed := s.linkClosed && isImage }

/-- Reads an exclamation mark. -/
def takeBang (s : Scan) : Scan :=
  match (s.after.drop 1).take 2 |>.map Glyph.char with
  | ['[', '^'] => s.takeText 1
  | '[' :: _ => s.openLevel 2 true
  | _ => s.takeText 1

/-- Gives a level up: its bracket is text. -/
def dropLevel (s : Scan) (l : Level) (levels : List Level) : Scan :=
  { s with items := s.items ++ .piece (.text l.bracket) :: l.outer, levels }

/-- The range from a bracket to the end of what closes it; a target that goes on in another line
ends at the end of its first line. -/
def levelRange (l : Level) (closing : List Glyph) : SourceRange :=
  spanRange (l.bracket ++ closing.takeWhile fun g => !isLineEnd g.char)

/-- Makes a level a link or an image, closed by the next `n` glyphs. -/
def closeLevel (s : Scan) (l : Level) (levels : List Level) (target : LinkTarget) (n : Nat) : Scan :=
  let range := levelRange l (s.after.take n)
  let inside := emphasize s.items.reverse
  let node := if l.isImage then .node (.image target.url target.title) range inside
    else .link range inside
  { (s.advance n) with
    items := .piece node :: l.outer
    levels
    linkClosed := s.linkClosed || !l.isImage }

/-- The characters of an item that may be part of the name of a footnote. -/
def footnoteChars : Item → List Char
  | .piece (.text gs) | .piece (.tag gs) => charsOf gs
  | .run d => charsOf d.glyphs
  | _ => []

/-- Whether an item is text or a tag. -/
def isFootnotePart : Item → Bool
  | .piece (.text _) | .piece (.tag _) | .run _ => true
  | _ => false

/-- The label of the footnote that the items inside brackets, in their order, refer to. -/
def footnoteLabel? (items : List Item) : Option (List Char) :=
  match items with
  | first :: _ =>
    if isFootnotePart first && (footnoteChars first).head? = some '^' then
      let label := (items.flatMap footnoteChars).drop 1
      if label.isEmpty then none else some label
    else none
  | [] => none

/-- Reads a closing bracket of a level: a target, a label or the text itself may make it a link; it
may refer to a footnote. -/
def takeClosing (definitions : List Definition) (s : Scan) (l : Level) (levels : List Level) :
    Scan :=
  let behind := charsOf (s.after.drop 1)
  let length (rest : List Char) := 1 + (behind.length - rest.length)
  match inlineTarget? behind with
  | some (target, rest) => s.closeLevel l levels target (length rest)
  | none =>
    let own := charsOf (s.before.take (s.before.length - l.position)).reverse
    let (label, rest) := match label? behind with
      | some (label, rest) =>
        if label.isEmpty && !l.holdsBracket then (own, rest) else (label, rest)
      | none => (if l.holdsBracket then [] else own, behind)
    let key := labelKey label
    match if key.isEmpty then none else definitions.find? fun d => d.key == key with
    | some d => s.closeLevel l levels d.target (length rest)
    | none =>
      match footnoteLabel? s.items.reverse with
      | some label =>
        let others := s.items.filter fun i => !isFootnotePart i
        { (s.advance 1) with
          items := others ++ .piece (.footnote label (levelRange l (s.after.take 1))) :: l.outer
          levels }
      | none => (s.dropLevel l levels).takeText 1

/-- Reads a closing bracket. -/
def takeBracket (definitions : List Definition) (s : Scan) : Scan :=
  let s := { s with inBrackets := false }
  match s.levels with
  | [] => s.takeText 1
  | l :: levels =>
    if !l.isImage && s.linkClosed then (s.dropLevel l levels).takeText 1
    else takeClosing definitions s l levels

/-- Whether a character starts a piece of its own. -/
def isSpecial (inBrackets : Bool) (c : Char) : Bool :=
  "\n\r_*`\\&<[]!:w~".contains c || (c == '^' && !inBrackets)

/-- Reads plain text, without the white space in front of a line end. -/
def takePlain (s : Scan) : Scan :=
  let n := 1 + ((s.after.drop 1).takeWhile fun g => !isSpecial s.inBrackets g.char).length
  let gs := s.after.take n
  let text := if (s.after.drop n).head?.any (fun g => isLineEnd g.char) then
    dropRightWhile isAsciiSpace gs else gs
  (s.advance n).pushText text

/-- Reads one piece that starts with a character. -/
def step (definitions : List Definition) (s : Scan) (c : Char) : Scan :=
  match c with
  | '\n' | '\r' => s.takeLineEnd
  | '`' => s.takeCode
  | '\\' => s.takeBackslash
  | '&' => s.takeReference
  | '<' => s.takeAngle
  | ':' => s.takeColon
  | 'w' => s.takeHost
  | '*' | '_' | '~' => s.takeRun c
  | '[' => s.openLevel 1 false
  | ']' => s.takeBracket definitions
  | '!' => s.takeBang
  | _ => if c = '^' && !s.inBrackets then s.takeRun c else s.takePlain

/-- Reads all that is left; every step reads a glyph at least. -/
def run (definitions : List Definition) : Nat → Scan → Scan
  | 0, s => s
  | fuel + 1, s =>
    match s.after with
    | [] => s
    | g :: _ => run definitions fuel (step definitions s g.char)

/-- Gives all open levels up. -/
def dropLevels : List Level → List Item → List Item
  | [], items => items
  | l :: levels, items => dropLevels levels (items ++ .piece (.text l.bracket) :: l.outer)

end Scan

/-- The pieces of a content. -/
def inlines (definitions : List Definition) (content : List Glyph) : List Inline :=
  let content := dropRightWhile isAsciiSpace content
  let s := Scan.run definitions content.length { after := content }
  emphasize (Scan.dropLevels s.levels s.items).reverse

end Formulary.Markdown
