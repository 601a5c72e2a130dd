import Formulary.Markdown.Escape

/-!
# Links — targets, titles and labels

A link text in brackets is followed by a target and a title in parentheses, or by the label of a
definition that stands elsewhere. Readers return what is left behind the piece they recognise.

* `target?` — a target, with or without angle brackets.
* `title?` — a title in quotes or parentheses.
* `label?` — a label in brackets.
* `inlineTarget?` — target and title in parentheses.
* `Definition`, `definition?` — the definition of a label at the start of a paragraph.
-/

namespace Formulary.Markdown

/-- Where a link leads. -/
structure LinkTarget where
  url : String
  title : String
deriving DecidableEq, Repr, Inhabited

/-- Reads a target up to `>`; `read` holds its characters, the last one first. -/
def bracketedTarget? (read : List Char) : List Char → Option (List Char × List Char)
  | [] => none
  | '\\' :: c :: rest => bracketedTarget? (c :: '\\' :: read) rest
  | c :: rest =>
    if c = '>' then some (read.reverse, rest)
    else if isLineEnd c || c = '<' then none
    else bracketedTarget? (c :: read) rest

/-- Reads a target without angle brackets inside `depth` parentheses; `read` holds its characters,
the last one first. -/
def plainTarget? (depth : Nat) (read : List Char) : List Char → Option (List Char × List Char)
  | [] => if depth = 0 && !read.isEmpty then some (read.reverse, []) else none
  | c :: rest =>
    let escaped := c = '\\' && rest.head?.any isAsciiPunctuation
    if escaped then
      match rest with
      | [] => none
      | d :: rest => plainTarget? depth (d :: c :: read) rest
    else if c = '(' then
      if 32 ≤ depth then none else plainTarget? (depth + 1) (c :: read) rest
    else if c = ')' then
      match depth with
      | 0 => some (read.reverse, c :: rest)
      | depth + 1 => plainTarget? depth (c :: read) rest
    else if isAsciiSpace c || c.toNat < 0x20 || c.toNat = 0x7f then
      if depth = 0 then some (read.reverse, c :: rest) else none
    else plainTarget? depth (c :: read) rest

/-- A target as written, and what is left behind it. -/
def target? : List Char → Option (List Char × List Char)
  | '<' :: rest => bracketedTarget? [] rest
  | cs => plainTarget? 0 [] cs

/-- Reads a title up to its closing mark; `read` holds its characters, the last one first. -/
def titleFrom? (closing : Char) (read : List Char) : List Char → Option (List Char × List Char)
  | [] => none
  | c :: rest =>
    let escaped := c = '\\' && rest.head?.any isAsciiPunctuation
    if escaped then
      match rest with
      | [] => none
      | d :: rest => titleFrom? closing (d :: c :: read) rest
    else if c = closing then some ((c :: read).reverse, rest)
    else if closing = ')' && c = '(' then none
    else titleFrom? closing (c :: read) rest

/-- A title as written, its marks included, and what is left behind it. -/
def title? : List Char → Option (List Char × List Char)
  | '"' :: rest => titleFrom? '"' ['"'] rest
  | '\'' :: rest => titleFrom? '\'' ['\''] rest
  | '(' :: rest => titleFrom? ')' ['('] rest
  | _ => none

/-- Reads a label up to its bracket; `read` holds its characters, the last one first. -/
def labelFrom? (read : List Char) : List Char → Option (List Char × List Char)
  | [] => none
  | c :: rest =>
    if 1000 < read.length then none
    else if c = ']' then some (read.reverse, rest)
    else if c = '[' then none
    else if c = '\\' && rest.head?.any isAsciiPunctuation then
      match rest with
      | [] => none
      | d :: rest => labelFrom? (d :: c :: read) rest
    else labelFrom? (c :: read) rest

/-- A label in brackets, and what is left behind it. -/
def label? : List Char → Option (List Char × List Char)
  | '[' :: rest => (labelFrom? [] rest).map fun (label, rest) => (trimAscii label, rest)
  | _ => none

/-- Target and title in parentheses behind a link text, and what is left behind them. -/
def inlineTarget? : List Char → Option (LinkTarget × List Char)
  | '(' :: cs => do
    let (url, rest) ← target? (cs.dropWhile isAsciiSpace)
    let spaced := rest.dropWhile isAsciiSpace
    let (title, rest) := if spaced.length < rest.length then (title? spaced).getD ([], spaced)
      else ([], rest)
    match rest.dropWhile isAsciiSpace with
    | ')' :: rest => some (⟨linkTarget url, linkTitle title⟩, rest)
    | _ => none
  | _ => none

/-- What is left behind a line end, or behind the end of the text. -/
def lineEnd? : List Char → Option (List Char)
  | [] => some []
  | '\r' :: '\n' :: rest => some rest
  | c :: rest => if isLineEnd c then some rest else none

/-- A text without the blanks in front, which may hold one line end. -/
def skipBlankLine (cs : List Char) : List Char :=
  let cs := cs.dropWhile isSpaceOrTab
  match lineEnd? cs with
  | some rest => rest.dropWhile isSpaceOrTab
  | none => cs

/-- The definition of a label. -/
structure Definition where
  key : List Char
  target : LinkTarget
deriving Repr, Inhabited

/-- The definition at the start of a text, and what is left behind its line. -/
def definition? (cs : List Char) : Option (Definition × List Char) := do
  let (label, rest) ← label? cs
  if label.isEmpty then none
  else
    match rest with
    | ':' :: rest =>
      let (url, rest) ← target? (skipBlankLine rest)
      let spaced := skipBlankLine rest
      let titled := if spaced.length < rest.length then title? spaced else none
      let named (title : List Char) : Definition :=
        ⟨labelKey label, ⟨linkTarget url, linkTitle title⟩⟩
      let behind (rest : List Char) := lineEnd? (rest.dropWhile isSpaceOrTab)
      match titled.bind fun (title, rest) => (behind rest).map fun rest => (named title, rest) with
      | some found => some found
      | none => (behind rest).map fun rest => (named [], rest)
    | _ => none

/-- The definitions at the start of a paragraph, and what is left of it. -/
def definitionsOf : Nat → List Glyph → List Definition × List Glyph
  | 0, gs => ([], gs)
  | fuel + 1, gs =>
    match definition? (charsOf gs) with
    | none => ([], gs)
    | some (d, rest) =>
      let (ds, gs) := definitionsOf fuel (gs.drop (gs.length - rest.length))
      ((if d.key.isEmpty then [] else [d]) ++ ds, gs)

end Formulary.Markdown
