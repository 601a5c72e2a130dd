import Formulary.Markdown.Glyph

/-!
# Markup tags — tags, comments and other angle brackets in a text

Tags may stand inside a paragraph or open a block of their own. Readers here return what is left
behind the piece that they recognise.

* `inlineTag?` — a tag, comment, instruction, declaration or section behind `<`.
* `blockStart?` — which of seven kinds of block the text at the start of a line opens.
* `blockEnds` — whether a line ends a block of the first five kinds.
-/

namespace Formulary.Markdown

/-- What is left behind the first occurrence of a text. -/
def behind? (mark : List Char) : List Char → Option (List Char)
  | [] => if mark.isEmpty then some [] else none
  | c :: rest =>
    if mark.isPrefixOf (c :: rest) then some ((c :: rest).drop mark.length) else behind? mark rest

/-- What is left behind a tag name. -/
def tagName? : List Char → Option (List Char)
  | c :: rest =>
    if isAsciiLetter c then some (rest.dropWhile fun c => isAsciiAlphanumeric c || c == '-')
    else none
  | [] => none

/-- What is left behind an attribute value. -/
def attributeValue? : List Char → Option (List Char)
  | '"' :: rest => behind? ['"'] rest
  | '\'' :: rest => behind? ['\''] rest
  | cs =>
    let rest := cs.dropWhile fun c => !isAsciiSpace c && !"\"'=<>`\x00".contains c
    if rest.length < cs.length then some rest else none

/-- What is left behind an attribute name and the value it may have. -/
def attribute? : List Char → Option (List Char)
  | c :: rest =>
    if isAsciiLetter c || c == '_' || c == ':' then
      let rest := rest.dropWhile fun c => isAsciiAlphanumeric c || ":._-".contains c
      match rest.dropWhile isAsciiSpace with
      | '=' :: value => some ((attributeValue? (value.dropWhile isAsciiSpace)).getD rest)
      | _ => some rest
    else none
  | [] => none

/-- What is left behind the attributes and the end of an opening tag. -/
def openingRest? : Nat → List Char → Option (List Char)
  | 0, _ => none
  | fuel + 1, cs =>
    match cs.dropWhile isAsciiSpace with
    | '>' :: rest => some rest
    | '/' :: '>' :: rest => some rest
    | text => if (cs.head?.any isAsciiSpace) then (attribute? text).bind (openingRest? fuel) else none

/-- What is left behind an opening tag, of which `<` has been read. -/
def openingTag? (cs : List Char) : Option (List Char) :=
  (tagName? cs).bind fun rest => openingRest? (rest.length + 1) rest

/-- What is left behind a closing tag, of which `<` has been read. -/
def closingTag? : List Char → Option (List Char)
  | '/' :: rest =>
    (tagName? rest).bind fun rest =>
      match rest.dropWhile isAsciiSpace with
      | '>' :: rest => some rest
      | _ => none
  | _ => none

/-- What is left behind a piece of markup inside a paragraph, of which `<` has been read. -/
def inlineTag? (cs : List Char) : Option (List Char) :=
  match cs with
  | '!' :: '-' :: '-' :: '>' :: rest => some rest
  | '!' :: '-' :: '-' :: '-' :: '>' :: rest => some rest
  | '!' :: '-' :: '-' :: rest => behind? "-->".toList rest
  | '!' :: rest =>
    if "[CDATA[".toList.isPrefixOf rest then behind? "]]>".toList (rest.drop 7)
    else if rest.head?.any isAsciiLetter then behind? ['>'] rest
    else none
  | '?' :: rest => behind? "?>".toList rest
  | '/' :: _ => closingTag? cs
  | _ => openingTag? cs

/-- Names of tags whose content is taken as it stands. -/
def rawTags : List String := ["script", "pre", "textarea", "style"]

/-- Names of tags that open a block. -/
def blockTags : List String := ["address", "article", "aside", "base", "basefont", "blockquote",
  "body", "caption", "center", "col", "colgroup", "dd", "details", "dialog", "dir", "div", "dl",
  "dt", "fieldset", "figcaption", "figure", "footer", "form", "frame", "frameset", "h1", "h2", "h3",
  "h4", "h5", "h6", "head", "header", "hr", "html", "iframe", "legend", "li", "link", "main",
  "menu", "menuitem", "nav", "noframes", "ol", "optgroup", "option", "p", "param", "search",
  "section", "summary", "table", "tbody", "td", "tfoot", "th", "thead", "title", "tr", "track",
  "ul"]

/-- The name, in lower case, that starts a text, and what is left behind it. -/
def nameAndRest (cs : List Char) : String × List Char :=
  let name := cs.takeWhile isAsciiAlphanumeric
  (String.ofList (name.map Char.toLower), cs.drop name.length)

/-- Whether white space, the end of the line or `>` follows. -/
def endsName (cs : List Char) : Bool := cs.head?.all fun c => isAsciiSpace c || c == '>'

/-- Whether a whole line is one tag, of which `<` has been read. -/
def isTagLine (cs : List Char) : Bool :=
  match (openingTag? cs).or (closingTag? cs) with
  | some rest => (rest.dropWhile fun c => isSpaceOrTab c || c == '\x0c').head?.all isLineEnd
  | none => false

/-- The kind of block that a line opens; one of the seventh kind does not end a paragraph. -/
def blockStart? (inParagraph : Bool) (line : List Char) : Option Nat :=
  match line with
  | '<' :: cs =>
    let (rawName, rawRest) := nameAndRest cs
    let (name, rest) := nameAndRest (if cs.head? = some '/' then cs.drop 1 else cs)
    if rawTags.contains rawName && endsName rawRest then some 1
    else if "!--".toList.isPrefixOf cs then some 2
    else if cs.head? = some '?' then some 3
    else if "![CDATA[".toList.isPrefixOf cs then some 5
    else if cs.head? = some '!' && (cs.drop 1).head?.any isAsciiLetter then some 4
    else if blockTags.contains name && (endsName rest || "/>".toList.isPrefixOf rest) then some 6
    else if !inParagraph && isTagLine cs then some 7
    else none
  | _ => none

/-- Whether a line ends a block of a kind. -/
def blockEnds (kind : Nat) (line : List Char) : Bool :=
  let holds (mark : String) := (behind? mark.toList line).isSome
  match kind with
  | 1 => rawTags.any fun name =>
    (behind? ("</" ++ name ++ ">").toList (line.map Char.toLower)).isSome
  | 2 => holds "-->"
  | 3 => holds "?>"
  | 4 => holds ">"
  | 5 => holds "]]>"
  | _ => false

end Formulary.Markdown
