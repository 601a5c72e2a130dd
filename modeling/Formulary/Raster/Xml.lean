import Formulary.Text.Digits
import Formulary.Text.Punctuation

/-!
# Elements — well-formed markup of a drawing

A drawing is one element that holds others. Only elements and attributes matter here; texts,
comments and instructions are checked and left out.

* `Element` — a name, attributes and the elements inside.
* `Element.parse?` — the element of a document, or nothing if the document is not well formed.
-/

namespace Formulary.Raster

/-- An element: its name, its attributes and the elements inside. -/
inductive Element where
  | mk (name : List Char) (attributes : List (List Char × List Char)) (children : List Element)
deriving Inhabited

namespace Element

/-- The name of an element. -/
def name : Element → List Char
  | mk name .. => name

/-- The attributes of an element. -/
def attributes : Element → List (List Char × List Char)
  | mk _ attributes _ => attributes

/-- The elements inside an element. -/
def children : Element → List Element
  | mk _ _ children => children

/-- Whether a character separates the parts of a tag. -/
def isSpace (c : Char) : Bool := c == ' ' || c == '\t' || c == '\n' || c == '\r'

/-- Whether a character may start a name. -/
def isNameStart (c : Char) : Bool := c.isAlpha || c == '_' || c == ':' || 0x80 ≤ c.toNat

/-- Whether a character may stand in a name. -/
def isNameChar (c : Char) : Bool := isNameStart c || c.isDigit || c == '-' || c == '.'

/-- A name, and what is left behind it. -/
def name? (cs : List Char) : Option (List Char × List Char) :=
  if cs.head?.any isNameStart then
    let name := cs.takeWhile isNameChar
    some (name, cs.drop name.length)
  else none

/-- What stands in front of a mark, and what is left behind it. -/
def upTo? (mark : List Char) (read : List Char) : List Char → Option (List Char × List Char)
  | [] => none
  | c :: rest =>
    if mark.isPrefixOf (c :: rest) then some (read.reverse, (c :: rest).drop mark.length)
    else upTo? mark (c :: read) rest

/-- The characters that names stand for. -/
def entities : List (String × Char) := [("lt", '<'), ("gt", '>'), ("amp", '&'), ("quot", '"'), ("apos", '\'')]

/-- The character that a reference without its marks stands for. -/
def entity? (reference : List Char) : Option Char :=
  match reference with
  | '#' :: 'x' :: digits =>
    if digits.isEmpty then none else (Text.foldDigits 16 Text.hexValue? 0 digits).map Char.ofNat
  | '#' :: digits =>
    if digits.isEmpty then none else (Text.foldDigits 10 Text.decimalValue? 0 digits).map Char.ofNat
  | name => entities.lookup (String.ofList name)

/-- A text with its references resolved. -/
def resolve? : Nat → List Char → Option (List Char)
  | 0, _ => none
  | _, [] => some []
  | fuel + 1, c :: rest =>
    if c = '&' then do
      let (reference, rest) ← upTo? [';'] [] rest
      let c ← entity? reference
      let text ← resolve? fuel rest
      return c :: text
    else (resolve? fuel rest).map (c :: ·)

/-- The attributes of a tag, and what is left of it; `read` holds those in front, in reverse. -/
def attributes? : Nat → List (List Char × List Char) → List Char →
    Option (List (List Char × List Char) × List Char)
  | 0, _, _ => none
  | fuel + 1, read, cs =>
    let text := cs.dropWhile isSpace
    if text.head?.any isNameStart then
      if text.length = cs.length then none
      else do
        let (name, rest) ← name? text
        match (rest.dropWhile isSpace) with
        | '=' :: rest =>
          match rest.dropWhile isSpace with
          | quote :: rest =>
            if quote != '"' && quote != '\'' then none
            else
              let (value, rest) ← upTo? [quote] [] rest
              let value' ← resolve? (value.length + 1) value
              if value.contains '<' || (read.lookup name).isSome then none
              else attributes? fuel ((name, value') :: read) rest
          | [] => none
        | _ => none
    else some (read.reverse, text)

/-- The prefixes that attributes declare. -/
def declared (attributes : List (List Char × List Char)) : List (List Char) :=
  attributes.filterMap fun (name, _) =>
    if "xmlns:".toList.isPrefixOf name then some (name.drop 6) else none

/-- Whether the prefix of a name, if it has one, is declared. -/
def isBound (prefixes : List (List Char)) (name : List Char) : Bool :=
  if name.contains ':' then prefixes.contains (name.takeWhile (· != ':')) else true

/-- What is left behind a comment or an instruction, of which `<` has been read. -/
def skipped? (cs : List Char) : Option (List Char) :=
  match cs with
  | '!' :: '-' :: '-' :: rest => do
    let (comment, rest) ← upTo? "--".toList [] rest
    match rest with
    | '>' :: rest => if comment.getLast? = some '-' then none else some rest
    | _ => none
  | '?' :: rest => do
    let (name, _) ← name? rest
    if name.map Char.toLower = "xml".toList then none
    else (upTo? "?>".toList [] rest).map Prod.snd
  | _ => none

mutual

/-- An element, of which `<` has been read, and what is left behind it. -/
def element? : Nat → List (List Char) → List Char → Option (Element × List Char)
  | 0, _, _ => none
  | fuel + 1, prefixes, cs => do
    let (name, rest) ← name? cs
    let (attributes, rest) ← attributes? (rest.length + 1) [] rest
    let prefixes := declared attributes ++ prefixes
    if !isBound prefixes name || !attributes.all (fun (name, _) => isBound prefixes name) then none
    else
      match rest with
      | '/' :: '>' :: rest => return (mk name attributes [], rest)
      | '>' :: rest =>
        let (children, rest) ← content? fuel prefixes name rest
        return (mk name attributes children, rest)
      | _ => none

/-- The elements inside an element up to its closing tag, and what is left behind it. -/
def content? : Nat → List (List Char) → List Char → List Char → Option (List Element × List Char)
  | 0, _, _, _ => none
  | fuel + 1, prefixes, name, cs =>
    let text := cs.takeWhile (· != '<')
    match resolve? (text.length + 1) text, cs.drop text.length with
    | some _, '<' :: '/' :: rest => do
      let (closing, rest) ← name? rest
      match rest.dropWhile isSpace with
      | '>' :: rest => if closing = name then return ([], rest) else none
      | _ => none
    | some _, '<' :: rest =>
      if "![CDATA[".toList.isPrefixOf rest then do
        let (_, rest) ← upTo? "]]>".toList [] rest
        content? fuel prefixes name rest
      else if rest.head? = some '!' || rest.head? = some '?' then do
        let rest ← skipped? rest
        content? fuel prefixes name rest
      else do
        let (child, rest) ← element? fuel prefixes rest
        let (children, rest) ← content? fuel prefixes name rest
        return (child :: children, rest)
    | _, _ => none

end

/-- What is left behind the declaration of a document type; `depth` counts its brackets. -/
def doctype? (depth : Nat) : List Char → Option (List Char)
  | [] => none
  | '[' :: rest => doctype? (depth + 1) rest
  | ']' :: rest => doctype? (depth - 1) rest
  | '>' :: rest => if depth = 0 then some rest else doctype? depth rest
  | _ :: rest => doctype? depth rest

/-- What is left behind white space, comments, instructions and a document type. -/
def skipMisc : Nat → List Char → List Char
  | 0, cs => cs
  | fuel + 1, cs =>
    match cs.dropWhile isSpace with
    | '<' :: rest =>
      if "!DOCTYPE".toList.isPrefixOf rest then
        match doctype? 0 rest with
        | some rest => skipMisc fuel rest
        | none => '<' :: rest
      else
        match skipped? rest with
        | some rest => skipMisc fuel rest
        | none => '<' :: rest
    | text => text

/-- The element of a document. -/
def parse? (text : List Char) : Option Element := do
  let cs := if text.head? = some '\ufeff' then text.drop 1 else text
  let cs := if "<?xml ".toList.isPrefixOf cs then ((upTo? "?>".toList [] cs).map Prod.snd).getD [] else cs
  match skipMisc cs.length cs with
  | '<' :: rest =>
    let (root, rest) ← element? (rest.length + 1) ["xml".toList, "xmlns".toList] rest
    if (skipMisc rest.length rest).isEmpty then return root else none
  | _ => none

end Element
end Formulary.Raster
