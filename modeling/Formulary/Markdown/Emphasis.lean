import Formulary.Markdown.Glyph
import Formulary.Markup.Tree

/-!
# Emphasis — pairing runs of delimiters

Inside a paragraph, runs of `*`, `_`, `~` and `^` may open or close emphasis. Runs are read from left
to right; a run that may close looks for the nearest open run of its character, and what stands
between the two becomes a node. Runs left over are text.

* `Inline` — the pieces of a paragraph.
* `Delimiter.matches` — whether an open run and a closing one pair.
* `emphasize` — pairs the runs among pieces.
-/

namespace Formulary.Markdown

open Markup

/-- The pieces of a paragraph. -/
inductive Inline where
  | text (glyphs : List Glyph)
  | tag (glyphs : List Glyph)
  | node (kind : NodeKind) (range : SourceRange) (children : List Inline)
  | link (range : SourceRange) (children : List Inline)
  | footnote (label : List Char) (range : SourceRange)
deriving Inhabited

/-- A run of delimiters: what is left of it, its length at first, and whether it may open and close
emphasis. -/
structure Delimiter where
  char : Char
  glyphs : List Glyph
  length : Nat
  canOpen : Bool
  canClose : Bool
deriving Inhabited

/-- A piece, or a run that has not been paired. -/
inductive Item where
  | piece (inline : Inline)
  | run (delimiter : Delimiter)
deriving Inhabited

/-- Whether an open run and a closing one pair. When one of them may both open and close, their
lengths must not add up to a multiple of three, unless both are multiples of three. -/
def Delimiter.matches (opener closer : Delimiter) : Bool :=
  opener.char == closer.char &&
    !((closer.canOpen || opener.canClose) && (opener.length + closer.length) % 3 == 0 &&
      !(opener.length % 3 == 0 && closer.length % 3 == 0))

/-- An open run and the pieces behind it, the last one first. -/
structure Opener where
  run : Delimiter
  inside : List Inline := []

/-- Pieces that have been read, the last ones first: those in front of all open runs, and the open
runs from the innermost outwards. -/
structure Pairing where
  front : List Inline := []
  openers : List Opener := []

namespace Pairing

/-- Adds a piece. -/
def push (p : Pairing) (i : Inline) : Pairing :=
  match p.openers with
  | [] => { p with front := i :: p.front }
  | o :: rest => { p with openers := { o with inside := i :: o.inside } :: rest }

/-- The pieces of open runs that become text, the last one first. -/
def flatten : List Opener → List Inline
  | [] => []
  | o :: rest => o.inside ++ .text o.run.glyphs :: flatten rest

/-- All pieces, the last one first. -/
def pieces (p : Pairing) : List Inline := flatten p.openers ++ p.front

/-- The nearest open run that a closing one pairs with: the pieces between, the last one first, the
open run, and the runs around it. -/
def find? (closer : Delimiter) (passed : List Opener) :
    List Opener → Option (List Inline × Opener × List Opener)
  | [] => none
  | o :: rest =>
    if o.run.matches closer then some (flatten passed.reverse ++ o.inside, o, rest)
    else find? closer (o :: passed) rest

/-- Adds a run that closes nothing more. -/
def leave (p : Pairing) (d : Delimiter) : Pairing :=
  if d.glyphs.isEmpty then p
  else if d.canOpen then { p with openers := ⟨d, []⟩ :: p.openers }
  else p.push (.text d.glyphs)

/-- The node around pieces, from the delimiters used of the open run to those of the closing one. -/
def nodeOf (opened closed : List Glyph) (children : List Inline) : Inline :=
  .node .other (spanRange (opened ++ closed)) children

/-- Closes open runs with a run as long as they pair; two delimiters are used where both runs have
two, and one otherwise. Tildes pair only when both runs are used up; where they are not, nothing
results, and no further runs pair. -/
def close : Nat → Pairing → Delimiter → Option Pairing
  | 0, p, d => some (p.leave d)
  | fuel + 1, p, d =>
    if !d.canClose || d.glyphs.isEmpty then some (p.leave d)
    else
      match find? d [] p.openers with
      | none => some (p.leave d)
      | some (children, o, rest) =>
        let used := if 2 ≤ o.run.glyphs.length && 2 ≤ d.glyphs.length then 2 else 1
        let kept := o.run.glyphs.take (o.run.glyphs.length - used)
        let opened := o.run.glyphs.drop (o.run.glyphs.length - used)
        let left := d.glyphs.drop used
        if d.char = '~' && !(kept.isEmpty && left.isEmpty) then none
        else
          let node := nodeOf opened (d.glyphs.take used) children.reverse
          let p : Pairing :=
            if kept.isEmpty then
              match rest with
              | [] => { front := node :: p.front, openers := [] }
              | o' :: rest => { p with openers := { o' with inside := node :: o'.inside } :: rest }
            else { p with openers := { run := { o.run with glyphs := kept }, inside := [node] } :: rest }
          close fuel p { d with glyphs := left }

/-- Adds an item as it stands, a run as text. -/
def pushText (p : Pairing) : Item → Pairing
  | .piece i => p.push i
  | .run d => p.push (.text d.glyphs)

/-- Reads items in order. -/
def read (p : Pairing) : List Item → Pairing
  | [] => p
  | .piece i :: rest => read (p.push i) rest
  | .run d :: rest =>
    match close (d.glyphs.length + 1) p d with
    | some p => read p rest
    | none => (rest.foldl pushText (p.push (.text d.glyphs)))

end Pairing

/-- Pairs the runs among items, which are in their order. -/
def emphasize (items : List Item) : List Inline := (Pairing.read {} items).pieces.reverse

end Formulary.Markdown
