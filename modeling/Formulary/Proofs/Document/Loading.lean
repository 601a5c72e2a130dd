import Formulary.Document.Loaded
import Formulary.Proofs.Markup.Extraction
import Formulary.Proofs.Markup.Minting

/-!
# Loading — every inline formula comes back to its own place

A text goes through a reader that is any function. If a document comes out, each inline formula of
the text stands at the range of the one code span that held its identifier, and there is no other
inline formula. A reader that keeps the identifiers and gives the entries ranges of their own always
gives a document.

* `holds` — the code spans that hold an identifier, in any written form.
* `Recovers` — the inline formulas of an extraction are those of the text, one for one.
* `exists_load_iff` — which readers give a document.
* `exists_recovers` — the document has the inline formulas of its text.
-/

namespace Formulary

open Markup

namespace Markup

/-- Whether a node is a code span that holds an identifier, in any written form. -/
def holds (id : Uuid) (n : Node) : Bool :=
  match n.kind with
  | .inlineCode literal => Uuid.parse? literal == some id
  | _ => false

theorem holds_iff {id : Uuid} {n : Node} :
    holds id n = true ↔ ∃ literal, n.kind = .inlineCode literal ∧ Uuid.parse? literal = some id := by
  obtain ⟨kind, range, children⟩ := n
  constructor
  · intro h
    cases kind with
    | inlineCode literal => exact ⟨literal, rfl, eq_of_beq h⟩
    | _ => exact Bool.noConfusion h
  · rintro ⟨literal, hkind, hid⟩
    cases hkind
    exact beq_iff_eq.mpr hid

/-- An identifier is held as often as there are code spans that hold it. -/
theorem count_heldIds (id : Uuid) (tree : Node) :
    (heldIds tree).count id = (tree.preorder.filter (holds id)).length := by
  rw [heldIds, List.count_filterMap, List.countP_eq_length_filter]
  congr 1
  refine List.filter_congr ?_
  rintro ⟨kind, range, children⟩ _
  cases kind with
  | _ => rfl

/-- The inline formulas of an extraction are those of some segments, one for one: each stands at the
    range of the one node that holds its identifier. -/
structure Recovers (ids : Nat → Uuid) (spans : List Segment) (tree : Node) (e : Extraction)
    (node : Fin spans.length → Node) : Prop where
  held : ∀ i : Fin spans.length, tree.preorder.filter (holds (ids i)) = [node i]
  apart : Function.Injective fun i => (node i).range
  carried : ∀ i, ∃ latex, (spans.get i).latex? = some latex ∧
    e.math.get? (node i).range = some ⟨(node i).range, latex, .inline⟩
  only : ∀ r m, e.math.get? r = some m → m.style = .inline → ∃ i, r = (node i).range

variable {ids : Nat → Uuid} {segments : List Segment} {tree : Node}

/-- A tree reunites the identifiers of a text with their formulas when each of them is held by exactly
    one code span, and the entries have ranges of their own. -/
theorem reunites_placeholdersOf_iff (hids : MintsApart ids segments) :
    Reunites (placeholdersOf ids segments) tree
      ↔ (∀ i, i < (spanSegments segments).length →
          (tree.preorder.filter (holds (ids i))).length = 1) ∧
        (entryRanges (placeholdersOf ids segments) tree).Nodup := by
  constructor
  · rintro ⟨honce, hapart⟩
    refine ⟨?_, hapart⟩
    intro i hi
    rw [← count_heldIds]
    exact honce _ ((contains_placeholdersOf hids).mpr ⟨i, hi, rfl⟩)
  · rintro ⟨honce, hapart⟩
    refine ⟨?_, hapart⟩
    intro id hid
    obtain ⟨i, hi, rfl⟩ := (contains_placeholdersOf hids).mp hid
    rw [count_heldIds]
    exact honce i hi

/-- Two nodes that stand for an entry and have one range are one node. -/
theorem eq_of_entryRanges_nodup {table : PlaceholderTable} (hnd : (entryRanges table tree).Nodup)
    {a b : Node} (ha : a ∈ tree.preorder) (hb : b ∈ tree.preorder) (hea : isEntry table a = true)
    (heb : isEntry table b = true) (h : a.range = b.range) : a = b :=
  List.inj_on_of_nodup_map hnd (List.mem_filter.mpr ⟨ha, hea⟩) (List.mem_filter.mpr ⟨hb, heb⟩) h

/-- A code span that holds an identifier of the table stands for an entry. -/
theorem IsSpan.isEntry {table : PlaceholderTable} {n : Node} {m : MathEntry}
    (h : IsSpan table n m) : isEntry table n = true := by
  obtain ⟨literal, id, p, hkind, hid, hp, -⟩ := h
  rw [Markup.isEntry, hkind]
  show (Uuid.parse? literal).any table.contains = true
  rw [hid]
  exact PlaceholderTable.contains_iff.mpr ⟨p, hp⟩

/-- What comes out of the tree of a text has the inline formulas of the text, one for one. -/
theorem exists_recovers (hids : MintsApart ids segments) {e : Extraction}
    (h : extract tree (placeholdersOf ids segments) = .ok e) :
    ∃ node, Recovers ids (spanSegments segments) tree e node := by
  obtain ⟨honce, hapart⟩ := (reunites_placeholdersOf_iff hids).mp (exists_extract_iff.mp ⟨e, h⟩)
  have hdescribes := describes_of_extract h
  have hnode : ∀ i : Fin (spanSegments segments).length,
      ∃ n, tree.preorder.filter (holds (ids i)) = [n] :=
    fun i => List.length_eq_one_iff.mp (honce i i.isLt)
  choose node hheld using hnode
  have hmem : ∀ i, node i ∈ tree.preorder ∧ holds (ids i) (node i) = true := by
    intro i
    exact List.mem_filter.mp (hheld i ▸ List.mem_singleton_self (node i))
  -- the node of a formula stands for the entry of this formula
  have hspan : ∀ i, IsSpan (placeholdersOf ids segments) (node i)
      ⟨(node i).range, (spanSegments segments)[i].placeholder.latex, .inline⟩ := by
    intro i
    obtain ⟨literal, hkind, hid⟩ := holds_iff.mp (hmem i).2
    exact ⟨literal, ids i, _, hkind, hid, (get?_placeholdersOf hids).mpr
      ⟨i, _, List.getElem?_eq_getElem i.isLt, rfl, rfl⟩, rfl⟩
  refine ⟨node, hheld, ?_, ?_, ?_⟩
  · intro i j hij
    have hsame : node i = node j := eq_of_entryRanges_nodup hapart (hmem i).1 (hmem j).1
      (hspan i).isEntry (hspan j).isEntry hij
    -- one node holds one identifier
    obtain ⟨literal, hkind, hid⟩ := holds_iff.mp (hmem i).2
    obtain ⟨literal', hkind', hid'⟩ := holds_iff.mp (hmem j).2
    rw [hsame, hkind'] at hkind
    cases hkind
    have hids' : ids i = ids j := Option.some.inj (hid.symm.trans hid')
    exact Fin.ext (hids i j i.isLt j.isLt hids')
  · intro i
    exact ⟨_, latex?_of_mem_spanSegments (List.getElem_mem i.isLt),
      (hdescribes.math _ _).mpr ⟨node i, (hmem i).1, rfl, Or.inl (hspan i)⟩⟩
  · intro r m hget hstyle
    obtain ⟨n, hn, hrange, hn' | hn'⟩ := (hdescribes.math r m).mp hget
    · obtain ⟨literal, id, p, hkind, hid, hp, -⟩ := hn'
      obtain ⟨i, s, hs, hi, -⟩ := (get?_placeholdersOf hids).mp hp
      have hlt := (List.getElem?_eq_some_iff.mp hs).1
      have hholds : n ∈ tree.preorder.filter (holds (ids i)) :=
        List.mem_filter.mpr ⟨hn, holds_iff.mpr ⟨literal, hkind, hi ▸ hid⟩⟩
      rw [hheld ⟨i, hlt⟩, List.mem_singleton] at hholds
      exact ⟨⟨i, hlt⟩, hrange.symm.trans (congrArg Node.range hholds)⟩
    · obtain ⟨info, literal, -, -, rfl⟩ := hn'
      cases hstyle

end Markup
/-! ## Loaded documents -/

namespace LoadedDocument

variable {ids : Nat → Uuid} {reader : String → Node} {text : String}

/-- What a reader makes of a text that was made ready for it. -/
def treeOf (ids : Nat → Uuid) (reader : String → Node) (text : String) : Node :=
  reader (reformat ids text).text

/-- The table of the inline formulas of a text. -/
def tableOf (ids : Nat → Uuid) (text : String) : PlaceholderTable :=
  placeholdersOf ids (Markup.segments text)

theorem load_eq (ids : Nat → Uuid) (reader : String → Node) (text : String) :
    load ids reader text = (extract (treeOf ids reader text) (tableOf ids text)).map
      fun extraction => { source := text, reformatted := (reformat ids text).text
                          tree := treeOf ids reader text, extraction
                          outline := Markup.outline (treeOf ids reader text) extraction.math } := by
  rw [load]
  show (extract (treeOf ids reader text) (tableOf ids text)).bind _ = _
  cases extract (treeOf ids reader text) (tableOf ids text) with
  | ok e => rfl
  | error err => rfl

/-- The extraction of a document is that of its tree. -/
theorem extract_of_load {d : LoadedDocument} (h : load ids reader text = .ok d) :
    extract (treeOf ids reader text) (tableOf ids text) = .ok d.extraction := by
  rw [load_eq] at h
  cases he : extract (treeOf ids reader text) (tableOf ids text) with
  | ok e =>
      rw [he] at h
      cases h
      rfl
  | error err =>
      rw [he] at h
      cases h

/-- A document is loaded exactly when its tree reunites the identifiers with their formulas. -/
theorem exists_load_iff :
    (∃ d, load ids reader text = .ok d) ↔ Reunites (tableOf ids text) (treeOf ids reader text) := by
  rw [← exists_extract_iff]
  constructor
  · rintro ⟨d, h⟩
    exact ⟨_, extract_of_load h⟩
  · rintro ⟨e, h⟩
    rw [load_eq, h]
    exact ⟨_, rfl⟩

end LoadedDocument
end Formulary
