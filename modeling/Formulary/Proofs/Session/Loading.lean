import Formulary.Proofs.Document.Loading
import Formulary.Proofs.Session.Event

/-!
# Opening a document — all of it or nothing

A document that cannot be loaded leaves the session as it was. One that is loaded adds its own slot to
the registry, with the index of its extraction, and touches nothing else that documents share.

* `load_eq_ok_iff` — a session opens what can be loaded.
* `Opens` — what a session looks like after a document was opened.
* `load_spec` — which documents are opened, and what is there afterwards.
-/

namespace Formulary
namespace Session

open Markup Render LoadedDocument

variable {s : Session} {id : DocumentId} {ids : Nat → Uuid} {reader : String → Node} {text : String}

/-- The session with a loaded document under a number. -/
def opened (s : Session) (id : DocumentId) (d : LoadedDocument) : Session :=
  { s with
    registry := (s.registry.register id d.extraction.index).2
    documents := s.documents.set id
      { loaded := d, registration := (s.registry.register id d.extraction.index).1
        fontSize := s.fontSize, color := s.color } }

theorem load_eq (s : Session) (id : DocumentId) (ids : Nat → Uuid) (reader : String → Node)
    (text : String) :
    s.load id ids reader text = (LoadedDocument.load ids reader text).map (s.opened id) := by
  rw [load]
  cases LoadedDocument.load ids reader text with
  | ok d => rfl
  | error err => rfl

/-- A session opens a document when it can be loaded. -/
theorem load_eq_ok_iff {s' : Session} :
    s.load id ids reader text = .ok s'
      ↔ ∃ d, LoadedDocument.load ids reader text = .ok d ∧ s.opened id d = s' := by
  rw [load_eq]
  cases LoadedDocument.load ids reader text with
  | ok d =>
      constructor
      · intro h
        exact ⟨d, rfl, Except.ok.inj h⟩
      · rintro ⟨d', hd, rfl⟩
        cases hd
        rfl
  | error err =>
      constructor
      · intro h
        cases h
      · rintro ⟨d', hd, -⟩
        cases hd

/-- A document was opened: its slot holds the index of its extraction and no error, there is one slot
    more, and neither the other slots nor the cache were touched. -/
structure Opens (s : Session) (id : DocumentId) (d : LoadedDocument) (s' : Session) : Prop where
  document : (s'.documents.get? id).map OpenDocument.loaded = some d
  slot : ∀ other, s'.registry.slot? other
    = if other = id then some { index := d.extraction.index } else s.registry.slot? other
  size : s'.registry.size = s.registry.size + 1
  cache : s'.cache = s.cache

theorem opens_opened (hfresh : s.registry.slot? id = none) (d : LoadedDocument) :
    s.Opens id d (s.opened id d) where
  document := by
    show ((s.documents.set id _).get? id).map OpenDocument.loaded = some d
    rw [Table.get?_set, if_pos rfl]
    rfl
  slot other := Table.get?_set _ _ _ _
  size := Table.size_set_new hfresh
  cache := rfl

/-- Whatever the text and the reader, a document is opened exactly when each identifier minted for the
    text is held by one code span and all entries have ranges of their own. It then has the inline
    formulas of its text, one for one, and a slot of its own; otherwise the session stays as it was. -/
theorem load_spec (s : Session) (id : DocumentId) (ids : Nat → Uuid) (reader : String → Node)
    (text : String) (replies : JobId → Reply) (hids : MintsApart ids (segments text))
    (hfresh : s.registry.slot? id = none) :
    ((∃ s', s.load id ids reader text = .ok s') ↔
      (∀ i, i < (spanSegments (segments text)).length →
        ((treeOf ids reader text).preorder.filter (holds (ids i))).length = 1) ∧
      (entryRanges (tableOf ids text) (treeOf ids reader text)).Nodup) ∧
    (∀ s', s.load id ids reader text = .ok s' →
      perform replies s (.load id ids reader text) = s' ∧
      ∃ d node, s.Opens id d s' ∧
        Recovers ids (spanSegments (segments text)) (treeOf ids reader text) d.extraction node) ∧
    (∀ err, s.load id ids reader text = .error err →
      perform replies s (.load id ids reader text) = s) := by
  refine ⟨?_, ?_, ?_⟩
  · have hexists : (∃ s', s.load id ids reader text = .ok s')
        ↔ ∃ d, LoadedDocument.load ids reader text = .ok d := by
      constructor
      · rintro ⟨s', h⟩
        obtain ⟨d, hd, -⟩ := load_eq_ok_iff.mp h
        exact ⟨d, hd⟩
      · rintro ⟨d, hd⟩
        exact ⟨_, load_eq_ok_iff.mpr ⟨d, hd, rfl⟩⟩
    rw [hexists, exists_load_iff]
    exact reunites_placeholdersOf_iff hids
  · intro s' h
    obtain ⟨d, hd, rfl⟩ := load_eq_ok_iff.mp h
    obtain ⟨node, hrecovers⟩ := exists_recovers hids (extract_of_load hd)
    refine ⟨?_, d, node, opens_opened hfresh d, hrecovers⟩
    simp only [perform, h]
  · intro err h
    simp only [perform, h]

/-- A reader that keeps the identifier of the only formula opens the document with that formula. -/
theorem load_spec_one_formula :
    let reader := fun _ => Node.mk (.inlineCode (Uuid.numbered 0).hyphenated) ⟨⟨1, 3⟩, ⟨1, 40⟩⟩ []
    ∃ s' d node, (Session.new {}).load ⟨0⟩ Uuid.numbered reader "a $x$ b" = .ok s' ∧
      (Session.new {}).Opens ⟨0⟩ d s' ∧
      Recovers Uuid.numbered (spanSegments (segments "a $x$ b"))
        (treeOf Uuid.numbered reader "a $x$ b") d.extraction node := by
  intro reader
  have hone : (spanSegments (segments "a $x$ b")).length = 1 := by decide +kernel
  have hids : MintsApart Uuid.numbered (segments "a $x$ b") := by
    intro i j hi hj _
    omega
  have hspec := load_spec (Session.new {}) ⟨0⟩ Uuid.numbered reader "a $x$ b"
    (fun _ => ⟨.broken none, .broken none, fun _ => .broken none, .broken none, Raster.decodeImage⟩)
    hids rfl
  have hheld : ∀ i, i < (spanSegments (segments "a $x$ b")).length →
      ((treeOf Uuid.numbered reader "a $x$ b").preorder.filter
        (holds (Uuid.numbered i))).length = 1 := by
    intro i hi
    have hzero : i = 0 := by omega
    subst hzero
    decide +kernel
  obtain ⟨s', hload⟩ := hspec.1.mpr ⟨hheld, by decide +kernel⟩
  obtain ⟨-, d, node, hopens, hrecovers⟩ := hspec.2.1 s' hload
  exact ⟨s', d, node, hload, hopens, hrecovers⟩

end Session
end Formulary
