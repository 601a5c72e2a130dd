import Formulary.Proofs.Markup.Conversion

/-!
# Extraction — what a tree has to be like, and what is found in it

Nothing is assumed of the tree: it may have lost identifiers, repeat them in other written forms, or
hold code that only looks like one. A document comes out of it exactly when the tree holds each
identifier once and all its entries have places of their own.

* `IsSpan`, `IsBlock`, `IsImage` — the nodes that stand for an entry.
* `Reunites` — the trees that a table of identifiers comes back from.
* `Describes` — an extraction that holds the entries of a tree and nothing else.
* `holds_of_extract`, `exists_extract_iff` — an extraction comes from such trees only, and holds
  their entries.
* `extract_spec` — both, and the errors of all other trees.
-/

namespace Formulary.Markup

/-! ## Nodes that stand for an entry -/

/-- A code span that holds an identifier of the table stands for its formula. -/
def IsSpan (table : PlaceholderTable) (n : Node) (m : MathEntry) : Prop :=
  ∃ literal id p, n.kind = .inlineCode literal ∧ Uuid.parse? literal = some id ∧
    table.get? id = some p ∧ m = ⟨n.range, p.latex, .inline⟩

/-- A code block in the language of formulas stands for its trimmed content. -/
def IsBlock (n : Node) (m : MathEntry) : Prop :=
  ∃ info literal, n.kind = .codeBlock info literal ∧
    (NodeKind.codeBlock info literal).language? = some mathLanguage ∧
    m = ⟨n.range, Text.trim literal, .display⟩

/-- An image with a source that is not blank stands for what the trimmed source refers to. -/
def IsImage (n : Node) (i : ImageEntry) : Prop :=
  ∃ source title, n.kind = .image source title ∧ Text.trim source ≠ "" ∧
    i = ⟨n.range, ImageReference.classify (Text.trim source)⟩

/-- Whether a node stands for an entry. -/
def isEntry (table : PlaceholderTable) (n : Node) : Bool :=
  match n.kind with
  | .inlineCode literal => (Uuid.parse? literal).any table.contains
  | .codeBlock info literal =>
    (NodeKind.codeBlock info literal).language? == some mathLanguage
  | .image source _ => Text.trim source != ""
  | _ => false

/-- The ranges of the nodes that stand for an entry. -/
def entryRanges (table : PlaceholderTable) (tree : Node) : List SourceRange :=
  (tree.preorder.filter (isEntry table)).map Node.range

/-- The identifiers that the code spans of a tree hold, in any written form. -/
def heldIds (tree : Node) : List Uuid :=
  tree.preorder.filterMap fun n =>
    match n.kind with
    | .inlineCode literal => Uuid.parse? literal
    | _ => none

variable {table : PlaceholderTable} {n : Node} {tree : Node}

/-- The formula of a code span. -/
def span? (table : PlaceholderTable) (n : Node) : Option MathEntry :=
  (Findings.pending? n).bind (claim? table)

/-- A node gives an inline formula exactly when it is a code span that stands for one. -/
theorem span?_eq_some_iff {m : MathEntry} : span? table n = some m ↔ IsSpan table n m := by
  obtain ⟨kind, range, children⟩ := n
  constructor
  · intro h
    cases kind with
    | inlineCode literal =>
        obtain ⟨f, hf, hm⟩ := Option.bind_eq_some_iff.mp h
        obtain ⟨id, hid, rfl⟩ := Option.map_eq_some_iff.mp hf
        obtain ⟨p, hp, rfl⟩ := Option.map_eq_some_iff.mp hm
        exact ⟨literal, id, p, rfl, hid, hp, rfl⟩
    | _ => cases h
  · rintro ⟨literal, id, p, hkind, hid, hp, rfl⟩
    cases hkind
    simp [span?, Findings.pending?, claim?, Node.kind, Node.range, hid, hp]

/-- A node gives a block exactly when it is a code block that stands for one. -/
theorem block?_eq_some_iff {m : MathEntry} : Findings.block? n = some m ↔ IsBlock n m := by
  obtain ⟨kind, range, children⟩ := n
  constructor
  · intro h
    cases kind with
    | codeBlock info literal =>
        simp only [Findings.block?, Node.kind, Option.ite_none_right_eq_some,
          Option.some.injEq] at h
        exact ⟨info, literal, rfl, h.1, h.2.symm⟩
    | _ => cases h
  · rintro ⟨info, literal, hkind, hlanguage, rfl⟩
    cases hkind
    simp only [Findings.block?, Node.kind, if_pos hlanguage]

/-- A node gives an image exactly when it is one with a source. -/
theorem image?_eq_some_iff {i : ImageEntry} : Findings.image? n = some i ↔ IsImage n i := by
  obtain ⟨kind, range, children⟩ := n
  constructor
  · intro h
    cases kind with
    | image source title =>
        simp only [Findings.image?, Node.kind, Option.ite_none_left_eq_some,
          Option.some.injEq, String.isEmpty_iff] at h
        exact ⟨source, title, rfl, h.1, h.2.symm⟩
    | _ => cases h
  · rintro ⟨source, title, hkind, hsource, rfl⟩
    cases hkind
    simp only [Findings.image?, Node.kind, String.isEmpty_iff, if_neg hsource]

/-- The range of a node that stands for an entry is the place of that entry. -/
theorem range_of_isEntry (table : PlaceholderTable) (n : Node) :
    (if isEntry table n then some n.range else none)
      = ((span? table n).map MathEntry.range).or
          (((Findings.block? n).map MathEntry.range).or
            ((Findings.image? n).map ImageEntry.range)) := by
  obtain ⟨kind, range, children⟩ := n
  cases kind with
  | inlineCode literal =>
      show (if (Uuid.parse? literal).any table.contains = true then some range else none)
        = ((((Uuid.parse? literal).map (range, ·)).bind (claim? table)).map MathEntry.range).or none
      cases Uuid.parse? literal with
      | none => rfl
      | some id =>
          show (if (table.get? id).isSome = true then some range else none)
            = (((table.get? id).map fun p => (⟨range, p.latex, .inline⟩ : MathEntry)).map
                MathEntry.range).or none
          cases table.get? id with
          | none => rfl
          | some p => rfl
  | codeBlock info literal =>
      rw [isEntry, Findings.block?]
      by_cases hlanguage : (NodeKind.codeBlock info literal).language? = some mathLanguage
      · simp only [Node.kind, hlanguage, beq_self_eq_true, if_true]
        rfl
      · simp only [Node.kind, beq_iff_eq, hlanguage, if_false]
        rfl
  | image source title =>
      rw [isEntry, Findings.image?]
      by_cases hsource : Text.trim source = ""
      · simp only [Node.kind, bne_iff_ne, ne_eq, hsource, not_true, String.isEmpty_iff, if_false,
          if_true]
        rfl
      · simp only [Node.kind, bne_iff_ne, ne_eq, hsource, not_false_eq_true, String.isEmpty_iff,
          if_true, if_false]
        rfl
  | _ => rfl

/-- What two readings of a list find together, when no element is read both ways. -/
theorem perm_filterMap_or {α β : Type} {f g : α → Option β} (h : ∀ a, f a = none ∨ g a = none)
    (l : List α) :
    (l.filterMap fun a => (f a).or (g a)).Perm (l.filterMap f ++ l.filterMap g) := by
  induction l with
  | nil => exact List.Perm.refl _
  | cons a rest ih =>
      rcases h a with hf | hg
      · cases hg : g a with
        | none => simpa [hf, hg] using ih
        | some b => simpa [hf, hg] using (ih.cons b).trans List.perm_middle.symm
      · cases hf : f a with
        | none => simpa [hf, hg] using ih
        | some b => simpa [hf, hg] using ih.cons b

/-! ## The entries of a tree -/

/-- The claims of a tree are read off its nodes in the order in which they stand. -/
theorem claims_ofTree :
    claims table (Findings.ofTree tree).pending = tree.preorder.filterMap (span? table) :=
  List.filterMap_filterMap

/-- The formulas of a tree are those of its nodes, inline or blocks. -/
theorem mem_formulas_iff {m : MathEntry} :
    m ∈ (Findings.ofTree tree).formulas table
      ↔ ∃ n ∈ tree.preorder, IsSpan table n m ∨ IsBlock n m := by
  rw [Findings.formulas, claims_ofTree, List.mem_append, List.mem_filterMap]
  constructor
  · rintro (⟨n, hn, hspan⟩ | hblock)
    · exact ⟨n, hn, Or.inl (span?_eq_some_iff.mp hspan)⟩
    · obtain ⟨n, hn, hblock⟩ := List.mem_filterMap.mp hblock
      exact ⟨n, hn, Or.inr (block?_eq_some_iff.mp hblock)⟩
  · rintro ⟨n, hn, hspan | hblock⟩
    · exact Or.inl ⟨n, hn, span?_eq_some_iff.mpr hspan⟩
    · exact Or.inr (List.mem_filterMap.mpr ⟨n, hn, block?_eq_some_iff.mpr hblock⟩)

/-- The images of a tree are those of its nodes. -/
theorem mem_images_iff {i : ImageEntry} :
    i ∈ (Findings.ofTree tree).images ↔ ∃ n ∈ tree.preorder, IsImage n i := by
  constructor
  · intro h
    obtain ⟨n, hn, himage⟩ := List.mem_filterMap.mp h
    exact ⟨n, hn, image?_eq_some_iff.mp himage⟩
  · rintro ⟨n, hn, himage⟩
    exact List.mem_filterMap.mpr ⟨n, hn, image?_eq_some_iff.mpr himage⟩

theorem IsSpan.range_eq {m : MathEntry} (h : IsSpan table n m) : m.range = n.range := by
  obtain ⟨_, _, _, _, _, _, rfl⟩ := h
  rfl

theorem IsBlock.range_eq {m : MathEntry} (h : IsBlock n m) : m.range = n.range := by
  obtain ⟨_, _, _, _, rfl⟩ := h
  rfl

theorem IsImage.range_eq {i : ImageEntry} (h : IsImage n i) : i.range = n.range := by
  obtain ⟨_, _, _, _, rfl⟩ := h
  rfl

/-- The places of all entries, kind by kind, are the ranges of the nodes that stand for one. -/
theorem entryRanges_perm (table : PlaceholderTable) (tree : Node) :
    (entryRanges table tree).Perm
      (Extraction.places ((Findings.ofTree tree).formulas table) (Findings.ofTree tree).images) := by
  have hranges : entryRanges table tree = tree.preorder.filterMap fun n =>
      ((span? table n).map MathEntry.range).or
        (((Findings.block? n).map MathEntry.range).or
          ((Findings.image? n).map ImageEntry.range)) := by
    rw [entryRanges, ← List.filterMap_eq_filter, List.map_filterMap]
    refine List.filterMap_congr ?_
    intro n _
    rw [← range_of_isEntry, Option.guard]
    exact apply_ite (Option.map Node.range) _ _ _
  -- no node is read in two ways, so the entries can be sorted by kind
  have hspan : ∀ n, (span? table n).map MathEntry.range = none ∨
      ((Findings.block? n).map MathEntry.range).or
        ((Findings.image? n).map ImageEntry.range) = none := by
    rintro ⟨kind, range, children⟩
    cases kind with
    | inlineCode literal => exact Or.inr rfl
    | _ => exact Or.inl rfl
  have hblock : ∀ n, (Findings.block? n).map MathEntry.range = none ∨
      (Findings.image? n).map ImageEntry.range = none := by
    rintro ⟨kind, range, children⟩
    cases kind with
    | codeBlock info literal => exact Or.inr rfl
    | _ => exact Or.inl rfl
  rw [hranges, Extraction.places, Findings.formulas, claims_ofTree, List.map_append,
    List.append_assoc, List.map_filterMap]
  refine (perm_filterMap_or hspan _).trans (List.Perm.append_left _ ?_)
  refine (perm_filterMap_or hblock _).trans ?_
  rw [Findings.ofTree, List.map_filterMap, List.map_filterMap]

/-- The identifiers that are held are those of the nodes that are looked at. -/
theorem heldIds_eq : (Findings.ofTree tree).pending.map Prod.snd = heldIds tree := by
  rw [heldIds, Findings.ofTree, List.map_filterMap]
  refine List.filterMap_congr ?_
  rintro ⟨kind, range, children⟩ _
  cases kind with
  | inlineCode literal =>
      show ((Uuid.parse? literal).map (range, ·)).map Prod.snd = Uuid.parse? literal
      cases Uuid.parse? literal with
      | none => rfl
      | some id => rfl
  | _ => rfl

/-! ## Trees that a table comes back from -/

/-- A tree holds every identifier of a table exactly once, and the nodes that stand for an entry have
    ranges of their own. -/
structure Reunites (table : PlaceholderTable) (tree : Node) : Prop where
  once : ∀ id, table.contains id = true → (heldIds tree).count id = 1
  apart : (entryRanges table tree).Nodup

/-- An extraction holds the formulas and the images of a tree and nothing else; no place has both,
    and the index holds their places. -/
structure Describes (table : PlaceholderTable) (tree : Node) (e : Extraction) : Prop where
  math : ∀ r m, e.math.get? r = some m ↔
    ∃ n ∈ tree.preorder, n.range = r ∧ (IsSpan table n m ∨ IsBlock n m)
  images : ∀ r i, e.images.get? r = some i ↔ ∃ n ∈ tree.preorder, n.range = r ∧ IsImage n i
  disjoint : ∀ r, e.math.get? r = none ∨ e.images.get? r = none
  index : ∀ key r, e.index.lookup key = some r ↔ key = r.key ∧ r ∈ entryRanges table tree
  size : e.index.size = e.jobCount

/-- Each identifier of a table is among some exactly once, when none is missing and none of them
    comes twice. -/
theorem count_eq_one_iff (table : PlaceholderTable) (found : List (SourceRange × Uuid)) :
    (∀ id, table.contains id = true → (found.map Prod.snd).count id = 1)
      ↔ ((found.map Prod.snd).filter table.contains).Nodup ∧ missing table found = [] := by
  constructor
  · intro h
    constructor
    · -- identifiers of others are left out, and those of the table come once
      rw [List.nodup_iff_count_le_one]
      intro id
      by_cases hid : table.contains id = true
      · rw [List.count_filter hid, h id hid]
      · have hnot : id ∉ (found.map Prod.snd).filter table.contains :=
          fun hmem => hid (List.mem_filter.mp hmem).2
        rw [List.count_eq_zero_of_not_mem hnot]
        exact Nat.zero_le 1
    · refine List.filter_eq_nil_iff.mpr ?_
      intro e he
      have hget : table.get? e.1 = some e.2 := table.entries.get?_eq_some_iff.mpr he
      have hcount := h e.1 (PlaceholderTable.contains_iff.mpr ⟨e.2, hget⟩)
      have hmem : e.1 ∈ found.map Prod.snd := List.count_pos_iff.mp (by omega)
      simpa using hmem
  · rintro ⟨honce, hmissing⟩ id hid
    obtain ⟨p, hget⟩ := PlaceholderTable.contains_iff.mp hid
    have hentry := table.entries.get?_eq_some_iff.mp hget
    have hmem : id ∈ found.map Prod.snd := by
      simpa using List.filter_eq_nil_iff.mp hmissing _ hentry
    have hle := List.nodup_iff_count_le_one.mp honce id
    rw [List.count_filter hid] at hle
    have hpos := List.count_pos_iff.mpr hmem
    omega

/-- Checking what was found is the same as asking each identifier for one node. -/
theorem sound_iff_reunites : (Findings.ofTree tree).Sound table ↔ Reunites table tree := by
  have hcount := count_eq_one_iff table (Findings.ofTree tree).pending
  rw [heldIds_eq] at hcount
  constructor
  · rintro ⟨honce, hfound, hapart⟩
    rw [heldIds_eq] at honce
    exact ⟨hcount.mpr ⟨honce, hfound⟩, (entryRanges_perm table tree).nodup_iff.mpr hapart⟩
  · rintro ⟨honce, hapart⟩
    obtain ⟨hnodup, hfound⟩ := hcount.mp honce
    exact ⟨heldIds_eq ▸ hnodup, hfound, (entryRanges_perm table tree).nodup_iff.mp hapart⟩

/-! ## Extractions -/

/-- An extraction holds what was found, and nothing else. -/
theorem holds_of_extract {e : Extraction} (h : extract tree table = .ok e) :
    e.Holds ((Findings.ofTree tree).formulas table) (Findings.ofTree tree).images :=
  Findings.holds_of_convert h

/-- A tree is extracted exactly when it reunites the identifiers with their formulas. -/
theorem exists_extract_iff : (∃ e, extract tree table = .ok e) ↔ Reunites table tree := by
  constructor
  · rintro ⟨e, h⟩
    exact sound_iff_reunites.mp (Findings.sound_of_convert h)
  · intro h
    obtain ⟨e, hconvert, -⟩ := Findings.convert_of_sound (sound_iff_reunites.mpr h)
    exact ⟨e, hconvert⟩

/-- What comes out of a tree is what its nodes say. -/
theorem describes_of_extract {e : Extraction} (h : extract tree table = .ok e) :
    Describes table tree e := by
  have hholds := holds_of_extract h
  constructor
  · intro r m
    rw [hholds.get?_math, mem_formulas_iff]
    constructor
    · rintro ⟨⟨n, hn, hspan | hblock⟩, rfl⟩
      · exact ⟨n, hn, hspan.range_eq.symm, Or.inl hspan⟩
      · exact ⟨n, hn, hblock.range_eq.symm, Or.inr hblock⟩
    · rintro ⟨n, hn, rfl, hspan | hblock⟩
      · exact ⟨⟨n, hn, Or.inl hspan⟩, hspan.range_eq⟩
      · exact ⟨⟨n, hn, Or.inr hblock⟩, hblock.range_eq⟩
  · intro r i
    rw [hholds.get?_images, mem_images_iff]
    constructor
    · rintro ⟨⟨n, hn, himage⟩, rfl⟩
      exact ⟨n, hn, himage.range_eq.symm, himage⟩
    · rintro ⟨n, hn, rfl, himage⟩
      exact ⟨⟨n, hn, himage⟩, himage.range_eq⟩
  · exact hholds.disjoint
  · intro key r
    rw [hholds.lookup_index, (entryRanges_perm table tree).mem_iff]
  · exact hholds.size_eq_jobCount

/-- Whatever the tree, an extraction comes out of it exactly when it reunites every identifier with
    its formula, and then describes it; otherwise the first finding that does not fit is the error. -/
theorem extract_spec (table : PlaceholderTable) (tree : Node)
    (hoffsets : (table.entries.values.map Placeholder.offset).Nodup) :
    ((∃ e, extract tree table = .ok e) ↔ Reunites table tree) ∧
      (∀ e, extract tree table = .ok e → Describes table tree e) ∧
      ∀ err, extract tree table = .error err ↔ (Findings.ofTree tree).Refused table err :=
  ⟨exists_extract_iff, fun _ => describes_of_extract,
    fun _ => Findings.convert_eq_error_iff hoffsets⟩

/-- Two formulas under the first identifiers of the supply that counts. -/
def pairTable : PlaceholderTable :=
  ((PlaceholderTable.empty.mint Uuid.numbered "x" 0).2.mint Uuid.numbered "y" 4).2

/-- A tree that holds both in the other order, one of them written between braces. -/
def pairTree : Node :=
  .mk .container ⟨⟨1, 1⟩, ⟨1, 9⟩⟩
    [.mk (.inlineCode (Uuid.numbered 1).hyphenated) ⟨⟨1, 1⟩, ⟨1, 4⟩⟩ [],
      .mk (.inlineCode ("\x7b" ++ (Uuid.numbered 0).hyphenated ++ "\x7d")) ⟨⟨1, 5⟩, ⟨1, 9⟩⟩ []]

/-- The identifiers of the pair come back in either order and form. -/
theorem extract_spec_pair :
    ∃ e, extract pairTree pairTable = .ok e ∧ Describes pairTable pairTree e := by
  have hspec := extract_spec pairTable pairTree (by decide)
  have hok : (extract pairTree pairTable).toBool = true := by decide +kernel
  cases h : extract pairTree pairTable with
  | ok e => exact ⟨e, rfl, hspec.2.1 e h⟩
  | error err =>
      rw [h] at hok
      exact Bool.noConfusion hok

end Formulary.Markup
