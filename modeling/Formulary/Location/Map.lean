import Formulary.Location.Range

/-!
# Range maps — entries of a document in source order

A range map holds at most one value for each source range and lists its entries in increasing
range order. The order is part of the type.

* `SourceRange.lt_trichotomy`, `lt_trans`, `lt_irrefl` — ranges are strictly and totally ordered.
* `RangeMap.insert`, `RangeMap.get?`, `RangeMap.values` — writing, reading and listing.
-/

namespace Formulary

namespace LineColumn

/-- Positions are compared by their lines, and on one line by their columns. -/
theorem lt_iff (a b : LineColumn) :
    a.lt b = true ↔ a.line < b.line ∨ (a.line = b.line ∧ a.column < b.column) := by
  simp [lt]

theorem lt_irrefl (a : LineColumn) : a.lt a = false := by
  simp [lt]

theorem lt_trans {a b c : LineColumn} (h : a.lt b = true) (k : b.lt c = true) :
    a.lt c = true := by
  rw [lt_iff] at *
  simp only [UInt64.lt_iff_toNat_lt, ← UInt64.toNat_inj] at *
  omega

/-- Of two different positions one stands before the other. -/
theorem lt_trichotomy (a b : LineColumn) : a.lt b = true ∨ a = b ∨ b.lt a = true := by
  obtain ⟨l, c⟩ := a
  obtain ⟨l', c'⟩ := b
  simp only [lt_iff, LineColumn.mk.injEq, UInt64.lt_iff_toNat_lt, ← UInt64.toNat_inj]
  omega

end LineColumn

namespace SourceRange

/-- Ranges are compared by their starts, and from one start by their ends. -/
theorem lt_iff (a b : SourceRange) :
    a.lt b = true ↔ a.start.lt b.start = true ∨ (a.start = b.start ∧ a.stop.lt b.stop = true) := by
  simp [lt]

theorem lt_irrefl (a : SourceRange) : a.lt a = false := by
  simp [lt, LineColumn.lt_irrefl]

theorem lt_trans {a b c : SourceRange} (h : a.lt b = true) (k : b.lt c = true) :
    a.lt c = true := by
  rw [lt_iff] at *
  rcases h with h | ⟨h₁, h₂⟩ <;> rcases k with k | ⟨k₁, k₂⟩
  · exact .inl (LineColumn.lt_trans h k)
  · exact .inl (k₁ ▸ h)
  · exact .inl (h₁ ▸ k)
  · exact .inr ⟨h₁.trans k₁, LineColumn.lt_trans h₂ k₂⟩

/-- Of two different ranges one stands before the other. -/
theorem lt_trichotomy (a b : SourceRange) : a.lt b = true ∨ a = b ∨ b.lt a = true := by
  simp only [lt_iff]
  rcases LineColumn.lt_trichotomy a.start b.start with h | h | h
  · exact .inl (.inl h)
  · rcases LineColumn.lt_trichotomy a.stop b.stop with k | k | k
    · exact .inl (.inr ⟨h, k⟩)
    · refine .inr (.inl ?_)
      cases a; cases b; simp_all
    · exact .inr (.inr (.inr ⟨h.symm, k⟩))
  · exact .inr (.inr (.inl h))

end SourceRange

namespace RangeMap

/-- Entries in strictly increasing range order. -/
def Ordered {α : Type} (entries : List (SourceRange × α)) : Prop :=
  entries.Pairwise fun a b => a.1.lt b.1 = true

/-- Puts an entry at its place in an ordered list, instead of an entry of the same range. -/
def insertEntry {α : Type} (range : SourceRange) (value : α) :
    List (SourceRange × α) → List (SourceRange × α)
  | [] => [(range, value)]
  | (r, v) :: rest =>
    if r.lt range then (r, v) :: insertEntry range value rest
    else if r = range then (range, value) :: rest
    else (range, value) :: (r, v) :: rest

/-- Nothing is in the list afterwards but the new entry and what was in it before. -/
theorem mem_insertEntry {α : Type} {range : SourceRange} {value : α}
    {entries : List (SourceRange × α)} {e : SourceRange × α}
    (h : e ∈ insertEntry range value entries) : e = (range, value) ∨ e ∈ entries := by
  induction entries with
  | nil => exact .inl (by simpa [insertEntry] using h)
  | cons head rest ih =>
    simp only [insertEntry] at h
    split at h
    · rcases List.mem_cons.mp h with h | h
      · exact .inr (h ▸ List.mem_cons_self)
      · exact (ih h).imp id (List.mem_cons_of_mem _)
    · split at h
      · rcases List.mem_cons.mp h with h | h
        · exact .inl h
        · exact .inr (List.mem_cons_of_mem _ h)
      · rcases List.mem_cons.mp h with h | h
        · exact .inl h
        · exact .inr h

/-- The order is kept, which is what makes `RangeMap.insert` a range map again. -/
theorem ordered_insertEntry {α : Type} (range : SourceRange) (value : α)
    {entries : List (SourceRange × α)} (h : Ordered entries) :
    Ordered (insertEntry range value entries) := by
  induction entries with
  | nil => simp [Ordered, insertEntry]
  | cons head rest ih =>
    obtain ⟨hd, tl⟩ := List.pairwise_cons.mp h
    simp only [insertEntry]
    split
    · rename_i lt
      refine List.pairwise_cons.mpr ⟨fun e he => ?_, ih tl⟩
      rcases mem_insertEntry he with rfl | he
      · exact lt
      · exact hd e he
    · split
      · rename_i eq
        exact List.pairwise_cons.mpr ⟨fun e he => eq ▸ hd e he, tl⟩
      · rename_i nlt ne
        have gt : range.lt head.1 = true := by
          rcases SourceRange.lt_trichotomy head.1 range with k | k | k
          · exact absurd k nlt
          · exact absurd k ne
          · exact k
        refine List.pairwise_cons.mpr ⟨fun e he => ?_, h⟩
        rcases List.mem_cons.mp he with rfl | he
        · exact gt
        · exact SourceRange.lt_trans gt (hd e he)

end RangeMap

/-- At most one value for each range, in increasing range order. -/
structure RangeMap (α : Type) where
  entries : List (SourceRange × α)
  ordered : RangeMap.Ordered entries

namespace RangeMap

variable {α : Type}

/-- The map without entries. -/
def empty : RangeMap α := ⟨[], List.Pairwise.nil⟩

instance : Inhabited (RangeMap α) := ⟨empty⟩
instance : EmptyCollection (RangeMap α) := ⟨empty⟩

/-- Sets the value of a range. -/
def insert (m : RangeMap α) (range : SourceRange) (value : α) : RangeMap α :=
  ⟨insertEntry range value m.entries, ordered_insertEntry range value m.ordered⟩

/-- Removes the value of a range. -/
def erase (m : RangeMap α) (range : SourceRange) : RangeMap α :=
  ⟨m.entries.filter fun e => e.1 != range, m.ordered.filter _⟩

/-- The value of a range. -/
def get? (m : RangeMap α) (range : SourceRange) : Option α := m.entries.lookup range

/-- The values in range order. -/
def values (m : RangeMap α) : List α := m.entries.map Prod.snd

/-- The ranges in order. -/
def keys (m : RangeMap α) : List SourceRange := m.entries.map Prod.fst

/-- The number of entries. -/
def size (m : RangeMap α) : Nat := m.entries.length

/-- Whether there is no entry. -/
def isEmpty (m : RangeMap α) : Bool := m.entries.isEmpty

end RangeMap
end Formulary
