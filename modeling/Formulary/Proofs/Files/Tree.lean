import Formulary.Files.Tree
import Formulary.Proofs.Table

/-!
# File trees — following parts downwards

Parts that never lead up come to the place that they are the names to, so whatever is read on such a
way stands below its start. And only what stands there decides what is read: two trees that hold the
same below a place cannot be told apart from there.

* `FileTree.node?_set`, `FileTree.node?_remove` — what stands at a place after a change.
* `FileTree.follow_append` — a way that goes on.
* `FileTree.follow_eq_ok` — where parts that never lead up come to.
* `FileTree.AgreeBelow`, `FileTree.AgreeBelow.follow_eq` — trees that hold the same below a place.
* `FileTree.contentAt`, `FileTree.read_append` — reading below a place.
-/

namespace Formulary.FileTree

variable {t t' : FileTree} {place : Place} {parts : List String}

/-! ## Changes -/

/-- At the place that is set stands the new node, and nothing else changes. -/
theorem node?_set {place : Place} (hplace : place ≠ []) (t : FileTree) (node : FileNode)
    (other : Place) :
    (t.set place node).node? other = if other = place then some node else t.node? other := by
  rw [node?, node?]
  by_cases hother : other = place
  · rw [if_pos hother, hother, if_neg hplace]
    exact Table.get?_set_self _ _ _
  · rw [if_neg hother]
    by_cases htop : other = []
    · rw [if_pos htop, if_pos htop]
    · rw [if_neg htop, if_neg htop]
      exact (Table.get?_set _ _ _ _).trans (if_neg hother)

/-- At the place that is removed stands nothing, and nothing else changes. -/
theorem node?_remove {place : Place} (hplace : place ≠ []) (t : FileTree) (other : Place) :
    (t.remove place).node? other = if other = place then none else t.node? other := by
  rw [node?, node?]
  by_cases hother : other = place
  · rw [if_pos hother, hother, if_neg hplace]
    exact (Table.get?_erase _ _ _).trans (if_pos rfl)
  · rw [if_neg hother]
    by_cases htop : other = []
    · rw [if_pos htop, if_pos htop]
    · rw [if_neg htop, if_neg htop]
      exact (Table.get?_erase _ _ _).trans (if_neg hother)

/-! ## Ways -/

/-- A way that goes on is followed from where its first part ends. -/
theorem follow_append (t : FileTree) (place : Place) (a b : List String) :
    t.follow place (a ++ b) = (t.follow place a).bind fun p => t.follow p b := by
  induction a generalizing place with
  | nil => rfl
  | cons part rest ih =>
      rw [List.cons_append, follow, follow]
      cases t.node? place with
      | none => rfl
      | some node =>
          cases node with
          | file content executable => rfl
          | directory => exact ih _

/-- Parts that never lead up come to the place that they are the names to. -/
theorem follow_eq_ok (hup : Path.up ∉ parts) {p : Place} (h : t.follow place parts = .ok p) :
    p = place ++ parts := by
  induction parts generalizing place with
  | nil =>
      cases h
      exact (List.append_nil p).symm
  | cons part rest ih =>
      rw [List.mem_cons, not_or] at hup
      rw [follow] at h
      cases hnode : t.node? place with
      | none =>
          rw [hnode] at h
          cases h
      | some node =>
          rw [hnode] at h
          cases node with
          | file content executable => cases h
          | directory =>
              have hend := ih hup.2 h
              rw [if_neg (Ne.symm hup.1)] at hend
              rw [hend, List.append_assoc, List.singleton_append]

/-- Two trees hold the same at a place and everywhere below it. -/
def AgreeBelow (place : Place) (t t' : FileTree) : Prop :=
  ∀ parts, t.node? (place ++ parts) = t'.node? (place ++ parts)

theorem AgreeBelow.node?_eq (h : AgreeBelow place t t') : t.node? place = t'.node? place := by
  have hhere := h []
  rwa [List.append_nil] at hhere

/-- Trees that agree below a place agree below every place in it. -/
theorem AgreeBelow.append (h : AgreeBelow place t t') (parts : List String) :
    AgreeBelow (place ++ parts) t t' := by
  intro more
  rw [List.append_assoc]
  exact h (parts ++ more)

/-- Parts that never lead up are followed alike in trees that hold the same below the start. -/
theorem AgreeBelow.follow_eq (h : AgreeBelow place t t') (hup : Path.up ∉ parts) :
    t.follow place parts = t'.follow place parts := by
  induction parts generalizing place with
  | nil => rfl
  | cons part rest ih =>
      rw [List.mem_cons, not_or] at hup
      rw [follow, follow, h.node?_eq]
      cases t'.node? place with
      | none => rfl
      | some node =>
          cases node with
          | file content executable => rfl
          | directory =>
              rw [if_neg (Ne.symm hup.1)]
              exact ih (h.append [part]) hup.2

/-! ## Reading -/

/-- The content of the file that stands at a place. -/
def contentAt (t : FileTree) (place : Place) : Except FileError ByteArray :=
  match t.node? place with
  | none => .error .notFound
  | some (.file content _) => .ok content
  | some .directory => .error .isDirectory

/-- The content at a place is that of a file there. -/
theorem contentAt_eq_ok_iff {content : ByteArray} :
    t.contentAt place = .ok content ↔
      ∃ executable, t.node? place = some (.file content executable) := by
  rw [contentAt]
  cases t.node? place with
  | none => simp
  | some node => cases node <;> simp

/-- The file of a path that may be one is read where the path leads to. -/
theorem read_eq (t : FileTree) (base : Place) {path : Path} (h : path.isDirectory = false) :
    t.read base path
      = (t.follow (if path.absolute then [] else base) path.parts).bind t.contentAt := by
  rw [read, find]
  cases t.follow (if path.absolute then [] else base) path.parts with
  | error e => rfl
  | ok place =>
      show _ = t.contentAt place
      rw [contentAt]
      cases hnode : t.node? place with
      | none => simp [hnode, bind, Except.bind]
      | some node => cases node <;> simp [hnode, h, bind, Except.bind]

/-- The place that a path leads to. -/
def lead (t : FileTree) (base : Place) (path : Path) : Except FileError Place :=
  t.follow (if path.absolute then [] else base) path.parts

/-- A path that goes on is read from the place that it leads to before. -/
theorem read_append (t : FileTree) (base : Place) (path : Path) (parts : List String) :
    t.read base (path.append parts)
      = (t.lead base path).bind fun p => (t.follow p parts).bind t.contentAt := by
  rw [read_eq t base rfl, Path.append, follow_append, lead]
  cases t.follow (if path.absolute then [] else base) path.parts with
  | error e => rfl
  | ok place => rfl

end Formulary.FileTree
