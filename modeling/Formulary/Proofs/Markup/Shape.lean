import Formulary.Markup.Segment
import Formulary.Proofs.Markup.Position

/-!
# Shapes — where the math of a text is

The three shapes of math are described by the positions of their signs in a text: where a shape opens,
where it closes, and that its content runs to the nearest place where it closes. Nothing here reads a
text from left to right.

* `Opens`, `Closes` — the signs of a shape at a position, with their neighbours.
* `Encloses`, `Occurs` — a shape from its opening signs to the nearest closing ones.
* `Taken`, `TakenFrom` — the occurrences that count: the leftmost one, of several at one position the
  shape that comes first, and then those behind it.
* `Occurs.unique`, `TakenFrom.unique` — these rules leave no choice.
-/

namespace Formulary.Markup

/-! ## Positions -/

/-- A backtick or a dollar sign stands at a position. -/
def SignAt (t : List Char) (i : Nat) : Prop := t[i]? = some '`' ∨ t[i]? = some '$'

/-- A position at the start of the text, or behind a character that is no sign. -/
def FreeAt (t : List Char) (i : Nat) : Prop := i = 0 ∨ ¬ SignAt t (i - 1)

/-! ## Shapes -/

/-- The order in which the shapes are preferred. -/
def SegmentKind.rank : SegmentKind → Nat
  | .block => 0
  | .quoted => 1
  | .inline => 2
  | .plain => 3

/-- How many characters there are at least between the signs of a shape. -/
def SegmentKind.least : SegmentKind → Nat
  | .block => 0
  | _ => 1

/-- The opening signs of a shape stand at a position where it may open. -/
def Opens (t : List Char) (i : Nat) : SegmentKind → Prop
  | .block => t[i]? = some '$' ∧ t[i + 1]? = some '$'
  | .quoted => FreeAt t i ∧ t[i]? = some '$' ∧ t[i + 1]? = some '`'
  | .inline => FreeAt t i ∧ t[i]? = some '$' ∧ ¬ SignAt t (i + 1)
  | .plain => False

/-- The closing signs of a shape stand at a position where it may close. -/
def Closes (t : List Char) (j : Nat) : SegmentKind → Prop
  | .block => t[j]? = some '$' ∧ t[j + 1]? = some '$'
  | .quoted => t[j]? = some '`' ∧ t[j + 1]? = some '$' ∧ ¬ SignAt t (j + 2)
  | .inline => ¬ SignAt t (j - 1) ∧ t[j]? = some '$' ∧ ¬ SignAt t (j + 1)
  | .plain => False

/-- The content from `first` on runs up to `close`, the nearest position behind enough characters where
    the shape closes. Only a block runs over the end of a line. -/
structure Encloses (t : List Char) (kind : SegmentKind) (first close : Nat) : Prop where
  room : first + kind.least ≤ close
  closes : Closes t close kind
  nearest : ∀ k, first + kind.least ≤ k → k < close → ¬ Closes t k kind
  line : kind ≠ .block → ∀ k, first ≤ k → k < close → t[k]? ≠ some '\n'

/-- A shape with the positions of its opening and of its closing signs. -/
structure Occurrence where
  kind : SegmentKind
  opening : Nat
  closing : Nat
deriving DecidableEq, Repr

namespace Occurrence

/-- Where the content starts. -/
def first (o : Occurrence) : Nat := o.opening + o.kind.opener.length

/-- The position behind the closing signs. -/
def stop (o : Occurrence) : Nat := o.closing + o.kind.closer.length

/-- The characters between the signs. -/
def content (t : List Char) (o : Occurrence) : List Char := t.extract o.first o.closing

end Occurrence

/-- A shape occurs in a text. -/
structure Occurs (t : List Char) (o : Occurrence) : Prop where
  opens : Opens t o.opening o.kind
  encloses : Encloses t o.kind o.first o.closing

/-- Of the shapes that occur at one position the one that comes first is taken. -/
structure Taken (t : List Char) (o : Occurrence) : Prop where
  occurs : Occurs t o
  preferred : ∀ other, Occurs t other → other.opening = o.opening → o.kind.rank ≤ other.kind.rank

/-- The occurrences that are taken from a position on: the leftmost, and those from its end on. -/
inductive TakenFrom (t : List Char) : Nat → List Occurrence → Prop
  | done {start : Nat} (none_left : ∀ o, Occurs t o → o.opening < start) : TakenFrom t start []
  | next {start : Nat} {o : Occurrence} {later : List Occurrence} (ahead : start ≤ o.opening)
      (leftmost : ∀ other, Occurs t other → start ≤ other.opening → o.opening ≤ other.opening)
      (taken : Taken t o) (rest : TakenFrom t o.stop later) : TakenFrom t start (o :: later)

variable {t : List Char} {kind : SegmentKind} {o other : Occurrence} {i j : Nat}

/-! ## Signs and positions -/

/-- Every shape opens with a dollar sign. -/
theorem getElem?_of_opens (h : Opens t i kind) : t[i]? = some '$' := by
  cases kind with
  | plain => exact h.elim
  | block => exact h.1
  | quoted => exact h.2.1
  | inline => exact h.2.1

/-- A position where a shape closes holds a sign. -/
theorem signAt_of_closes (h : Closes t j kind) : SignAt t j := by
  cases kind with
  | plain => exact h.elim
  | block => exact Or.inr h.1
  | quoted => exact Or.inl h.1
  | inline => exact Or.inr h.2.1

theorem lt_length_of_signAt (h : SignAt t i) : i < t.length := by
  rcases h with h | h
  · exact (List.getElem?_eq_some_iff.mp h).1
  · exact (List.getElem?_eq_some_iff.mp h).1

/-- The closing signs of an occurrence stand two characters or more behind the opening ones. -/
theorem Occurs.opening_lt (h : Occurs t o) : o.opening + 2 ≤ o.closing ∧ o.closing < t.length := by
  refine ⟨?_, lt_length_of_signAt (signAt_of_closes h.encloses.closes)⟩
  obtain ⟨kind, opening, closing⟩ := o
  have hroom := h.encloses.room
  cases kind with
  | plain => exact h.opens.elim
  | block => exact hroom
  | quoted => exact Nat.le_of_succ_le hroom
  | inline => exact hroom

/-- Where a shape opens its opening signs are read. -/
theorem extract_of_opens (h : Opens t i kind) :
    t.extract i (i + kind.opener.length) = kind.opener := by
  cases kind with
  | plain => exact h.elim
  | block => exact extract_two h.1 h.2
  | quoted => exact extract_two h.2.1 h.2.2
  | inline => exact extract_one h.2.1

/-- Where a shape closes its closing signs are read. -/
theorem extract_of_closes (h : Closes t i kind) :
    t.extract i (i + kind.closer.length) = kind.closer := by
  cases kind with
  | plain => exact h.elim
  | block => exact extract_two h.1 h.2
  | quoted => exact extract_two h.1 h.2.1
  | inline => exact extract_one h.2.1

theorem Occurs.first_le (h : Occurs t o) : o.first ≤ o.closing :=
  Nat.le_of_add_right_le h.encloses.room

theorem Occurs.opening_le_stop (h : Occurs t o) : o.opening ≤ o.stop := by
  have hfirst := h.first_le
  rw [Occurrence.first] at hfirst
  rw [Occurrence.stop]
  omega

/-- An occurrence ends within the text. -/
theorem Occurs.stop_le (h : Occurs t o) : o.stop ≤ t.length := by
  have hchars := congrArg List.length (extract_of_closes h.encloses.closes)
  rw [List.length_take, List.length_drop] at hchars
  have hclosing := h.opening_lt.2
  rw [Occurrence.stop]
  omega

/-! ## One choice -/

theorem rank_injective {a b : SegmentKind} (h : a.rank = b.rank) : a = b := by
  cases a <;> cases b <;> simp [SegmentKind.rank] at h ⊢

/-- The opening signs at a position belong to one shape. -/
theorem Opens.unique {a b : SegmentKind} (ha : Opens t i a) (hb : Opens t i b) : a = b := by
  cases a <;> cases b <;> simp_all [Opens, SignAt]

/-- The content of a shape has one end. -/
theorem Encloses.unique {first a b : Nat} (ha : Encloses t kind first a)
    (hb : Encloses t kind first b) : a = b := by
  rcases Nat.lt_trichotomy a b with h | h | h
  · exact absurd ha.closes (hb.nearest a ha.room h)
  · exact h
  · exact absurd hb.closes (ha.nearest b hb.room h)

/-- A shape occurs once at a position. -/
theorem Occurs.unique (ho : Occurs t o) (hother : Occurs t other) (hkind : o.kind = other.kind)
    (hopening : o.opening = other.opening) : o = other := by
  obtain ⟨kind, opening, closing⟩ := o
  obtain ⟨_, _, closing'⟩ := other
  cases hkind
  cases hopening
  cases ho.encloses.unique hother.encloses
  rfl

/-- One occurrence is taken at a position. -/
theorem Taken.unique (ho : Taken t o) (hother : Taken t other) (hopening : o.opening = other.opening) :
    o = other := by
  have hrank : o.kind.rank = other.kind.rank :=
    Nat.le_antisymm (ho.preferred other hother.occurs hopening.symm)
      (hother.preferred o ho.occurs hopening)
  exact ho.occurs.unique hother.occurs (rank_injective hrank) hopening

/-- The occurrences that are taken from a position on are determined by the text. -/
theorem TakenFrom.unique {start : Nat} {a b : List Occurrence} (ha : TakenFrom t start a)
    (hb : TakenFrom t start b) : a = b := by
  induction ha generalizing b with
  | done hnone =>
      cases hb with
      | done => rfl
      | next ahead _ taken _ =>
          have := hnone _ taken.occurs
          omega
  | next ahead leftmost taken _ ih =>
      cases hb with
      | done hnone =>
          have := hnone _ taken.occurs
          omega
      | next ahead' leftmost' taken' rest' =>
          have hopening := Nat.le_antisymm (leftmost _ taken'.occurs ahead')
            (leftmost' _ taken.occurs ahead)
          obtain rfl := taken.unique taken' hopening
          rw [ih rest']

end Formulary.Markup
