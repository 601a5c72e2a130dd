import Formulary.Files.Locator
import Formulary.Proofs.Files.Tree
import Formulary.Proofs.Text.Split
import Formulary.Proofs.Text.Whitespace

/-!
# Locators — no name leads out of the directory

Whatever a name is, the paths that it stands for go down from the directory by ordinary parts. There
are at most two: the parts of the name's own path, if this starts nowhere else and never leads up, and
its last part. What is found is the file of the first of them that can be read, so it stands below the
directory, and nothing outside has a say in it.

* `Path.Ordinary`, `Path.Leads` — parts that lead down, and the parts that a text describes.
* `Locator.Denotes` — the text of the path that a name stands for.
* `Locator.paths` — the paths that a locator reads for a name.
* `Locator.exists_paths` — these paths, by the parts of the name.
* `Locator.locate_eq_some_iff`, `Locator.locate_below`, `Locator.locate_eq_of_agreeBelow` — what is
  found, where it stands and what it depends on.
* `Locator.candidates_spec` — all of it, for any directory and name.
-/

namespace Formulary

/-! ## Paths -/

namespace Path

/-- A part of a path that leads one directory down. -/
structure Ordinary (part : String) : Prop where
  ne_empty : part ≠ ""
  ne_dot : part ≠ "."
  ne_up : part ≠ ".."
  no_slash : '/' ∉ part.toList

/-- The parts that a text describes: its pieces between the slashes, those left out that are empty or
    a single dot. -/
def Leads (text : List Char) (parts : List String) : Prop :=
  ∃ pieces, Text.Pieces '/' text pieces ∧
    parts = (pieces.filter fun p => decide (p ≠ [] ∧ p ≠ ['.'])).map String.ofList

/-- A path has the parts that its text describes. -/
theorem leads_ofText (text : List Char) : Leads text (ofText (String.ofList text)).parts := by
  refine ⟨Text.split '/' text, Text.split_eq_iff.mp rfl, ?_⟩
  rw [ofText, String.toList_ofList]
  refine congrArg (List.map String.ofList) (List.filter_congr ?_)
  intro p _
  rw [isIdle, Bool.eq_iff_iff]
  simp

/-- A described part is ordinary unless it leads up. -/
theorem Leads.ordinary {text : List Char} {parts : List String} (h : Leads text parts)
    {part : String} (hmem : part ∈ parts) (hup : part ≠ "..") : Ordinary part := by
  obtain ⟨pieces, hpieces, rfl⟩ := h
  obtain ⟨p, hp, rfl⟩ := List.mem_map.mp hmem
  obtain ⟨hpiece, hidle⟩ := List.mem_filter.mp hp
  obtain ⟨hempty, hdot⟩ := of_decide_eq_true hidle
  refine ⟨fun heq => hempty ?_, fun heq => hdot ?_, hup, ?_⟩
  · simpa using congrArg String.toList heq
  · simpa using congrArg String.toList heq
  · rw [String.toList_ofList]
    exact hpieces.apart p hpiece

theorem append_injective (root : Path) : Function.Injective root.append := by
  intro a b h
  exact List.append_cancel_left (congrArg Path.parts h)

end Path

namespace Locator

/-! ## The paths of a name -/

/-- The text of the path that a name stands for: the name without the mark `file://`, if that stands
    in front, and then without the blanks at both ends. -/
def Denotes (name : String) (text : List Char) : Prop :=
  ∃ rest before after,
    (name.toList = "file://".toList ++ rest ∨
      (¬ "file://".toList <+: name.toList ∧ name.toList = rest)) ∧
    rest = before ++ text ++ after ∧ (∀ c ∈ before, Text.isBlank c = true) ∧
    (∀ c ∈ after, Text.isBlank c = true) ∧ Text.Trimmed text

/-- A name stands for the path of the text that it denotes. -/
theorem exists_denotes (name : String) :
    ∃ text, Denotes name text ∧ pathOf name = Path.ofText (String.ofList text) := by
  by_cases hmark : scheme <+: name.toList
  · obtain ⟨rest, hrest⟩ := hmark
    obtain ⟨before, after, hsplit, hbefore, hafter, htrimmed⟩ := Text.exists_trimmed rest
    refine ⟨Text.trimChars rest,
      ⟨rest, before, after, Or.inl hrest.symm, hsplit, hbefore, hafter, htrimmed⟩, ?_⟩
    rw [pathOf, ← hrest, if_pos (List.isPrefixOf_iff_prefix.mpr (List.prefix_append _ _)),
      List.drop_left]
  · obtain ⟨before, after, hsplit, hbefore, hafter, htrimmed⟩ := Text.exists_trimmed name.toList
    refine ⟨Text.trimChars name.toList,
      ⟨name.toList, before, after, Or.inr ⟨hmark, rfl⟩, hsplit, hbefore, hafter, htrimmed⟩, ?_⟩
    rw [pathOf, if_neg (fun h => hmark (List.isPrefixOf_iff_prefix.mp h))]

/-- The paths that are read for a name, in order. -/
def paths (root : Path) (name : String) : List Path := (candidates name).map root.append

theorem contained?_eq_some_iff {p : Path} {parts : List String} :
    contained? p = some parts ↔
      p.absolute = false ∧ ".." ∉ p.parts ∧ p.parts ≠ [] ∧ parts = p.parts := by
  rw [contained?, Option.ite_none_left_eq_some, Option.some.injEq, eq_comm (b := parts)]
  simp [Path.up, and_assoc]

theorem lastName?_eq_some_iff {p : Path} {parts : List String} :
    lastName? p = some parts ↔
      ∃ last, p.parts.getLast? = some last ∧ last ≠ ".." ∧ parts = [last] := by
  rw [lastName?]
  cases p.parts.getLast? with
  | none => simp
  | some last =>
      show (if last = Path.up then none else some [last]) = some parts ↔ _
      rw [Option.ite_none_left_eq_some, Option.some.injEq]
      constructor
      · rintro ⟨hup, rfl⟩
        exact ⟨last, rfl, hup, rfl⟩
      · rintro ⟨other, hother, hup, rfl⟩
        cases hother
        exact ⟨hup, rfl⟩

/-- The parts of a name itself come first, then its last part, if it is not all of them. -/
theorem candidates_eq (name : String) :
    candidates name = (contained? (pathOf name)).toList ++
      ((lastName? (pathOf name)).filter fun parts =>
        contained? (pathOf name) != some parts).toList := by
  rw [candidates, Option.toList_filter]

/-- The path of all parts, when they start at the directory and never lead up. -/
theorem map_contained?_eq_some_iff {p root path : Path} :
    (contained? p).map root.append = some path ↔
      p.absolute = false ∧ ".." ∉ p.parts ∧ p.parts ≠ [] ∧ path = root.append p.parts := by
  rw [Option.map_eq_some_iff]
  constructor
  · rintro ⟨parts, hparts, rfl⟩
    obtain ⟨hrelative, hup, hne, rfl⟩ := contained?_eq_some_iff.mp hparts
    exact ⟨hrelative, hup, hne, rfl⟩
  · rintro ⟨hrelative, hup, hne, rfl⟩
    exact ⟨_, contained?_eq_some_iff.mpr ⟨hrelative, hup, hne, rfl⟩, rfl⟩

/-- The path of the last part, when this does not lead up and the path is not there yet. -/
theorem map_lastName?_eq_some_iff {p root path : Path} :
    ((lastName? p).filter fun parts => contained? p != some parts).map root.append = some path ↔
      ∃ last, p.parts.getLast? = some last ∧ last ≠ ".." ∧ path = root.append [last] ∧
        (contained? p).map root.append ≠ some path := by
  -- a path is there already when its parts are
  have hlisted : ∀ parts, (contained? p).map root.append ≠ some (root.append parts) ↔
      contained? p ≠ some parts :=
    fun parts => (Option.map_injective root.append_injective).ne_iff (y := some parts)
  rw [Option.map_eq_some_iff]
  constructor
  · rintro ⟨parts, hparts, rfl⟩
    obtain ⟨hlast, hnew⟩ := Option.filter_eq_some_iff.mp hparts
    obtain ⟨last, hget, hup, rfl⟩ := lastName?_eq_some_iff.mp hlast
    exact ⟨last, hget, hup, rfl, (hlisted [last]).mpr (bne_iff_ne.mp hnew)⟩
  · rintro ⟨last, hget, hup, rfl, hnew⟩
    refine ⟨[last], Option.filter_eq_some_iff.mpr ⟨?_, ?_⟩, rfl⟩
    · exact lastName?_eq_some_iff.mpr ⟨last, hget, hup, rfl⟩
    · exact bne_iff_ne.mpr ((hlisted [last]).mp hnew)

/-- The paths of a name by the parts that its text describes: all parts, if the text starts at the
    directory and never leads up, and the last part, if it is ordinary and no path of its own yet. -/
theorem exists_paths (root : Path) (name : String) :
    ∃ (text : List Char) (parts : List String) (first second : Option Path),
      Denotes name text ∧ Path.Leads text parts ∧
      paths root name = first.toList ++ second.toList ∧
      (∀ path, first = some path ↔
        text.head? ≠ some '/' ∧ ".." ∉ parts ∧ parts ≠ [] ∧ path = root.append parts) ∧
      ∀ path, second = some path ↔ ∃ last, parts.getLast? = some last ∧ last ≠ ".." ∧
        path = root.append [last] ∧ first ≠ some path := by
  obtain ⟨text, hdenotes, hpath⟩ := exists_denotes name
  have habsolute : (Path.ofText (String.ofList text)).absolute = false ↔ text.head? ≠ some '/' := by
    rw [Path.ofText, String.toList_ofList]
    simp
  refine ⟨text, (Path.ofText (String.ofList text)).parts, _, _, hdenotes, Path.leads_ofText text, ?_,
    fun path => ?_, fun path => map_lastName?_eq_some_iff⟩
  · rw [paths, candidates_eq, hpath, List.map_append, Option.toList_map, Option.toList_map]
  · rw [map_contained?_eq_some_iff, habsolute]

/-- A path that goes down from a directory by one or more ordinary parts. -/
def Below (root path : Path) : Prop :=
  ∃ parts, parts ≠ [] ∧ (∀ part ∈ parts, Path.Ordinary part) ∧ path = root.append parts

/-- Every path of a name goes down from the directory. -/
theorem below_of_mem_paths {root path : Path} {name : String} (h : path ∈ paths root name) :
    Below root path := by
  obtain ⟨text, parts, first, second, -, hleads, hpaths, hfirst, hsecond⟩ := exists_paths root name
  rw [hpaths, List.mem_append, Option.mem_toList, Option.mem_toList] at h
  rcases h with h | h
  · obtain ⟨-, hup, hne, rfl⟩ := (hfirst path).mp h
    exact ⟨parts, hne, fun part hpart => hleads.ordinary hpart fun heq => hup (heq ▸ hpart), rfl⟩
  · obtain ⟨last, hlast, hup, rfl, -⟩ := (hsecond path).mp h
    refine ⟨[last], List.cons_ne_nil _ _, ?_, rfl⟩
    intro part hpart
    rw [List.mem_singleton] at hpart
    exact hpart ▸ hleads.ordinary (List.mem_of_getLast? hlast) hup

/-- No name has more than two paths, and they differ. -/
theorem nodup_paths (root : Path) (name : String) :
    (paths root name).length ≤ 2 ∧ (paths root name).Nodup := by
  obtain ⟨text, parts, first, second, -, -, hpaths, -, hsecond⟩ := exists_paths root name
  rw [hpaths]
  cases first with
  | none => cases second <;> simp
  | some p =>
      cases second with
      | none => simp
      | some q =>
          obtain ⟨-, -, -, -, hne⟩ := (hsecond q).mp rfl
          simpa using fun heq : p = q => hne (congrArg some heq)

/-! ## What is read -/

theorem locate_eq (t : FileTree) (base : Place) (root : Path) (name : String) :
    locate t base root name = (paths root name).findSome? fun path => (t.read base path).toOption := by
  rw [locate, paths, List.findSome?_map]
  rfl

/-- What is found is the file of the first path that can be read. -/
theorem locate_eq_some_iff {t : FileTree} {base : Place} {root : Path} {name : String}
    {content : ByteArray} :
    locate t base root name = some content ↔
      ∃ before path after, paths root name = before ++ path :: after ∧
        t.read base path = .ok content ∧ ∀ p ∈ before, ∀ c, t.read base p ≠ .ok c := by
  have hok : ∀ {e : Except FileError ByteArray} {c}, e.toOption = some c ↔ e = .ok c := by
    intro e c
    cases e <;> simp [Except.toOption]
  have hnone : ∀ {e : Except FileError ByteArray}, e.toOption = none ↔ ∀ c, e ≠ .ok c := by
    intro e
    cases e <;> simp [Except.toOption]
  rw [locate_eq, List.findSome?_eq_some_iff]
  simp only [hok, hnone]

/-- What is read on a path below a directory is a file that stands below its place. -/
theorem exists_of_read_below {t : FileTree} {base : Place} {root path : Path} {content : ByteArray}
    (hbelow : Below root path) (h : t.read base path = .ok content) :
    ∃ place parts executable, t.lead base root = .ok place ∧ parts ≠ [] ∧
      (∀ part ∈ parts, Path.Ordinary part) ∧
      t.node? (place ++ parts) = some (.file content executable) := by
  obtain ⟨parts, hne, hparts, rfl⟩ := hbelow
  have hup : Path.up ∉ parts := fun hmem => (hparts _ hmem).ne_up rfl
  rw [FileTree.read_append] at h
  cases hlead : t.lead base root with
  | error e =>
      rw [hlead] at h
      cases h
  | ok place =>
      rw [hlead] at h
      change (t.follow place parts).bind t.contentAt = .ok content at h
      cases hend : t.follow place parts with
      | error e =>
          rw [hend] at h
          cases h
      | ok p =>
          rw [hend, FileTree.follow_eq_ok hup hend] at h
          obtain ⟨executable, hfile⟩ := FileTree.contentAt_eq_ok_iff.mp h
          exact ⟨place, parts, executable, rfl, hne, hparts, hfile⟩

/-- What is found stands below the directory. -/
theorem locate_below {t : FileTree} {base : Place} {root : Path} {name : String}
    {content : ByteArray} (h : locate t base root name = some content) :
    ∃ place parts executable, t.lead base root = .ok place ∧ parts ≠ [] ∧
      (∀ part ∈ parts, Path.Ordinary part) ∧
      t.node? (place ++ parts) = some (.file content executable) := by
  obtain ⟨before, path, after, hpaths, hread, -⟩ := locate_eq_some_iff.mp h
  have hpath : path ∈ paths root name := hpaths ▸ List.mem_append_right _ List.mem_cons_self
  exact exists_of_read_below (below_of_mem_paths hpath) hread

/-- A path below a directory is read alike in trees that hold the same below its place. -/
theorem read_eq_of_agreeBelow {t t' : FileTree} {base : Place} {root path : Path} {place : Place}
    (hbelow : Below root path) (hlead : t.lead base root = .ok place)
    (hlead' : t'.lead base root = .ok place) (hagree : FileTree.AgreeBelow place t t') :
    t.read base path = t'.read base path := by
  obtain ⟨parts, -, hparts, rfl⟩ := hbelow
  have hup : Path.up ∉ parts := fun hmem => (hparts _ hmem).ne_up rfl
  rw [FileTree.read_append, FileTree.read_append, hlead, hlead']
  show (t.follow place parts).bind t.contentAt = (t'.follow place parts).bind t'.contentAt
  rw [← hagree.follow_eq hup]
  cases hend : t.follow place parts with
  | error e => rfl
  | ok p =>
      show t.contentAt p = t'.contentAt p
      rw [FileTree.follow_eq_ok hup hend, FileTree.contentAt, FileTree.contentAt, hagree parts]

theorem findSome?_congr {α β : Type} {f g : α → Option β} {l : List α} (h : ∀ a ∈ l, f a = g a) :
    l.findSome? f = l.findSome? g := by
  induction l with
  | nil => rfl
  | cons a rest ih =>
      rw [List.forall_mem_cons] at h
      rw [List.findSome?_cons, List.findSome?_cons, h.1, ih h.2]

/-- What is found depends on nothing but what stands below the directory. -/
theorem locate_eq_of_agreeBelow {t t' : FileTree} {base : Place} {root : Path} {place : Place}
    (hlead : t.lead base root = .ok place) (hlead' : t'.lead base root = .ok place)
    (hagree : FileTree.AgreeBelow place t t') (name : String) :
    locate t base root name = locate t' base root name := by
  rw [locate_eq, locate_eq]
  refine findSome?_congr fun path hpath => congrArg Except.toOption ?_
  exact read_eq_of_agreeBelow (below_of_mem_paths hpath) hlead hlead' hagree

/-- **No name leads out of the directory.** For any directory and any name, the paths that are read
    are at most two, they differ, and each goes down from the directory by ordinary parts. First comes
    the path of all parts that the name describes, exactly when its text is not absolute, describes
    some part and none that leads up; then the path of the last part, exactly when this is ordinary
    and the path is not there yet. What is found is the file of the first of them that can be read;
    it stands below the place of the directory, and trees that hold the same there give the same. -/
theorem candidates_spec (root : Path) (name : String) :
    (∃ (text : List Char) (parts : List String) (first second : Option Path),
      Denotes name text ∧ Path.Leads text parts ∧
      paths root name = first.toList ++ second.toList ∧
      (∀ path, first = some path ↔
        text.head? ≠ some '/' ∧ ".." ∉ parts ∧ parts ≠ [] ∧ path = root.append parts) ∧
      ∀ path, second = some path ↔ ∃ last, parts.getLast? = some last ∧ last ≠ ".." ∧
        path = root.append [last] ∧ first ≠ some path) ∧
    (paths root name).length ≤ 2 ∧ (paths root name).Nodup ∧
    (∀ path ∈ paths root name, Below root path) ∧
    (∀ t base content, locate t base root name = some content ↔
      ∃ before path after, paths root name = before ++ path :: after ∧
        t.read base path = .ok content ∧ ∀ p ∈ before, ∀ c, t.read base p ≠ .ok c) ∧
    (∀ t base content, locate t base root name = some content →
      ∃ place parts executable, t.lead base root = .ok place ∧ parts ≠ [] ∧
        (∀ part ∈ parts, Path.Ordinary part) ∧
        t.node? (place ++ parts) = some (.file content executable)) ∧
    ∀ t t' base place, t.lead base root = .ok place → t'.lead base root = .ok place →
      FileTree.AgreeBelow place t t' → locate t base root name = locate t' base root name :=
  ⟨exists_paths root name, (nodup_paths root name).1, (nodup_paths root name).2,
    fun _ => below_of_mem_paths, fun _ _ _ => locate_eq_some_iff, fun _ _ _ => locate_below,
    fun _ _ _ _ hlead hlead' hagree => locate_eq_of_agreeBelow hlead hlead' hagree name⟩

/-- A directory with a picture in it. -/
def pictureTree : FileTree :=
  (FileTree.empty.set ["root"] .directory).set ["root", "a.png"] (.file ⟨#[1]⟩ false)

/-- The same, and beside the directory another picture with the same name. -/
def besideTree : FileTree := pictureTree.set ["a.png"] (.file ⟨#[2]⟩ false)

/-- The name of the other picture gives the one in the directory, as if there were no other. -/
theorem candidates_spec_beside :
    FileTree.AgreeBelow ["root"] besideTree pictureTree ∧
    locate besideTree [] (Path.ofText "root") "../a.png" = some ⟨#[1]⟩ ∧
    ∃ place parts executable, besideTree.lead [] (Path.ofText "root") = .ok place ∧ parts ≠ [] ∧
      (∀ part ∈ parts, Path.Ordinary part) ∧
      besideTree.node? (place ++ parts) = some (.file ⟨#[1]⟩ executable) := by
  obtain ⟨-, -, -, -, -, hbelow, hagreeing⟩ := candidates_spec (Path.ofText "root") "../a.png"
  have hagree : FileTree.AgreeBelow ["root"] besideTree pictureTree := by
    intro parts
    rw [besideTree, FileTree.node?_set (List.cons_ne_nil _ _)]
    exact if_neg (by simp)
  have hfound : locate besideTree [] (Path.ofText "root") "../a.png" = some ⟨#[1]⟩ :=
    (hagreeing besideTree pictureTree [] ["root"] rfl rfl hagree).trans rfl
  exact ⟨hagree, hfound, hbelow _ _ _ hfound⟩

end Locator
end Formulary
