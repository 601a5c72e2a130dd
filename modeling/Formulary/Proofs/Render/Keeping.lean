import Formulary.Proofs.Files.Tree
import Formulary.Proofs.Raster.Limit
import Formulary.Proofs.Render.CacheKey

/-!
# Kept files — drawing with a directory gives what drawing without one gives

Renderers with one command share a directory of kept files, each with a limit of its own. A kept file is
what the command gives for the request that names it, or no image at all. So it makes no difference whether
a formula comes from its file or from the command; the directory is seen only in how often the command
runs. It runs again for a formula that was drawn only if a renderer with a smaller limit, for which the kept
file was too large, took the file away. Of the decoder this takes for granted that a greater limit gives the
same bitmap.

* `DrawCall`, `serve`, `filesAfter` — the calls of renderers, one after the other.
* `plain` — what a call gives without a directory.
* `Serves`, `serves` — the four things that a call can do.
* `Sound`, `sound_serve` — kept files that are right, and stay right.
* `Holds`, `holds_serve`, `Removes` — the file of a formula that was drawn stays, or a call removes it.
* `serve_spec` — any sequence of calls.
-/

namespace Formulary

/-- Whether a directory stands there. -/
def FileNode.isDirectory : FileNode → Bool
  | .directory => true
  | .file .. => false

namespace Render
namespace Rasteriser

/-! ## Calls -/

/-- A call of a renderer: the bytes that a bitmap may take there, and what is drawn. -/
structure DrawCall where
  limit : UInt64
  request : MathRequest

variable (r : Rasteriser)

/-- What a call does. -/
def serve (files : FileTree) (c : DrawCall) : Drawing :=
  { r with limit := c.limit.toNat }.draw files c.request

/-- The files after some calls. -/
def filesAfter (files : FileTree) (calls : List DrawCall) : FileTree :=
  calls.foldl (fun files c => (r.serve files c).files) files

theorem filesAfter_append (files : FileTree) (a b : List DrawCall) :
    r.filesAfter files (a ++ b) = r.filesAfter (r.filesAfter files a) b := List.foldl_append

theorem filesAfter_cons (files : FileTree) (c : DrawCall) (rest : List DrawCall) :
    r.filesAfter files (c :: rest) = r.filesAfter (r.serve files c).files rest := rfl

/-- What the end of the command means for a call. -/
def verdict (c : DrawCall) : Except MathError (Bitmap × ByteArray) :=
  { r with limit := c.limit.toNat }.interpret (r.command c.request)

/-- What a call gives without a directory. -/
def plain (c : DrawCall) : Except MathError Bitmap :=
  match r.rejection? c.request with
  | some reason => .error (.rejected reason)
  | none => (r.verdict c).map Prod.fst

/-- The files without the kept file of a request. -/
def clear (files : FileTree) (request : MathRequest) : FileTree :=
  match files.node? (r.place request) with
  | some (.file ..) => files.remove (r.place request)
  | _ => files

/-- There is no kept file that a call can use. -/
def Misses (files : FileTree) (c : DrawCall) : Prop :=
  ∀ bytes executable b, files.node? (r.place c.request) = some (.file bytes executable) →
    r.decode c.limit.toNat bytes ≠ .ok b

/-- What a call can do. -/
inductive Serves (files : FileTree) (c : DrawCall) : Drawing → Prop
  | rejected {reason : String} (hreason : r.rejection? c.request = some reason) :
      Serves files c ⟨.error (.rejected reason), false, files⟩
  | hit {bytes : ByteArray} {executable : Bool} {b : Bitmap}
      (haccepted : r.rejection? c.request = none)
      (hfile : files.node? (r.place c.request) = some (.file bytes executable))
      (hdecode : r.decode c.limit.toNat bytes = .ok b) :
      Serves files c ⟨.ok b, false, files⟩
  | drawn {bytes : ByteArray} {b : Bitmap} (haccepted : r.rejection? c.request = none)
      (hmiss : r.Misses files c) (hverdict : r.verdict c = .ok (b, bytes)) :
      Serves files c ⟨.ok b, true, keep (r.clear files c.request) (r.place c.request) bytes⟩
  | failed {e : MathError} {ran : Bool} (haccepted : r.rejection? c.request = none)
      (hmiss : r.Misses files c) (hverdict : r.verdict c = .error e) :
      Serves files c ⟨.error e, ran, r.clear files c.request⟩

variable {r} {files : FileTree} {c x : DrawCall} {bytes : ByteArray} {b : Bitmap}

/-- The command gives an image that is decoded, or there is nothing to keep. -/
theorem verdict_eq_ok_iff : r.verdict c = .ok (b, bytes) ↔
    (∃ messages, r.command c.request = .finished (some 0) messages (some bytes)) ∧
      r.decode c.limit.toNat bytes = .ok b := by
  rw [verdict]
  cases r.command c.request with
  | unavailable e => cases e <;> simp [interpret]
  | finished status messages output =>
      by_cases hstatus : status = some 0
      · cases output with
        | none => simp [interpret, hstatus]
        | some own =>
            by_cases hown : own = bytes
            · subst hown
              cases hdecode : r.decode c.limit.toNat own with
              | error e => simp [interpret, hstatus, hdecode]
              | ok bitmap => simp [interpret, hstatus, hdecode]
            · cases hdecode : r.decode c.limit.toNat own with
              | error e => simp [interpret, hstatus, hdecode, hown]
              | ok bitmap => simp [interpret, hstatus, hdecode, hown]
      · simp [interpret, hstatus]

/-- A call does one of these things. -/
theorem serves (r : Rasteriser) (files : FileTree) (c : DrawCall) :
    Serves r files c (r.serve files c) := by
  have hrun : ∀ {left : FileTree}, r.rejection? c.request = none → r.Misses files c →
      r.clear files c.request = left →
      Serves r files c ({ r with limit := c.limit.toNat }.run left c.request) := by
    rintro left haccepted hmiss rfl
    cases hverdict : r.verdict c with
    | ok result =>
        obtain ⟨b, bytes⟩ := result
        obtain ⟨⟨messages, hcommand⟩, -⟩ := verdict_eq_ok_iff.mp hverdict
        have hdrawn : Serves r files c _ := .drawn haccepted hmiss hverdict
        rw [verdict] at hverdict
        simp only [run, hverdict]
        rw [hcommand]
        exact hdrawn
    | error e =>
        rw [verdict] at hverdict
        simp only [run, hverdict]
        exact .failed haccepted hmiss hverdict
  show Serves r files c ({ r with limit := c.limit.toNat }.draw files c.request)
  have hsame : { r with limit := c.limit.toNat }.rejection? c.request = r.rejection? c.request := rfl
  have hplace : { r with limit := c.limit.toNat }.place c.request = r.place c.request := rfl
  rw [draw, hsame, hplace]
  cases hrejection : r.rejection? c.request with
  | some reason => exact .rejected hrejection
  | none =>
      cases hnode : files.node? (r.place c.request) with
      | none =>
          refine hrun hrejection ?_ ?_
          · intro bytes executable b hfile
            cases hnode.symm.trans hfile
          · rw [clear, hnode]
      | some node =>
          cases node with
          | directory =>
              refine hrun hrejection ?_ ?_
              · intro bytes executable b hfile
                cases hnode.symm.trans hfile
              · rw [clear, hnode]
          | file bytes executable =>
              cases hdecode : r.decode c.limit.toNat bytes with
              | ok b =>
                  simp only [hdecode]
                  exact .hit hrejection hnode hdecode
              | error e =>
                  simp only [hdecode]
                  refine hrun hrejection ?_ ?_
                  · intro own executable' b hfile
                    cases hnode.symm.trans hfile
                    rw [hdecode]
                    intro heq
                    cases heq
                  · rw [clear, hnode]

/-! ## Places of kept files -/

theorem place_ne_nil (r : Rasteriser) (request : MathRequest) : r.place request ≠ [] :=
  List.append_ne_nil_of_right_ne_nil _ (List.cons_ne_nil _ _)

/-- Kept files are at one place if they are in one directory and their requests have one digest. -/
theorem place_inj {r r' : Rasteriser} {a b : MathRequest} :
    r.place a = r'.place b ↔
      r.directory = r'.directory ∧ Sha256.digest (cacheKey a) = Sha256.digest (cacheKey b) := by
  rw [place, place, List.append_singleton_inj, cacheName_inj]

/-- Different requests among the calls have different digests. -/
def Apart (calls : List DrawCall) : Prop :=
  ∀ c ∈ calls, ∀ x ∈ calls,
    Sha256.digest (cacheKey c.request) = Sha256.digest (cacheKey x.request) →
      cacheKey c.request = cacheKey x.request

/-- Calls with kept files at one place are about one request. -/
theorem Apart.request_eq {calls : List DrawCall} (h : Apart calls) (hc : c ∈ calls) (hx : x ∈ calls)
    (hplace : r.place c.request = r.place x.request) : c.request = x.request :=
  cacheKey_injective (h c hc x hx (place_inj.mp hplace).2)

theorem node?_clear (r : Rasteriser) (files : FileTree) (request : MathRequest) (place : Place) :
    (r.clear files request).node? place
      = if place = r.place request then (files.node? place).filter FileNode.isDirectory
        else files.node? place := by
  rw [clear]
  by_cases hplace : place = r.place request
  · subst hplace
    rw [if_pos rfl]
    cases hnode : files.node? (r.place request) with
    | none => exact hnode
    | some node =>
        cases node with
        | directory => exact hnode
        | file bytes executable =>
            exact (FileTree.node?_remove (r.place_ne_nil request) _ _).trans (if_pos rfl)
  · rw [if_neg hplace]
    cases files.node? (r.place request) with
    | none => rfl
    | some node =>
        cases node with
        | directory => rfl
        | file bytes executable =>
            exact (FileTree.node?_remove (r.place_ne_nil request) _ _).trans (if_neg hplace)

theorem node?_keep {place : Place} (hplace : place ≠ []) (files : FileTree) (bytes : ByteArray)
    (other : Place) :
    (keep files place bytes).node? other
      = if other = place then
          some (((files.node? place).filter FileNode.isDirectory).getD (.file bytes false))
        else files.node? other := by
  have hset : (files.set place (.file bytes false)).node? other
      = if other = place then some (.file bytes false) else files.node? other :=
    FileTree.node?_set hplace _ _ _
  rw [keep]
  cases hnode : files.node? place with
  | none => exact hset
  | some node =>
      cases node with
      | file own executable => exact hset
      | directory =>
          by_cases hother : other = place
          · rw [if_pos hother, hother]
            exact hnode
          · rw [if_neg hother]

/-- A call leaves all places alone but that of its own kept file. -/
theorem Serves.frame {d : Drawing} (h : Serves r files c d) {place : Place}
    (hplace : place ≠ r.place c.request) : d.files.node? place = files.node? place := by
  have hclear : (r.clear files c.request).node? place = files.node? place :=
    (node?_clear r files c.request place).trans (if_neg hplace)
  cases h with
  | rejected hreason => rfl
  | hit haccepted hfile hdecode => rfl
  | drawn haccepted hmiss hverdict =>
      exact ((node?_keep (r.place_ne_nil _) _ _ _).trans (if_neg hplace)).trans hclear
  | failed haccepted hmiss hverdict => exact hclear

/-- What a call leaves at the place of its own kept file is what was there, or a directory that was there,
    or the image that the command drew. -/
theorem Serves.own {d : Drawing} (h : Serves r files c d) {node : FileNode}
    (hnode : d.files.node? (r.place c.request) = some node) :
    files.node? (r.place c.request) = some node ∨
      ∃ bytes b, node = .file bytes false ∧ d.ran = true ∧ d.outcome = .ok b ∧
        r.verdict c = .ok (b, bytes) := by
  have hclear : (r.clear files c.request).node? (r.place c.request)
      = (files.node? (r.place c.request)).filter FileNode.isDirectory :=
    (node?_clear r files c.request _).trans (if_pos rfl)
  cases h with
  | rejected hreason => exact Or.inl hnode
  | hit haccepted hfile hdecode => exact Or.inl hnode
  | @drawn bytes b haccepted hmiss hverdict =>
      have hkept := ((node?_keep (r.place_ne_nil _) _ bytes _).trans (if_pos rfl)).symm.trans hnode
      rw [hclear] at hkept
      cases hbefore : files.node? (r.place c.request) with
      | none =>
          rw [hbefore] at hkept
          exact Or.inr ⟨bytes, b, (Option.some.inj hkept).symm, rfl, rfl, hverdict⟩
      | some old =>
          rw [hbefore] at hkept
          cases old with
          | directory => exact Or.inl hkept
          | file own executable =>
              exact Or.inr ⟨bytes, b, (Option.some.inj hkept).symm, rfl, rfl, hverdict⟩
  | failed haccepted hmiss hverdict =>
      exact Or.inl (Option.filter_eq_some_iff.mp (hclear.symm.trans hnode)).1

/-- A call that fails leaves nothing that was not there. -/
theorem Serves.subset_of_error {d : Drawing} (h : Serves r files c d) {e : MathError}
    (herror : d.outcome = .error e) {place : Place} {node : FileNode}
    (hnode : d.files.node? place = some node) : files.node? place = some node := by
  by_cases hplace : place = r.place c.request
  · subst hplace
    rcases h.own hnode with hold | ⟨bytes, b, -, -, hok, -⟩
    · exact hold
    · cases herror.symm.trans hok
  · rw [← h.frame hplace]
    exact hnode

/-! ## Kept files that are right -/

/-- Bytes that are no image for any limit. -/
def Unreadable (r : Rasteriser) (bytes : ByteArray) : Prop := ∀ limit b, r.decode limit bytes ≠ .ok b

/-- Bytes that the command gives for a request. -/
def Genuine (r : Rasteriser) (request : MathRequest) (bytes : ByteArray) : Prop :=
  ∃ messages, r.command request = .finished (some 0) messages (some bytes)

/-- The kept file of a request is no image, or what the command gives for it. -/
def Sound (r : Rasteriser) (files : FileTree) (request : MathRequest) : Prop :=
  ∀ bytes executable, files.node? (r.place request) = some (.file bytes executable) →
    Unreadable r bytes ∨ Genuine r request bytes

/-- Calls keep the files right. -/
theorem sound_serve {request : MathRequest}
    (hapart : r.place request = r.place c.request → request = c.request)
    (h : Sound r files request) : Sound r (r.serve files c).files request := by
  intro bytes executable hfile
  by_cases hplace : r.place request = r.place c.request
  · rw [hapart hplace] at hfile h ⊢
    rcases (serves r files c).own hfile with hold | ⟨own, b, heq, -, -, hverdict⟩
    · exact h bytes executable hold
    · cases heq
      exact Or.inr (verdict_eq_ok_iff.mp hverdict).1
  · rw [(serves r files c).frame hplace] at hfile
    exact h bytes executable hfile

/-- A call gives what it gives without a directory, if its kept file is right. -/
theorem Serves.outcome_eq {d : Drawing} (h : Serves r files c d) (hsound : Sound r files c.request) :
    d.outcome = r.plain c := by
  rw [plain]
  cases h with
  | rejected hreason => rw [hreason]
  | hit haccepted hfile hdecode =>
      rw [haccepted]
      rcases hsound _ _ hfile with hunreadable | hgenuine
      · exact absurd hdecode (hunreadable _ _)
      · rw [verdict_eq_ok_iff.mpr ⟨hgenuine, hdecode⟩]
        rfl
  | drawn haccepted hmiss hverdict =>
      rw [haccepted, hverdict]
      rfl
  | failed haccepted hmiss hverdict =>
      rw [haccepted, hverdict]
      rfl

/-! ## Kept files that stay -/

/-- The kept file of a request is an image within the limit of a call. -/
def Holds (r : Rasteriser) (files : FileTree) (c : DrawCall) : Prop :=
  ∃ bytes executable b, files.node? (r.place c.request) = some (.file bytes executable) ∧
    r.decode c.limit.toNat bytes = .ok b

/-- After a call that gave a bitmap its kept file is there, unless a directory was in its place. -/
theorem Serves.holds {d : Drawing} (h : Serves r files c d) (hok : d.outcome = .ok b)
    (hfree : files.node? (r.place c.request) ≠ some .directory) : Holds r d.files c := by
  cases h with
  | rejected hreason => cases hok
  | hit haccepted hfile hdecode => exact ⟨_, _, _, hfile, hdecode⟩
  | @drawn bytes own haccepted hmiss hverdict =>
      refine ⟨bytes, false, own, ?_, (verdict_eq_ok_iff.mp hverdict).2⟩
      refine (node?_keep (r.place_ne_nil _) _ _ _).trans ((if_pos rfl).trans (congrArg some ?_))
      rw [node?_clear, if_pos rfl]
      cases hbefore : files.node? (r.place c.request) with
      | none => rfl
      | some node =>
          cases node with
          | directory => exact absurd hbefore hfree
          | file content executable => rfl
  | failed haccepted hmiss hverdict => cases hok

/-- The command does not run in a call whose kept file is there. -/
theorem Serves.ran_of_holds {d : Drawing} (h : Serves r files c d) (hholds : Holds r files c) :
    d.ran = false := by
  obtain ⟨bytes, executable, b, hfile, hdecode⟩ := hholds
  cases h with
  | rejected hreason => rfl
  | hit haccepted hfile' hdecode' => rfl
  | drawn haccepted hmiss hverdict => exact absurd hdecode (hmiss _ _ _ hfile)
  | failed haccepted hmiss hverdict => exact absurd hdecode (hmiss _ _ _ hfile)

/-- A kept file that is there stays in a call for the same request, or the call has a smaller limit, for which
    the file is too large, and takes it away. -/
theorem Serves.holds_or {d : Drawing} (h : Serves r files x d) (hdecode : r.decode.Monotone)
    (hsame : c.request = x.request) (hsound : Sound r files c.request) (hholds : Holds r files c) :
    Holds r d.files c ∨ x.limit < c.limit ∧ d.files.node? (r.place c.request) = none := by
  have hkept := hholds
  obtain ⟨bytes, executable, b, hfile, himage⟩ := hholds
  cases h with
  | rejected hreason => exact Or.inl hkept
  | hit haccepted hfile' himage' => exact Or.inl hkept
  | drawn haccepted hmiss hverdict =>
      -- the command gives the bytes that are there, so they are an image for this call too
      obtain ⟨⟨messages', hcommand'⟩, himage'⟩ := verdict_eq_ok_iff.mp hverdict
      rcases hsound _ _ hfile with hunreadable | ⟨messages, hcommand⟩
      · exact absurd himage (hunreadable _ _)
      · rw [hsame, hcommand'] at hcommand
        cases hcommand
        rw [hsame] at hfile
        exact absurd himage' (hmiss _ _ _ hfile)
  | failed haccepted hmiss hverdict =>
      refine Or.inr ⟨?_, ?_⟩
      · by_contra hle
        rw [hsame] at hfile
        have hlimit : c.limit.toNat ≤ x.limit.toNat :=
          UInt64.le_iff_toNat_le.mp (UInt64.not_lt.mp hle)
        exact hmiss _ _ _ hfile (hdecode _ _ _ _ hlimit x.limit.toNat_lt himage)
      · rw [node?_clear, hsame, if_pos rfl, ← hsame, hfile]
        rfl

/-- A call with a smaller limit takes the kept file of another one away. -/
structure Removes (r : Rasteriser) (files : FileTree) (c x : DrawCall) : Prop where
  same : x.request = c.request
  smaller : x.limit < c.limit
  before : ∃ bytes executable, files.node? (r.place c.request) = some (.file bytes executable)
  after : (r.serve files x).files.node? (r.place c.request) = none

/-- A kept file that is there stays in a call, or the call removes it. -/
theorem holds_serve (hdecode : r.decode.Monotone)
    (hapart : r.place c.request = r.place x.request → c.request = x.request)
    (hsound : Sound r files c.request) (h : Holds r files c) :
    Holds r (r.serve files x).files c ∨ Removes r files c x := by
  by_cases hplace : r.place c.request = r.place x.request
  · have hsame := hapart hplace
    rcases (serves r files x).holds_or hdecode hsame hsound h with hstays | ⟨hsmaller, hnone⟩
    · exact Or.inl hstays
    · obtain ⟨bytes, executable, -, hfile, -⟩ := h
      exact Or.inr ⟨hsame.symm, hsmaller, ⟨bytes, executable, hfile⟩, hnone⟩
  · obtain ⟨bytes, executable, b, hfile, himage⟩ := h
    refine Or.inl ⟨bytes, executable, b, ?_, himage⟩
    rw [(serves r files x).frame hplace]
    exact hfile

/-! ## Sequences of calls -/

variable {calls before after : List DrawCall}

/-- Files stay right during calls whose requests are apart. -/
theorem sound_filesAfter (hapart : Apart calls) (hc : c ∈ calls) (hcalls : ∀ x ∈ before, x ∈ calls)
    (h : Sound r files c.request) : Sound r (r.filesAfter files before) c.request := by
  induction before generalizing files with
  | nil => exact h
  | cons x rest ih =>
      rw [filesAfter_cons]
      refine ih (fun y hy => hcalls y (List.mem_cons_of_mem _ hy)) (sound_serve ?_ h)
      exact hapart.request_eq hc (hcalls x List.mem_cons_self)

/-- No call puts a directory where none was. -/
theorem free_filesAfter {place : Place} (h : files.node? place ≠ some .directory) :
    (r.filesAfter files before).node? place ≠ some .directory := by
  induction before generalizing files with
  | nil => exact h
  | cons x rest ih =>
      rw [filesAfter_cons]
      refine ih ?_
      intro hnode
      by_cases hplace : place = r.place x.request
      · subst hplace
        rcases (serves r files x).own hnode with hold | ⟨bytes, b, heq, -⟩
        · exact h hold
        · cases heq
      · rw [(serves r files x).frame hplace] at hnode
        exact h hnode

/-- A kept file that is there stays during calls, or one of them removes it. -/
theorem holds_filesAfter (hdecode : r.decode.Monotone) (hapart : Apart calls) (hc : c ∈ calls)
    (hcalls : ∀ x ∈ before, x ∈ calls) (hsound : Sound r files c.request) (h : Holds r files c) :
    Holds r (r.filesAfter files before) c ∨
      ∃ first x rest, before = first ++ x :: rest ∧ Removes r (r.filesAfter files first) c x := by
  induction before generalizing files with
  | nil => exact Or.inl h
  | cons x rest ih =>
      have hx := hapart.request_eq (r := r) hc (hcalls x List.mem_cons_self)
      rcases holds_serve hdecode hx hsound h with hstays | hremoves
      · rcases ih (fun y hy => hcalls y (List.mem_cons_of_mem _ hy)) (sound_serve hx hsound) hstays with
          hend | ⟨first, y, others, rfl, hremoves⟩
        · exact Or.inl hend
        · exact Or.inr ⟨x :: first, y, others, rfl, hremoves⟩
      · exact Or.inr ⟨[], x, rest, rfl, hremoves⟩

/-- Calls of renderers that share a command, a check and a directory, each with its own limit, in any order.
    The requests have different digests, and the kept files that are there at the beginning are no images or
    what the command gives. Each call gives what it gives without a directory, and one that fails leaves no
    file that was not there. When a greater limit gives the same bitmap and no directory stands at the place
    of a kept file, a call that gave a bitmap does not run the command when it comes again, unless a call with
    a smaller limit in between took the kept file away. -/
theorem serve_spec (r : Rasteriser) (files : FileTree) (calls : List DrawCall) (hapart : Apart calls)
    (hsound : ∀ c ∈ calls, Sound r files c.request) :
    (∀ before c after, calls = before ++ c :: after →
      let s := r.filesAfter files before
      (r.serve s c).outcome = r.plain c ∧
      ∀ e, (r.serve s c).outcome = .error e → ∀ place node,
        (r.serve s c).files.node? place = some node → s.node? place = some node) ∧
    (r.decode.Monotone → (∀ c ∈ calls, files.node? (r.place c.request) ≠ some .directory) →
      ∀ before c between after b, calls = before ++ c :: (between ++ c :: after) →
        (r.serve (r.filesAfter files before) c).outcome = .ok b →
        (r.serve (r.filesAfter files (before ++ c :: between)) c).ran = false ∨
        ∃ first x rest, between = first ++ x :: rest ∧
          Removes r (r.filesAfter files (before ++ c :: first)) c x) := by
  constructor
  · intro before c after heq s
    have hc : c ∈ calls := by
      rw [heq]
      exact List.mem_append_right _ List.mem_cons_self
    have hcalls : ∀ x ∈ before, x ∈ calls := by
      intro x hx
      rw [heq]
      exact List.mem_append_left _ hx
    have hserves := serves r s c
    exact ⟨hserves.outcome_eq (sound_filesAfter hapart hc hcalls (hsound c hc)),
      fun e herror place node hnode => hserves.subset_of_error herror hnode⟩
  · intro hdecode hfree before c between after b heq hok
    have hmem : ∀ x, x ∈ before ++ c :: between → x ∈ calls := by
      intro x hx
      rw [heq]
      rcases List.mem_append.mp hx with hbefore | hlater
      · exact List.mem_append_left _ hbefore
      · rcases List.mem_cons.mp hlater with rfl | hbetween
        · exact List.mem_append_right _ List.mem_cons_self
        · exact List.mem_append_right _ (List.mem_cons_of_mem _ (List.mem_append_left _ hbetween))
    have hc := hmem c (List.mem_append_right _ List.mem_cons_self)
    have hbefore : ∀ x ∈ before, x ∈ calls := fun x hx => hmem x (List.mem_append_left _ hx)
    have hbetween : ∀ x ∈ between, x ∈ calls :=
      fun x hx => hmem x (List.mem_append_right _ (List.mem_cons_of_mem _ hx))
    have hstart := sound_filesAfter (r := r) hapart hc hbefore (hsound c hc)
    have hholds := (serves r (r.filesAfter files before) c).holds hok (free_filesAfter (hfree c hc))
    have hafter := sound_serve (c := c) (fun _ => rfl) hstart
    simp only [filesAfter_append, filesAfter_cons]
    rcases holds_filesAfter hdecode hapart hc hbetween hafter hholds with hend | hremoves
    · exact Or.inl ((serves r _ c).ran_of_holds hend)
    · exact Or.inr hremoves

/-- A formula is drawn, another one fails, and the first one comes again from its file. -/
theorem serve_spec_two_formulas :
    let image : ByteArray := ⟨#[
      0x89, 0x50, 0x4E, 0x47, 0x0D, 0x0A, 0x1A, 0x0A, 0x00, 0x00, 0x00, 0x0D, 0x49, 0x48, 0x44, 0x52,
      0x00, 0x00, 0x00, 0x03, 0x00, 0x00, 0x00, 0x02, 0x08, 0x00, 0x00, 0x00, 0x00, 0xB8, 0x1F, 0x39,
      0xC6, 0x00, 0x00, 0x00, 0x10, 0x49, 0x44, 0x41, 0x54, 0x78, 0x9C, 0x63, 0x60, 0x50, 0xF5, 0x62,
      0xE0, 0x36, 0x08, 0x05, 0x00, 0x03, 0x2E, 0x01, 0x00, 0x25, 0x2D, 0x04, 0x67, 0x00, 0x00, 0x00,
      0x00, 0x49, 0x45, 0x4E, 0x44, 0xAE, 0x42, 0x60, 0x82]⟩
    let r : Rasteriser := {
      command := fun request =>
        if request.style = .inline then .finished (some 0) .empty (some image)
        else .finished (some 1) .empty none
      directory := ["cache"]
      validates := true }
    let drawn : DrawCall := ⟨24, ⟨"x", .inline, default, default⟩⟩
    let other : DrawCall := ⟨6, ⟨"x", .display, default, default⟩⟩
    let calls := [drawn, other, drawn]
    Apart calls ∧ (∀ c ∈ calls, Sound r .empty c.request) ∧ r.decode.Monotone ∧
    (∃ b, (r.serve .empty drawn).outcome = .ok b) ∧
    (r.serve (r.filesAfter .empty [drawn]) other).outcome = .error (.failed (some 1) "") ∧
    (r.serve (r.filesAfter .empty [drawn, other]) drawn).ran = false := by
  intro image r drawn other calls
  have hapart : Apart calls := by
    unfold Apart
    decide +kernel
  have hnone : ∀ c ∈ calls, FileTree.empty.node? (r.place c.request) = none := by decide +kernel
  have hsound : ∀ c ∈ calls, Sound r .empty c.request := by
    intro c hc bytes executable hfile
    cases (hnone c hc).symm.trans hfile
  have hnodirectory : ∀ c ∈ calls, FileTree.empty.node? (r.place c.request) ≠ some .directory := by
    intro c hc hdirectory
    cases (hnone c hc).symm.trans hdirectory
  have hmono : r.decode.Monotone := Raster.Readers.decode_mono Raster.Readers.lawful_basic
  obtain ⟨houtcomes, hagain⟩ := serve_spec r .empty calls hapart hsound
  have hdrawn : ∃ b, (r.serve .empty drawn).outcome = .ok b := by
    have hplain : (r.plain drawn).toOption.isSome = true := by decide +kernel
    rw [← (houtcomes [] drawn [other, drawn] rfl).1] at hplain
    change (r.serve .empty drawn).outcome.toOption.isSome = true at hplain
    cases houtcome : (r.serve .empty drawn).outcome with
    | ok b => exact ⟨b, rfl⟩
    | error e =>
        rw [houtcome] at hplain
        cases hplain
  have hother : r.plain other = .error (.failed (some 1) "") := by decide +kernel
  refine ⟨hapart, hsound, hmono, hdrawn, (houtcomes [drawn] other [drawn] rfl).1.trans hother, ?_⟩
  obtain ⟨b, hb⟩ := hdrawn
  rcases hagain hmono hnodirectory [] drawn [other] [] b rfl hb with hran | ⟨first, x, rest, heq, hremoves⟩
  · exact hran
  · have hmem : x ∈ [other] := by
      rw [heq]
      exact List.mem_append_right _ List.mem_cons_self
    cases List.mem_singleton.mp hmem
    have hstyle := congrArg MathRequest.style hremoves.same
    cases hstyle

end Rasteriser
end Render
end Formulary
