import Formulary.Proofs.Render.Keeping

/-!
# Origins — a kept file was drawn for the request that it is used for

Renderers take turns, each with its own command, check, limit and directory. A file at the place of a request
was there at the beginning, or the command of an earlier turn gave it. The earlier turn had the same request,
for the bytes of a request give the request back; or else the bytes of the two requests are different and
have one digest.

* `Turn`, `filesAfter` — what one renderer is called with, and the files after some turns.
* `Made`, `exists_made` — the turn that a kept file comes from.
* `Sha256.Collide`, `request_eq_or_collide` — different bytes with one digest, and places of files.
* `origin_spec` — requests by their bytes, and bitmaps by the command that gave them.
-/

namespace Formulary

/-- Different bytes with one digest. -/
def Sha256.Collide (a b : List UInt8) : Prop := a ≠ b ∧ digest a = digest b

namespace Render

/-- A call that gives a bitmap has it from the command, or from the kept file. -/
theorem Rasteriser.Serves.exists_bytes {r : Rasteriser} {files : FileTree} {c : Rasteriser.DrawCall}
    {d : Drawing} {b : Bitmap} (h : r.Serves files c d) (hok : d.outcome = .ok b) :
    ∃ bytes, r.decode c.limit.toNat bytes = .ok b ∧
      (d.ran = true ∧ r.Genuine c.request bytes ∨
        d.ran = false ∧
          ∃ executable, files.node? (r.place c.request) = some (.file bytes executable)) := by
  cases h with
  | rejected hreason => cases hok
  | hit haccepted hfile hdecode =>
      cases hok
      exact ⟨_, hdecode, Or.inr ⟨rfl, _, hfile⟩⟩
  | drawn haccepted hmiss hverdict =>
      cases hok
      obtain ⟨hgenuine, hdecode⟩ := Rasteriser.verdict_eq_ok_iff.mp hverdict
      exact ⟨_, hdecode, Or.inl ⟨rfl, hgenuine⟩⟩
  | failed haccepted hmiss hverdict => cases hok

/-- A renderer and what it is called with. -/
structure Turn where
  renderer : Rasteriser
  call : Rasteriser.DrawCall

namespace Turn

open Rasteriser (Genuine serves)

/-- What is drawn. -/
def request (t : Turn) : MathRequest := t.call.request

/-- The place of the kept file. -/
def place (t : Turn) : Place := t.renderer.place t.request

/-- What a turn does. -/
def draw (t : Turn) (files : FileTree) : Drawing := t.renderer.serve files t.call

/-- The files after some turns. -/
def filesAfter (files : FileTree) (turns : List Turn) : FileTree :=
  turns.foldl (fun files t => (t.draw files).files) files

/-- One of some turns ran its command, which gave bytes that were kept at a place. -/
def Made (files : FileTree) (turns : List Turn) (place : Place) (bytes : ByteArray) (x : Turn) : Prop :=
  ∃ first rest, turns = first ++ x :: rest ∧ x.place = place ∧
    (x.draw (filesAfter files first)).ran = true ∧ Genuine x.renderer x.request bytes

variable {files : FileTree} {turns : List Turn} {t x : Turn} {place : Place} {bytes : ByteArray}
  {executable : Bool} {b : Bitmap}

theorem filesAfter_concat (files : FileTree) (turns : List Turn) (t : Turn) :
    filesAfter files (turns ++ [t]) = (t.draw (filesAfter files turns)).files := List.foldl_append

theorem Made.mem (h : Made files turns place bytes x) : x ∈ turns := by
  obtain ⟨first, rest, rfl, -⟩ := h
  exact List.mem_append_right _ List.mem_cons_self

theorem Made.place_eq (h : Made files turns place bytes x) : x.place = place := by
  obtain ⟨-, -, -, hplace, -⟩ := h
  exact hplace

theorem Made.concat (h : Made files turns place bytes x) (t : Turn) :
    Made files (turns ++ [t]) place bytes x := by
  obtain ⟨first, rest, rfl, hx⟩ := h
  exact ⟨first, rest ++ [t], by rw [List.append_assoc, List.cons_append], hx⟩

/-- A file that a turn leaves was there before, or the command gave it in this turn. -/
theorem node?_draw (h : (t.draw files).files.node? place = some (.file bytes executable)) :
    files.node? place = some (.file bytes executable) ∨
      t.place = place ∧ (t.draw files).ran = true ∧ Genuine t.renderer t.request bytes := by
  have hserves := serves t.renderer files t.call
  by_cases hplace : place = t.place
  · subst hplace
    rcases hserves.own h with hold | ⟨own, b, heq, hran, -, hverdict⟩
    · exact Or.inl hold
    · cases heq
      exact Or.inr ⟨rfl, hran, (Rasteriser.verdict_eq_ok_iff.mp hverdict).1⟩
  · -- a turn leaves all other places alone
    exact Or.inl ((hserves.frame hplace).symm.trans h)

/-- A file after some turns was there at the beginning, or the command gave it in one of them. -/
theorem exists_made (h : (filesAfter files turns).node? place = some (.file bytes executable)) :
    files.node? place = some (.file bytes executable) ∨ ∃ x, Made files turns place bytes x := by
  induction turns using List.reverseRecOn with
  | nil => exact Or.inl h
  | append_singleton earlier last ih =>
      rw [filesAfter_concat] at h
      rcases node?_draw h with hbefore | hlast
      · rcases ih hbefore with hold | ⟨x, hx⟩
        · exact Or.inl hold
        · exact Or.inr ⟨x, hx.concat last⟩
      · exact Or.inr ⟨last, earlier, [], rfl, hlast⟩

/-- Turns with kept files at one place have one request, or the bytes of their requests collide. -/
theorem request_eq_or_collide (h : x.place = t.place) :
    x.request = t.request ∨ Sha256.Collide (cacheKey x.request) (cacheKey t.request) := by
  -- a place tells only the digests apart, the bytes behind them tell the requests apart
  by_cases hkey : cacheKey x.request = cacheKey t.request
  · exact Or.inl (cacheKey_injective hkey)
  · exact Or.inr ⟨hkey, (Rasteriser.place_inj.mp h).2⟩

/-- **No formula is drawn from the file of another one.** Requests have the same bytes exactly when source,
    style, bits of the font size and colour are the same. After any turns, a turn that gives a bitmap has
    decoded it from bytes that its own command gives for the request; or, without running the command, from
    the file at its place, which was there at the beginning or which the command of an earlier turn gave. The
    earlier turn had the same request, unless the bytes of the two requests are different and have one
    digest. -/
theorem origin_spec :
    (∀ a b : MathRequest, cacheKey a = cacheKey b ↔
      a.latex = b.latex ∧ a.style = b.style ∧ a.fontSize.bits = b.fontSize.bits ∧ a.color = b.color) ∧
    ∀ (files : FileTree) (turns : List Turn) (t : Turn) (b : Bitmap),
      let s := filesAfter files turns
      (t.draw s).outcome = .ok b →
      ∃ bytes, t.renderer.decode t.call.limit.toNat bytes = .ok b ∧
        ((t.draw s).ran = true ∧ Genuine t.renderer t.request bytes ∨
          (t.draw s).ran = false ∧
            ((∃ executable, files.node? t.place = some (.file bytes executable)) ∨
              ∃ x, Made files turns t.place bytes x ∧
                (x.request = t.request ∨
                  Sha256.Collide (cacheKey x.request) (cacheKey t.request)))) := by
  refine ⟨fun _ _ => cacheKey_eq_iff, ?_⟩
  intro files turns t b s hok
  obtain ⟨bytes, hdecode, hran | ⟨hran, executable, hfile⟩⟩ :=
    (serves t.renderer s t.call).exists_bytes hok
  · exact ⟨bytes, hdecode, Or.inl hran⟩
  · refine ⟨bytes, hdecode, Or.inr ⟨hran, ?_⟩⟩
    rcases exists_made hfile with hold | ⟨x, hmade⟩
    · exact Or.inl ⟨executable, hold⟩
    · exact Or.inr ⟨x, hmade, request_eq_or_collide hmade.place_eq⟩

/-- A command that draws a dot for formulas in the text and a bar for the others. -/
def dotOrBar (request : MathRequest) : CommandResult :=
  let width := if request.style = .inline then 1 else 2
  .finished (some 0) .empty
    ((Raster.Png.encode? (.uniform width 1 request.color)).map fun file => ⟨file.toArray⟩)

/-- A formula in the text is drawn. -/
def drawsDot : Turn where
  renderer := { command := dotOrBar, directory := ["cache"], validates := false }
  call := ⟨100, ⟨"x", .inline, default, .black⟩⟩

/-- The same formula is drawn by itself. -/
def drawsBar : Turn := { drawsDot with call := ⟨100, ⟨"x", .display, default, .black⟩⟩ }

/-- A renderer whose command is not there uses the kept file of the formula in the text. -/
def usesDot : Turn where
  renderer := { command := fun _ => .unavailable .notFound, directory := ["cache"], validates := true }
  call := { drawsDot.call with limit := 4 }

/-- The two formulas differ in their style, so their bytes differ, and the kept file that is used is the one
    that was drawn for the same request. -/
theorem origin_spec_dot :
    let s := filesAfter .empty [drawsDot, drawsBar]
    cacheKey drawsBar.request ≠ cacheKey usesDot.request ∧
    (usesDot.draw s).outcome = .ok (.uniform 1 1 .black) ∧
    (usesDot.draw s).ran = false ∧
    ∃ bytes, usesDot.renderer.decode 4 bytes = .ok (.uniform 1 1 .black) ∧
      Made .empty [drawsDot, drawsBar] usesDot.place bytes drawsDot := by
  intro s
  have hok : (usesDot.draw s).outcome = .ok (.uniform 1 1 .black) := by decide +kernel
  have hran : (usesDot.draw s).ran = false := by decide +kernel
  have hnew : FileTree.empty.node? usesDot.place = none := by decide +kernel
  have hapart : drawsBar.place ≠ usesDot.place := by decide +kernel
  have hkeys : cacheKey drawsBar.request ≠ cacheKey usesDot.request := by
    intro hkey
    obtain ⟨-, hstyle, -⟩ := (origin_spec.1 _ _).mp hkey
    cases hstyle
  refine ⟨hkeys, hok, hran, ?_⟩
  obtain ⟨bytes, hdecode, ⟨htrue, -⟩ | ⟨-, ⟨executable, hfile⟩ | ⟨x, hmade, -⟩⟩⟩ :=
    origin_spec.2 .empty [drawsDot, drawsBar] usesDot _ hok
  · cases hran.symm.trans htrue
  · cases hnew.symm.trans hfile
  · rcases List.mem_pair.mp hmade.mem with rfl | rfl
    · exact ⟨bytes, hdecode, hmade⟩
    · exact absurd hmade.place_eq hapart

end Turn
end Render
end Formulary
