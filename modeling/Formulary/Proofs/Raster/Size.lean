import Formulary.Raster.Svg
import Mathlib

/-!
# Sizes — what becomes of a drawing by its size alone

Whether a drawing that was read gives a bitmap depends on its size, which is checked before anything is
painted; painting cannot fail, whatever the drawing shows. The check compares the bytes of the raster with
the limit in 64 bits, and two sides of 32 bits can take more than that: from `2 ^ 64` bytes on the number
wraps. A raster of that size can never be addressed, so it is refused all the same, but if what is left of
the number is within the limit it is refused for the wrong reason.

* `exists_bitmapOf?` — a scene always gives a bitmap, which has its size.
* `decode_eq` — decoding is the check of the size, with a bitmap that does not depend on the limit.
* `rasterBytes`, `toNat_neededBytes` — the bytes of a raster, and what 64 bits keep of the number.
* `checkSize_cases`, `checkSize_eq_ok_iff` — how a check ends, and which rasters pass.
* `overLimit_exact_iff` — where the check is right about the limit.
* `sides_of_wraps`, `refused_of_wraps` — the rasters whose bytes wrap.
* `size_check_spec` — any raster and any limit.
-/

namespace Formulary.Raster

/-- A colour gives four bytes. -/
theorem Png.size_colorBytes (colors : Array Color) : (colorBytes colors).size = 4 * colors.size := by
  have hfold : ∀ (cs : List Color) (bytes : ByteArray),
      (cs.foldl (fun bytes c => (((bytes.push c.red).push c.green).push c.blue).push c.alpha) bytes).size
        = bytes.size + 4 * cs.length := by
    intro cs
    induction cs with
    | nil => exact fun _ => rfl
    | cons c rest ih =>
        intro bytes
        rw [List.foldl_cons, ih, List.length_cons]
        simp only [ByteArray.size_push]
        omega
  rw [colorBytes, ← Array.foldl_toList, hfold, Array.length_toList]
  exact Nat.zero_add _

namespace Svg

/-! ## Scenes -/

/-- A canvas of the size of a bitmap gives one. -/
theorem exists_bitmapOf? {width height : Nat} {canvas : Array Color}
    (h : canvas.size = width * height) :
    ∃ b : Bitmap, bitmapOf? width height canvas = some b ∧ b.width = width ∧ b.height = height := by
  rw [bitmapOf?, Bitmap.ofPixels?, dif_pos]
  · exact ⟨_, rfl, rfl, rfl⟩
  · rw [Png.size_colorBytes, Array.size_map, h]

variable {scene? : ByteArray → Option Scene} {bytes : ByteArray}

/-- A drawing that was read is decoded when its size passes the check, to a bitmap that no limit has a part
    in. -/
theorem decode_eq {scene : Scene} (h : scene? bytes = some scene) :
    ∃ b : Bitmap, b.width = (pixelSize scene.width).toNat ∧ b.height = (pixelSize scene.height).toNat ∧
      ∀ limit, decode scene? limit bytes
        = (checkSize (pixelSize scene.width) (pixelSize scene.height) limit).map fun _ => b := by
  obtain ⟨b, hbitmap, hwidth, hheight⟩ := exists_bitmapOf? (scene.size_paint _ _)
  refine ⟨b, hwidth, hheight, ?_⟩
  intro limit
  rw [decode, h]
  cases hcheck : checkSize (pixelSize scene.width) (pixelSize scene.height) limit with
  | error failure => simp [hcheck, bind, Except.bind, Except.map]
  | ok _ => simp [hcheck, hbitmap, bind, Except.bind, pure, Except.pure, Except.map]

/-- What was decoded has the size of its scene, which passed the check, and comes out for every limit for
    which the size passes. -/
theorem exists_of_decode {limit : UInt64} {b : Bitmap} (h : decode scene? limit bytes = .ok b) :
    ∃ scene : Scene, checkSize (pixelSize scene.width) (pixelSize scene.height) limit = .ok () ∧
      b.width = (pixelSize scene.width).toNat ∧ b.height = (pixelSize scene.height).toNat ∧
      ∀ other, checkSize (pixelSize scene.width) (pixelSize scene.height) other = .ok () →
        decode scene? other bytes = .ok b := by
  cases hscene : scene? bytes with
  | none =>
      rw [decode, hscene] at h
      cases h
  | some scene =>
      obtain ⟨own, hwidth, hheight, hdecode⟩ := decode_eq hscene
      rw [hdecode] at h
      cases hcheck : checkSize (pixelSize scene.width) (pixelSize scene.height) limit with
      | error failure =>
          rw [hcheck] at h
          cases h
      | ok _ =>
          rw [hcheck] at h
          cases h
          refine ⟨scene, hcheck, hwidth, hheight, ?_⟩
          intro other hother
          rw [hdecode, hother]
          rfl

/-! ## The check -/

variable {width height : UInt32} {limit : UInt64}

/-- The bytes of a raster, four for each pixel, whatever number of bits they take. -/
def rasterBytes (width height : UInt32) : Nat := 4 * (width.toNat * height.toNat)

/-- In 64 bits the number wraps. -/
theorem toNat_neededBytes (width height : UInt32) :
    (neededBytes width height).toNat = rasterBytes width height % 2 ^ 64 := by
  rw [neededBytes, UInt64.toNat_mul, UInt64.toNat_mul, UInt32.toNat_toUInt64, UInt32.toNat_toUInt64,
    show (4 : UInt64).toNat = 4 from rfl, Nat.mod_mul_mod, Nat.mul_comm, rasterBytes]

/-- The three ways in which a check ends. The bytes of the raster are compared with the limit as far as 64
    bits count them. -/
theorem checkSize_cases (width height : UInt32) (limit : UInt64) :
    (limit.toNat < rasterBytes width height % 2 ^ 64 ∧ checkSize width height limit
        = .error (.tooLarge width height (neededBytes width height) limit)) ∨
    (rasterBytes width height % 2 ^ 64 ≤ limit.toNat ∧ isAddressable width height = false ∧
      checkSize width height limit = .error (.invalidSize width height)) ∨
    (rasterBytes width height % 2 ^ 64 ≤ limit.toNat ∧ isAddressable width height = true ∧
      checkSize width height limit = .ok ()) := by
  have hexceeds : exceeds width height limit = true
      ↔ limit.toNat < rasterBytes width height % 2 ^ 64 := by
    rw [exceeds, decide_eq_true_eq, UInt64.lt_iff_toNat_lt, toNat_neededBytes]
  rw [← not_lt, ← hexceeds, checkSize]
  by_cases hover : exceeds width height limit = true
  · exact Or.inl ⟨hover, if_pos hover⟩
  · rw [if_neg hover]
    cases haddressable : isAddressable width height with
    | false => exact Or.inr (Or.inl ⟨hover, rfl, rfl⟩)
    | true => exact Or.inr (Or.inr ⟨hover, rfl, rfl⟩)

/-- The bytes of a raster that can be addressed do not wrap. -/
theorem rasterBytes_lt (h : isAddressable width height = true) :
    rasterBytes width height < 2 ^ 64 := by
  simp only [isAddressable, Bool.and_eq_true, decide_eq_true_eq] at h
  have hwidth : width.toNat < 2 ^ 29 := by omega
  have hheight : height.toNat < 2 ^ 32 := height.toNat_lt
  have hproduct : width.toNat * height.toNat < 2 ^ 29 * 2 ^ 32 := Nat.mul_lt_mul'' hwidth hheight
  rw [rasterBytes]
  omega

/-- So a raster passes only if it is within the limit. -/
theorem checkSize_eq_ok_iff :
    checkSize width height limit = .ok ()
      ↔ isAddressable width height = true ∧ rasterBytes width height ≤ limit.toNat := by
  rcases checkSize_cases width height limit with
    ⟨hlimit, hcheck⟩ | ⟨-, haddressable, hcheck⟩ | ⟨hlimit, haddressable, hcheck⟩
  · constructor
    · intro hok
      cases hcheck.symm.trans hok
    · rintro ⟨-, hle⟩
      exact absurd (Nat.lt_of_lt_of_le hlimit (Nat.mod_le _ _)) (Nat.not_lt.mpr hle)
  · constructor
    · intro hok
      cases hcheck.symm.trans hok
    · rintro ⟨htrue, -⟩
      cases haddressable.symm.trans htrue
  · rw [Nat.mod_eq_of_lt (rasterBytes_lt haddressable)] at hlimit
    exact ⟨fun _ => ⟨haddressable, hlimit⟩, fun _ => hcheck⟩

/-- The size was refused for being above the limit, whatever numbers the error has. -/
def OverLimit {α : Type} (result : Except Failure α) : Prop :=
  ∃ width height needed limit, result = .error (.tooLarge width height needed limit)

theorem overLimit_checkSize_iff :
    OverLimit (checkSize width height limit) ↔ limit.toNat < rasterBytes width height % 2 ^ 64 := by
  rcases checkSize_cases width height limit with ⟨hlimit, hcheck⟩ | ⟨hlimit, -, hcheck⟩ | ⟨hlimit, -, hcheck⟩
  · exact ⟨fun _ => hlimit, fun _ => ⟨_, _, _, _, hcheck⟩⟩
  · refine ⟨?_, fun h => absurd h (Nat.not_lt.mpr hlimit)⟩
    rintro ⟨w, h, n, l, heq⟩
    cases hcheck.symm.trans heq
  · refine ⟨?_, fun h => absurd h (Nat.not_lt.mpr hlimit)⟩
    rintro ⟨w, h, n, l, heq⟩
    cases hcheck.symm.trans heq

/-- The check is right about the limit for the rasters whose bytes do not wrap, and for those of which enough
    is left. -/
theorem overLimit_exact_iff :
    (OverLimit (checkSize width height limit) ↔ limit.toNat < rasterBytes width height)
      ↔ rasterBytes width height < 2 ^ 64 ∨ limit.toNat < rasterBytes width height % 2 ^ 64 := by
  rw [overLimit_checkSize_iff]
  constructor
  · intro hexact
    by_cases hsmall : rasterBytes width height < 2 ^ 64
    · exact Or.inl hsmall
    · -- a limit is below `2 ^ 64`, so such a raster is above it
      exact Or.inr (hexact.mpr (Nat.lt_of_lt_of_le limit.toNat_lt (Nat.le_of_not_lt hsmall)))
  · rintro (hsmall | hlimit)
    · rw [Nat.mod_eq_of_lt hsmall]
    · exact ⟨fun _ => Nat.lt_of_lt_of_le hlimit (Nat.mod_le _ _), fun _ => hlimit⟩

/-- The numbers of the error are those of the check. -/
theorem eq_of_tooLarge {w h : UInt32} {needed bound : UInt64}
    (hcheck : checkSize width height limit = .error (.tooLarge w h needed bound)) :
    w = width ∧ h = height ∧ needed = neededBytes width height ∧ bound = limit := by
  rcases checkSize_cases width height limit with ⟨-, heq⟩ | ⟨-, -, heq⟩ | ⟨-, -, heq⟩
  · cases heq.symm.trans hcheck
    exact ⟨rfl, rfl, rfl, rfl⟩
  · cases heq.symm.trans hcheck
  · cases heq.symm.trans hcheck

theorem overLimit_map {α β : Type} {result : Except Failure α} {f : α → β} :
    OverLimit (result.map f) ↔ OverLimit result := by
  cases result with
  | error failure => simp [OverLimit, Except.map]
  | ok a => simp [OverLimit, Except.map]

/-- The bytes of a raster wrap only if both sides are above `2 ^ 30`, and then it cannot be addressed. -/
theorem sides_of_wraps (h : 2 ^ 64 ≤ rasterBytes width height) :
    2 ^ 30 < width.toNat ∧ 2 ^ 30 < height.toNat ∧ isAddressable width height = false := by
  have hside : ∀ a b : UInt32, 2 ^ 64 ≤ 4 * (a.toNat * b.toNat) → 2 ^ 30 < a.toNat := by
    intro a b hwraps
    by_contra hle
    have hb : b.toNat ≤ 2 ^ 32 - 1 := Nat.le_pred_of_lt b.toNat_lt
    have hproduct : a.toNat * b.toNat ≤ 2 ^ 30 * (2 ^ 32 - 1) :=
      Nat.mul_le_mul (Nat.le_of_not_lt hle) hb
    omega
  refine ⟨hside width height h, hside height width ?_, ?_⟩
  · rw [Nat.mul_comm height.toNat]
    exact h
  · rw [← Bool.not_eq_true]
    intro haddressable
    exact absurd (rasterBytes_lt haddressable) (Nat.not_lt.mpr h)

/-- A raster whose bytes wrap is refused, for one reason or the other. -/
theorem refused_of_wraps (h : 2 ^ 64 ≤ rasterBytes width height) :
    OverLimit (checkSize width height limit) ∨
      checkSize width height limit = .error (.invalidSize width height) := by
  rcases checkSize_cases width height limit with ⟨-, heq⟩ | ⟨-, -, heq⟩ | ⟨-, haddressable, -⟩
  · exact Or.inl ⟨_, _, _, _, heq⟩
  · exact Or.inr heq
  · cases haddressable.symm.trans (sides_of_wraps h).2.2

/-- Any raster and any limit. The check finds the raster above the limit when its bytes without the multiples
    of `2 ^ 64` are, and names them so in its error. This is right for all rasters below `2 ^ 64` bytes, and for
    the others only while what is left of the number is above the limit too. Otherwise such a raster, whose
    sides are both above `2 ^ 30`, is refused as one of an invalid size; no raster above the limit passes. What
    the check says of the raster of a drawing is what becomes of the drawing. -/
theorem size_check_spec (width height : UInt32) (limit : UInt64) :
    let needed := 4 * (width.toNat * height.toNat)
    let check := checkSize width height limit
    (OverLimit check ↔ limit.toNat < needed % 2 ^ 64) ∧
    ((OverLimit check ↔ limit.toNat < needed) ↔ needed < 2 ^ 64 ∨ limit.toNat < needed % 2 ^ 64) ∧
    (∀ w h n l, check = .error (.tooLarge w h n l) →
      w = width ∧ h = height ∧ n.toNat = needed % 2 ^ 64 ∧ l = limit) ∧
    (2 ^ 64 ≤ needed → 2 ^ 30 < width.toNat ∧ 2 ^ 30 < height.toNat ∧
      (OverLimit check ∨ check = .error (.invalidSize width height))) ∧
    (limit.toNat < needed → check ≠ .ok ()) ∧
    ∀ (scene? : ByteArray → Option Scene) (bytes : ByteArray) (scene : Scene),
      scene? bytes = some scene → pixelSize scene.width = width → pixelSize scene.height = height →
      (OverLimit (decode scene? limit bytes) ↔ limit.toNat < needed % 2 ^ 64) ∧
      ∃ b : Bitmap, b.width = width.toNat ∧ b.height = height.toNat ∧
        decode scene? limit bytes = check.map fun _ => b := by
  intro needed check
  refine ⟨overLimit_checkSize_iff, overLimit_exact_iff, ?_, ?_, ?_, ?_⟩
  · intro w h n l hcheck
    obtain ⟨hwidth, hheight, hneeded, hbound⟩ := eq_of_tooLarge hcheck
    exact ⟨hwidth, hheight, hneeded ▸ toNat_neededBytes width height, hbound⟩
  · intro hwraps
    obtain ⟨hwidth, hheight, -⟩ := sides_of_wraps hwraps
    exact ⟨hwidth, hheight, refused_of_wraps hwraps⟩
  · intro hlimit hcheck
    exact absurd (checkSize_eq_ok_iff.mp hcheck).2 (Nat.not_le.mpr hlimit)
  · rintro scene? bytes scene hscene rfl rfl
    obtain ⟨b, hwidth, hheight, hdecode⟩ := decode_eq hscene
    refine ⟨?_, b, hwidth, hheight, hdecode limit⟩
    rw [hdecode, overLimit_map]
    exact overLimit_checkSize_iff

/-- The rectangles of a text are those of its bytes. -/
theorem rectangles?_toUTF8 (text : String) :
    rectangles? text.toUTF8 = (sheet? text.toList).map fun (sheet, root) => sheet.scene root := by
  have hread : Text.text? text.toUTF8 = some text := by
    rw [Text.text?, String.fromUTF8?]
    exact dif_pos text.isValidUTF8
  rw [rectangles?, hread, Option.map_eq_bind]
  rfl

/-- A drawing with sides of `2 ^ 31`: its raster takes `2 ^ 64` bytes, of which nothing is left in 64 bits. It is
    above every limit and is not refused for that. -/
theorem size_check_spec_wraps :
    let text := "<svg xmlns=\"http://www.w3.org/2000/svg\" width=\"2147483648\" height=\"2147483648\"/>"
    let side : UInt32 := 2147483648
    4 * (side.toNat * side.toNat) = 2 ^ 64 ∧ ¬ OverLimit (decode rectangles? 104857600 text.toUTF8) ∧
      decode rectangles? 104857600 text.toUTF8 = .error (.invalidSize side side) := by
  intro text side
  have hsides : (sheet? text.toList).map (fun p => (pixelSize p.1.width, pixelSize p.1.height))
      = some (side, side) := by decide +kernel
  obtain ⟨⟨sheet, root⟩, hsheet, hsides⟩ := Option.map_eq_some_iff.mp hsides
  have hscene : rectangles? text.toUTF8 = some (sheet.scene root) := by
    rw [rectangles?_toUTF8, hsheet]
    rfl
  obtain ⟨hwidth, hheight⟩ := Prod.mk.inj hsides
  have hwraps : 4 * (side.toNat * side.toNat) = 2 ^ 64 := by decide
  obtain ⟨hcheck, -, -, hrefused, -, hdecode⟩ := size_check_spec side side 104857600
  obtain ⟨hover, b, -, -, heq⟩ := hdecode rectangles? text.toUTF8 _ hscene hwidth hheight
  rw [hwraps, Nat.mod_self] at hcheck hover
  have hnot : ¬ OverLimit (checkSize side side 104857600) := by
    rw [hcheck]
    exact Nat.not_lt_zero _
  refine ⟨hwraps, ?_, ?_⟩
  · rw [hover]
    exact Nat.not_lt_zero _
  · rw [heq, (hrefused (Nat.le_of_eq hwraps.symm)).2.2.resolve_left hnot]
    rfl

end Svg
end Formulary.Raster
