import Formulary.Render.Rasteriser
import Mathlib

/-!
# Cache keys — requests by the bytes that name their files

The bytes of a request are its source, its style, its font size and its colour one after the other. The
colour starts at the last `#` of them and the style behind the last zero in front of the font size, which
has four bytes. So the bytes give all four back, whatever stands in the source, and only digests could be
the same for two requests.

* `Text.hexText_injective`, `Text.encodeChars_injective` — texts of bytes, and bytes of texts.
* `Color.channels_injective`, `Binary32.bytes_injective` — colours and font sizes by their bytes.
* `cacheKey_injective`, `cacheName_inj` — requests by their bytes, and names of files by their digests.
-/

namespace Formulary

/-- A list is cut at the last place where an element stands. -/
theorem append_cons_inj_of_not_mem {α : Type} {a : α} {x y u v : List α} (hu : a ∉ u) (hv : a ∉ v)
    (h : x ++ a :: u = y ++ a :: v) : x = y ∧ u = v := by
  rcases List.append_eq_append_iff.mp h with ⟨l, rfl, heq⟩ | ⟨l, rfl, heq⟩
  · cases l with
    | nil => exact ⟨(List.append_nil _).symm, (List.cons.inj heq).2⟩
    | cons c rest =>
        rw [(List.cons.inj heq).2] at hu
        exact absurd (List.mem_append_right _ List.mem_cons_self) hu
  · cases l with
    | nil => exact ⟨List.append_nil _, (List.cons.inj heq).2.symm⟩
    | cons c rest =>
        rw [(List.cons.inj heq).2] at hv
        exact absurd (List.mem_append_right _ List.mem_cons_self) hv

namespace Text

/-! ## Texts and bytes -/

theorem hexValue?_hexDigit {n : Nat} (h : n < 16) : hexValue? (hexDigit n) = some n := by
  have hall : ∀ n : Fin 16, hexValue? (hexDigit n) = some n.val := by decide
  exact hall ⟨n, h⟩

theorem hexDigit_inj {m n : Nat} (hm : m < 16) (hn : n < 16) (h : hexDigit m = hexDigit n) :
    m = n := by
  have hvalue := hexValue?_hexDigit hm
  rw [h, hexValue?_hexDigit hn] at hvalue
  exact (Option.some.inj hvalue).symm

/-- A byte is what its two digits say. -/
theorem hexPair_injective : Function.Injective hexPair := by
  intro a b h
  have ha := a.toNat_lt
  have hb := b.toNat_lt
  obtain ⟨hhigh, hrest⟩ := List.cons.inj h
  have hlow := (List.cons.inj hrest).1
  have hhigh' := hexDigit_inj (by omega) (by omega) hhigh
  have hlow' := hexDigit_inj (by omega) (by omega) hlow
  exact UInt8.toNat_inj.mp (by omega)

/-- Bytes are what their digits say. -/
theorem flatMap_hexPair_injective : Function.Injective (List.flatMap hexPair) := by
  intro a
  induction a with
  | nil =>
      intro b h
      cases b with
      | nil => rfl
      | cons _ _ => cases h
  | cons first rest ih =>
      intro b h
      cases b with
      | nil => cases h
      | cons other others =>
          obtain ⟨hpair, htail⟩ := List.append_inj h rfl
          rw [hexPair_injective hpair, ih htail]

/-- So is their text. -/
theorem hexText_injective : Function.Injective hexText := by
  intro a b h
  exact flatMap_hexPair_injective (String.ofList_injective h)

/-- Characters are what their bytes say. -/
theorem encodeChars_injective : Function.Injective encodeChars := by
  intro a b h
  have hbytes : a.utf8Encode = b.utf8Encode := congrArg List.toByteArray h
  have hdecoded := List.utf8Decode?_utf8Encode (l := a)
  rw [hbytes, List.utf8Decode?_utf8Encode] at hdecoded
  exact (List.toArray_inj (Option.some.inj hdecoded)).symm

end Text

/-! ## Styles, colours and font sizes -/

theorem MathStyle.name_injective : Function.Injective MathStyle.name := by
  intro a b h
  cases a with
  | inline =>
      cases b with
      | inline => rfl
      | display => exact absurd h (by decide)
  | display =>
      cases b with
      | inline => exact absurd h (by decide)
      | display => rfl

/-- The channels that the written form of a colour shows. -/
def Color.channels (c : Color) : List UInt8 :=
  if c.alpha = 255 then [c.red, c.green, c.blue] else [c.red, c.green, c.blue, c.alpha]

/-- A colour is what its channels say; three of them are those of an opaque one. -/
theorem Color.channels_injective : Function.Injective Color.channels := by
  intro a b h
  obtain ⟨r, g, b', alpha⟩ := a
  obtain ⟨r', g', b'', alpha'⟩ := b
  by_cases ha : alpha = 255
  · by_cases hb : alpha' = 255
    · simp_all [channels]
    · simp_all [channels]
  · by_cases hb : alpha' = 255
    · simp_all [channels]
    · simp_all [channels]

/-- The text of a colour is its channels, two digits for each. -/
theorem Color.toChars_eq (c : Color) : c.toChars = '#' :: c.channels.flatMap Text.hexPair := by
  rw [toChars, channels]
  by_cases hsolid : c.alpha = 255
  · simp [hsolid]
  · simp [hsolid]

/-- No digit is written as the sign in front of them. -/
theorem Text.sign_not_mem_encodeChars (bytes : List UInt8) :
    0x23 ∉ encodeChars (bytes.flatMap hexPair) := by
  have hall : ∀ n : Fin 16, 0x23 ∉ encodeChar (hexDigit n) := by decide
  have hdigit : ∀ n, n < 16 → 0x23 ∉ encodeChar (hexDigit n) := fun n hn => hall ⟨n, hn⟩
  simp only [encodeChars, List.mem_flatMap, not_exists, not_and, hexPair, List.mem_cons,
    List.not_mem_nil, or_false]
  rintro c ⟨b, -, rfl | rfl⟩
  · exact hdigit _ (by have := b.toNat_lt; omega)
  · exact hdigit _ (by omega)

theorem Binary32.bytes_injective : Function.Injective Binary32.bytes := by
  intro a b h
  obtain ⟨a⟩ := a
  obtain ⟨b⟩ := b
  simp only [bytes, List.cons.injEq, and_true] at h
  obtain ⟨h₀, h₁, h₂, h₃⟩ := h
  have hbyte : ∀ {x y : UInt32}, x.toUInt8 = y.toUInt8 → x.toNat % 256 = y.toNat % 256 := by
    intro x y hxy
    have hnat := congrArg UInt8.toNat hxy
    rwa [UInt32.toNat_toUInt8, UInt32.toNat_toUInt8] at hnat
  have h₀' := hbyte h₀
  have h₁' := hbyte h₁
  have h₂' := hbyte h₂
  have h₃' := hbyte h₃
  simp only [UInt32.toNat_shiftRight, UInt32.reduceToNat, Nat.reduceMod, Nat.shiftRight_eq_div_pow]
    at h₁' h₂' h₃'
  have ha := a.toNat_lt
  have hb := b.toNat_lt
  exact congrArg Binary32.mk (UInt32.toNat_inj.mp (by omega))

namespace Render

/-! ## Requests -/

/-- No name of a style holds a zero byte, so the zero byte behind it is found. -/
theorem zero_not_mem_encodeChars_name (style : MathStyle) :
    0 ∉ Text.encodeChars style.name.toList := by
  cases style with
  | inline => decide
  | display => decide

/-- Requests are what their bytes say, whatever stands in the source. -/
theorem cacheKey_injective : Function.Injective cacheKey := by
  intro a b h
  have hkey : ∀ request, cacheKey request
      = ((Text.encodeChars request.latex.toList ++ 0 :: Text.encodeChars request.style.name.toList) ++
          0 :: request.fontSize.bytes) ++
        0x23 :: Text.encodeChars (request.color.channels.flatMap Text.hexPair) := by
    intro request
    rw [cacheKey, Color.toChars_eq]
    rfl
  rw [hkey, hkey] at h
  -- the colour stands behind the last sign, in front of it the four bytes of the font size
  obtain ⟨hfront, hdigits⟩ := append_cons_inj_of_not_mem (Text.sign_not_mem_encodeChars _)
    (Text.sign_not_mem_encodeChars _) h
  obtain ⟨htext, hsize⟩ := List.append_inj' hfront rfl
  obtain ⟨hlatex, hname⟩ := append_cons_inj_of_not_mem (zero_not_mem_encodeChars_name _)
    (zero_not_mem_encodeChars_name _) htext
  have hcolor := Color.channels_injective
    (Text.flatMap_hexPair_injective (Text.encodeChars_injective hdigits))
  have hfontSize := Binary32.bytes_injective (List.cons.inj hsize).2
  have hstyle := MathStyle.name_injective (String.toList_injective (Text.encodeChars_injective hname))
  have hsource := String.toList_injective (Text.encodeChars_injective hlatex)
  obtain ⟨latex, style, fontSize, color⟩ := a
  obtain ⟨latex', style', fontSize', color'⟩ := b
  cases hsource
  cases hstyle
  cases hfontSize
  cases hcolor
  rfl

/-- Requests have one text of bytes exactly when they agree in everything that is drawn. -/
theorem cacheKey_eq_iff {a b : MathRequest} :
    cacheKey a = cacheKey b ↔
      a.latex = b.latex ∧ a.style = b.style ∧ a.fontSize.bits = b.fontSize.bits ∧ a.color = b.color := by
  rw [cacheKey_injective.eq_iff]
  obtain ⟨latex, style, ⟨bits⟩, color⟩ := a
  obtain ⟨latex', style', ⟨bits'⟩, color'⟩ := b
  simp

/-- Files have one name if the digests of their requests are the same. -/
theorem cacheName_inj {a b : MathRequest} :
    cacheName a = cacheName b ↔ Sha256.digest (cacheKey a) = Sha256.digest (cacheKey b) := by
  constructor
  · intro h
    exact Text.hexText_injective ((String.append_left_inj _).mp h)
  · intro h
    rw [cacheName, h, cacheName]

end Render
end Formulary
