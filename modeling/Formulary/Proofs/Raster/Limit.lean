import Formulary.Proofs.Raster.Size
import Formulary.Raster.Decode

/-!
# Limits — what the limit of a decoder bounds

A reader compares its limit with what the pixels of an image take in the layout that they are read in. The
bitmap is made afterwards and takes four bytes for each pixel, which is more whenever the layout has fewer
than four. For drawings the limit is compared with the bitmap itself.

* `PixelLayout.grows`, `Image.byteCost_mul_bytes` — the bytes of a bitmap by those of its image.
* `Reader.Lawful`, `Reader.Frugal`, `Readers.Lawful` — what is taken for granted of readers.
* `Png.lawful_decode?`, `Png.frugal_decode?`, `Gif.lawful_decode?` — the readers that are written here.
* `Decodes`, `Readers.decode_eq_ok_iff` — the two ways in which bytes are decoded.
* `Decoder.Monotone`, `Readers.decode_mono` — a greater limit gives the same bitmap.
* `Readers.decode_cost` — what a decoded bitmap takes, for any readers and any layout.
-/

namespace Formulary

/-- The bytes of a bitmap are four for each pixel. -/
theorem Bitmap.byteCost_eq (b : Bitmap) : b.byteCost = 4 * (b.width * b.height) := b.size_pixels

/-- A bitmap of given bytes has the size that it was made with. -/
theorem Bitmap.size_of_ofPixels? {width height : Nat} {pixels : ByteArray} {b : Bitmap}
    (h : Bitmap.ofPixels? width height pixels = some b) : b.width = width ∧ b.height = height := by
  rw [Bitmap.ofPixels?] at h
  by_cases hsize : pixels.size = 4 * (width * height)
  · rw [dif_pos hsize] at h
    cases h
    exact ⟨rfl, rfl⟩
  · rw [dif_neg hsize] at h
    cases h

namespace Raster

/-! ## Layouts -/

/-- The layouts whose pixels take more in a bitmap: grey ones, grey ones with alpha in samples of one byte, and
    coloured ones without alpha in samples of one byte. -/
def PixelLayout.grows : PixelLayout → Bool
  | grey8 | greyAlpha8 | rgb8 | grey16 => true
  | _ => false

/-- Those are the layouts with fewer than four bytes for a pixel. -/
theorem PixelLayout.grows_iff (l : PixelLayout) : l.grows = true ↔ l.bytes < 4 := by
  cases l <;> decide

/-- No layout is without samples. -/
theorem PixelLayout.bytes_pos (l : PixelLayout) : 0 < l.bytes := by
  cases l <;> decide

/-- The bytes of a bitmap by those of its pixels in their own layout. -/
theorem Image.byteCost_mul_bytes (i : Image) : i.bitmap.byteCost * i.layout.bytes = 4 * i.nativeBytes := by
  rw [i.bitmap.byteCost_eq, Image.nativeBytes, Nat.mul_assoc]

/-- No bitmap takes more than four times what its pixels take in their own layout. -/
theorem Image.byteCost_le (i : Image) : i.bitmap.byteCost ≤ 4 * i.nativeBytes := by
  have hle : i.bitmap.byteCost * 1 ≤ i.bitmap.byteCost * i.layout.bytes :=
    Nat.mul_le_mul_left _ i.layout.bytes_pos
  have hratio := i.byteCost_mul_bytes
  omega

/-- A bitmap takes no more than its pixels in their own layout, unless that grows. -/
theorem Image.byteCost_le_of_keeps {i : Image} (h : i.layout.grows = false) :
    i.bitmap.byteCost ≤ i.nativeBytes := by
  have hfour : 4 ≤ i.layout.bytes := by
    rw [← not_lt, ← i.layout.grows_iff, h]
    exact Bool.false_ne_true
  have hle : i.bitmap.byteCost * 4 ≤ i.bitmap.byteCost * i.layout.bytes := Nat.mul_le_mul_left _ hfour
  have hratio := i.byteCost_mul_bytes
  omega

/-- If it grows and there are pixels, the bitmap takes more. -/
theorem Image.lt_byteCost_of_grows {i : Image} (h : i.layout.grows = true) (hpos : 0 < i.nativeBytes) :
    i.nativeBytes < i.bitmap.byteCost := by
  have hthree : i.layout.bytes ≤ 3 := Nat.le_of_lt_succ (i.layout.grows_iff.mp h)
  have hle : i.bitmap.byteCost * i.layout.bytes ≤ i.bitmap.byteCost * 3 := Nat.mul_le_mul_left _ hthree
  have hratio := i.byteCost_mul_bytes
  omega

/-! ## Readers -/

/-- What is taken for granted of a reader: it compares its limit with what the pixels take in their own
    layout, and a greater limit changes nothing about what it reads. It may need room for its work
    besides. -/
structure Reader.Lawful (read : Reader) : Prop where
  within : ∀ limit data image, read limit data = some image → image.nativeBytes ≤ limit
  mono : ∀ limit other data image, limit ≤ other → read limit data = some image →
    read other data = some image

/-- Some bytes are read without room for anything but the pixels in their own layout. -/
def Reader.Frugal (read : Reader) (data : List UInt8) : Prop :=
  ∀ limit image, read limit data = some image →
    ∀ other, image.nativeBytes ≤ other → read other data = some image

/-- What is taken for granted of the readers that are given. -/
structure Readers.Lawful (readers : Readers) : Prop where
  jpeg : readers.jpeg.Lawful
  webp : readers.webp.Lawful

/-- A reader that reads nothing is lawful. -/
theorem Reader.lawful_none : Reader.Lawful (fun _ _ => none) where
  within _ _ _ h := by cases h
  mono _ _ _ _ _ h := by cases h

/-- The library's own readers are lawful. -/
theorem Readers.lawful_basic : Readers.basic.Lawful := ⟨Reader.lawful_none, Reader.lawful_none⟩

/-! ## PNG images -/

namespace Png

theorem File.size_of_bitmap? {f : File} {b : Bitmap} (h : f.bitmap? = some b) :
    b.width = f.header.width ∧ b.height = f.header.height := by
  obtain ⟨data, -, h⟩ := Option.bind_eq_some_iff.mp h
  obtain ⟨canvas, -, h⟩ := Option.bind_eq_some_iff.mp h
  exact Bitmap.size_of_ofPixels? h

/-- The image of a file takes what the file says. -/
theorem File.nativeBytes_of_bitmap? {f : File} {b : Bitmap} (h : f.bitmap? = some b) :
    Image.nativeBytes ⟨f.pixelLayout, b⟩ = f.nativeBytes := by
  obtain ⟨hwidth, hheight⟩ := File.size_of_bitmap? h
  rw [Image.nativeBytes, hwidth, hheight, File.nativeBytes]

/-- A limit has to do with what the pixels of a file take in their own layout, and with nothing else. -/
theorem decode?_eq_some_iff {limit : Nat} {bytes : List UInt8} {image : Image} :
    decode? limit bytes = some image
      ↔ ∃ f b, File.ofBytes? bytes = some f ∧ f.bitmap? = some b ∧ image = ⟨f.pixelLayout, b⟩ ∧
          image.nativeBytes ≤ limit := by
  have hdecode : decode? limit bytes = (File.ofBytes? bytes).bind fun f =>
      if limit < f.nativeBytes then none
      else f.bitmap?.bind fun b => some ⟨f.pixelLayout, b⟩ := rfl
  rw [hdecode, Option.bind_eq_some_iff]
  constructor
  · rintro ⟨f, hfile, h⟩
    obtain ⟨hlimit, h⟩ := Option.ite_none_left_eq_some.mp h
    obtain ⟨b, hbitmap, h⟩ := Option.bind_eq_some_iff.mp h
    cases h
    refine ⟨f, b, hfile, hbitmap, rfl, ?_⟩
    rw [File.nativeBytes_of_bitmap? hbitmap]
    exact Nat.le_of_not_lt hlimit
  · rintro ⟨f, b, hfile, hbitmap, rfl, hlimit⟩
    rw [File.nativeBytes_of_bitmap? hbitmap] at hlimit
    refine ⟨f, hfile, ?_⟩
    rw [if_neg (Nat.not_lt.mpr hlimit), hbitmap]
    rfl

/-- The limit of a PNG file is compared with its pixels in their own layout. -/
theorem lawful_decode? : Reader.Lawful decode? where
  within _ _ _ h := by
    obtain ⟨-, -, -, -, -, hlimit⟩ := decode?_eq_some_iff.mp h
    exact hlimit
  mono _ _ _ _ hle h := by
    obtain ⟨f, b, hfile, hbitmap, heq, hlimit⟩ := decode?_eq_some_iff.mp h
    exact decode?_eq_some_iff.mpr ⟨f, b, hfile, hbitmap, heq, Nat.le_trans hlimit hle⟩

/-- Files are read without room for anything but their pixels. -/
theorem frugal_decode? (bytes : List UInt8) : Reader.Frugal decode? bytes := by
  intro limit image h other hother
  obtain ⟨f, b, hfile, hbitmap, heq, -⟩ := decode?_eq_some_iff.mp h
  exact decode?_eq_some_iff.mpr ⟨f, b, hfile, hbitmap, heq, hother⟩

/-- A header has pixels. -/
theorem Header.pos_of_ofBytes? {data : List UInt8} {h : Header} (hread : Header.ofBytes? data = some h) :
    0 < h.width ∧ 0 < h.height := by
  rw [Header.ofBytes?] at hread
  split at hread
  · obtain ⟨⟨layout, depths⟩, -, hread⟩ := Option.bind_eq_some_iff.mp hread
    obtain ⟨hchecks, hheader⟩ := Option.ite_none_left_eq_some.mp hread
    cases hheader
    simp only [Bool.or_eq_true, decide_eq_true_eq, not_or] at hchecks
    obtain ⟨⟨⟨⟨⟨hwidth, hheight⟩, -⟩, -⟩, -⟩, -⟩ := hchecks
    exact ⟨Nat.pos_of_ne_zero hwidth, Nat.pos_of_ne_zero hheight⟩
  · cases hread

/-- Reading chunks leaves the header as it is. -/
theorem header_readChunks {fuel : Nat} {file out : File} {inPixels : Bool} {bytes : List UInt8}
    (h : readChunks fuel file inPixels bytes = some out) : out.header = file.header := by
  induction fuel generalizing file inPixels bytes with
  | zero => cases h
  | succ fuel ih =>
      rw [readChunks] at h
      split at h
      · exact congrArg File.header (Option.some.inj (Option.ite_none_left_eq_some.mp h).2).symm
      · obtain ⟨⟨kind, data, sound, rest⟩, -, h⟩ := Option.bind_eq_some_iff.mp h
        -- each branch gives up, or reads on with the same header
        dsimp only at h
        repeat' split at h
        all_goals first | exact (ih h).trans rfl | cases h

/-- The pixels of a file take some bytes. -/
theorem File.nativeBytes_pos {bytes : List UInt8} {f : File} (h : File.ofBytes? bytes = some f) :
    0 < f.nativeBytes := by
  have hheader : 0 < f.header.width ∧ 0 < f.header.height := by
    rw [File.ofBytes?] at h
    obtain ⟨-, h⟩ := Option.ite_none_left_eq_some.mp h
    obtain ⟨⟨kind, data, sound, rest⟩, -, h⟩ := Option.bind_eq_some_iff.mp h
    obtain ⟨header, hheader, h⟩ := Option.bind_eq_some_iff.mp h
    obtain ⟨-, h⟩ := Option.ite_none_left_eq_some.mp h
    obtain ⟨file, hchunks, h⟩ := Option.bind_eq_some_iff.mp h
    obtain ⟨-, h⟩ := Option.ite_none_left_eq_some.mp h
    cases h
    rw [header_readChunks hchunks]
    exact Header.pos_of_ofBytes? hheader
  exact Nat.mul_pos (Nat.mul_pos hheader.1 hheader.2) f.pixelLayout.bytes_pos

end Png

/-! ## GIF images -/

namespace Gif

/-- The screen takes at most the limit. -/
theorem byteCost_le_of_screen? {limit : Nat} {bytes : List UInt8} {b : Bitmap}
    (h : screen? limit bytes = some b) : b.byteCost ≤ limit := by
  rw [screen?] at h
  split at h
  · obtain ⟨⟨palette, rest⟩, -, h⟩ := Option.bind_eq_some_iff.mp h
    obtain ⟨hlimit, h⟩ := Option.ite_none_left_eq_some.mp h
    obtain ⟨p, -, h⟩ := Option.bind_eq_some_iff.mp h
    obtain ⟨-, h⟩ := Option.ite_none_left_eq_some.mp h
    obtain ⟨pixels, -, h⟩ := Option.bind_eq_some_iff.mp h
    obtain ⟨-, h⟩ := Option.ite_none_left_eq_some.mp h
    obtain ⟨hwidth, hheight⟩ := Bitmap.size_of_ofPixels? h
    rw [b.byteCost_eq, hwidth, hheight]
    exact Nat.le_of_not_lt hlimit
  · cases h

/-- A greater limit gives the same screen. -/
theorem screen?_mono {limit other : Nat} {bytes : List UInt8} {b : Bitmap}
    (hle : limit ≤ other) (h : screen? limit bytes = some b) : screen? other bytes = some b := by
  rw [screen?] at h ⊢
  split at h
  · obtain ⟨⟨palette, rest⟩, hpalette, h⟩ := Option.bind_eq_some_iff.mp h
    obtain ⟨hscreen, h⟩ := Option.ite_none_left_eq_some.mp h
    obtain ⟨p, hpicture, h⟩ := Option.bind_eq_some_iff.mp h
    obtain ⟨hroom, h⟩ := Option.ite_none_left_eq_some.mp h
    refine Option.bind_eq_some_iff.mpr ⟨(palette, rest), hpalette, ?_⟩
    refine Option.ite_none_left_eq_some.mpr ⟨by omega, ?_⟩
    refine Option.bind_eq_some_iff.mpr ⟨p, hpicture, ?_⟩
    refine Option.ite_none_left_eq_some.mpr ⟨?_, h⟩
    simp only [Bool.and_eq_true, Bool.not_eq_true', decide_eq_true_eq, not_and] at hroom ⊢
    intro hplace
    have hpicture := hroom hplace
    omega
  · cases h

/-- The pixels of a screen take four bytes each, so that the limit is compared with the bitmap. -/
theorem lawful_decode? : Reader.Lawful decode? where
  within limit data image h := by
    obtain ⟨b, hscreen, rfl⟩ := Option.map_eq_some_iff.mp h
    have hcost := byteCost_le_of_screen? hscreen
    rw [b.byteCost_eq, Nat.mul_comm] at hcost
    exact hcost
  mono _ _ _ _ hle h := by
    obtain ⟨b, hscreen, rfl⟩ := Option.map_eq_some_iff.mp h
    exact Option.map_eq_some_iff.mpr ⟨b, screen?_mono hle hscreen, rfl⟩

end Gif

/-- All readers are lawful if those are that are given. -/
theorem Readers.Lawful.read {readers : Readers} (h : readers.Lawful) (format : Format) :
    (readers.read format).Lawful := by
  cases format with
  | png => exact Png.lawful_decode?
  | gif => exact Gif.lawful_decode?
  | jpeg => exact h.jpeg
  | webp => exact h.webp
  | other => exact Reader.lawful_none

/-! ## Drawings -/

namespace Svg

variable {scene? : ByteArray → Option Scene} {limit other : UInt64} {bytes : ByteArray} {b : Bitmap}

/-- The raster of a drawing takes at most the limit. -/
theorem byteCost_le_of_decode (h : decode scene? limit bytes = .ok b) : b.byteCost ≤ limit.toNat := by
  obtain ⟨scene, hcheck, hwidth, hheight, -⟩ := exists_of_decode h
  rw [b.byteCost_eq, hwidth, hheight]
  exact (checkSize_eq_ok_iff.mp hcheck).2

/-- A greater limit gives the same bitmap. -/
theorem decode_mono (hle : limit.toNat ≤ other.toNat) (h : decode scene? limit bytes = .ok b) :
    decode scene? other bytes = .ok b := by
  obtain ⟨scene, hcheck, -, -, hother⟩ := exists_of_decode h
  obtain ⟨haddressable, hneeded⟩ := checkSize_eq_ok_iff.mp hcheck
  exact hother other (checkSize_eq_ok_iff.mpr ⟨haddressable, Nat.le_trans hneeded hle⟩)

end Svg

/-! ## Any format -/

variable {readers : Readers} {limit other : Nat} {bytes : ByteArray} {b : Bitmap}

/-- Bytes that are no drawing have a format, and its reader reads them as an image. -/
structure ReadsAs (readers : Readers) (limit : Nat) (bytes : ByteArray) (format : Format)
    (image : Image) : Prop where
  plain : isDrawing bytes = false
  known : format? bytes.data.toList = some format
  read : readers.read format limit bytes.data.toList = some image

/-- The two ways in which bytes are decoded. -/
inductive Decodes (readers : Readers) (limit : Nat) (bytes : ByteArray) (b : Bitmap) : Prop
  | drawing (hdrawing : isDrawing bytes = true)
      (hdecode : Svg.decode readers.scene? (UInt64.ofNat limit) bytes = .ok b)
  | image {format : Format} {image : Image} (hreads : ReadsAs readers limit bytes format image)
      (hbitmap : image.bitmap = b)

namespace Readers

/-- Bytes are decoded in one of the two ways, or not at all. -/
theorem decode_eq_ok_iff : readers.decode limit bytes = .ok b ↔ Decodes readers limit bytes b := by
  rw [decode]
  cases hdrawing : isDrawing bytes with
  | true =>
      rw [if_pos rfl]
      constructor
      · intro h
        cases hdecode : Svg.decode readers.scene? (UInt64.ofNat limit) bytes with
        | error failure =>
            rw [hdecode] at h
            cases h
        | ok bitmap =>
            rw [hdecode] at h
            cases h
            exact .drawing hdrawing hdecode
      · rintro (⟨-, hdecode⟩ | ⟨hreads, -⟩)
        · rw [hdecode]
        · cases hdrawing.symm.trans hreads.plain
  | false =>
      rw [if_neg Bool.false_ne_true]
      constructor
      · intro h
        cases hformat : format? bytes.data.toList with
        | none =>
            rw [hformat] at h
            cases h
        | some format =>
            rw [hformat] at h
            cases hread : readers.read format limit bytes.data.toList with
            | none =>
                simp only [hread] at h
                cases h
            | some image =>
                simp only [hread] at h
                cases h
                exact .image ⟨hdrawing, hformat, hread⟩ rfl
      · rintro (⟨htrue, -⟩ | ⟨hreads, rfl⟩)
        · cases hdrawing.symm.trans htrue
        · simp only [hreads.known, hreads.read]

end Readers

/-- A greater limit gives the same bitmap; limits are numbers of 64 bits. -/
def Decoder.Monotone (decode : Decoder) : Prop :=
  ∀ limit other bytes b, limit ≤ other → other < UInt64.size →
    decode limit bytes = .ok b → decode other bytes = .ok b

namespace Readers

/-- With lawful readers a greater limit gives the same bitmap. -/
theorem decode_mono (h : readers.Lawful) : readers.decode.Monotone := by
  intro limit other bytes b hle hother hdecode
  rw [decode_eq_ok_iff] at hdecode ⊢
  cases hdecode with
  | drawing hdrawing hdecode =>
      refine .drawing hdrawing (Svg.decode_mono ?_ hdecode)
      rw [UInt64.toNat_ofNat_of_lt' (Nat.lt_of_le_of_lt hle hother), UInt64.toNat_ofNat_of_lt' hother]
      exact hle
  | image hreads hbitmap =>
      have hread := (h.read _).mono _ _ _ _ hle hreads.read
      exact .image ⟨hreads.plain, hreads.known, hread⟩ hbitmap

/-- Bytes are read as one image, whatever the limits. -/
theorem Lawful.image_eq (h : readers.Lawful) {format format' : Format} {image image' : Image}
    (hreads : ReadsAs readers limit bytes format image)
    (hreads' : ReadsAs readers other bytes format' image') : image = image' := by
  cases hreads.known.symm.trans hreads'.known
  -- under the greater of the two limits both images are what is read
  have hread := (h.read format).mono _ _ _ _ (Nat.le_max_left limit other) hreads.read
  have hread' := (h.read format).mono _ _ _ _ (Nat.le_max_right limit other) hreads'.read
  exact Option.some.inj (hread.symm.trans hread')

/-- An image that is read without room for anything else is decoded for exactly the limits from what its
    pixels take in their own layout. -/
theorem Lawful.decode_iff_of_frugal (h : readers.Lawful) {format : Format} {image : Image}
    (hreads : ReadsAs readers limit bytes format image)
    (hfrugal : (readers.read format).Frugal bytes.data.toList) :
    readers.decode other bytes = .ok image.bitmap ↔ image.nativeBytes ≤ other := by
  rw [decode_eq_ok_iff]
  constructor
  · rintro (⟨hdrawing, -⟩ | ⟨hreads', -⟩)
    · cases hdrawing.symm.trans hreads.plain
    · rw [h.image_eq hreads hreads']
      exact (h.read _).within _ _ _ hreads'.read
  · intro hother
    exact .image ⟨hreads.plain, hreads.known, hfrugal _ _ hreads.read _ hother⟩ rfl

/-- What a decoded bitmap takes, whatever reads the images. The bitmap of a drawing stays within the limit. Any
    other image was read in some layout, in which its pixels stay within the limit, so its bitmap stays
    within four times the limit; it stays within the limit itself if the layout does not grow, as for a GIF
    image. If it grows, the bitmap takes more than the pixels in their own layout, and from these on an
    image is decoded for every limit that is read without room for anything else, such as a PNG image. -/
theorem decode_cost (readers : Readers) (h : readers.Lawful) (limit : Nat) (bytes : ByteArray) (b : Bitmap)
    (hdecode : readers.decode limit bytes = .ok b) :
    b.byteCost = 4 * (b.width * b.height) ∧
    (∀ other, limit ≤ other → other < UInt64.size → readers.decode other bytes = .ok b) ∧
    (isDrawing bytes = true → b.byteCost ≤ limit) ∧
    (isDrawing bytes = false → ∃ format image, ReadsAs readers limit bytes format image ∧
      image.bitmap = b ∧ image.nativeBytes ≤ limit ∧ b.byteCost ≤ 4 * limit ∧
      (image.layout.grows = false → b.byteCost ≤ limit) ∧
      (image.layout.grows = true → 0 < image.nativeBytes → image.nativeBytes < b.byteCost) ∧
      ((readers.read format).Frugal bytes.data.toList →
        ∀ other, readers.decode other bytes = .ok b ↔ image.nativeBytes ≤ other) ∧
      (format = .gif → image.layout = .rgba8) ∧
      (format = .png → (readers.read format).Frugal bytes.data.toList ∧ 0 < image.nativeBytes ∧
        ∃ file, Png.File.ofBytes? bytes.data.toList = some file ∧ image.layout = file.pixelLayout)) := by
  refine ⟨b.byteCost_eq, fun other hle hother => decode_mono h _ _ _ _ hle hother hdecode, ?_, ?_⟩
  · intro hdrawing
    cases decode_eq_ok_iff.mp hdecode with
    | drawing _ hdecode =>
        refine Nat.le_trans (Svg.byteCost_le_of_decode hdecode) ?_
        -- a limit is cut to 64 bits for a drawing, which never makes it greater
        rw [UInt64.toNat_ofNat']
        exact Nat.mod_le _ _
    | image hreads _ => cases hdrawing.symm.trans hreads.plain
  · intro hplain
    cases decode_eq_ok_iff.mp hdecode with
    | drawing hdrawing _ => cases hplain.symm.trans hdrawing
    | @image format image hreads hbitmap =>
        subst hbitmap
        -- the limit is compared with the pixels in their own layout only; all else follows from the layout
        have hwithin := (h.read format).within _ _ _ hreads.read
        refine ⟨format, image, hreads, rfl, hwithin, ?_, ?_, Image.lt_byteCost_of_grows, ?_, ?_, ?_⟩
        · exact Nat.le_trans image.byteCost_le (Nat.mul_le_mul_left 4 hwithin)
        · exact fun hkeeps => Nat.le_trans (Image.byteCost_le_of_keeps hkeeps) hwithin
        · exact fun hfrugal other => h.decode_iff_of_frugal hreads hfrugal
        · rintro rfl
          obtain ⟨screen, -, rfl⟩ := Option.map_eq_some_iff.mp hreads.read
          rfl
        · rintro rfl
          obtain ⟨file, own, hfile, hbitmap, rfl, -⟩ := Png.decode?_eq_some_iff.mp hreads.read
          refine ⟨Png.frugal_decode? _, ?_, file, hfile, rfl⟩
          rw [Png.File.nativeBytes_of_bitmap? hbitmap]
          exact Png.File.nativeBytes_pos hfile

/-- A grey image of three by two pixels takes six bytes and is decoded for a limit of six; its bitmap takes
    four times as much. -/
theorem decode_cost_grey :
    let bytes : ByteArray := ⟨#[
      0x89, 0x50, 0x4E, 0x47, 0x0D, 0x0A, 0x1A, 0x0A, 0x00, 0x00, 0x00, 0x0D, 0x49, 0x48, 0x44, 0x52,
      0x00, 0x00, 0x00, 0x03, 0x00, 0x00, 0x00, 0x02, 0x08, 0x00, 0x00, 0x00, 0x00, 0xB8, 0x1F, 0x39,
      0xC6, 0x00, 0x00, 0x00, 0x10, 0x49, 0x44, 0x41, 0x54, 0x78, 0x9C, 0x63, 0x60, 0x50, 0xF5, 0x62,
      0xE0, 0x36, 0x08, 0x05, 0x00, 0x03, 0x2E, 0x01, 0x00, 0x25, 0x2D, 0x04, 0x67, 0x00, 0x00, 0x00,
      0x00, 0x49, 0x45, 0x4E, 0x44, 0xAE, 0x42, 0x60, 0x82]⟩
    ∃ b, basic.decode 6 bytes = .ok b ∧ b.byteCost = 24 ∧
      ∀ limit, basic.decode limit bytes = .ok b ↔ 6 ≤ limit := by
  intro bytes
  have hplain : isDrawing bytes = false := by decide +kernel
  have hread : (Png.decode? 6 bytes.data.toList).map (fun i => (i.nativeBytes, i.bitmap.byteCost))
      = some (6, 24) := by decide +kernel
  have hformat : format? bytes.data.toList = some .png := by decide +kernel
  obtain ⟨image, hread, hsizes⟩ := Option.map_eq_some_iff.mp hread
  obtain ⟨hnative, hbytes⟩ := Prod.mk.inj hsizes
  have hdecode : basic.decode 6 bytes = .ok image.bitmap :=
    decode_eq_ok_iff.mpr (.image ⟨hplain, hformat, hread⟩ rfl)
  obtain ⟨-, -, -, hother⟩ := decode_cost basic lawful_basic 6 bytes image.bitmap hdecode
  obtain ⟨format, found, hreads, -, -, -, -, -, hlimits, -, hpng⟩ := hother hplain
  cases hformat.symm.trans hreads.known
  cases hread.symm.trans hreads.read
  refine ⟨image.bitmap, hdecode, hbytes, ?_⟩
  intro limit
  rw [hlimits (hpng rfl).1, hnative]

end Readers
end Raster
end Formulary
