import ImageChain.Proofs.Codec.Plain
import ImageChain.Proofs.Codec.Recognition
import ImageChain.Proofs.Image.Session

/-!
# Two ways to the same bytes

An image in PNG can be asked for its bytes and for its PNG, and should give the
same answer to both; likewise for JPEG.  Each way decides on its own whether the
encoded form at hand will do, and they differ in one point: an encoded form
without any bytes is as good as none for the PNG, but not for the bytes.

Lawful codecs neither read nor write an empty file, so such an encoded form can
only be an optimizer's reply, and it lasts until the pixels change or another
reply comes.  `agreement_of_arises` says that this is the only disagreement, and
`bytes_after_empty_reply` is one.
-/

namespace ImageChain

section AnyCodecs

variable [Codecs]

/-! ## The encoded form without any bytes -/

namespace Image

theorem encodeIn_of_encoded {image : Image} {format : Format} {bytes : ByteArray}
    (hformat : image.format = some format) (hencoded : image.encoded = some bytes)
    (hbytes : bytes ≠ .empty) : image.encodeIn format = .ok bytes := by
  simp [encodeIn, encodedIn, hformat, hencoded, Option.filter_some, hbytes]

theorem encodeIn_of_empty {image : Image} (hencoded : image.encoded = some .empty)
    (format : Format) : image.encodeIn format = Codec.encode image.grid format := by
  simp [encodeIn, encodedIn, hencoded, Option.filter_some]

/-- The two ways differ at most in an empty encoded form. -/
theorem bytes_eq_encodeIn {image : Image} {format : Format} (hformat : image.format = some format)
    (hencoded : image.encoded ≠ some .empty) :
    image.bytes = (image.encodeIn format).map (·, format) := by
  cases hform : image.encoded with
  | none => rw [bytes_of_not_encoded hformat hform, encodeIn_of_not_encoded hform]
  | some bytes =>
      have hbytes : bytes ≠ .empty := by
        rintro rfl
        exact hencoded hform
      rw [bytes_of_encoded hformat hform, encodeIn_of_encoded hformat hform hbytes]
      rfl

variable [LawfulCodecs]

/-- An image is not decoded from an empty file. -/
theorem encoded_ne_empty_of_decode {bytes : ByteArray} {image : Image}
    (hdecode : decode bytes = .ok image) : image.encoded ≠ some .empty := by
  obtain ⟨format, grid, hfound, rfl⟩ := decode_cases hdecode
  exact fun hempty => Codec.ne_empty_of_decode hfound (Option.some.inj hempty)

/-- Reading an image leaves no empty encoded form behind. -/
theorem encoded_afterReading_iff (image : Image) (reading : Reading) :
    (image.afterReading reading).encoded = some .empty ↔ image.encoded = some .empty := by
  cases reading with
  | png => rfl
  | jpeg => rfl
  | bytes =>
      show image.readBytes.2.encoded = some .empty ↔ _
      rcases image.readBytes_cases with hsame | ⟨format, bytes, -, hnone, hencode, hkeep⟩
      · rw [hsame]
      · rw [hkeep, encoded_keeping, hnone]
        exact ⟨fun hempty => absurd (Option.some.inj hempty) (Codec.ne_empty_of_encode hencode),
          nofun⟩

/-- Asked for its form in a format, an image never gives an empty file. -/
theorem ne_empty_of_encodeIn {image : Image} {format : Format} {bytes : ByteArray}
    (hencode : image.encodeIn format = .ok bytes) : bytes ≠ .empty := by
  unfold encodeIn at hencode
  split at hencode
  · next found hfound =>
      cases hencode
      rintro rfl
      simp [encodedIn] at hfound
  · exact Codec.ne_empty_of_encode hencode

end Image

variable [LawfulCodecs]

/-- The encoded form has no bytes if and only if the last change was an empty reply. -/
theorem Arises.encoded_empty_iff {traced : Traced} (harises : Arises traced) :
    traced.image.encoded = some .empty ↔ lastChange traced.history = some (.optimized []) := by
  induction harises with
  | blank => exact ⟨nofun, nofun⟩
  | @change traced event next _ hgives ih =>
      cases hgives with
      | fetched hdecode =>
          exact ⟨fun hempty => absurd hempty (Image.encoded_ne_empty_of_decode hdecode), nofun⟩
      | optimized reply format =>
          -- the encoded form is the reply, whatever it was before
          constructor
          · intro hempty
            cases reply with
            | nil => rfl
            | cons first rest => cases hempty
          · intro hlast
            cases hlast
            rfl
      | redrawn grid => exact ⟨nofun, nofun⟩
      | kept => exact ih
  | @read traced _ reading ih =>
      exact (traced.image.encoded_afterReading_iff reading).trans ih

/-! ## The main statement -/

/-- How the bytes of an image in a format compare with what it gives when it is asked for that
format. -/
structure Agreement (traced : Traced) (format : Format) (encoded : Except Failure ByteArray) :
    Prop where
  /-- Unless the last change was an empty reply, they are the same, also in how they fail. -/
  same : lastChange traced.history ≠ some (.optimized []) →
    traced.image.bytes = encoded.map (·, format)
  /-- If it was, the bytes are the empty reply. -/
  empty : lastChange traced.history = some (.optimized []) →
    traced.image.bytes = .ok (.empty, format)
  /-- The other way encodes the grid then. -/
  encodes : lastChange traced.history = some (.optimized []) →
    encoded = Codec.encode traced.image.grid format
  /-- It never gives an empty file. -/
  nonempty : encoded ≠ .ok .empty

theorem Arises.agreement {traced : Traced} (harises : Arises traced) {format : Format}
    (hformat : traced.image.format = some format) :
    Agreement traced format (traced.image.encodeIn format) where
  same hlast := Image.bytes_eq_encodeIn hformat (mt harises.encoded_empty_iff.mp hlast)
  empty hlast := Image.bytes_of_encoded hformat (harises.encoded_empty_iff.mpr hlast)
  encodes hlast := Image.encodeIn_of_empty (harises.encoded_empty_iff.mpr hlast) format
  nonempty hempty := Image.ne_empty_of_encodeIn hempty rfl

/-- **The bytes of an image in PNG or JPEG are those that `png` or `jpeg` gives, unless the last
change was an empty reply.** -/
theorem agreement_of_arises {traced : Traced} (harises : Arises traced) :
    (traced.image.format = some .png → Agreement traced .png traced.image.png) ∧
      (traced.image.format = some .jpeg → Agreement traced .jpeg traced.image.jpeg) :=
  ⟨fun hformat => harises.agreement hformat, fun hformat => harises.agreement hformat⟩

end AnyCodecs

/-- A reply of one byte, read as PNG. -/
theorem agreement_after_reply :
    ∃ traced : Traced, Arises traced ∧ traced.image.format = some .png ∧
      traced.image.bytes = .ok (⟨#[7]⟩, .png) ∧ traced.image.png = .ok ⟨#[7]⟩ ∧
      Agreement traced .png traced.image.png := by
  have harises := Arises.blank.withEncoded ⟨#[7]⟩ .png
  refine ⟨_, harises, rfl, ?bytes, ?png, (agreement_of_arises harises).1 rfl⟩
  case bytes => rfl
  case png => exact Image.encodeIn_of_encoded rfl rfl (by decide)

/-- A grid of one pixel. -/
def onePixelGrid : Grid := ⟨.rgba8, ⟨1, 1, #[#v[63, 113, 163, 213]], rfl⟩⟩

/-- One pixel, and an empty reply in PNG: the bytes are empty, and the PNG is not. -/
theorem bytes_after_empty_reply :
    ∃ (traced : Traced) (bytes : ByteArray), Arises traced ∧ traced.image.format = some .png ∧
      traced.image.bytes = .ok (.empty, .png) ∧ traced.image.png = .ok bytes ∧
      bytes ≠ .empty := by
  obtain ⟨bytes, hencode⟩ : ∃ bytes, Codec.encode onePixelGrid .png = .ok bytes := ⟨_, rfl⟩
  have harises := (Arises.blank.withGrid onePixelGrid).withEncoded .empty .png
  refine ⟨_, bytes, harises, rfl, rfl, ?encodes, Codec.ne_empty_of_encode hencode⟩
  case encodes => exact (Image.encodeIn_of_empty rfl .png).trans hencode

end ImageChain
