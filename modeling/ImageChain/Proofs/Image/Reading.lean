import ImageChain.Image

/-!
# Asking an image for its bytes

Only one of the three readings leaves anything behind: `readBytes` keeps the
encoding it has made.  `readBytes_cases` says what that is, and from it follows
that no reading changes what another one answers.
-/

namespace ImageChain

/-- A way to ask an image for encoded bytes. -/
inductive Reading where
  /-- As PNG. -/
  | png
  /-- As JPEG. -/
  | jpeg
  /-- In its own format. -/
  | bytes
  deriving DecidableEq, Repr

/-- What an image answers. -/
def Reading.answer [Codecs] (image : Image) : Reading → Except Failure (ByteArray × Format)
  | png => image.png.map (·, .png)
  | jpeg => image.jpeg.map (·, .jpeg)
  | bytes => image.bytes

theorem Reading.answer_png [Codecs] (image : Image) :
    png.answer image = (image.encodeIn .png).map (·, .png) := rfl

theorem Reading.answer_jpeg [Codecs] (image : Image) :
    jpeg.answer image = (image.encodeIn .jpeg).map (·, .jpeg) := rfl

namespace Image

/-- The image after it has been read. -/
def afterReading [Codecs] (image : Image) : Reading → Image
  | .png => image
  | .jpeg => image
  | .bytes => image.readBytes.2

/-- The image with an encoded form and nothing else changed. -/
def keeping (image : Image) (bytes : ByteArray) : Image :=
  { image with current := { image.current with encoded := some bytes } }

@[simp] theorem format_keeping (image : Image) (bytes : ByteArray) :
    (image.keeping bytes).format = image.format := rfl

@[simp] theorem grid_keeping (image : Image) (bytes : ByteArray) :
    (image.keeping bytes).grid = image.grid := rfl

@[simp] theorem encoded_keeping (image : Image) (bytes : ByteArray) :
    (image.keeping bytes).encoded = some bytes := rfl

variable [Codecs]

/-- An image that is read stays as it is, or keeps the encoding of its grid in its format. -/
theorem readBytes_cases (image : Image) :
    image.readBytes.2 = image ∨
      ∃ format bytes, image.format = some format ∧ image.encoded = none ∧
        Codec.encode image.grid format = .ok bytes ∧
        image.readBytes.2 = image.keeping bytes := by
  unfold readBytes
  cases hformat : image.format with
  | none => exact Or.inl rfl
  | some format =>
      cases hencoded : image.encoded with
      | some bytes => exact Or.inl rfl
      | none =>
          dsimp only
          cases hencode : Codec.encode image.grid format with
          | error failure => exact Or.inl rfl
          | ok bytes => exact Or.inr ⟨format, bytes, rfl, rfl, hencode, rfl⟩

@[simp] theorem format_afterReading (image : Image) (reading : Reading) :
    (image.afterReading reading).format = image.format := by
  cases reading with
  | png => rfl
  | jpeg => rfl
  | bytes =>
      show image.readBytes.2.format = image.format
      rcases image.readBytes_cases with hsame | ⟨format, bytes, -, -, -, hkeep⟩
      · rw [hsame]
      · rw [hkeep, format_keeping]

theorem bytes_of_encoded {image : Image} {format : Format} {bytes : ByteArray}
    (hformat : image.format = some format) (hencoded : image.encoded = some bytes) :
    image.bytes = .ok (bytes, format) := by
  simp only [Image.bytes, readBytes, hformat, hencoded]

theorem bytes_of_not_encoded {image : Image} {format : Format}
    (hformat : image.format = some format) (hencoded : image.encoded = none) :
    image.bytes = (Codec.encode image.grid format).map (·, format) := by
  simp only [Image.bytes, readBytes, hformat, hencoded]
  cases Codec.encode image.grid format <;> rfl

theorem encodeIn_of_not_encoded {image : Image} (hencoded : image.encoded = none)
    (format : Format) : image.encodeIn format = Codec.encode image.grid format := by
  simp [encodeIn, encodedIn, hencoded]

/-- The encoding that is kept is what a fresh one would give. -/
theorem encodeIn_keeping {image : Image} {own : Format} {bytes : ByteArray}
    (hformat : image.format = some own) (hencode : Codec.encode image.grid own = .ok bytes)
    (format : Format) :
    (image.keeping bytes).encodeIn format = Codec.encode image.grid format := by
  unfold encodeIn encodedIn
  rw [format_keeping, encoded_keeping, grid_keeping, hformat]
  by_cases hown : some own = some format
  · cases hown
    rw [if_pos rfl, Option.filter_some]
    by_cases hempty : bytes.size = 0
    · -- an empty encoding is made again
      simp [hempty]
    · simp [hempty, hencode]
  · rw [if_neg hown]

theorem answer_afterReading (image : Image) (reading other : Reading) :
    other.answer (image.afterReading reading) = other.answer image := by
  cases reading with
  | png => rfl
  | jpeg => rfl
  | bytes =>
      show other.answer image.readBytes.2 = other.answer image
      rcases image.readBytes_cases with hsame | ⟨own, bytes, hformat, hencoded, hencode, hkeep⟩
      · rw [hsame]
      · have hencodeIn (format : Format) :
            (image.keeping bytes).encodeIn format = image.encodeIn format := by
          rw [encodeIn_keeping hformat hencode, encodeIn_of_not_encoded hencoded]
        rw [hkeep]
        cases other with
        | png => rw [Reading.answer_png, Reading.answer_png, hencodeIn]
        | jpeg => rw [Reading.answer_jpeg, Reading.answer_jpeg, hencodeIn]
        | bytes =>
            show (image.keeping bytes).bytes = image.bytes
            rw [bytes_of_encoded ((image.format_keeping bytes).trans hformat)
              (image.encoded_keeping bytes), bytes_of_not_encoded hformat hencoded, hencode]
            rfl

/-- The answer of an image does not depend on what it has been asked before. -/
theorem answer_foldl_afterReading (image : Image) (readings : List Reading) (other : Reading) :
    other.answer (readings.foldl afterReading image) = other.answer image := by
  induction readings generalizing image with
  | nil => rfl
  | cons reading rest ih => rw [List.foldl_cons, ih, answer_afterReading]

end Image

end ImageChain
