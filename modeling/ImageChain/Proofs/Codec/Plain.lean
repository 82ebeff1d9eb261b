import ImageChain.Codec.Plain

/-!
# Plain codecs are lawful

A format is recognized by the first sixteen bytes of a file.  Every plain encoder
writes more than that before anything depends on the pixels, except for a length
or two, so what it writes is recognized.
-/

namespace ImageChain.Codec

theorem Kind.detect_ofBytes (bytes : List UInt8) :
    Kind.detect (ofBytes bytes) =
      (Kind.signatures.find? fun signature =>
        Kind.startsWith signature.1 (bytes.take 16)).map (·.2) := by
  simp [Kind.detect, ofBytes, ByteArray.data_extract]

/-- An encoder that refuses some pictures and writes a known signature for the others. -/
theorem Kind.detect_guarded {refused : Prop} [Decidable refused] {written : List UInt8}
    {bytes : ByteArray} {kind : Kind}
    (hwritten : (if refused then none else some (ofBytes written)) = some bytes)
    (hsignature : (Kind.signatures.find? fun signature =>
      Kind.startsWith signature.1 (written.take 16)).map (·.2) = some kind) :
    Kind.detect bytes = some kind := by
  split at hwritten
  · cases hwritten
  · cases hwritten
    rw [Kind.detect_ofBytes, hsignature]

theorem Png.detect_encode {grid : Grid} {bytes : ByteArray}
    (hencode : Png.encode grid = some bytes) : Kind.detect bytes = some .png := by
  simp only [Png.encode, Option.bind_eq_bind, Option.bind_eq_some_iff] at hencode
  obtain ⟨code, -, hwritten⟩ := hencode
  exact Kind.detect_guarded hwritten rfl

theorem Jpeg.detect_encode {raster : Raster (Pixel .rgb8)} {bytes : ByteArray}
    (hencode : Jpeg.encode raster = some bytes) : Kind.detect bytes = some .jpeg := by
  unfold Jpeg.encode at hencode
  exact Kind.detect_guarded hencode rfl

theorem Gif.detect_encode {raster : Raster (Pixel .rgba8)} {bytes : ByteArray}
    (hencode : Gif.encode raster = some bytes) : Kind.detect bytes = some .gif := by
  unfold Gif.encode at hencode
  exact Kind.detect_guarded hencode rfl

/-- The length of the file stands where the signature allows any bytes. -/
theorem Webp.detect_encode {raster : Raster (Pixel .rgba8)} {bytes : ByteArray}
    (hencode : Webp.encode raster = some bytes) : Kind.detect bytes = some .webp := by
  unfold Webp.encode at hencode
  exact Kind.detect_guarded hencode rfl

theorem Avif.detect_encode {raster : Raster (Pixel .rgba8)} {bytes : ByteArray}
    (hencode : Avif.encode raster = some bytes) : Kind.detect bytes = some .avif := by
  unfold Avif.encode at hencode
  exact Kind.detect_guarded hencode rfl

theorem detect_encodeAs {format : Format} {grid : Grid} {bytes : ByteArray}
    (hencode : encodeAs format grid = some bytes) :
    ∃ kind, Kind.detect bytes = some kind ∧ kind.format = some format := by
  cases format with
  | png => exact ⟨.png, Png.detect_encode hencode, rfl⟩
  | jpeg => exact ⟨.jpeg, Jpeg.detect_encode hencode, rfl⟩
  | gif => exact ⟨.gif, Gif.detect_encode hencode, rfl⟩
  | webp => exact ⟨.webp, Webp.detect_encode hencode, rfl⟩
  | avif => exact ⟨.avif, Avif.detect_encode hencode, rfl⟩

theorem encodeAs_of_isEmpty {grid : Grid} (hempty : grid.size.isEmpty = true) {format : Format}
    (hformat : format ≠ .gif) : encodeAs format grid = none := by
  have hrgb : grid.toRgb.size.isEmpty = true := hempty
  have hrgba : grid.toRgba.size.isEmpty = true := hempty
  cases format with
  | jpeg => simp [encodeAs, Jpeg.encode, hrgb]
  | png => simp [encodeAs, Png.encode, hempty]
  | webp => simp [encodeAs, Webp.encode, hrgba]
  | avif => simp [encodeAs, Avif.encode, hrgba]
  | gif => exact absurd rfl hformat

theorem plain_recognize (bytes : ByteArray) :
    Codecs.recognize bytes =
      match Kind.detect bytes with
      | some kind => .ok kind
      | none => .error "The image format could not be determined" := rfl

theorem plain_write (format : Format) (grid : Grid) :
    Codecs.write format grid =
      match encodeAs format grid with
      | some bytes => .ok bytes
      | none => .error ("Format error encoding " ++ format.label) := rfl

instance : LawfulCodecs where
  recognize_empty := ⟨_, rfl⟩
  recognize_write := by
    intro format grid bytes hwrite
    rw [plain_write] at hwrite
    split at hwrite
    · next found hfound =>
        cases hwrite
        obtain ⟨kind, hdetect, hformat⟩ := detect_encodeAs hfound
        exact ⟨kind, by rw [plain_recognize, hdetect], hformat⟩
    · cases hwrite
  write_of_isEmpty := by
    intro format grid hempty hformat
    rw [plain_write, encodeAs_of_isEmpty hempty hformat]
    exact ⟨_, rfl⟩

end ImageChain.Codec
