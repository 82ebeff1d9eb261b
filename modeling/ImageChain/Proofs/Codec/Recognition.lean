import ImageChain.Codec.Codec

/-!
# Encodings tell their format

A decoder learns the format of a file from how it begins.  Lawful codecs recognize
what they have written, and nothing in no bytes, so neither an encoding nor a file
that can be decoded is empty.  A grid without pixels has no encoding, except as
GIF.

The laws are about grids in the colour of their format.  Taking a grid to that
colour is in the way only as far as its size goes, which stays as it is.
-/

namespace ImageChain

@[simp] theorem Grid.size_takenBy (format : Format) (grid : Grid) :
    (grid.takenBy format).size = grid.size := by
  cases format <;> rfl

namespace Codec

variable [Codecs]

theorem recognize_of_decode {bytes : ByteArray} {decoded : Format × Grid}
    (hdecode : decode bytes = .ok decoded) : ∃ kind, Codecs.recognize bytes = .ok kind := by
  unfold decode at hdecode
  split at hdecode
  · cases hdecode
  · next kind hrecognize => exact ⟨kind, hrecognize⟩

theorem write_of_encode {grid : Grid} {format : Format} {bytes : ByteArray}
    (hencode : encode grid format = .ok bytes) :
    Codecs.write format (grid.takenBy format) = .ok bytes := by
  unfold encode at hencode
  split at hencode
  · next found hfound =>
      cases hencode
      exact hfound
  · cases hencode

variable [LawfulCodecs]

theorem ne_empty_of_recognize {bytes : ByteArray} {kind : Kind}
    (hrecognize : Codecs.recognize bytes = .ok kind) : bytes ≠ .empty := by
  rintro rfl
  obtain ⟨reason, hnothing⟩ := LawfulCodecs.recognize_empty
  cases hnothing.symm.trans hrecognize

/-- What can be decoded is recognized, and so it is not empty. -/
theorem ne_empty_of_decode {bytes : ByteArray} {decoded : Format × Grid}
    (hdecode : decode bytes = .ok decoded) : bytes ≠ .empty := by
  obtain ⟨kind, hrecognize⟩ := recognize_of_decode hdecode
  exact ne_empty_of_recognize hrecognize

/-- **Every encoding is recognized as one in its format.** -/
theorem recognize_of_encode {grid : Grid} {format : Format} {bytes : ByteArray}
    (hencode : encode grid format = .ok bytes) :
    ∃ kind, Codecs.recognize bytes = .ok kind ∧ kind.format = some format :=
  LawfulCodecs.recognize_write (write_of_encode hencode)

theorem ne_empty_of_encode {grid : Grid} {format : Format} {bytes : ByteArray}
    (hencode : encode grid format = .ok bytes) : bytes ≠ .empty := by
  obtain ⟨kind, hrecognize, -⟩ := recognize_of_encode hencode
  exact ne_empty_of_recognize hrecognize

theorem encode_of_isEmpty {grid : Grid} (hempty : grid.size.isEmpty = true) {format : Format}
    (hformat : format ≠ .gif) : ∃ reason, encode grid format = .error (.codec reason) := by
  have hsize : (grid.takenBy format).size.isEmpty = true := by rwa [Grid.size_takenBy]
  obtain ⟨reason, hwrite⟩ := LawfulCodecs.write_of_isEmpty hsize hformat
  exact ⟨reason, by rw [encode, hwrite]⟩

end Codec

end ImageChain
