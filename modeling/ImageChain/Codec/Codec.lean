import ImageChain.Codec.Kind
import ImageChain.Pixel.Convert

/-!
# Decoding and encoding

The bytes of an encoded image tell their format themselves.  What recognizes, reads and writes files
is a parameter, so that what is proved of a chain holds with any codecs.  The few statements that do
depend on them are about `LawfulCodecs`.

A grid is encoded in its own colour if the format can hold it: JPEG has no alpha, PNG keeps the
colour, and every other format takes red, green, blue and alpha bytes.
-/

namespace ImageChain

/-- What reads and writes files, or tells why it can not. -/
class Codecs where
  /-- The file format of some bytes, told by how they begin. -/
  recognize : ByteArray → Except String Codec.Kind
  /-- The grid that bytes of a format hold. -/
  read : Format → ByteArray → Except String Grid
  /-- The bytes of a format that hold a grid. -/
  write : Format → Grid → Except String ByteArray

/-- Codecs that recognize their own files, none of which is without pixels unless it is a GIF. -/
class LawfulCodecs [Codecs] : Prop where
  /-- Nothing is recognized in no bytes. -/
  recognize_empty : ∃ reason, Codecs.recognize .empty = .error reason
  /-- What is written in a format is recognized as being in it. -/
  recognize_write : ∀ {format : Format} {grid : Grid} {bytes : ByteArray},
    Codecs.write format grid = .ok bytes →
      ∃ kind, Codecs.recognize bytes = .ok kind ∧ kind.format = some format
  /-- No format but GIF holds a grid without pixels. -/
  write_of_isEmpty : ∀ {format : Format} {grid : Grid}, grid.size.isEmpty = true →
    format ≠ .gif → ∃ reason, Codecs.write format grid = .error reason

/-- The grid in the colour in which a format takes it. -/
def Grid.takenBy (format : Format) (grid : Grid) : Grid :=
  match format with
  | .jpeg => ⟨.rgb8, grid.toRgb⟩
  | .png => grid
  | .webp | .avif | .gif => ⟨.rgba8, grid.toRgba⟩

namespace Codec

variable [Codecs]

/-- The grid that encoded bytes hold, and their format. -/
def decode (bytes : ByteArray) : Except Failure (Format × Grid) :=
  match Codecs.recognize bytes with
  | .error reason => .error (.codec reason)
  | .ok kind =>
    match kind.format with
    | none => .error (.backend ("Unsupported image format: " ++ kind.name))
    | some format =>
      match Codecs.read format bytes with
      | .ok grid => .ok (format, grid)
      | .error reason => .error (.codec reason)

/-- The encoding of a grid. -/
def encode (grid : Grid) (format : Format) : Except Failure ByteArray :=
  match Codecs.write format (grid.takenBy format) with
  | .ok bytes => .ok bytes
  | .error reason => .error (.codec reason)

end Codec

end ImageChain
