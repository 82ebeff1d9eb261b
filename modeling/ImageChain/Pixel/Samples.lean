import ImageChain.Pixel.Color

/-!
# Grids as bytes

The samples of a grid can be written one after the other, row by row, the high byte of each sample
first.  With the size and the colour, which has a short tag, the bytes give the grid back.
-/

namespace ImageChain

namespace Color

/-- All colours and their tags. -/
def tags : List (Color × String) := [
  (gray8, "l8"), (grayAlpha8, "la8"), (rgb8, "rgb8"), (rgba8, "rgba8"),
  (gray16, "l16"), (grayAlpha16, "la16"), (rgb16, "rgb16"), (rgba16, "rgba16"),
  (rgb32, "rgb32f"), (rgba32, "rgba32f")]

/-- The tag of a colour. -/
def tag (color : Color) : String :=
  (tags.lookup color).getD ""

/-- The colour with a tag. -/
def ofTag (text : String) : Option Color :=
  (tags.find? fun entry => entry.2 == text).map (·.1)

end Color

namespace Depth

/-- The number of bytes of a sample. -/
def byteCount : Depth → Nat
  | .byte => 1
  | .word => 2
  | .real => 4

/-- The bytes of a sample. -/
def toBytes : (depth : Depth) → depth.Sample → List UInt8
  | .byte, sample => [sample]
  | .word, sample => [(sample >>> 8).toUInt8, sample.toUInt8]
  | .real, sample =>
    let bits := sample.toBits
    [(bits >>> 24).toUInt8, (bits >>> 16).toUInt8, (bits >>> 8).toUInt8, bits.toUInt8]

/-- The sample that bytes from a place on stand for; missing bytes are zero. -/
def ofBytes (data : ByteArray) (place : Nat) (depth : Depth) : depth.Sample :=
  let byte (i : Nat) : UInt32 := (data[place + i]?.getD 0).toUInt32
  match depth with
  | .byte => (byte 0).toUInt8
  | .word => (byte 0 <<< 8 ||| byte 1).toUInt16
  | .real => Float32.ofBits (byte 0 <<< 24 ||| byte 1 <<< 16 ||| byte 2 <<< 8 ||| byte 3)

end Depth

namespace Grid

/-- The grid of a size whose sample in each column, row and channel is given. -/
def ofSamples (color : Color) (size : Size) (sample : Nat → Nat → Nat → color.depth.Sample) : Grid :=
  ⟨color, .generate size.width size.height fun x y => Vector.ofFn fun c => sample x y c.1⟩

/-- The grid of a size whose samples the bytes hold. -/
def ofBytes (color : Color) (size : Size) (data : ByteArray) : Grid :=
  ofSamples color size fun x y c =>
    color.depth.ofBytes data (((y * size.width + x) * color.channels + c) * color.depth.byteCount)

/-- The samples of a grid. -/
def toBytes (grid : Grid) : ByteArray :=
  grid.raster.cells.foldl (fun data pixel =>
    pixel.toArray.foldl (fun data sample =>
      (grid.color.depth.toBytes sample).foldl ByteArray.push data) data) .empty

end Grid

end ImageChain
