import ImageChain.Pixel.Color

/-!
# Conversions between colours

Every grid can be shown with bytes for red, green and blue, with or without alpha.  Gray becomes
three equal samples, and a pixel without alpha is opaque.
-/

namespace ImageChain

/-- A sample as a byte, rounded to the nearest. -/
def Depth.toByte : (depth : Depth) → depth.Sample → UInt8
  | .byte, sample => sample
  | .word, sample => ((sample.toNat + 128) / 257).toUInt8
  | .real, sample =>
    let share : Float32 := if sample < 1.0 then (if sample < 0.0 then 0.0 else sample) else 1.0
    (share * 255.0).round.toUInt8

namespace Grid

/-- The red, green, blue and alpha bytes of a pixel. -/
def pixelToRgba : (color : Color) → Pixel color → Pixel .rgba8
  | .gray8, p | .gray16, p =>
    let gray := Depth.toByte _ p[0]
    #v[gray, gray, gray, 255]
  | .grayAlpha8, p | .grayAlpha16, p =>
    let gray := Depth.toByte _ p[0]
    #v[gray, gray, gray, Depth.toByte _ p[1]]
  | .rgb8, p | .rgb16, p | .rgb32, p =>
    (p.map (Depth.toByte _)).push 255
  | .rgba8, p | .rgba16, p | .rgba32, p =>
    p.map (Depth.toByte _)

/-- The red, green and blue bytes of a pixel. -/
def pixelToRgb (color : Color) (p : Pixel color) : Pixel .rgb8 :=
  (pixelToRgba color p).pop

/-- The pixels of a grid as red, green, blue and alpha bytes. -/
def toRgba (grid : Grid) : Raster (Pixel .rgba8) :=
  grid.raster.map (pixelToRgba grid.color)

/-- The pixels of a grid as red, green and blue bytes. -/
def toRgb (grid : Grid) : Raster (Pixel .rgb8) :=
  grid.raster.map (pixelToRgb grid.color)

end Grid

end ImageChain
