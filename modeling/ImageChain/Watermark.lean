import ImageChain.Image
import ImageChain.Pixel.Overlay
import ImageChain.Pixel.Position
import ImageChain.Pixel.Rotate

/-!
# Watermarks

A watermark is a mark with a position.  The mark is turned once, when the watermark is made, and
then laid over every image.
-/

namespace ImageChain

/-- A mark with a position. -/
structure Watermark where
  /-- The mark, turned already. -/
  mark : Raster (Pixel .rgba8)
  /-- Where it is placed. -/
  position : Position

namespace Watermark

/-- The watermark of a mark that is turned first. -/
def make (mark : Grid) (position : Position) (turn : Turn) : Watermark :=
  ⟨mark.toRgba.rotate turn, position⟩

/-- The column in which the mark begins on a base of a size. -/
def left (watermark : Watermark) (base : Size) : Int :=
  watermark.position.column base.width watermark.mark.width

/-- The row in which the mark begins on a base of a size. -/
def top (watermark : Watermark) (base : Size) : Int :=
  watermark.position.row base.height watermark.mark.height

/-- The base with the mark over it. -/
def layOver (watermark : Watermark) (base : Grid) : Grid :=
  let corner := (watermark.left base.size, watermark.top base.size)
  ⟨.rgba8, base.toRgba.overlay watermark.mark corner.1 corner.2⟩

/-- The image with the mark over it. -/
def apply (watermark : Watermark) (image : Image) : Image :=
  image.withGrid (watermark.layOver image.grid)

/-- The name of the step that lays the mark over an image. -/
def name (watermark : Watermark) : String :=
  "watermark/" ++ watermark.position.name

end Watermark

end ImageChain
