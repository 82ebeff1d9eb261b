import ImageChain.Pixel.Raster

/-!
# Colours and grids

A grid is a raster of pixels of one colour.  A colour says how many samples a pixel has and of what
type they are, so the pixels of a grid have the type that its colour asks for.
-/

namespace ImageChain

/-- The type of the samples of a pixel. -/
inductive Depth where
  /-- Bytes. -/
  | byte
  /-- Words of 16 bits. -/
  | word
  /-- Single-precision numbers, of which 0 is none and 1 is all. -/
  | real
  deriving DecidableEq, Repr

/-- The samples of a depth. -/
abbrev Depth.Sample : Depth → Type
  | .byte => UInt8
  | .word => UInt16
  | .real => Float32

/-- What the samples of a pixel stand for. -/
inductive Layout where
  | gray
  | grayAlpha
  | rgb
  | rgba
  deriving DecidableEq, Repr

/-- The number of samples of a pixel. -/
abbrev Layout.channels : Layout → Nat
  | .gray => 1
  | .grayAlpha => 2
  | .rgb => 3
  | .rgba => 4

/-- A kind of pixel. -/
inductive Color where
  | gray8
  | grayAlpha8
  | rgb8
  | rgba8
  | gray16
  | grayAlpha16
  | rgb16
  | rgba16
  | rgb32
  | rgba32
  deriving DecidableEq, Repr

namespace Color

/-- The type of the samples. -/
abbrev depth : Color → Depth
  | gray8 | grayAlpha8 | rgb8 | rgba8 => .byte
  | gray16 | grayAlpha16 | rgb16 | rgba16 => .word
  | rgb32 | rgba32 => .real

/-- What the samples stand for. -/
abbrev layout : Color → Layout
  | gray8 | gray16 => .gray
  | grayAlpha8 | grayAlpha16 => .grayAlpha
  | rgb8 | rgb16 | rgb32 => .rgb
  | rgba8 | rgba16 | rgba32 => .rgba

/-- The number of samples of a pixel. -/
abbrev channels (color : Color) : Nat := color.layout.channels

end Color

/-- A pixel of a colour. -/
abbrev Pixel (color : Color) : Type := Vector color.depth.Sample color.channels

namespace Pixel

/-- The pixel that shows nothing. -/
def transparent : Pixel .rgba8 := #v[0, 0, 0, 0]

/-- How red a pixel is. -/
def red (pixel : Pixel .rgba8) : UInt8 := pixel[0]

/-- How green a pixel is. -/
def green (pixel : Pixel .rgba8) : UInt8 := pixel[1]

/-- How blue a pixel is. -/
def blue (pixel : Pixel .rgba8) : UInt8 := pixel[2]

/-- How much a pixel hides of what is under it. -/
def alpha (pixel : Pixel .rgba8) : UInt8 := pixel[3]

end Pixel

/-- A raster of pixels. -/
structure Grid where
  /-- The colour of every pixel. -/
  color : Color
  /-- The pixels. -/
  raster : Raster (Pixel color)

namespace Grid

/-- The number of columns. -/
def width (grid : Grid) : Nat := grid.raster.width

/-- The number of rows. -/
def height (grid : Grid) : Nat := grid.raster.height

/-- The size of a grid. -/
def size (grid : Grid) : Size := grid.raster.size

/-- The grid without any pixel. -/
def empty : Grid := ⟨.rgba8, .empty⟩

/-- The part of a grid of at most `box` that starts in column `left` of row `top`. -/
def crop (grid : Grid) (left top : Nat) (box : Size) : Grid :=
  ⟨grid.color, grid.raster.crop left top box⟩

end Grid

end ImageChain
