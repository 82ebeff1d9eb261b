import ImageChain.Pixel.Fraction
import ImageChain.Pixel.Resample

/-!
# Fitting and filling

A grid is scaled by one ratio in both directions.  To fit a box, the ratio is the greatest one with
which it stays inside; to fill a box, it is the least one with which it covers the box, and what
sticks out is cut off evenly on both sides.
-/

namespace ImageChain

/-- How a grid is brought to a box. -/
inductive ResizeMode where
  /-- It stays inside the box. -/
  | fit
  /-- It covers the box exactly. -/
  | fill
  deriving DecidableEq, Repr

namespace ResizeMode

/-- The task word of a mode. -/
def taskWord : ResizeMode → String
  | fit => "fitResize"
  | fill => "fillResize"

/-- The name of a mode shown to a developer. -/
def label : ResizeMode → String
  | fit => "Fit"
  | fill => "Fill"

end ResizeMode

/-- The greatest width or height a resize may ask for. -/
def greatestSide : Nat := 16384

/-- How a machine rounds the numbers it computes sizes with. -/
abbrev Rounding := Fraction → Fraction

/-- The ratio by which a grid of size `source` is scaled to a box. -/
def scaleRatio (rounding : Rounding) (mode : ResizeMode) (source box : Size) : Fraction :=
  let across := rounding ⟨box.width, source.width⟩
  let down := rounding ⟨box.height, source.height⟩
  match mode with
  | .fit => across.min down
  | .fill => across.max down

/-- A side scaled by a ratio: rounded, but never to nothing. -/
def scaleSide (rounding : Rounding) (ratio : Fraction) (side : Nat) : Nat :=
  max 1 (rounding (ratio.times side)).round

/-- The size to which a grid of size `source` is scaled for a box. -/
def scaledSize (rounding : Rounding) (mode : ResizeMode) (source box : Size) : Size :=
  let ratio := scaleRatio rounding mode source box
  ⟨scaleSide rounding ratio source.width, scaleSide rounding ratio source.height⟩

/-- The column and the row at which the middle of a scaled grid begins that has the shape of a
box. -/
def cropCorner (scaled box : Size) : Nat × Nat :=
  if scaled.width * box.height < box.width * scaled.height then
    (0, (scaled.height - box.height) / 2)
  else ((scaled.width - box.width) / 2, 0)

/-- A grid brought to a box.  Without a box or without pixels nothing is left. -/
def Grid.resize (grid : Grid) (rounding : Rounding) (mode : ResizeMode) (box : Size) : Grid :=
  if box.isEmpty || grid.size.isEmpty then .empty
  else
    let scaled := scaledSize rounding mode grid.size box
    match mode with
    | .fit => if grid.size = box then grid else grid.resample scaled
    | .fill =>
      let corner := cropCorner scaled box
      (grid.resample scaled).crop corner.1 corner.2 box

end ImageChain
