import ImageChain.Pixel.Color

/-!
# Turning a raster

A raster is turned counter-clockwise by any angle.  Quarter turns only move pixels.  Any other
angle slants the raster on a canvas that is large enough for it, interpolates its pixels, and
leaves the rest transparent.
-/

namespace ImageChain

/-- An angle, counter-clockwise. -/
inductive Turn where
  /-- A number of quarter turns. -/
  | quarters (count : Fin 4)
  /-- A number of degrees between 0 and 360 that is no multiple of 90. -/
  | slanted (degrees : Float)

/-! A finite number of degrees is a whole number times a power of two, with a sign. -/
namespace Angle

/-- Whether the sign of a number of degrees is a minus. -/
def isNegative (degrees : Float) : Bool :=
  degrees.toBits >>> 63 == 1

/-- The exponent of a number of degrees as it is stored. -/
def biased (degrees : Float) : Nat :=
  ((degrees.toBits >>> 52) &&& 0x7FF).toNat

/-- The whole number. -/
def significand (degrees : Float) : Nat :=
  let fraction := (degrees.toBits &&& 0xFFFFFFFFFFFFF).toNat
  if biased degrees = 0 then fraction else fraction + (1 <<< 52)

/-- The exponent of the power of two. -/
def exponent (degrees : Float) : Int :=
  (max (biased degrees) 1 : Nat) - 1075

/-- A magnitude with the sign of a number of degrees. -/
def signed (degrees magnitude : Float) : Float :=
  if isNegative degrees then -magnitude else magnitude

/-- The remainder of a finite number of degrees after whole turns, with the sign of the number.
It is exact: less than a turn is its own remainder, and more leaves whole degrees and so few binary
places that both are kept. -/
def remainder (degrees : Float) : Float :=
  match exponent degrees with
  | .ofNat n => signed degrees (significand degrees <<< n % 360).toFloat
  | .negSucc n =>
    let one := 1 <<< (n + 1)
    if significand degrees < 360 * one then degrees
    else
      let rest := significand degrees % (360 * one)
      signed degrees ((rest / one).toFloat + (rest % one).toFloat / one.toFloat)

/-- A remainder after whole turns, brought to at least 0. -/
def ofRemainder (rest : Float) : Float :=
  if rest < 0.0 then rest + 360.0 else rest

/-- A number of degrees brought between 0 and 360. -/
def normalize (degrees : Float) : Float :=
  if degrees.isFinite then ofRemainder (remainder degrees) else 0.0 / 0.0

end Angle

namespace Turn

/-- No turn at all. -/
def none : Turn := quarters 0

/-- The turn by an angle, of which is known whether it is a certain whole number of degrees.
Any angle that is no multiple of 90 is slanted. -/
def ofAngle (is : Nat → Bool) (other : Turn) : Turn :=
  if is 0 then quarters 0
  else if is 90 then quarters 1
  else if is 180 then quarters 2
  else if is 270 then quarters 3
  else other

/-- The turn by a number of degrees. -/
def ofDegrees (degrees : Float) : Turn :=
  let normalized := Angle.normalize degrees
  ofAngle (fun whole => normalized == whole.toFloat) (slanted normalized)

end Turn

namespace Slant

/-- The ratio of a circle's circumference to its diameter. -/
def pi : Float := 3.141592653589793

/-- A number of degrees in radians. -/
def radians (degrees : Float) : Float :=
  degrees * (pi / 180.0)

/-- The least whole number of pixels that covers a length. -/
def pixels (length : Float) : Nat :=
  length.ceil.toUInt32.toNat

/-- The size of the canvas on which a raster of a size can be slanted. -/
def canvasSize (size : Size) (angle : Float) : Size :=
  let width := size.width.toFloat
  let height := size.height.toFloat
  ⟨max (pixels (width * angle.cos.abs + height * angle.sin.abs)) size.width,
    max (pixels (width * angle.sin.abs + height * angle.cos.abs)) size.height⟩

/-- A three by three matrix, row by row. -/
abbrev Matrix := Vector Float32 9

/-- The product of two matrices. -/
def multiply (first second : Matrix) : Matrix :=
  Vector.ofFn fun place =>
    let row := 3 * (place.1 / 3)
    let column := place.1 % 3
    let term (i : Nat) : Float32 :=
      (first[row + i]?).getD 0.0 * (second[3 * i + column]?).getD 0.0
    term 0 + term 1 + term 2

/-- The matrix that moves points. -/
def translation (x y : Float32) : Matrix :=
  #v[1.0, 0.0, x, 0.0, 1.0, y, 0.0, 0.0, 1.0]

/-- The matrix that takes a point of the slanted canvas back to the upright one. -/
def backward (size : Size) (angle : Float32) : Matrix :=
  let centreX := size.width.toFloat32 / 2.0
  let centreY := size.height.toFloat32 / 2.0
  let sine := angle.sin
  let cosine := angle.cos
  let turn : Matrix := #v[cosine, sine, 0.0, -sine, cosine, 0.0, 0.0, 0.0, 1.0]
  multiply (translation centreX centreY) (multiply turn (translation (-centreX) (-centreY)))

/-- Two pixels mixed, of which the second one has the given weight; samples are rounded down. -/
def mix (weight : Float32) (first second : Pixel .rgba8) : Pixel .rgba8 :=
  first.zipWith (fun u v =>
    ((1.0 - weight) * u.toNat.toFloat32 + weight * v.toNat.toFloat32).toUInt8) second

/-- The pixel of a raster at a point between four pixels; a point too near the edge has none. -/
def sample (raster : Raster (Pixel .rgba8)) (x y : Float32) : Pixel .rgba8 :=
  let left := x.floor
  let top := y.floor
  if left ≥ 0.0 && left + 1.0 < raster.width.toFloat32 &&
      top ≥ 0.0 && top + 1.0 < raster.height.toFloat32 then
    let column := left.toUInt32.toNat
    let row := top.toUInt32.toNat
    let pixel (dx dy : Nat) : Pixel .rgba8 :=
      (raster.get? (column + dx) (row + dy)).getD .transparent
    mix (y - top) (mix (x - left) (pixel 0 0) (pixel 1 0)) (mix (x - left) (pixel 0 1) (pixel 1 1))
  else .transparent

/-- A raster in the middle of a transparent canvas. -/
def onCanvas (raster : Raster (Pixel .rgba8)) (canvas : Size) : Raster (Pixel .rgba8) :=
  let left := (canvas.width - raster.width) / 2
  let top := (canvas.height - raster.height) / 2
  .generate canvas.width canvas.height fun x y =>
    if left ≤ x && top ≤ y then (raster.get? (x - left) (y - top)).getD .transparent
    else .transparent

/-- A raster slanted by a number of degrees. -/
def slant (raster : Raster (Pixel .rgba8)) (degrees : Float) : Raster (Pixel .rgba8) :=
  let angle := radians degrees
  let size := canvasSize raster.size angle
  let canvas := onCanvas raster size
  let matrix := backward size (-angle).toFloat32
  .generate size.width size.height fun x y =>
    let px := matrix[0] * x.toFloat32 + matrix[1] * y.toFloat32 + matrix[2]
    let py := matrix[3] * x.toFloat32 + matrix[4] * y.toFloat32 + matrix[5]
    sample canvas px py

end Slant

/-- A raster turned counter-clockwise. -/
def Raster.rotate (raster : Raster (Pixel .rgba8)) : Turn → Raster (Pixel .rgba8)
  | .quarters 0 => raster
  | .quarters 1 => raster.quarterTurn
  | .quarters 2 => raster.halfTurn
  | .quarters 3 => raster.clockwiseTurn
  | .slanted degrees => Slant.slant raster degrees

end ImageChain
