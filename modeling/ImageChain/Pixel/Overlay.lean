import ImageChain.Pixel.Color

/-!
# Laying one raster over another

The pixels of a mark are blended over those of its base where both have one.  A transparent pixel
of the mark leaves the base as it is, and an opaque one hides it.
-/

namespace ImageChain

/-- A byte as a share of the greatest one. -/
def share (sample : UInt8) : Float32 :=
  sample.toNat.toFloat32 / 255.0

/-- A share as a byte, rounded down. -/
def unshare (value : Float32) : UInt8 :=
  (255.0 * value).toUInt8

/-- A half-transparent pixel blended over another one. -/
def blendShares (top base : Pixel .rgba8) : Pixel .rgba8 :=
  let topAlpha := share top.alpha
  let baseAlpha := share base.alpha
  let alpha := baseAlpha + topAlpha - baseAlpha * topAlpha
  if alpha == 0.0 then base
  else
    let mix (t b : UInt8) : UInt8 :=
      unshare ((share t * topAlpha + (share b * baseAlpha) * (1.0 - topAlpha)) / alpha)
    #v[mix top.red base.red, mix top.green base.green, mix top.blue base.blue, unshare alpha]

/-- One pixel laid over another one. -/
def blend (top base : Pixel .rgba8) : Pixel .rgba8 :=
  if top.alpha = 0 then base
  else if top.alpha = 255 then top
  else blendShares top base

namespace Raster

/-- The value of a raster in a place that may lie outside of it. -/
def at? {α : Type} (raster : Raster α) (x y : Int) : Option α :=
  if 0 ≤ x ∧ 0 ≤ y then raster.get? x.toNat y.toNat else none

/-- A mark laid over its base with its corner in column `left` of row `top`. -/
def overlay (base mark : Raster (Pixel .rgba8)) (left top : Int) : Raster (Pixel .rgba8) where
  width := base.width
  height := base.height
  cells := base.cells.mapFinIdx fun i pixel _ =>
    match mark.at? ((i % base.width : Nat) - left) ((i / base.width : Nat) - top) with
    | some upper => blend upper pixel
    | none => pixel
  complete := by rw [Array.size_mapFinIdx, base.complete]

end Raster

end ImageChain
