import ImageChain.Proofs.Image.PixelChain
import ImageChain.Proofs.Pixel.Placement
import ImageChain.Proofs.Pixel.Places

/-!
# Laying a mark over an image

The mark is laid out as a rectangle among the places of the base, and it may begin before the first
column or row and end behind the last one.  A place of the base that is not in the rectangle keeps
its pixel.  In the rectangle there is a pixel of the mark for it, found by subtracting the corner
(`at?_of_covers`), and what becomes of the place is a matter of these two pixels only.

Where the rectangle begins is said by the margins that it leaves on both axes.  They tell whether a
mark hangs over or leaves something of the base uncovered, so this needs no look at the nine
positions any more.
-/

namespace ImageChain

/-- A transparent pixel leaves the one under it as it is. -/
theorem blend_of_alpha_eq_zero {upper : Pixel .rgba8} (halpha : upper.alpha = 0)
    (base : Pixel .rgba8) : blend upper base = base := by
  rw [blend, if_pos halpha]

/-- An opaque pixel hides the one under it. -/
theorem blend_of_alpha_eq_max {upper : Pixel .rgba8} (halpha : upper.alpha = 255)
    (base : Pixel .rgba8) : blend upper base = upper := by
  have hvisible : upper.alpha ≠ 0 := by
    rw [halpha]
    decide
  rw [blend, if_neg hvisible, if_pos halpha]

theorem Grid.exists_toRgba {grid : Grid} {x y : ℕ} (hx : x < grid.size.width)
    (hy : y < grid.size.height) : ∃ pixel, grid.toRgba.get? x y = some pixel :=
  Option.isSome_iff_exists.mp (Raster.isSome_get?.mpr ⟨hx, hy⟩)

namespace Watermark

variable {watermark : Watermark} {base : Size} {x y : ℕ}

/-- Whether a place of a base lies in the rectangle of the mark. -/
def Covers (watermark : Watermark) (base : Size) (x y : ℕ) : Prop :=
  watermark.left base ≤ x ∧ x < watermark.left base + watermark.mark.width ∧
    watermark.top base ≤ y ∧ y < watermark.top base + watermark.mark.height

theorem at?_of_covers (hcovers : watermark.Covers base x y) :
    ∃ upper, watermark.mark.get? (x - watermark.left base).toNat
        (y - watermark.top base).toNat = some upper ∧
      watermark.mark.at? (x - watermark.left base) (y - watermark.top base) = some upper := by
  obtain ⟨hleft, hright, htop, hbottom⟩ := hcovers
  have hplace : (x - watermark.left base).toNat < watermark.mark.width ∧
      (y - watermark.top base).toNat < watermark.mark.height := by omega
  obtain ⟨upper, hupper⟩ := Option.isSome_iff_exists.mp (Raster.isSome_get?.mpr hplace)
  refine ⟨upper, hupper, ?_⟩
  rw [Raster.at?, if_pos (by omega), hupper]

theorem at?_of_not_covers (houtside : ¬watermark.Covers base x y) :
    watermark.mark.at? (x - watermark.left base) (y - watermark.top base) = none := by
  rw [Raster.at?]
  split
  · next hbehind =>
      rw [Raster.get?_eq_none_iff]
      by_contra hinside
      exact houtside ⟨by omega, by omega, by omega, by omega⟩
  · rfl

theorem get?_overlay_of_not_covers (under : Raster (Pixel .rgba8))
    (houtside : ¬watermark.Covers base x y) :
    (under.overlay watermark.mark (watermark.left base) (watermark.top base)).get? x y =
      under.get? x y := by
  rw [Raster.get?_overlay, at?_of_not_covers houtside]
  exact Option.map_id_apply

theorem get?_overlay_of_covers {under : Raster (Pixel .rgba8)} {pixel : Pixel .rgba8}
    (hcovers : watermark.Covers base x y) (hpixel : under.get? x y = some pixel) :
    ∃ upper, watermark.mark.get? (x - watermark.left base).toNat
        (y - watermark.top base).toNat = some upper ∧
      (under.overlay watermark.mark (watermark.left base) (watermark.top base)).get? x y =
        some (blend upper pixel) := by
  obtain ⟨upper, hupper, hat⟩ := at?_of_covers hcovers
  refine ⟨upper, hupper, ?_⟩
  rw [Raster.get?_overlay, hat, hpixel, Option.map_some, Option.elim_some]

/-- Where the rectangle lies, by its margins on both axes. -/
theorem holds_corner (watermark : Watermark) (base : Size) :
    watermark.position.across.Holds base.width watermark.mark.width (watermark.left base) ∧
      watermark.position.down.Holds base.height watermark.mark.height (watermark.top base) :=
  ⟨Position.holds_column _ _ _, Position.holds_row _ _ _⟩

end Watermark

/-! ## What becomes of an image -/

variable {σ : Type} {m : Type → Type} [Monad m] (services : Services σ m)

/-- A mark changes nothing outside of its rectangle.  In it, a transparent pixel of the mark leaves
the base as it is, and an opaque one is seen in place of it. -/
theorem lays_mark [Codecs] (watermark : Watermark) (image : Image) :
    ∃ raster : Raster (Pixel .rgba8),
      Step.run services (.watermark watermark) image =
        pure (image.withGrid ⟨.rgba8, raster⟩) ∧
      raster.size = image.size ∧
      (∀ x y, x < image.size.width → y < image.size.height →
        ∃ pixel, image.grid.toRgba.get? x y = some pixel ∧
          (¬watermark.Covers image.size x y → raster.get? x y = some pixel) ∧
          (watermark.Covers image.size x y →
            ∃ upper, watermark.mark.get? (x - watermark.left image.size).toNat
                (y - watermark.top image.size).toNat = some upper ∧
              (upper.alpha = 0 → raster.get? x y = some pixel) ∧
              (upper.alpha = 255 → raster.get? x y = some upper))) ∧
      (watermark.position.across.Holds image.size.width watermark.mark.width
          (watermark.left image.size) ∧
        watermark.position.down.Holds image.size.height watermark.mark.height
          (watermark.top image.size)) ∧
      (watermark.mark.width ≤ image.size.width → watermark.mark.height ≤ image.size.height →
        0 ≤ watermark.left image.size ∧
          watermark.left image.size + watermark.mark.width ≤ image.size.width ∧
          0 ≤ watermark.top image.size ∧
          watermark.top image.size + watermark.mark.height ≤ image.size.height) ∧
      (image.size.width ≤ watermark.mark.width → image.size.height ≤ watermark.mark.height →
        ∀ x y, x < image.size.width → y < image.size.height →
          watermark.Covers image.size x y) := by
  obtain ⟨hacross, hdown⟩ := watermark.holds_corner image.size
  refine ⟨image.grid.toRgba.overlay watermark.mark (watermark.left image.size)
    (watermark.top image.size), rfl, rfl, fun x y hx hy => ?_, ⟨hacross, hdown⟩,
    fun hwidth hheight => ?_, fun hwidth hheight x y hx hy => ?_⟩
  · obtain ⟨pixel, hpixel⟩ := Grid.exists_toRgba hx hy
    refine ⟨pixel, hpixel, fun houtside => ?_, fun hcovers => ?_⟩
    · exact (Watermark.get?_overlay_of_not_covers _ houtside).trans hpixel
    · obtain ⟨upper, hupper, hlaid⟩ := Watermark.get?_overlay_of_covers hcovers hpixel
      refine ⟨upper, hupper, fun halpha => hlaid.trans ?_, fun halpha => hlaid.trans ?_⟩
      · rw [blend_of_alpha_eq_zero halpha]
      · rw [blend_of_alpha_eq_max halpha]
  · obtain ⟨hleft, hright⟩ := hacross.inside (by exact_mod_cast hwidth)
    obtain ⟨htop, hbottom⟩ := hdown.inside (by exact_mod_cast hheight)
    exact ⟨hleft, hright, htop, hbottom⟩
  · obtain ⟨hleft, hright⟩ := hacross.covers (by exact_mod_cast hwidth)
    obtain ⟨htop, hbottom⟩ := hdown.covers (by exact_mod_cast hheight)
    exact ⟨by omega, by omega, by omega, by omega⟩

/-- A gray image of two columns and two rows. -/
def grayImage : Image :=
  Image.blank.withGrid ⟨.gray8, .generate 2 2 fun x y => #v[(10 * x + y).toUInt8]⟩

/-- A mark of five columns and one row, of which one pixel is transparent. -/
def longMark : Watermark :=
  ⟨.generate 5 1 fun x _ => #v[x.toUInt8, 0, 0, if x = 1 then 0 else 255], .top⟩

/-- The mark hangs over by one column to the left and by two to the right, and the second row is
not under it. -/
theorem lays_mark_overhanging :
    ∃ raster : Raster (Pixel .rgba8),
      Step.run deafServices (.watermark longMark) grayImage =
        pure (grayImage.withGrid ⟨.rgba8, raster⟩) ∧
      raster.get? 0 0 = some #v[0, 0, 0, 255] ∧
      raster.get? 1 0 = some #v[2, 0, 0, 255] ∧
      raster.get? 1 1 = some #v[11, 11, 11, 255] := by
  obtain ⟨raster, hrun, -, hpixels, -⟩ := lays_mark deafServices longMark grayImage
  obtain ⟨first, hfirst, -, hthrough⟩ := hpixels 0 0 (by decide) (by decide)
  obtain ⟨upper, hupper, hkept, -⟩ := hthrough ⟨by decide, by decide, by decide, by decide⟩
  obtain ⟨_, -, -, hcovered⟩ := hpixels 1 0 (by decide) (by decide)
  obtain ⟨upper', hupper', -, hhidden⟩ := hcovered ⟨by decide, by decide, by decide, by decide⟩
  obtain ⟨last, hlast, hbelow, -⟩ := hpixels 1 1 (by decide) (by decide)
  have halpha : upper = #v[1, 0, 0, 0] := Option.some.inj (hupper.symm.trans (by decide))
  have halpha' : upper' = #v[2, 0, 0, 255] := Option.some.inj (hupper'.symm.trans (by decide))
  have houtside : ¬longMark.Covers grayImage.size 1 1 := fun hcovers =>
    absurd hcovers.2.2.2 (by decide)
  refine ⟨raster, hrun, ?_, ?_, ?_⟩
  · rw [hkept (by rw [halpha]; rfl), ← hfirst, Grid.toRgba, Raster.get?_map]
    decide
  · rw [hhidden (by rw [halpha']; rfl), halpha']
  · rw [hbelow houtside, ← hlast, Grid.toRgba, Raster.get?_map]
    decide

end ImageChain
