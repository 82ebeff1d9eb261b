import ImageChain.Proofs.Image.PixelChain
import ImageChain.Proofs.Pixel.Placement
import ImageChain.Proofs.Pixel.Places
import ImageChain.Proofs.Pixel.Proportion

/-!
# Fitting and filling a box

What a resize does to an image, whatever the sizes of the image and of the box.

To fit, the sides are rounded to numbers that are still not greater than those of the box.  If one
of them were a pixel greater, the image would be resampled once more by every further step that asks
for the same box; as none is, a second fit finds an image that is small enough and keeps it.

To fill, the sides are rounded to numbers that are still not less than those of the box, and one of
them is met.  So there is something left to cut on one side at most, which is the one that the
program finds by comparing products, and both margins are natural numbers.
-/

namespace ImageChain

variable {source box : Size}

/-- The size of a grid of size `source` that did not fit a box and was made to. -/
structure IsFitted (source box fitted : Size) : Prop where
  /-- Both sides were scaled by the lesser ratio. -/
  rule : IsScaled .fit source box fitted
  /-- One side is that of the box. -/
  meets : Meets source box fitted
  /-- No side is lost. -/
  pos : 1 ≤ fitted.width ∧ 1 ≤ fitted.height
  /-- No side exceeds the box, and none is enlarged. -/
  le : fitted.width ≤ min source.width box.width ∧ fitted.height ≤ min source.height box.height

/-- A grid of size `source` is scaled to cover a box, and the window of the box with this corner is
cut out of the middle. -/
structure IsFilling (source box scaled : Size) (left top : ℕ) : Prop where
  /-- Both sides were scaled by the greater ratio. -/
  rule : IsScaled .fill source box scaled
  /-- One side is that of the box. -/
  meets : Meets source box scaled
  /-- No side is less than that of the box. -/
  covers : box.width ≤ scaled.width ∧ box.height ≤ scaled.height
  /-- The corner is the one that is computed. -/
  corner : cropCorner scaled box = (left, top)
  /-- The window lies inside. -/
  inside : left + box.width ≤ scaled.width ∧ top + box.height ≤ scaled.height
  /-- The window lies in the middle in both directions. -/
  centred : Alignment.middle.Holds scaled.width box.width left ∧
    Alignment.middle.Holds scaled.height box.height top

/-! ## The two rules -/

theorem isFitted_scaledSize (hsource : source.isEmpty = false) (hbox : box.isEmpty = false)
    (hlarge : source.fitsIn box = false) : IsFitted source box (scaledSize id .fit source box) := by
  obtain ⟨hwidth, hheight⟩ := Size.isEmpty_eq_false_iff.mp hsource
  have hscaled := isScaled_scaledSize .fit box hsource
  have hratio := ratio_fit_le_one hsource hlarge
  have hinside := Size.fitsIn_iff.mp (scaledSize_fit_fitsIn hsource hbox)
  refine ⟨hscaled, meets_scaledSize .fit hsource hbox, ⟨hscaled.width.pos, hscaled.height.pos⟩, ?_⟩
  exact ⟨le_min (hscaled.width.le_side hwidth hratio) hinside.1,
    le_min (hscaled.height.le_side hheight hratio) hinside.2⟩

theorem isFilling_scaledSize (hsource : source.isEmpty = false) (hbox : box.isEmpty = false) :
    IsFilling source box (scaledSize id .fill source box)
      (cropCorner (scaledSize id .fill source box) box).1
      (cropCorner (scaledSize id .fill source box) box).2 := by
  have hcovers := fitsIn_scaledSize_fill hsource hbox
  have hmeets := meets_scaledSize .fill hsource hbox
  have hcentred := holds_cropCorner hbox hcovers (hmeets.imp And.left And.left)
  obtain ⟨hwidth, hheight⟩ := Size.fitsIn_iff.mp hcovers
  refine ⟨isScaled_scaledSize .fill box hsource, hmeets, ⟨hwidth, hheight⟩, rfl, ?_, hcentred⟩
  have hacross := hcentred.1.inside (by exact_mod_cast hwidth)
  have hdown := hcentred.2.inside (by exact_mod_cast hheight)
  exact ⟨by exact_mod_cast hacross.2, by exact_mod_cast hdown.2⟩

theorem isEmpty_or_eq_false_iff : (box.isEmpty || source.isEmpty) = false ↔
    0 < box.width ∧ 0 < box.height ∧ 0 < source.width ∧ 0 < source.height := by
  rw [Bool.or_eq_false_iff, Size.isEmpty_eq_false_iff, Size.isEmpty_eq_false_iff, and_assoc]

/-- Whatever is made to fit a box fits it. -/
theorem sizeAfter_fit_fitsIn (source box : Size) :
    ((⟨.fit, box⟩ : Resize).sizeAfter source).fitsIn box = true := by
  dsimp only [Resize.sizeAfter]
  split
  · next hfits => exact hfits
  split
  · exact Size.zero_fitsIn box
  · next hpixels =>
      obtain ⟨hbox, hsource⟩ := Bool.or_eq_false_iff.mp (Bool.eq_false_iff.mpr hpixels)
      exact scaledSize_fit_fitsIn hsource hbox

theorem sizeAfter_fit_of_not_fitsIn (hlarge : source.fitsIn box = false) :
    if 0 < box.width ∧ 0 < box.height ∧ 0 < source.width ∧ 0 < source.height then
      IsFitted source box ((⟨.fit, box⟩ : Resize).sizeAfter source)
    else (⟨.fit, box⟩ : Resize).sizeAfter source = .zero := by
  dsimp only [Resize.sizeAfter]
  rw [if_neg (Bool.eq_false_iff.mp hlarge)]
  split
  · next hpixels =>
      have hempty := isEmpty_or_eq_false_iff.mpr hpixels
      obtain ⟨hbox, hsource⟩ := Bool.or_eq_false_iff.mp hempty
      rw [if_neg (Bool.eq_false_iff.mp hempty)]
      exact isFitted_scaledSize hsource hbox hlarge
  · next hnothing =>
      rw [if_pos (Bool.eq_true_of_not_eq_false (mt isEmpty_or_eq_false_iff.mp hnothing))]

/-! ## What becomes of an image -/

variable {σ : Type} {m : Type → Type} [Monad m] (services : Services σ m)

theorem run_fit_of_fitsIn [Codecs] {image : Image} (hfits : image.size.fitsIn box = true) :
    Step.run services (.resize ⟨.fit, box⟩) image = pure image := by
  have hkeeps : (⟨.fit, box⟩ : Resize).keeps image = true := hfits
  rw [Step.run, Resize.apply, if_pos hkeeps]

/-- An image that fits its box is kept.  Any other one is scaled down until it meets the box, and
nothing is left of it if there is nothing of it or of the box.  Either way it fits from then on. -/
theorem fits_box [Codecs] (hexact : services.rounding = id) (box : Size) (image : Image) :
    ∃ fitted, Step.run services (.resize ⟨.fit, box⟩) image = pure fitted ∧
      (if image.size.width ≤ box.width ∧ image.size.height ≤ box.height then fitted = image
        else if 0 < box.width ∧ 0 < box.height ∧ 0 < image.size.width ∧ 0 < image.size.height then
          IsFitted image.size box fitted.size
        else fitted.size = .zero) ∧
      ∀ wider : Size, box.width ≤ wider.width → box.height ≤ wider.height →
        Step.run services (.resize ⟨.fit, wider⟩) fitted = pure fitted := by
  have hrun : Step.run services (.resize ⟨.fit, box⟩) image =
      pure ((⟨.fit, box⟩ : Resize).apply id image) := by rw [Step.run, hexact]
  have hsize := Resize.size_apply ⟨.fit, box⟩ image
  refine ⟨_, hrun, ?_, fun wider hwidth hheight => ?_⟩
  · split
    · next hfits => exact if_pos (Size.fitsIn_iff.mpr hfits)
    · next hlarge =>
        rw [hsize]
        exact sizeAfter_fit_of_not_fitsIn (Bool.eq_false_iff.mpr (mt Size.fitsIn_iff.mp hlarge))
  · have hfits := sizeAfter_fit_fitsIn image.size box
    rw [← hsize, Size.fitsIn_iff] at hfits
    exact run_fit_of_fitsIn services
      (Size.fitsIn_iff.mpr ⟨hfits.1.trans hwidth, hfits.2.trans hheight⟩)

/-- An image of a thousand columns and one row. -/
def stripe : Image := Image.blank.withGrid ⟨.gray8, .fill ⟨1000, 1⟩ #v[0]⟩

/-- A hundredth of the only row is still a row, and fits when it is asked for again. -/
theorem fits_box_stripe :
    ∃ fitted, Step.run deafServices (.resize ⟨.fit, ⟨10, 7⟩⟩) stripe = pure fitted ∧
      fitted.size = ⟨10, 1⟩ ∧
      Step.run deafServices (.resize ⟨.fit, ⟨12, 7⟩⟩) fitted = pure fitted := by
  obtain ⟨fitted, hrun, hsize, hagain⟩ := fits_box deafServices rfl ⟨10, 7⟩ stripe
  rw [if_neg (by decide), if_pos (by decide)] at hsize
  have hrow : fitted.size.height ≤ 1 := hsize.le.2.trans (min_le_left _ _)
  have hheight : fitted.size.height = 1 := le_antisymm hrow hsize.pos.2
  have hwidth : fitted.size.width = 10 := by
    refine hsize.meets.elim And.left fun hseven => ?_
    exact absurd (hheight.symm.trans hseven.1) (by decide)
  exact ⟨fitted, hrun, congrArg₂ Size.mk hwidth hheight, hagain ⟨12, 7⟩ (by decide) (by decide)⟩

/-- An image is brought to exactly the box by a cut out of its middle, after it has been scaled to
cover the box, and nothing is left of it if there is nothing of it or of the box. -/
theorem fills_box [Codecs] (hexact : services.rounding = id) (box : Size) (image : Image) :
    ∃ grid, Step.run services (.resize ⟨.fill, box⟩) image = pure (image.withGrid grid) ∧
      if 0 < box.width ∧ 0 < box.height ∧ 0 < image.size.width ∧ 0 < image.size.height then
        grid.size = box ∧ ∃ scaled left top, IsFilling image.size box scaled left top ∧
          (image.grid.resample scaled).size = scaled ∧
          grid = (image.grid.resample scaled).crop left top box ∧
          ∀ x y, x < box.width → y < box.height →
            ((image.grid.resample scaled).raster.crop left top box).get? x y =
              (image.grid.resample scaled).raster.get? (left + x) (top + y)
      else grid.size = .zero := by
  have hrun : Step.run services (.resize ⟨.fill, box⟩) image =
      pure (image.withGrid (image.grid.resize id .fill box)) := by
    rw [Step.run, hexact]
    rfl
  refine ⟨_, hrun, ?_⟩
  split
  · next hpixels =>
      have hempty : (box.isEmpty || image.grid.size.isEmpty) = false :=
        isEmpty_or_eq_false_iff.mpr hpixels
      obtain ⟨hbox, hsource⟩ := Bool.or_eq_false_iff.mp hempty
      have hfilling := isFilling_scaledSize hsource hbox
      have hscaled := Grid.size_resample image.grid (scaledSize id .fill image.grid.size box)
      refine ⟨Grid.size_resize_fill hempty, _, _, _, hfilling, hscaled, ?_,
        fun x y hx hy => Raster.get?_crop ?_ ?_ hx hy⟩
      · rw [Grid.resize, if_neg (Bool.eq_false_iff.mp hempty)]
      · exact hfilling.inside.1.trans_eq (congrArg Size.width hscaled).symm
      · exact hfilling.inside.2.trans_eq (congrArg Size.height hscaled).symm
  · next hnothing =>
      exact Grid.size_resize_of_isEmpty
        (Bool.eq_true_of_not_eq_false (mt isEmpty_or_eq_false_iff.mp hnothing))

/-- Five columns and three rows are scaled to three columns and two rows for a square box, of which
the last column is cut off. -/
theorem fills_box_square :
    ∃ grid, Step.run deafServices (.resize ⟨.fill, ⟨2, 2⟩⟩) plainImage =
        pure (plainImage.withGrid grid) ∧
      grid.size = ⟨2, 2⟩ ∧ grid = (plainImage.grid.resample ⟨3, 2⟩).crop 0 0 ⟨2, 2⟩ := by
  obtain ⟨grid, hrun, hgrid⟩ := fills_box deafServices rfl ⟨2, 2⟩ plainImage
  rw [if_pos (by decide)] at hgrid
  obtain ⟨hsize, scaled, left, top, hfilling, -, hcrop, -⟩ := hgrid
  have hratio : ResizeMode.fill.ratio plainImage.size ⟨2, 2⟩ = 2 / 3 := by
    have hfill : ResizeMode.fill.ratio plainImage.size ⟨2, 2⟩ = max (2 / 5 : ℚ) (2 / 3) := rfl
    rw [hfill]
    norm_num
  have hwidth : (scaled.width : ℤ) = 3 := by
    calc (scaled.width : ℤ) = max 1 (round ((5 : ℚ) * (2 / 3))) := hratio ▸ hfilling.rule.width
      _ = 3 := by norm_num
  have hheight : (scaled.height : ℤ) = 2 := by
    calc (scaled.height : ℤ) = max 1 (round ((3 : ℚ) * (2 / 3))) := hratio ▸ hfilling.rule.height
      _ = 2 := by norm_num
  have hscaled : scaled = ⟨3, 2⟩ :=
    congrArg₂ Size.mk (by exact_mod_cast hwidth) (by exact_mod_cast hheight)
  have hcorner := hfilling.corner
  rw [hscaled] at hcorner hcrop
  obtain ⟨rfl, rfl⟩ := Prod.mk.inj hcorner
  exact ⟨grid, hrun, hsize, hcrop⟩

end ImageChain
