import ImageChain.Resize
import ImageChain.Watermark

/-!
# The sizes of resized grids

With exact arithmetic one side of a scaled grid always comes out as the side of
the box, because the ratio is a quotient with that side on top.  The other side
is rounded from a number on the right side of the other side of the box: not
above it to fit, and not below it to fill.  Rounding keeps an inequality with a
whole number, so a grid that has to fit stays inside its box, and one that has
to fill covers it.  Only then can the middle be cut out in the shape of the box.
-/

namespace ImageChain

namespace Fraction

/-- A number that is at least a whole one is rounded to at least that. -/
theorem le_round {number : Fraction} {n : Nat} (hpos : 0 < number.denominator)
    (hle : n * number.denominator ≤ number.numerator) : n ≤ number.round := by
  unfold round
  rw [Nat.le_div_iff_mul_le (by omega)]
  have htwice : n * (2 * number.denominator) = 2 * (n * number.denominator) := by
    rw [Nat.mul_left_comm]
  omega

/-- A number that is at most a whole one is rounded to at most that. -/
theorem round_le {number : Fraction} {n : Nat} (hpos : 0 < number.denominator)
    (hle : number.numerator ≤ n * number.denominator) : number.round ≤ n := by
  unfold round
  rw [← Nat.lt_succ_iff, Nat.div_lt_iff_lt_mul (by omega)]
  have htwice : n.succ * (2 * number.denominator) =
      2 * (n * number.denominator) + 2 * number.denominator := by
    rw [Nat.succ_mul, Nat.mul_left_comm]
  omega

end Fraction

namespace Size

theorem isEmpty_eq_false_iff {size : Size} :
    size.isEmpty = false ↔ 0 < size.width ∧ 0 < size.height := by
  simp [isEmpty, Nat.pos_iff_ne_zero]

@[simp] theorem isEmpty_zero : zero.isEmpty = true := rfl

theorem fitsIn_iff {size box : Size} :
    size.fitsIn box = true ↔ size.width ≤ box.width ∧ size.height ≤ box.height := by
  simp [fitsIn]

/-- Nothing fits in every box. -/
@[simp] theorem zero_fitsIn (box : Size) : zero.fitsIn box = true :=
  fitsIn_iff.mpr ⟨Nat.zero_le _, Nat.zero_le _⟩

end Size

/-! ## Scaled sides -/

/-- A side times the quotient of a side of the box and itself. -/
theorem scaleSide_self {target side : Nat} (hside : 0 < side) (htarget : 0 < target) :
    scaleSide id ⟨target, side⟩ side = target := by
  have hexact : ((⟨target, side⟩ : Fraction).times side).round = target :=
    Nat.le_antisymm (Fraction.round_le hside (Nat.le_refl _))
      (Fraction.le_round hside (Nat.le_refl _))
  rw [scaleSide, id, hexact]
  exact Nat.max_eq_right htarget

theorem scaleSide_le {target other side least : Nat} (hother : 0 < other) (hleast : 0 < least)
    (hle : target * side ≤ least * other) : scaleSide id ⟨target, other⟩ side ≤ least :=
  Nat.max_le.mpr ⟨hleast, Fraction.round_le hother hle⟩

theorem le_scaleSide {target other side least : Nat} (hother : 0 < other)
    (hle : least * other ≤ target * side) : least ≤ scaleSide id ⟨target, other⟩ side :=
  Nat.le_trans (Fraction.le_round hother hle) (Nat.le_max_right _ _)

/-- To fit, one side becomes that of the box and the other one no greater than that. -/
theorem scaledSize_fit_fitsIn {source box : Size} (hsource : source.isEmpty = false)
    (hbox : box.isEmpty = false) : (scaledSize id .fit source box).fitsIn box = true := by
  obtain ⟨hwidth, hheight⟩ := Size.isEmpty_eq_false_iff.mp hsource
  obtain ⟨hacross, hdown⟩ := Size.isEmpty_eq_false_iff.mp hbox
  rw [Size.fitsIn_iff]
  simp only [scaledSize, scaleRatio, id, Fraction.min, Fraction.le, decide_eq_true_eq]
  split
  · next hle =>
      exact ⟨Nat.le_of_eq (scaleSide_self hwidth hacross), scaleSide_le hwidth hdown hle⟩
  · next hlt =>
      have hle := Nat.le_of_lt (Nat.not_le.mp hlt)
      exact ⟨scaleSide_le hheight hacross hle, Nat.le_of_eq (scaleSide_self hheight hdown)⟩

/-- To fill, one side becomes that of the box and the other one no less than that. -/
theorem fitsIn_scaledSize_fill {source box : Size} (hsource : source.isEmpty = false)
    (hbox : box.isEmpty = false) : box.fitsIn (scaledSize id .fill source box) = true := by
  obtain ⟨hwidth, hheight⟩ := Size.isEmpty_eq_false_iff.mp hsource
  obtain ⟨hacross, hdown⟩ := Size.isEmpty_eq_false_iff.mp hbox
  rw [Size.fitsIn_iff]
  simp only [scaledSize, scaleRatio, id, Fraction.max, Fraction.le, decide_eq_true_eq]
  split
  · next hle =>
      exact ⟨le_scaleSide hheight hle, Nat.le_of_eq (scaleSide_self hheight hdown).symm⟩
  · next hlt =>
      have hle := Nat.le_of_lt (Nat.not_le.mp hlt)
      exact ⟨Nat.le_of_eq (scaleSide_self hwidth hacross).symm, le_scaleSide hwidth hle⟩

/-! ## Sizes of grids -/

@[simp] theorem Grid.size_empty : Grid.empty.size = .zero := rfl

@[simp] theorem Grid.size_resample (grid : Grid) (size : Size) :
    (grid.resample size).size = size := by
  unfold Grid.resample
  split
  · next hsame => exact hsame
  · rfl

theorem Grid.size_crop (grid : Grid) (left top : Nat) (box : Size) :
    (grid.crop left top box).size =
      ⟨min box.width (grid.size.width - min left grid.size.width),
        min box.height (grid.size.height - min top grid.size.height)⟩ := rfl

/-- The middle that is cut out of a grid that covers a box has the size of the box. -/
theorem Grid.size_crop_cropCorner {grid : Grid} {box : Size}
    (hcovers : box.fitsIn grid.size = true) :
    (grid.crop (cropCorner grid.size box).1 (cropCorner grid.size box).2 box).size = box := by
  obtain ⟨hwidth, hheight⟩ := Size.fitsIn_iff.mp hcovers
  obtain ⟨width, height⟩ := box
  rw [Grid.size_crop]
  unfold cropCorner
  split <;> simp only [Size.mk.injEq] <;> simp only at hwidth hheight <;> omega

/-- The size of an image after a resize, with exact arithmetic. -/
def Resize.sizeAfter (resize : Resize) (size : Size) : Size :=
  match resize.mode with
  | .fit =>
    if size.fitsIn resize.box then size
    else if resize.box.isEmpty || size.isEmpty then .zero
    else scaledSize id .fit size resize.box
  | .fill => if resize.box.isEmpty || size.isEmpty then .zero else resize.box

theorem Grid.size_resize_of_isEmpty {grid : Grid} {mode : ResizeMode} {box : Size}
    (hempty : (box.isEmpty || grid.size.isEmpty) = true) :
    (grid.resize id mode box).size = .zero := by
  rw [Grid.resize, if_pos hempty, Grid.size_empty]

theorem Grid.size_resize_fit {grid : Grid} {box : Size}
    (hpixels : (box.isEmpty || grid.size.isEmpty) = false) (hne : grid.size ≠ box) :
    (grid.resize id .fit box).size = scaledSize id .fit grid.size box := by
  rw [Grid.resize, if_neg (Bool.eq_false_iff.mp hpixels)]
  dsimp only
  rw [if_neg hne, Grid.size_resample]

theorem Grid.size_resize_fill {grid : Grid} {box : Size}
    (hpixels : (box.isEmpty || grid.size.isEmpty) = false) :
    (grid.resize id .fill box).size = box := by
  obtain ⟨hbox, hgrid⟩ := Bool.or_eq_false_iff.mp hpixels
  rw [Grid.resize, if_neg (Bool.eq_false_iff.mp hpixels)]
  dsimp only
  have hcovers :
      box.fitsIn (grid.resample (scaledSize id .fill grid.size box)).size = true := by
    rw [Grid.size_resample]
    exact fitsIn_scaledSize_fill hgrid hbox
  have hcrop := Grid.size_crop_cropCorner hcovers
  rwa [Grid.size_resample] at hcrop

theorem Image.size_withGrid (image : Image) (grid : Grid) :
    (image.withGrid grid).size = grid.size := rfl

theorem Resize.size_apply (resize : Resize) (image : Image) :
    (resize.apply id image).size = resize.sizeAfter image.size := by
  obtain ⟨mode, box⟩ := resize
  cases mode with
  | fit =>
      have hkeeps : (⟨.fit, box⟩ : Resize).keeps image = image.size.fitsIn box := rfl
      rw [apply, hkeeps]
      dsimp only [sizeAfter]
      split
      · rfl
      · next hlarge =>
          rw [Image.size_withGrid]
          split
          · next hempty => exact Grid.size_resize_of_isEmpty hempty
          · next hpixels =>
              refine Grid.size_resize_fit (Bool.eq_false_iff.mpr hpixels) fun hsame => hlarge ?_
              rw [Image.size, hsame, Size.fitsIn_iff]
              exact ⟨Nat.le_refl _, Nat.le_refl _⟩
  | fill =>
      have hkeeps : (⟨.fill, box⟩ : Resize).keeps image = false := rfl
      rw [apply, hkeeps]
      dsimp only [sizeAfter]
      rw [if_neg Bool.false_ne_true, Image.size_withGrid]
      split
      · next hempty => exact Grid.size_resize_of_isEmpty hempty
      · next hpixels => exact Grid.size_resize_fill (Bool.eq_false_iff.mpr hpixels)

theorem Watermark.size_apply (watermark : Watermark) (image : Image) :
    (watermark.apply image).size = image.size := rfl

/-- Nothing stays nothing. -/
@[simp] theorem Resize.sizeAfter_zero (resize : Resize) : resize.sizeAfter .zero = .zero := by
  obtain ⟨mode, box⟩ := resize
  cases mode <;> simp [sizeAfter]

end ImageChain
