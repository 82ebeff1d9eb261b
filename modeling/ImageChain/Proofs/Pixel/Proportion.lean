import Mathlib.Algebra.Order.Round
import Mathlib.Data.Rat.Floor
import Mathlib.Tactic.FieldSimp
import ImageChain.Proofs.Pixel.Scaling

/-!
# The proportions of scaled grids

A size is computed from pairs of natural numbers: quotients are compared crosswise, and a number is
rounded by a division of whole ones.  Here it is said what that comes to in rational numbers.  Both
sides are multiplied by one ratio and rounded to the nearest whole number, and since the ratio is a
quotient with a side of the box on top, that side is met exactly (`meets_scaledSize`).

A grid that does not fit its box has a side greater than that of the box, so the ratio is at most 1
and nothing is enlarged.
-/

namespace ImageChain

variable {mode : ResizeMode} {source box : Size}

/-! ## Fractions as numbers -/

/-- The number that a fraction stands for. -/
def Fraction.value (number : Fraction) : ℚ :=
  number.numerator / number.denominator

theorem Fraction.le_iff {first second : Fraction} (hfirst : 0 < first.denominator)
    (hsecond : 0 < second.denominator) :
    first.le second = true ↔ first.value ≤ second.value := by
  rw [value, value, div_le_div_iff₀ (by exact_mod_cast hfirst) (by exact_mod_cast hsecond), le,
    decide_eq_true_eq]
  norm_cast

theorem Fraction.value_times (number : Fraction) (factor : ℕ) :
    (number.times factor).value = factor * number.value := by
  rw [value, times, value, Nat.cast_mul, mul_comm (number.numerator : ℚ), mul_div_assoc]

-- Both round halves up, which is away from zero for a number that is not negative.
theorem round_value {number : Fraction} (hpos : 0 < number.denominator) :
    (number.round : ℤ) = round number.value := by
  have hne : (number.denominator : ℚ) ≠ 0 := by exact_mod_cast hpos.ne'
  have hhalf : number.value + 1 / 2 =
      ((2 * number.numerator + number.denominator : ℕ) : ℤ) / ((2 * number.denominator : ℕ) : ℚ) := by
    rw [Fraction.value]
    push_cast
    field_simp
  rw [round_eq, hhalf, Rat.floor_intCast_div_natCast, Fraction.round]
  norm_cast

/-! ## Scaled sizes -/

/-- A side is scaled by a ratio and rounded to the nearest whole number, halves away from zero, but
never to nothing. -/
def Proportional (side : ℕ) (ratio : ℚ) (scaled : ℕ) : Prop :=
  (scaled : ℤ) = max 1 (round (side * ratio))

theorem proportional_scaleSide {ratio : Fraction} (hpos : 0 < ratio.denominator) (side : ℕ) :
    Proportional side ratio.value (scaleSide id ratio side) := by
  have htimes : 0 < (ratio.times side).denominator := hpos
  rw [Proportional, scaleSide, id, Nat.cast_max, round_value htimes, Fraction.value_times,
    Nat.cast_one]

theorem Proportional.pos {side scaled : ℕ} {ratio : ℚ} (hscaled : Proportional side ratio scaled) :
    1 ≤ scaled := by
  have hone : (1 : ℤ) ≤ max 1 (round (side * ratio)) := le_max_left _ _
  rw [← hscaled] at hone
  exact_mod_cast hone

/-- A ratio of at most 1 enlarges nothing. -/
theorem Proportional.le_side {side scaled : ℕ} {ratio : ℚ}
    (hscaled : Proportional side ratio scaled) (hside : 0 < side) (hratio : ratio ≤ 1) :
    scaled ≤ side := by
  have hproduct : (side : ℚ) * ratio ≤ side := mul_le_of_le_one_right (Nat.cast_nonneg side) hratio
  have hround : round ((side : ℚ) * ratio) ≤ side := by
    calc round ((side : ℚ) * ratio) = ⌊(side : ℚ) * ratio + 1 / 2⌋ := round_eq _
      _ ≤ ⌊(side : ℚ) + 1 / 2⌋ := Int.floor_le_floor (by gcongr)
      _ = round (side : ℚ) := (round_eq _).symm
      _ = side := round_natCast side
  have hle : (scaled : ℤ) ≤ side := by
    rw [hscaled]
    exact max_le (by exact_mod_cast hside) hround
  exact_mod_cast hle

/-- The ratio by which a grid of size `source` is scaled to a box. -/
def ResizeMode.ratio (mode : ResizeMode) (source box : Size) : ℚ :=
  match mode with
  | .fit => min (box.width / source.width) (box.height / source.height)
  | .fill => max (box.width / source.width) (box.height / source.height)

/-- Both sides of a grid of size `source` are scaled by one ratio. -/
structure IsScaled (mode : ResizeMode) (source box scaled : Size) : Prop where
  /-- The width by the ratio. -/
  width : Proportional source.width (mode.ratio source box) scaled.width
  /-- The height by the same ratio. -/
  height : Proportional source.height (mode.ratio source box) scaled.height

/-- One side of a scaled grid is that of the box, and the other one follows it in proportion. -/
def Meets (source box scaled : Size) : Prop :=
  (scaled.width = box.width ∧
      Proportional source.height (box.width / source.width) scaled.height) ∨
    (scaled.height = box.height ∧
      Proportional source.width (box.height / source.height) scaled.width)

theorem scaleRatio_cases (mode : ResizeMode) (source box : Size) :
    scaleRatio id mode source box = ⟨box.width, source.width⟩ ∨
      scaleRatio id mode source box = ⟨box.height, source.height⟩ := by
  cases mode with
  | fit =>
      simp only [scaleRatio, id, Fraction.min]
      split
      · exact .inl rfl
      · exact .inr rfl
  | fill =>
      simp only [scaleRatio, id, Fraction.max]
      split
      · exact .inr rfl
      · exact .inl rfl

theorem value_scaleRatio (hsource : source.isEmpty = false) :
    (scaleRatio id mode source box).value = mode.ratio source box := by
  obtain ⟨hwidth, hheight⟩ := Size.isEmpty_eq_false_iff.mp hsource
  have hle : (⟨box.width, source.width⟩ : Fraction).le ⟨box.height, source.height⟩ = true ↔
      (box.width / source.width : ℚ) ≤ box.height / source.height := Fraction.le_iff hwidth hheight
  cases mode with
  | fit =>
      simp only [scaleRatio, id, Fraction.min, ResizeMode.ratio]
      split
      · next hfirst => exact (min_eq_left (hle.mp hfirst)).symm
      · next hsecond => exact (min_eq_right (le_of_not_ge (mt hle.mpr hsecond))).symm
  | fill =>
      simp only [scaleRatio, id, Fraction.max, ResizeMode.ratio]
      split
      · next hsecond => exact (max_eq_right (hle.mp hsecond)).symm
      · next hfirst => exact (max_eq_left (le_of_not_ge (mt hle.mpr hfirst))).symm

theorem isScaled_scaledSize (mode : ResizeMode) (box : Size) (hsource : source.isEmpty = false) :
    IsScaled mode source box (scaledSize id mode source box) := by
  obtain ⟨hwidth, hheight⟩ := Size.isEmpty_eq_false_iff.mp hsource
  have hpos : 0 < (scaleRatio id mode source box).denominator := by
    rcases scaleRatio_cases mode source box with hratio | hratio <;> rw [hratio]
    · exact hwidth
    · exact hheight
  constructor <;> rw [← value_scaleRatio hsource]
  · exact proportional_scaleSide hpos source.width
  · exact proportional_scaleSide hpos source.height

theorem meets_scaledSize (mode : ResizeMode) (hsource : source.isEmpty = false)
    (hbox : box.isEmpty = false) : Meets source box (scaledSize id mode source box) := by
  obtain ⟨hwidth, hheight⟩ := Size.isEmpty_eq_false_iff.mp hsource
  obtain ⟨hacross, hdown⟩ := Size.isEmpty_eq_false_iff.mp hbox
  rw [scaledSize]
  rcases scaleRatio_cases mode source box with hratio | hratio <;> rw [hratio]
  · exact .inl ⟨scaleSide_self hwidth hacross, proportional_scaleSide hwidth source.height⟩
  · exact .inr ⟨scaleSide_self hheight hdown, proportional_scaleSide hheight source.width⟩

/-- A grid that does not fit its box is not enlarged. -/
theorem ratio_fit_le_one (hsource : source.isEmpty = false) (hlarge : source.fitsIn box = false) :
    ResizeMode.fit.ratio source box ≤ 1 := by
  obtain ⟨hwidth, hheight⟩ := Size.isEmpty_eq_false_iff.mp hsource
  have hsides : box.width ≤ source.width ∨ box.height ≤ source.height := by
    by_contra hboth
    have hfits : source.fitsIn box = true := Size.fitsIn_iff.mpr (by omega)
    exact Bool.false_ne_true (hlarge.symm.trans hfits)
  rw [ResizeMode.ratio, min_le_iff, div_le_one (by exact_mod_cast hwidth),
    div_le_one (by exact_mod_cast hheight)]
  exact_mod_cast hsides

end ImageChain
