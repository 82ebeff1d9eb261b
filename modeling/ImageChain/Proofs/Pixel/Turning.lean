import Mathlib.Algebra.Group.End
import Mathlib.Algebra.Ring.Int.Parity
import Mathlib.Data.Multiset.Defs
import ImageChain.Proofs.Pixel.Degrees
import ImageChain.Proofs.Pixel.Places

/-!
# Quarter turns

A quarter turn takes every value to another place and back after four of them.
As the clockwise turn undoes it, it is a permutation of all rasters, and any
whole number of quarter turns is one of its powers (`rotate_ofQuarters`).  That
is why the turns compose as their angles add: the four cases of the program are
the four powers there are, so nothing has to be said about two turns in a row
that is not said about powers.

What does not depend on the order of places is kept by one turn, and so by all
of them: `values_zpow` says it for the values of a raster.
-/

namespace ImageChain.Raster

variable {α : Type}

/-! ## One turn -/

theorem get?_quarterTurn {raster : Raster α} {x y : Nat} (hx : x < raster.height)
    (hy : y < raster.width) :
    raster.quarterTurn.get? x y = raster.get? (raster.width - 1 - y) x :=
  get?_pull hx hy

theorem get?_halfTurn {raster : Raster α} {x y : Nat} (hx : x < raster.width)
    (hy : y < raster.height) :
    raster.halfTurn.get? x y = raster.get? (raster.width - 1 - x) (raster.height - 1 - y) :=
  get?_pull hx hy

theorem get?_clockwiseTurn {raster : Raster α} {x y : Nat} (hx : x < raster.height)
    (hy : y < raster.width) :
    raster.clockwiseTurn.get? x y = raster.get? y (raster.height - 1 - x) :=
  get?_pull hx hy

/-! ## Two turns in a row -/

theorem mirror_lt {side place : Nat} (hplace : place < side) : side - 1 - place < side := by
  omega

theorem mirror_mirror {side place : Nat} (hplace : place < side) :
    side - 1 - (side - 1 - place) = place := by
  omega

theorem quarterTurn_quarterTurn (raster : Raster α) :
    raster.quarterTurn.quarterTurn = raster.halfTurn := by
  refine eq_of_get? rfl rfl fun x y (hx : x < raster.width) (hy : y < raster.height) => ?_
  have hturned : x < raster.quarterTurn.height := hx
  calc raster.quarterTurn.quarterTurn.get? x y
      = raster.quarterTurn.get? (raster.height - 1 - y) x := get?_quarterTurn hturned hy
    _ = raster.get? (raster.width - 1 - x) (raster.height - 1 - y) :=
        get?_quarterTurn (mirror_lt hy) hx
    _ = raster.halfTurn.get? x y := (get?_halfTurn hx hy).symm

theorem halfTurn_halfTurn (raster : Raster α) : raster.halfTurn.halfTurn = raster := by
  refine eq_of_get? rfl rfl fun x y (hx : x < raster.width) (hy : y < raster.height) => ?_
  have hturned : x < raster.halfTurn.width := hx
  calc raster.halfTurn.halfTurn.get? x y
      = raster.halfTurn.get? (raster.width - 1 - x) (raster.height - 1 - y) :=
        get?_halfTurn hturned hy
    _ = raster.get? (raster.width - 1 - (raster.width - 1 - x))
          (raster.height - 1 - (raster.height - 1 - y)) :=
        get?_halfTurn (mirror_lt hx) (mirror_lt hy)
    _ = raster.get? x y := by rw [mirror_mirror hx, mirror_mirror hy]

theorem clockwiseTurn_quarterTurn (raster : Raster α) :
    raster.quarterTurn.clockwiseTurn = raster := by
  refine eq_of_get? rfl rfl fun x y (hx : x < raster.width) (hy : y < raster.height) => ?_
  have hturned : x < raster.quarterTurn.height := hx
  calc raster.quarterTurn.clockwiseTurn.get? x y
      = raster.quarterTurn.get? y (raster.width - 1 - x) := get?_clockwiseTurn hturned hy
    _ = raster.get? (raster.width - 1 - (raster.width - 1 - x)) y :=
        get?_quarterTurn hy (mirror_lt hx)
    _ = raster.get? x y := by rw [mirror_mirror hx]

theorem quarterTurn_clockwiseTurn (raster : Raster α) :
    raster.clockwiseTurn.quarterTurn = raster := by
  refine eq_of_get? rfl rfl fun x y (hx : x < raster.width) (hy : y < raster.height) => ?_
  have hturned : x < raster.clockwiseTurn.height := hx
  calc raster.clockwiseTurn.quarterTurn.get? x y
      = raster.clockwiseTurn.get? (raster.height - 1 - y) x := get?_quarterTurn hturned hy
    _ = raster.get? x (raster.height - 1 - (raster.height - 1 - y)) :=
        get?_clockwiseTurn (mirror_lt hy) hx
    _ = raster.get? x y := by rw [mirror_mirror hy]

/-! ## The powers of a turn -/

/-- The quarter turn as a permutation of all rasters. -/
def quarterTurns : Equiv.Perm (Raster α) where
  toFun := quarterTurn
  invFun := clockwiseTurn
  left_inv := clockwiseTurn_quarterTurn
  right_inv := quarterTurn_clockwiseTurn

theorem quarterTurns_sq (raster : Raster α) :
    (quarterTurns ^ (2 : ℤ)) raster = raster.halfTurn :=
  quarterTurn_quarterTurn raster

theorem quarterTurns_pow_four : (quarterTurns : Equiv.Perm (Raster α)) ^ (4 : ℤ) = 1 := by
  refine Equiv.ext fun raster => ?_
  have htwice : (4 : ℤ) = 2 + 2 := rfl
  rw [htwice, zpow_add, Equiv.Perm.mul_apply, quarterTurns_sq, quarterTurns_sq,
    halfTurn_halfTurn, Equiv.Perm.one_apply]

theorem quarterTurns_cube (raster : Raster α) :
    (quarterTurns ^ (3 : ℤ)) raster = raster.clockwiseTurn := by
  have hfour : (3 : ℤ) = 4 + -1 := rfl
  rw [hfour, zpow_add, quarterTurns_pow_four, one_mul, zpow_neg_one]
  rfl

/-- A turn by any number of quarters is a power of the quarter turn. -/
theorem rotate_ofQuarters (mark : Raster (Pixel .rgba8)) (count : ℤ) :
    mark.rotate (.ofQuarters count) = (quarterTurns ^ count) mark := by
  obtain ⟨quarters, hquarters⟩ : ∃ quarters : Fin 4, (quarters.1 : ℤ) = count % 4 :=
    ⟨⟨(count % 4).toNat, by omega⟩, by dsimp only; omega⟩
  have hturn : Turn.ofQuarters count = .quarters quarters :=
    congrArg Turn.quarters (Fin.ext (by dsimp only; omega))
  rw [zpow_eq_zpow_emod count quarterTurns_pow_four, ← hquarters, hturn]
  clear hquarters hturn
  fin_cases quarters
  · rfl
  · rfl
  · exact (quarterTurns_sq mark).symm
  · exact (quarterTurns_cube mark).symm

/-! ## What a turn keeps -/

theorem kept_zpow {β : Type} {turn : Equiv.Perm (Raster α)} {kept : Raster α → β}
    (hkept : ∀ raster, kept (turn raster) = kept raster) (count : ℤ) (raster : Raster α) :
    kept ((turn ^ count) raster) = kept raster := by
  have hback (raster : Raster α) : kept (turn⁻¹ raster) = kept raster := by
    calc kept (turn⁻¹ raster) = kept (turn (turn⁻¹ raster)) := (hkept _).symm
      _ = kept raster := congrArg kept (turn.apply_symm_apply raster)
  induction count using Int.induction_on generalizing raster with
  | zero => rfl
  | succ n ih => rw [zpow_add, zpow_one, Equiv.Perm.mul_apply, ih, hkept]
  | pred n ih => rw [zpow_sub, zpow_one, Equiv.Perm.mul_apply, ih, hback]

/-- The values of a raster, each as often as the raster holds it. -/
def values (raster : Raster α) : Multiset α := raster.cells.toList

theorem values_quarterTurn (raster : Raster α) : raster.quarterTurn.values = raster.values := by
  refine Multiset.coe_eq_coe.mpr ?_
  refine perm_pull (Nat.mul_comm _ _) fun x y x' y' hx hy hx' hy' hplace => ?_
  obtain ⟨hcolumn, hrow⟩ := Prod.mk.inj hplace
  omega

theorem values_zpow (count : ℤ) (raster : Raster α) :
    ((quarterTurns ^ count) raster).values = raster.values :=
  kept_zpow values_quarterTurn count raster

theorem size_zpow_of_even {count : ℤ} (heven : Even count) (raster : Raster α) :
    ((quarterTurns ^ count) raster).size = raster.size := by
  obtain ⟨half, rfl⟩ := even_iff_two_dvd.mp heven
  rw [zpow_mul]
  have hkept (raster : Raster α) : ((quarterTurns ^ (2 : ℤ)) raster).size = raster.size := by
    rw [quarterTurns_sq]
    rfl
  exact kept_zpow hkept half raster

theorem size_zpow_of_odd {count : ℤ} (hodd : Odd count) (raster : Raster α) :
    ((quarterTurns ^ count) raster).size = ⟨raster.height, raster.width⟩ := by
  obtain ⟨half, rfl⟩ := hodd
  rw [zpow_add, zpow_one, Equiv.Perm.mul_apply, size_zpow_of_even (even_two_mul half)]
  rfl

/-! ## Turns by degrees -/

theorem rotate_ofWholeDegrees (mark : Raster (Pixel .rgba8)) (count : ℤ) :
    mark.rotate (.ofWholeDegrees (90 * count)) = (quarterTurns ^ count) mark := by
  rw [Turn.ofWholeDegrees_eq, rotate_ofQuarters]

theorem rotate_ninety (mark : Raster (Pixel .rgba8)) :
    mark.rotate (.ofWholeDegrees 90) = mark.quarterTurn :=
  rotate_ofWholeDegrees mark 1

/-- Turning by multiples of 90 degrees is an action of the integers on the marks: the turns of two
angles in a row are the turn of their sum.  It only moves the pixels, counter-clockwise, and the
machine's numbers of degrees take part in it with their exact values. -/
theorem rotate_rightAngles (mark : Raster (Pixel .rgba8)) :
    (∀ a b : ℤ, (mark.rotate (.ofWholeDegrees (90 * a))).rotate (.ofWholeDegrees (90 * b)) =
        mark.rotate (.ofWholeDegrees (90 * (a + b)))) ∧
      (((mark.rotate (.ofWholeDegrees 90)).rotate (.ofWholeDegrees 90)).rotate
        (.ofWholeDegrees 90)).rotate (.ofWholeDegrees 90) = mark ∧
      (∀ a : ℤ, (mark.rotate (.ofWholeDegrees (90 * a))).rotate
        (.ofWholeDegrees (-(90 * a))) = mark) ∧
      (∀ a : ℤ, (mark.rotate (.ofWholeDegrees (90 * a))).values = mark.values ∧
        (mark.rotate (.ofWholeDegrees (90 * a))).size =
          if Odd a then ⟨mark.height, mark.width⟩ else mark.size) ∧
      (∀ x y, x < mark.height → y < mark.width →
        (mark.rotate (.ofWholeDegrees 90)).get? x y = mark.get? (mark.width - 1 - y) x) ∧
      ∀ (degrees : Float) (a : ℤ), degrees.isFinite = true → Angle.value degrees = 90 * a →
        mark.rotate (.ofDegrees degrees) = mark.rotate (.ofWholeDegrees (90 * a)) := by
  have hcompose (a b : ℤ) :
      (mark.rotate (.ofWholeDegrees (90 * a))).rotate (.ofWholeDegrees (90 * b)) =
        mark.rotate (.ofWholeDegrees (90 * (a + b))) := by
    rw [rotate_ofWholeDegrees, rotate_ofWholeDegrees, rotate_ofWholeDegrees, add_comm a b, zpow_add,
      Equiv.Perm.mul_apply]
  refine ⟨hcompose, ?_, fun a => ?_, fun a => ⟨?_, ?_⟩, fun x y hx hy => ?_,
    fun degrees a hfinite hvalue => ?_⟩
  · calc (((mark.rotate (.ofWholeDegrees 90)).rotate (.ofWholeDegrees 90)).rotate
          (.ofWholeDegrees 90)).rotate (.ofWholeDegrees 90)
        = mark.quarterTurn.quarterTurn.quarterTurn.quarterTurn := by
          rw [rotate_ninety, rotate_ninety, rotate_ninety, rotate_ninety]
      _ = mark.halfTurn.halfTurn := by rw [quarterTurn_quarterTurn, quarterTurn_quarterTurn]
      _ = mark := halfTurn_halfTurn mark
  · have hback : -(90 * a) = 90 * -a := (mul_neg 90 a).symm
    rw [hback, hcompose, add_neg_cancel, rotate_ofWholeDegrees, zpow_zero, Equiv.Perm.one_apply]
  · rw [rotate_ofWholeDegrees, values_zpow]
  · rw [rotate_ofWholeDegrees]
    split
    · next hodd => exact size_zpow_of_odd hodd mark
    · next heven => exact size_zpow_of_even (Int.not_odd_iff_even.mp heven) mark
  · rw [rotate_ninety, get?_quarterTurn hx hy]
  · rw [Turn.ofDegrees_eq hfinite hvalue]

/-- A mark of three columns and two rows, turned by 90 and by -450 degrees. -/
theorem rotate_rightAngles_of_three_by_two :
    let mark : Raster (Pixel .rgba8) := .generate 3 2 fun x y => #v[x.toUInt8, y.toUInt8, 0, 255]
    (mark.rotate (.ofWholeDegrees 90)).get? 1 0 = some #v[2, 1, 0, 255] ∧
      mark.rotate (.ofDegrees (-450.0)) = mark.clockwiseTurn := by
  intro mark
  obtain ⟨-, -, -, -, hplaces, hdegrees⟩ := rotate_rightAngles mark
  have hparts : Float.isFinite (-450.0) = true ∧ Angle.isNegative (-450.0) = true ∧
      Angle.significand (-450.0) = 450 * 2 ^ 44 ∧ Angle.exponent (-450.0) = -44 := by
    decide +kernel
  obtain ⟨hfinite, hsign, hsignificand, hexponent⟩ := hparts
  have hvalue : Angle.value (-450.0) = 90 * (-5 : ℤ) := by
    rw [Angle.value, hsign, hsignificand, hexponent]
    norm_num
  refine ⟨(hplaces 1 0 (by decide) (by decide)).trans (by decide), ?_⟩
  rw [hdegrees (-450.0) (-5) hfinite hvalue]
  rfl

end ImageChain.Raster
