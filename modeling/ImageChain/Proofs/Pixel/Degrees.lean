import Mathlib.Algebra.Order.Field.Power
import Mathlib.Data.Fintype.Fin
import Mathlib.Data.Rat.Cast.Order
import Mathlib.Tactic.FinCases
import Mathlib.Tactic.Linarith
import Mathlib.Tactic.NormNum
import Mathlib.Tactic.Positivity
import ImageChain.Pixel.Rotate

/-!
# Right angles in degrees

An angle comes as a number of degrees with a sign, 53 binary digits and an
exponent, and the machine brings it between 0 and 360 with such numbers.  For a
multiple of 90 nothing is lost on the way: `ofDegrees_eq` says that the machine
finds the same turn as exact arithmetic does, whichever number the multiple is
written as.

Two things are behind it.  A number is determined by its sign and its exact value
(`eq_of_value`), because of two numbers with the same value and different
exponents one would need more than 53 digits.  And a multiple of 90 of more than a
turn leaves 0, 90, 180 or 270 whole degrees and no part of one; on these four the
machine's arithmetic can be carried out.
-/

namespace ImageChain

namespace Angle

/-! ## The parts of a number -/

theorem isNegative_iff {degrees : Float} :
    isNegative degrees = true ↔ degrees.toBits.toNat / 2 ^ 63 = 1 := by
  rw [isNegative, beq_iff_eq, ← UInt64.toNat_inj, UInt64.toNat_shiftRight, Nat.shiftRight_eq_div_pow]
  rfl

theorem biased_eq (degrees : Float) :
    biased degrees = degrees.toBits.toNat / 2 ^ 52 % 2 ^ 11 := by
  rw [biased, UInt64.toNat_and, UInt64.toNat_shiftRight, Nat.shiftRight_eq_div_pow]
  exact Nat.and_two_pow_sub_one_eq_mod _ 11

theorem significand_eq (degrees : Float) :
    significand degrees = degrees.toBits.toNat % 2 ^ 52 +
      if biased degrees = 0 then 0 else 2 ^ 52 := by
  have hfraction : (degrees.toBits &&& 0xFFFFFFFFFFFFF).toNat = degrees.toBits.toNat % 2 ^ 52 := by
    rw [UInt64.toNat_and]
    exact Nat.and_two_pow_sub_one_eq_mod _ 52
  simp only [significand, hfraction]
  split <;> rfl

theorem significand_lt (degrees : Float) : significand degrees < 2 ^ 53 := by
  rw [significand_eq]
  split <;> omega

/-- A number above the least exponent has all its digits. -/
theorem le_significand {degrees : Float} (hexponent : -1074 < exponent degrees) :
    2 ^ 52 ≤ significand degrees := by
  rw [exponent] at hexponent
  rw [significand_eq, if_neg (by omega)]
  omega

theorem eq_of_parts {first second : Float} (hsign : isNegative first = isNegative second)
    (hsignificand : significand first = significand second)
    (hexponent : exponent first = exponent second) : first = second := by
  -- sign, exponent and digits are the bits of a number, from the highest to the lowest
  have hbits : first.toBits.toNat = second.toBits.toNat := by
    have hnegative : first.toBits.toNat / 2 ^ 63 = 1 ↔ second.toBits.toNat / 2 ^ 63 = 1 := by
      rw [← isNegative_iff, ← isNegative_iff, hsign]
    have hfirst := first.toBits.toNat_lt
    have hsecond := second.toBits.toNat_lt
    have hlarge := biased_eq first
    have hlarge' := biased_eq second
    rw [significand_eq, significand_eq] at hsignificand
    rw [exponent, exponent] at hexponent
    split at hsignificand <;> split at hsignificand <;> omega
  obtain ⟨⟨bits, hvalid⟩⟩ := first
  obtain ⟨⟨bits', hvalid'⟩⟩ := second
  cases UInt64.toNat_inj.mp hbits
  rfl

/-! ## The exact value of a number -/

/-- The exact number of degrees that a finite number stands for. -/
def value (degrees : Float) : ℚ :=
  (if isNegative degrees then -1 else 1) * (significand degrees * 2 ^ exponent degrees)

theorem exponent_le {first second : Float}
    (hsame : (significand first : ℚ) * 2 ^ exponent first =
      significand second * 2 ^ exponent second) : exponent second ≤ exponent first := by
  by_contra hlt
  -- the second number has all its digits, and the first one would need one more
  obtain ⟨n, hn⟩ : ∃ n : ℕ, exponent second = exponent first + (n + 1 : ℕ) :=
    ⟨(exponent second - exponent first - 1).toNat, by omega⟩
  have hdigits : significand first = significand second * 2 ^ (n + 1) := by
    have hpos : (0 : ℚ) < 2 ^ exponent first := zpow_pos (by norm_num) _
    have hscaled : (significand first : ℚ) * 2 ^ exponent first =
        significand second * 2 ^ (n + 1) * 2 ^ exponent first := by
      rw [hsame, hn, zpow_add₀ (by norm_num), zpow_natCast, mul_comm (2 ^ exponent first),
        ← mul_assoc]
    exact_mod_cast mul_right_cancel₀ hpos.ne' hscaled
  have hmany : 2 ^ 52 ≤ significand second := le_significand (by rw [hn, exponent]; omega)
  have hfew := significand_lt first
  have htwo : 2 ≤ 2 ^ (n + 1) := by
    rw [pow_succ]
    have := Nat.one_le_two_pow (n := n)
    omega
  have := Nat.mul_le_mul hmany htwo
  omega

/-- A number is determined by its sign and its exact value. -/
theorem eq_of_value {first second : Float} (hsign : isNegative first = isNegative second)
    (hvalue : value first = value second) : first = second := by
  have hsame : (significand first : ℚ) * 2 ^ exponent first =
      significand second * 2 ^ exponent second := by
    rw [value, value, hsign] at hvalue
    exact mul_left_cancel₀ (by split <;> norm_num) hvalue
  have hexponent := le_antisymm (exponent_le hsame.symm) (exponent_le hsame)
  refine eq_of_parts hsign ?_ hexponent
  rw [hexponent] at hsame
  have hpos : (0 : ℚ) < 2 ^ exponent second := zpow_pos (by norm_num) _
  exact_mod_cast mul_right_cancel₀ hpos.ne' hsame

/-- A number whose value is a multiple of 90 has a multiple of 90 behind its sign. -/
theorem exists_quarters {degrees : Float} {count : ℤ} (hvalue : value degrees = 90 * count) :
    ∃ quarters : ℕ, (significand degrees : ℚ) * 2 ^ exponent degrees = 90 * quarters ∧
      count = if isNegative degrees then -(quarters : ℤ) else quarters := by
  have hmagnitude : (0 : ℚ) ≤ significand degrees * 2 ^ exponent degrees := by positivity
  rw [value] at hvalue
  cases hsign : isNegative degrees with
  | true =>
      rw [hsign, if_pos rfl] at hvalue
      have hcount : (count : ℚ) ≤ 0 := by linarith
      obtain ⟨quarters, rfl⟩ := Int.exists_eq_neg_ofNat (by exact_mod_cast hcount)
      push_cast at hvalue
      exact ⟨quarters, by linarith, rfl⟩
  | false =>
      rw [hsign, if_neg Bool.false_ne_true] at hvalue
      have hcount : (0 : ℚ) ≤ count := by linarith
      obtain ⟨quarters, rfl⟩ := Int.eq_ofNat_of_zero_le (by exact_mod_cast hcount)
      push_cast at hvalue
      exact ⟨quarters, by linarith, rfl⟩

/-! ## The four right angles -/

/-- A number of quarters in degrees, with a sign. -/
def right (negative : Bool) (quarters : Fin 4) : Float :=
  if negative then -(90 * quarters.1).toFloat else (90 * quarters.1).toFloat

theorem signed_eq_right (degrees : Float) (quarters : Fin 4) :
    signed degrees (90 * quarters.1).toFloat = right (isNegative degrees) quarters := rfl

/-- The binary places with which a right angle is stored. -/
def places : Fin 4 → ℕ
  | 0 => 1074
  | 1 => 46
  | 2 => 45
  | 3 => 44

theorem parts_right (negative : Bool) (quarters : Fin 4) :
    isNegative (right negative quarters) = negative ∧
      significand (right negative quarters) = 90 * quarters.1 * 2 ^ places quarters ∧
      exponent (right negative quarters) = -places quarters := by
  revert negative quarters
  decide +kernel

theorem value_right (negative : Bool) (quarters : Fin 4) :
    value (right negative quarters) = (if negative then -1 else 1) * (90 * quarters.1) := by
  obtain ⟨hsign, hsignificand, hexponent⟩ := parts_right negative quarters
  have hplaces : (2 : ℚ) ^ places quarters ≠ 0 := pow_ne_zero _ (by norm_num)
  rw [value, hsign, hsignificand, hexponent, zpow_neg, zpow_natCast]
  push_cast
  rw [mul_assoc (90 * _), mul_inv_cancel₀ hplaces, mul_one]

/-- Less than a turn is one of the four right angles itself. -/
theorem eq_right {degrees : Float} {quarters : Fin 4}
    (hquarters : (significand degrees : ℚ) * 2 ^ exponent degrees = 90 * quarters.1) :
    degrees = right (isNegative degrees) quarters := by
  refine eq_of_value (parts_right _ quarters).1.symm ?_
  rw [value_right, value, hquarters]

/-- Nothing is lost of a number of degrees that is divided by a power of two without remainder. -/
theorem whole_add_nothing (quarters : Fin 4) (n : Fin 44) :
    (90 * quarters.1).toFloat + (0 : Nat).toFloat / (1 <<< (n.1 + 1) : Nat).toFloat =
      (90 * quarters.1).toFloat := by
  revert quarters n
  decide +kernel

/-- What a multiple of 90 degrees leaves after whole turns. -/
theorem remainder_eq {degrees : Float} {quarters : ℕ}
    (hquarters : (significand degrees : ℚ) * 2 ^ exponent degrees = 90 * quarters) :
    remainder degrees = right (isNegative degrees) (Fin.ofNat 4 quarters) := by
  have hrest : (Fin.ofNat 4 quarters).1 = quarters % 4 := rfl
  rw [remainder]
  cases hexponent : exponent degrees with
  | ofNat n =>
      have hdigits : significand degrees <<< n = 90 * quarters := by
        rw [hexponent, Int.ofNat_eq_natCast, zpow_natCast] at hquarters
        rw [Nat.shiftLeft_eq]
        exact_mod_cast hquarters
      dsimp only
      rw [hdigits, Nat.mul_mod_mul_left 90 quarters 4, ← hrest, signed_eq_right]
  | negSucc n =>
      have hone : 1 <<< (n + 1) = 2 ^ (n + 1) := by rw [Nat.shiftLeft_eq, one_mul]
      have hpos : 0 < 1 <<< (n + 1) := by rw [hone]; positivity
      have hdigits : significand degrees = 90 * quarters * (1 <<< (n + 1)) := by
        have hne : (2 : ℚ) ^ (n + 1) ≠ 0 := pow_ne_zero _ (by norm_num)
        rw [hexponent, zpow_negSucc, mul_inv_eq_iff_eq_mul₀ hne] at hquarters
        rw [hone]
        exact_mod_cast hquarters
      dsimp only
      split
      · next hsmall =>
          have hless : quarters < 4 := by
            rw [hdigits] at hsmall
            have := lt_of_mul_lt_mul_right hsmall (Nat.zero_le _)
            omega
          refine eq_right ?_
          rw [hquarters, hrest, Nat.mod_eq_of_lt hless]
      · next hlarge =>
          -- a turn or more is not less than `2 ^ 8`, so of 53 digits few are left for its places
          have hplaces : n < 44 := by
            have hfew := significand_lt degrees
            by_contra hmany
            have := Nat.pow_le_pow_right (n := 2) (by decide) (by omega : 45 ≤ n + 1)
            omega
          have hwhole : significand degrees % (360 * 1 <<< (n + 1)) =
              90 * (quarters % 4) * 1 <<< (n + 1) := by
            rw [hdigits, Nat.mul_mod_mul_right, Nat.mul_mod_mul_left 90 quarters 4]
          rw [hwhole, Nat.mul_div_cancel _ hpos, Nat.mul_mod_left, ← hrest,
            whole_add_nothing (Fin.ofNat 4 quarters) ⟨n, hplaces⟩, signed_eq_right]

/-- A negative remainder is brought to the right angle that is left to a whole turn. -/
theorem ofRemainder_right (negative : Bool) (quarters whole : Fin 4) :
    (ofRemainder (right negative quarters) == (90 * whole.1).toFloat) =
      decide (whole = if negative then -quarters else quarters) := by
  revert negative quarters whole
  decide

end Angle

namespace Turn

/-! ## The turn by a right angle -/

/-- A number of quarter turns, of which four are none. -/
def ofQuarters (count : ℤ) : Turn :=
  quarters ⟨(count % 4).toNat, by omega⟩

/-- The turn by a whole number of degrees, brought between 0 and 360 with exact arithmetic. -/
def ofWholeDegrees (degrees : ℤ) : Turn :=
  let normalized := degrees % 360
  ofAngle (fun whole => normalized == whole) (slanted (Float.ofInt normalized))

theorem ofAngle_eq {is : ℕ → Bool} {other : Turn} {count : Fin 4}
    (his : ∀ whole : Fin 4, is (90 * whole) = decide (whole = count)) :
    ofAngle is other = quarters count := by
  have hnone : is 0 = decide (0 = count) := his 0
  have hone : is 90 = decide (1 = count) := his 1
  have htwo : is 180 = decide (2 = count) := his 2
  have hthree : is 270 = decide (3 = count) := his 3
  rw [ofAngle, hnone, hone, htwo, hthree]
  fin_cases count <;> rfl

/-- With exact arithmetic, a multiple of 90 degrees is that many quarter turns. -/
theorem ofWholeDegrees_eq (count : ℤ) : ofWholeDegrees (90 * count) = ofQuarters count := by
  rw [ofWholeDegrees, ofQuarters]
  refine ofAngle_eq fun whole => ?_
  have hrest : 90 * count % 360 = 90 * (count % 4) := Int.mul_emod_mul_of_pos count 4 (by decide)
  rw [hrest, Bool.beq_eq_decide_eq, decide_eq_decide, Fin.ext_iff]
  dsimp only
  omega

/-- A machine's number of degrees that is a multiple of 90 gives the turn that exact arithmetic
gives. -/
theorem ofDegrees_eq {degrees : Float} {count : ℤ} (hfinite : degrees.isFinite = true)
    (hvalue : Angle.value degrees = 90 * count) :
    ofDegrees degrees = ofWholeDegrees (90 * count) := by
  obtain ⟨whole, hwhole, hcount⟩ := Angle.exists_quarters hvalue
  have hquarters : ofQuarters count =
      quarters (if Angle.isNegative degrees then -Fin.ofNat 4 whole else Fin.ofNat 4 whole) := by
    refine congrArg quarters (Fin.ext ?_)
    split at hcount
    · next hnegative =>
        rw [if_pos hnegative, Fin.val_neg', Fin.val_ofNat]
        dsimp only
        omega
    · next hpositive =>
        rw [if_neg hpositive, Fin.val_ofNat]
        dsimp only
        omega
  rw [ofWholeDegrees_eq, hquarters, ofDegrees, Angle.normalize, if_pos hfinite,
    Angle.remainder_eq hwhole]
  exact ofAngle_eq (Angle.ofRemainder_right _ _)

end Turn

end ImageChain
