import Mathlib.Algebra.Order.Group.Abs
import Mathlib.Algebra.Order.Group.Int
import ImageChain.Proofs.Pixel.Scaling

/-!
# Pieces along a side

A piece that lies along a side has a margin in front of it and one behind it, which are negative
where the piece hangs over.  What a position says about a mark, and what is cut out of the middle of
a grid, is said here by these margins and not by the way in which an offset is computed: one of them
is nothing, or they differ by at most one.  That a piece lies inside of the side if it is not longer,
and covers it if it is not shorter, follows from the margins alone (`Alignment.Holds.inside`,
`Alignment.Holds.covers`), for the corners, the edges and the centre alike.
-/

namespace ImageChain

/-- How a piece lies along a side. -/
inductive Alignment where
  /-- At the beginning of the side. -/
  | start
  /-- In the middle of the side. -/
  | middle
  /-- At the end of the side. -/
  | finish

namespace Alignment

/-- Whether a piece of a side that begins at `offset` is aligned. -/
def Holds (alignment : Alignment) (side piece offset : ℤ) : Prop :=
  match alignment with
  | start => offset = 0
  | middle => |offset - (side - (offset + piece))| ≤ 1
  | finish => offset + piece = side

variable {alignment : Alignment} {side piece offset : ℤ}

theorem holds_middle_iff : middle.Holds side piece offset ↔
    2 * offset ≤ side - piece + 1 ∧ side - piece ≤ 2 * offset + 1 := by
  rw [Holds, abs_le]
  omega

/-- A piece that is not longer than the side lies inside. -/
theorem Holds.inside (haligned : alignment.Holds side piece offset) (hle : piece ≤ side) :
    0 ≤ offset ∧ offset + piece ≤ side := by
  cases alignment with
  | start => rw [Holds] at haligned; omega
  | middle => rw [holds_middle_iff] at haligned; omega
  | finish => rw [Holds] at haligned; omega

/-- A piece that is not shorter than the side covers it. -/
theorem Holds.covers (haligned : alignment.Holds side piece offset) (hle : side ≤ piece) :
    offset ≤ 0 ∧ side ≤ offset + piece := by
  cases alignment with
  | start => rw [Holds] at haligned; omega
  | middle => rw [holds_middle_iff] at haligned; omega
  | finish => rw [Holds] at haligned; omega

end Alignment

/-! ## Positions -/

namespace Position

/-- How a mark lies across its base. -/
def across : Position → Alignment
  | topLeft | left | bottomLeft => .start
  | top | center | bottom => .middle
  | topRight | right | bottomRight => .finish

/-- How a mark lies down its base. -/
def down : Position → Alignment
  | topLeft | top | topRight => .start
  | left | center | right => .middle
  | bottomLeft | bottom | bottomRight => .finish

/-- Half of an odd margin is rounded towards zero, so the other half is one pixel more. -/
theorem holds_centred (base mark : ℤ) :
    Alignment.middle.Holds base mark (centred base mark) := by
  have hhalf := Int.mul_tdiv_add_tmod (base - mark) 2
  have hrest := Int.tmod_two_eq (base - mark)
  rw [Alignment.holds_middle_iff, centred]
  omega

theorem holds_column (position : Position) (base mark : ℤ) :
    position.across.Holds base mark (position.column base mark) := by
  cases position <;>
    first | exact rfl | exact holds_centred base mark | exact Int.sub_add_cancel base mark

theorem holds_row (position : Position) (base mark : ℤ) :
    position.down.Holds base mark (position.row base mark) := by
  cases position <;>
    first | exact rfl | exact holds_centred base mark | exact Int.sub_add_cancel base mark

end Position

/-! ## The middle of a grid -/

/-- A side that sticks out of the box is cut in its middle, and the other one is not cut. -/
theorem holds_cropCorner {scaled box : Size} (hbox : box.isEmpty = false)
    (hcovers : box.fitsIn scaled = true)
    (hmeets : scaled.width = box.width ∨ scaled.height = box.height) :
    Alignment.middle.Holds scaled.width box.width (cropCorner scaled box).1 ∧
      Alignment.middle.Holds scaled.height box.height (cropCorner scaled box).2 := by
  obtain ⟨hpos, -⟩ := Size.isEmpty_eq_false_iff.mp hbox
  obtain ⟨hwidth, hheight⟩ := Size.fitsIn_iff.mp hcovers
  rw [Alignment.holds_middle_iff, Alignment.holds_middle_iff]
  unfold cropCorner
  split
  · next hwider =>
      -- if the height were the one that is met, the width would be less than that of the box
      have hacross : scaled.width = box.width := by
        refine hmeets.resolve_right fun hdown => ?_
        rw [hdown] at hwider
        have := Nat.lt_of_mul_lt_mul_right hwider
        omega
      dsimp only
      omega
  · next hhigher =>
      have hdown : scaled.height = box.height := by
        by_contra hne
        have hacross := hmeets.resolve_right hne
        rw [hacross] at hhigher
        exact hhigher (Nat.mul_lt_mul_of_pos_left (by omega) hpos)
      dsimp only
      omega

end ImageChain
