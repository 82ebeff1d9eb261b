/-!
# Rasters

A raster is a rectangle of values of any type, stored row by row.  Everything that moves values
around without looking at them is defined here once for all of them.
-/

namespace ImageChain

/-- The size of a rectangle. -/
structure Size where
  /-- The number of columns. -/
  width : Nat
  /-- The number of rows. -/
  height : Nat
  deriving DecidableEq, Repr

namespace Size

/-- The size of nothing. -/
def zero : Size := ⟨0, 0⟩

/-- Whether a rectangle has no area. -/
def isEmpty (size : Size) : Bool :=
  size.width == 0 || size.height == 0

/-- Whether a rectangle lies inside another one of the given size. -/
def fitsIn (size box : Size) : Bool :=
  size.width ≤ box.width && size.height ≤ box.height

end Size

/-- A rectangle of values. -/
structure Raster (α : Type) where
  /-- The number of columns. -/
  width : Nat
  /-- The number of rows. -/
  height : Nat
  /-- The values, row by row. -/
  cells : Array α
  /-- There is a value for every place. -/
  complete : cells.size = width * height

namespace Raster

variable {α β : Type}

/-- The size of a raster. -/
def size (raster : Raster α) : Size :=
  ⟨raster.width, raster.height⟩

/-- The place of a column and a row among the cells. -/
theorem index_lt {width height x y : Nat} (hx : x < width) (hy : y < height) :
    y * width + x < width * height := by
  calc y * width + x < y * width + width := by omega
    _ = (y + 1) * width := by rw [Nat.succ_mul]
    _ ≤ height * width := Nat.mul_le_mul_right width hy
    _ = width * height := Nat.mul_comm height width

/-- The value in column `x` of row `y`. -/
def get (raster : Raster α) (x y : Nat) (hx : x < raster.width) (hy : y < raster.height) : α :=
  have : y * raster.width + x < raster.cells.size := by
    rw [raster.complete]
    exact index_lt hx hy
  raster.cells[y * raster.width + x]

/-- The value in column `x` of row `y`, if there is such a place. -/
def get? (raster : Raster α) (x y : Nat) : Option α :=
  if h : x < raster.width ∧ y < raster.height then some (raster.get x y h.1 h.2) else none

/-- The raster with the given values. -/
def generate (width height : Nat) (value : Nat → Nat → α) : Raster α where
  width := width
  height := height
  cells := Array.ofFn (n := width * height) fun i => value (i % width) (i / width)
  complete := Array.size_ofFn

@[simp] theorem width_generate (width height : Nat) (value : Nat → Nat → α) :
    (generate width height value).width = width := rfl

@[simp] theorem height_generate (width height : Nat) (value : Nat → Nat → α) :
    (generate width height value).height = height := rfl

/-- A generated raster has the values it was generated from. -/
@[simp] theorem get_generate (width height : Nat) (value : Nat → Nat → α) (x y : Nat)
    (hx : x < width) (hy : y < height) : (generate width height value).get x y hx hy = value x y := by
  have hpos : 0 < width := Nat.lt_of_le_of_lt (Nat.zero_le x) hx
  simp only [get, generate, Array.getElem_ofFn]
  rw [Nat.mul_comm y width, Nat.mul_add_mod, Nat.mod_eq_of_lt hx, Nat.mul_add_div hpos,
    Nat.div_eq_of_lt hx, Nat.add_zero]

/-- The raster of a size with one value everywhere. -/
def fill (size : Size) (value : α) : Raster α :=
  generate size.width size.height fun _ _ => value

/-- The raster without any place. -/
def empty : Raster α := ⟨0, 0, #[], rfl⟩

/-- The raster of the values' images under `f`. -/
def map (f : α → β) (raster : Raster α) : Raster β where
  width := raster.width
  height := raster.height
  cells := raster.cells.map f
  complete := by rw [Array.size_map, raster.complete]

/-- The raster whose value in column `x` of row `y` is the value of `raster` in the place that
`place` tells, which has to be one of its places. -/
def pull (raster : Raster α) (width height : Nat) (place : Nat → Nat → Nat × Nat)
    (inside : ∀ x y, x < width → y < height →
      (place x y).1 < raster.width ∧ (place x y).2 < raster.height) : Raster α where
  width := width
  height := height
  cells := Array.ofFn (n := width * height) fun i =>
    have hx : i.1 % width < width := Nat.mod_lt _ (Nat.pos_of_ne_zero fun h => by
      have := i.2
      simp [h] at this)
    have hy : i.1 / width < height := Nat.div_lt_of_lt_mul i.2
    raster.get (place (i.1 % width) (i.1 / width)).1 (place (i.1 % width) (i.1 / width)).2
      (inside _ _ hx hy).1 (inside _ _ hx hy).2
  complete := Array.size_ofFn

/-- The part of a raster of at most `box` that starts in column `left` of row `top`. -/
def crop (raster : Raster α) (left top : Nat) (box : Size) : Raster α :=
  let left := min left raster.width
  let top := min top raster.height
  raster.pull (min box.width (raster.width - left)) (min box.height (raster.height - top))
    (fun x y => (left + x, top + y)) (fun x y hx hy => by
      constructor
      · show left + x < raster.width
        omega
      · show top + y < raster.height
        omega)

/-- The raster turned counter-clockwise by a quarter. -/
def quarterTurn (raster : Raster α) : Raster α :=
  raster.pull raster.height raster.width (fun x y => (raster.width - 1 - y, x))
    (fun x y hx hy => by
      constructor
      · show raster.width - 1 - y < raster.width
        omega
      · exact hx)

/-- The raster turned by a half. -/
def halfTurn (raster : Raster α) : Raster α :=
  raster.pull raster.width raster.height
    (fun x y => (raster.width - 1 - x, raster.height - 1 - y))
    (fun x y hx hy => by
      constructor
      · show raster.width - 1 - x < raster.width
        omega
      · show raster.height - 1 - y < raster.height
        omega)

/-- The raster turned clockwise by a quarter. -/
def clockwiseTurn (raster : Raster α) : Raster α :=
  raster.pull raster.height raster.width (fun x y => (y, raster.height - 1 - x))
    (fun x y hx hy => by
      constructor
      · exact hy
      · show raster.height - 1 - x < raster.height
        omega)

end Raster

end ImageChain
