import Mathlib.Data.Fintype.EquivFin
import Mathlib.Data.List.FinRange
import ImageChain.Pixel.Overlay

/-!
# The places of a raster

A raster keeps its values in one row after the other, so a place is a number
below the product of the sides.  All that is said about rasters elsewhere is said
by columns and rows: `get?` tells what a raster holds there, and `eq_of_get?`
that this is all there is to know.  Each way of making a raster from another one
has a lemma that says what it holds where.

The values as a list, with repetitions, are what is left of a raster when its
places are forgotten.  `perm_pull` says that two rasters have the same one if
the places of the first are those of the second in another order.
-/

namespace ImageChain.Raster

variable {α β : Type}

/-- A number below the number of cells belongs to a column and a row. -/
theorem mod_lt_and_div_lt {width height i : Nat} (hi : i < width * height) :
    i % width < width ∧ i / width < height := by
  have hpos : 0 < width := Nat.pos_of_mul_pos_right (Nat.lt_of_le_of_lt (Nat.zero_le i) hi)
  exact ⟨Nat.mod_lt _ hpos, Nat.div_lt_of_lt_mul hi⟩

/-- A cell is what its column and its row hold. -/
theorem get?_mod_div (raster : Raster α) {i : Nat} (hi : i < raster.cells.size) :
    raster.get? (i % raster.width) (i / raster.width) = some raster.cells[i] := by
  have hplace := mod_lt_and_div_lt (Nat.lt_of_lt_of_eq hi raster.complete)
  have hindex : i / raster.width * raster.width + i % raster.width = i := Nat.div_add_mod' _ _
  rw [get?, dif_pos hplace]
  simp only [get, hindex]

theorem isSome_get? {raster : Raster α} {x y : Nat} :
    (raster.get? x y).isSome ↔ x < raster.width ∧ y < raster.height := by
  unfold get?
  split <;> simp [*]

theorem get?_eq_none_iff {raster : Raster α} {x y : Nat} :
    raster.get? x y = none ↔ raster.width ≤ x ∨ raster.height ≤ y := by
  rw [← Option.not_isSome_iff_eq_none, isSome_get?]
  omega

/-- Rasters with the same sides that hold the same values are the same. -/
theorem eq_of_get? {first second : Raster α} (hwidth : first.width = second.width)
    (hheight : first.height = second.height)
    (hget : ∀ x y, x < first.width → y < first.height → first.get? x y = second.get? x y) :
    first = second := by
  have hsize : first.cells.size = second.cells.size := by
    rw [first.complete, second.complete, hwidth, hheight]
  have hcells : first.cells = second.cells := by
    refine Array.ext hsize fun i hfirst hsecond => ?_
    have hplace := mod_lt_and_div_lt (Nat.lt_of_lt_of_eq hfirst first.complete)
    have hsame := hget _ _ hplace.1 hplace.2
    rw [get?_mod_div first hfirst, hwidth, get?_mod_div second hsecond] at hsame
    exact Option.some.inj hsame
  cases first
  cases second
  simp_all

/-! ## Rasters made from others -/

/-- The column and the row of a place that is counted from a column and a row. -/
theorem index_mod_div {width x : Nat} (hx : x < width) (y : Nat) :
    (y * width + x) % width = x ∧ (y * width + x) / width = y := by
  have hpos : 0 < width := Nat.lt_of_le_of_lt (Nat.zero_le x) hx
  rw [Nat.mul_comm]
  constructor
  · rw [Nat.mul_add_mod, Nat.mod_eq_of_lt hx]
  · rw [Nat.mul_add_div hpos, Nat.div_eq_of_lt hx, Nat.add_zero]

theorem index_inj {width x y x' y' : Nat} (hx : x < width) (hx' : x' < width)
    (hindex : y * width + x = y' * width + x') : x = x' ∧ y = y' := by
  obtain ⟨hcolumn, hrow⟩ := index_mod_div hx y
  obtain ⟨hcolumn', hrow'⟩ := index_mod_div hx' y'
  rw [hindex] at hcolumn hrow
  exact ⟨hcolumn.symm.trans hcolumn', hrow.symm.trans hrow'⟩

@[simp] theorem get?_map (f : α → β) (raster : Raster α) (x y : Nat) :
    (raster.map f).get? x y = (raster.get? x y).map f := by
  by_cases hplace : x < raster.width ∧ y < raster.height
  · simp [get?, hplace, get, map]
  · simp [get?, hplace, map]

theorem get?_pull {raster : Raster α} {width height : Nat} {place : Nat → Nat → Nat × Nat}
    {inside : ∀ x y, x < width → y < height →
      (place x y).1 < raster.width ∧ (place x y).2 < raster.height} {x y : Nat}
    (hx : x < width) (hy : y < height) :
    (raster.pull width height place inside).get? x y =
      raster.get? (place x y).1 (place x y).2 := by
  obtain ⟨hcolumn, hrow⟩ := index_mod_div hx y
  have hplace : x < (raster.pull width height place inside).width ∧
      y < (raster.pull width height place inside).height := ⟨hx, hy⟩
  rw [get?, dif_pos hplace, get?, dif_pos (inside x y hx hy)]
  simp only [get, pull, Array.getElem_ofFn, hcolumn, hrow]

/-- A part that is cut out lies in the raster as it is. -/
theorem get?_crop {raster : Raster α} {left top : Nat} {box : Size} {x y : Nat}
    (hacross : left + box.width ≤ raster.width) (hdown : top + box.height ≤ raster.height)
    (hx : x < box.width) (hy : y < box.height) :
    (raster.crop left top box).get? x y = raster.get? (left + x) (top + y) := by
  have hleft : min left raster.width = left := by omega
  have htop : min top raster.height = top := by omega
  have hcolumn : x < min box.width (raster.width - min left raster.width) := by omega
  have hrow : y < min box.height (raster.height - min top raster.height) := by omega
  rw [crop, get?_pull hcolumn hrow, hleft, htop]

/-- What lies over a base is blended with it where there is a pixel of the mark. -/
theorem get?_overlay (base mark : Raster (Pixel .rgba8)) (left top : Int) (x y : Nat) :
    (base.overlay mark left top).get? x y = (base.get? x y).map fun pixel =>
      (mark.at? (x - left) (y - top)).elim pixel fun upper => blend upper pixel := by
  by_cases hplace : x < base.width ∧ y < base.height
  · obtain ⟨hcolumn, hrow⟩ := index_mod_div hplace.1 y
    have hlaid : x < (base.overlay mark left top).width ∧
        y < (base.overlay mark left top).height := hplace
    rw [get?, dif_pos hlaid, get?, dif_pos hplace, Option.map_some]
    simp only [get, overlay, Array.getElem_mapFinIdx, hcolumn, hrow]
    cases mark.at? (x - left) (y - top) <;> rfl
  · have houtside : base.width ≤ x ∨ base.height ≤ y := by omega
    rw [get?_eq_none_iff.mpr houtside, Option.map_none]
    exact get?_eq_none_iff.mpr houtside

/-! ## Values in another order -/

theorem perm_ofFn {n m : Nat} (hcount : n = m) {place : Fin n → Fin m}
    (hinjective : Function.Injective place) (value : Fin m → α) :
    (List.ofFn fun i => value (place i)).Perm (List.ofFn value) := by
  subst hcount
  have hbijective := Finite.injective_iff_bijective.mp hinjective
  exact Equiv.Perm.ofFn_comp_perm (Equiv.ofBijective place hbijective) value

theorem toList_cells_eq_ofFn (raster : Raster α) :
    raster.cells.toList = List.ofFn fun i : Fin raster.cells.size => raster.cells[i] := by
  have hcells : (Array.ofFn fun i : Fin raster.cells.size => raster.cells[i]) = raster.cells :=
    Array.ofFn_getElem
  rw [← Array.toList_ofFn, hcells]

/-- A raster that takes as many values as there are from places that are all different holds the
same values in another order. -/
theorem perm_pull {raster : Raster α} {width height : Nat} {place : Nat → Nat → Nat × Nat}
    {inside : ∀ x y, x < width → y < height →
      (place x y).1 < raster.width ∧ (place x y).2 < raster.height}
    (hcount : width * height = raster.width * raster.height)
    (hdistinct : ∀ x y x' y', x < width → y < height → x' < width → y' < height →
      place x y = place x' y' → x = x' ∧ y = y') :
    (raster.pull width height place inside).cells.toList.Perm raster.cells.toList := by
  have hplaced (i : Fin (width * height)) := inside _ _ (mod_lt_and_div_lt i.2).1
    (mod_lt_and_div_lt i.2).2
  -- the cell that is taken for cell `i`
  let source (i : Fin (width * height)) : Fin raster.cells.size :=
    ⟨(place (i % width) (i / width)).2 * raster.width + (place (i % width) (i / width)).1, by
      rw [raster.complete]
      exact index_lt (hplaced i).1 (hplaced i).2⟩
  have hinjective : Function.Injective source := by
    intro i j hsame
    have hplace := index_inj (hplaced i).1 (hplaced j).1 (congrArg Fin.val hsame)
    obtain ⟨hmod, hdiv⟩ := hdistinct _ _ _ _ (mod_lt_and_div_lt i.2).1 (mod_lt_and_div_lt i.2).2
      (mod_lt_and_div_lt j.2).1 (mod_lt_and_div_lt j.2).2 (Prod.ext hplace.1 hplace.2)
    refine Fin.ext ?_
    rw [← Nat.div_add_mod' i.1 width, ← Nat.div_add_mod' j.1 width, hmod, hdiv]
  have hcells : (raster.pull width height place inside).cells.toList =
      List.ofFn fun i => raster.cells[source i] := Array.toList_ofFn
  rw [hcells, toList_cells_eq_ofFn raster]
  exact perm_ofFn (hcount.trans raster.complete.symm) hinjective fun i => raster.cells[i]

end ImageChain.Raster
