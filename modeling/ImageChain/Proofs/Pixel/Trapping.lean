import Mathlib.Algebra.Group.Int.Defs
import Mathlib.Algebra.Group.Nat.Defs
import Mathlib.Data.List.Basic
import ImageChain.Proofs.Pixel.Places
import ImageChain.Proofs.Pixel.Scaling

/-!
# Arithmetic that traps

A machine computes sizes and places with numbers of a fixed width and reads
pixels from arrays.  A difference below zero, a number past its width, a
quotient by zero or a place outside of an array ends the computation.  The
functions here compute what those of the same name compute, step by step, and
have no result where the machine would be stopped.

They always have one for the sizes of images.  Two things are behind this.  The
sides of an image have 32 bits, so the products and differences of two of them
have room in 64, whatever mark is laid over whatever base.  And what is cut out
of a grid is a box that the grid covers, so nothing is taken from a smaller
side.  The one number that can be too great is a side of the scaled grid that a
box is cut out of, which has to be assumed to be in memory.
-/

namespace ImageChain

/-- Both sides have 32 bits. -/
structure Size.IsStorable (size : Size) : Prop where
  width : size.width < 2 ^ 32
  height : size.height < 2 ^ 32

theorem Size.isStorable_zero : Size.zero.IsStorable := ⟨by decide, by decide⟩

theorem Size.IsStorable.of_fitsIn {size box : Size} (hbox : box.IsStorable)
    (hfits : size.fitsIn box = true) : size.IsStorable := by
  obtain ⟨hwidth, hheight⟩ := fitsIn_iff.mp hfits
  exact ⟨Nat.lt_of_le_of_lt hwidth hbox.width, Nat.lt_of_le_of_lt hheight hbox.height⟩

namespace Trapping

/-! ## Numbers -/

/-- A number of 32 bits. -/
def nat32 (n : Nat) : Option Nat :=
  if n < 2 ^ 32 then some n else none

/-- A number of 64 bits. -/
def nat64 (n : Nat) : Option Nat :=
  if n < 2 ^ 64 then some n else none

/-- A signed number of 64 bits. -/
def int64 (i : Int) : Option Int :=
  if -2 ^ 63 ≤ i ∧ i < 2 ^ 63 then some i else none

/-- A difference that is not below zero. -/
def difference (first second : Nat) : Option Nat :=
  if second ≤ first then some (first - second) else none

/-- A quotient by something. -/
def quotient (first second : Nat) : Option Fraction :=
  if second = 0 then none else some ⟨first, second⟩

theorem nat32_of_lt {n : Nat} (hlt : n < 2 ^ 32) : nat32 n = some n := if_pos hlt

theorem nat64_of_lt {n : Nat} (hlt : n < 2 ^ 64) : nat64 n = some n := if_pos hlt

/-- The difference of two sides has room, whichever of them is greater. -/
theorem int64_sub {first second : Nat} (hfirst : first < 2 ^ 32) (hsecond : second < 2 ^ 32) :
    int64 (first - second) = some ((first : Int) - second) :=
  if_pos (by omega)

theorem difference_of_le {first second : Nat} (hle : second ≤ first) :
    difference first second = some (first - second) :=
  if_pos hle

theorem quotient_of_pos (first : Nat) {second : Nat} (hpos : 0 < second) :
    quotient first second = some ⟨first, second⟩ :=
  if_neg (Nat.ne_of_gt hpos)

/-! ## Scaling -/

variable (rounding : Rounding)

/-- The ratio by which a grid is scaled to a box. -/
def scaleRatio (mode : ResizeMode) (source box : Size) : Option Fraction := do
  let across := rounding (← quotient box.width source.width)
  let down := rounding (← quotient box.height source.height)
  return match mode with
    | .fit => across.min down
    | .fill => across.max down

/-- The size to which a grid is scaled. -/
def scaledSize (mode : ResizeMode) (source box : Size) : Option Size := do
  let ratio ← scaleRatio rounding mode source box
  return ⟨← nat32 (scaleSide rounding ratio source.width),
    ← nat32 (scaleSide rounding ratio source.height)⟩

/-- The corner at which the middle of a scaled grid begins. -/
def cropCorner (scaled box : Size) : Option (Nat × Nat) := do
  let across ← nat64 (scaled.width * box.height)
  let down ← nat64 (box.width * scaled.height)
  if across < down then return (0, (← difference scaled.height box.height) / 2)
  else return ((← difference scaled.width box.width) / 2, 0)

theorem scaledSize_eq_some {mode : ResizeMode} {source box : Size}
    (hsource : source.isEmpty = false)
    (hstorable : (ImageChain.scaledSize rounding mode source box).IsStorable) :
    scaledSize rounding mode source box =
      some (ImageChain.scaledSize rounding mode source box) := by
  obtain ⟨hwidth, hheight⟩ := Size.isEmpty_eq_false_iff.mp hsource
  have hratio : scaleRatio rounding mode source box =
      some (ImageChain.scaleRatio rounding mode source box) := by
    rw [scaleRatio, quotient_of_pos _ hwidth, quotient_of_pos _ hheight]
    cases mode <;> rfl
  have hacross := nat32_of_lt hstorable.width
  have hdown := nat32_of_lt hstorable.height
  rw [ImageChain.scaledSize] at hacross hdown
  simp only [scaledSize, hratio, Option.bind_eq_bind, Option.bind_some, hacross, hdown]
  rfl

/-- The product of two sides has room. -/
theorem nat64_mul {first second : Nat} (hfirst : first < 2 ^ 32) (hsecond : second < 2 ^ 32) :
    nat64 (first * second) = some (first * second) := by
  refine nat64_of_lt ?_
  calc first * second < 2 ^ 32 * 2 ^ 32 := Nat.mul_lt_mul'' hfirst hsecond
    _ = 2 ^ 64 := rfl

theorem cropCorner_eq_some {scaled box : Size} (hscaled : scaled.IsStorable)
    (hcovers : box.fitsIn scaled = true) :
    cropCorner scaled box = some (ImageChain.cropCorner scaled box) := by
  have hbox := hscaled.of_fitsIn hcovers
  obtain ⟨hwidth, hheight⟩ := Size.fitsIn_iff.mp hcovers
  simp only [cropCorner, Option.bind_eq_bind, nat64_mul hscaled.width hbox.height,
    nat64_mul hbox.width hscaled.height, Option.bind_some, difference_of_le hwidth,
    difference_of_le hheight]
  unfold ImageChain.cropCorner
  split <;> rfl

/-! ## Pixels -/

variable {α : Type}

/-- The raster with the given values, if there is one for every place. -/
def generate (width height : Nat) (value : Nat → Nat → Option α) : Option (Raster α) :=
  if hall : ∀ i : Fin (width * height), (value (i % width) (i / width)).isSome then
    some ⟨width, height, Array.ofFn fun i => (value (i % width) (i / width)).get (hall i),
      Array.size_ofFn⟩
  else none

theorem generate_eq_some (raster : Raster α) {value : Nat → Nat → Option α}
    (hvalues : ∀ (i : Nat) (hi : i < raster.cells.size),
      value (i % raster.width) (i / raster.width) = some raster.cells[i]) :
    generate raster.width raster.height value = some raster := by
  obtain ⟨width, height, cells, hcomplete⟩ := raster
  have hall : ∀ i : Fin (width * height), (value (i % width) (i / width)).isSome := by
    intro i
    have hi : i < cells.size := Nat.lt_of_lt_of_eq i.2 hcomplete.symm
    rw [hvalues i hi]
    rfl
  rw [generate, dif_pos hall]
  have hcells : (Array.ofFn fun i : Fin (width * height) =>
      (value (i % width) (i / width)).get (hall i)) = cells := by
    refine Array.ext (Array.size_ofFn.trans hcomplete.symm) fun i _ hi => ?_
    rw [Array.getElem_ofFn]
    exact Option.get_of_eq_some _ (hvalues i hi)
  simp only [hcells]

theorem generate_of_values {width height : Nat} {value : Nat → Nat → Option α}
    {total : Nat → Nat → α}
    (hvalues : ∀ x y, x < width → y < height → value x y = some (total x y)) :
    generate width height value = some (.generate width height total) := by
  have hcells (i : Nat) (hi : i < (Raster.generate width height total).cells.size) :
      value (i % width) (i / width) = some (Raster.generate width height total).cells[i] := by
    have hcount : i < width * height :=
      Nat.lt_of_lt_of_eq hi (Raster.generate width height total).complete
    have hplace := Raster.mod_lt_and_div_lt hcount
    rw [hvalues _ _ hplace.1 hplace.2]
    simp [Raster.generate]
  exact generate_eq_some (.generate width height total) hcells

/-! ## Resampling -/

open Resample in
/-- The taps of a sample are places of the source. -/
theorem taps_inside {source : Nat} (hsource : 0 < source) (target place : Nat) :
    (taps source target place).first + (taps source target place).weights.length ≤ source := by
  simp only [taps, List.length_map, List.length_range, clampTo]
  omega

/-- The weighted sum of pixels that are read along a line. -/
def weigh {n : Nat} (taps : Resample.Taps) (pixel : Nat → Option (Vector Float32 n)) :
    Option (Vector Float32 n) :=
  (taps.weights.zipIdx taps.first).foldlM
    (fun sum (weight, place) => do
      return sum.zipWith (fun s p => s + p * weight) (← pixel place))
    (Vector.replicate n 0.0)

/-- A sum of which no summand is missing. -/
theorem foldlM_eq_some {β γ : Type} {entries : List γ} {add : β → γ → Option β} {total : β → γ → β}
    (hadd : ∀ entry ∈ entries, ∀ sum, add sum entry = some (total sum entry)) (start : β) :
    entries.foldlM add start = some (entries.foldl total start) := by
  induction entries generalizing start with
  | nil => rfl
  | cons entry rest ih =>
      obtain ⟨hentry, hrest⟩ := List.forall_mem_cons.mp hadd
      rw [List.foldlM_cons, hentry, Option.bind_eq_bind, Option.bind_some, ih hrest,
        List.foldl_cons]

theorem weigh_eq_some {n : Nat} {taps : Resample.Taps} {pixel : Nat → Option (Vector Float32 n)}
    {value : Nat → Vector Float32 n} {bound : Nat}
    (hinside : taps.first + taps.weights.length ≤ bound)
    (hread : ∀ place < bound, pixel place = some (value place)) :
    weigh taps pixel = some (Resample.weigh taps value) := by
  refine foldlM_eq_some (fun entry hentry sum => ?_) _
  obtain ⟨-, hlt, -⟩ := List.mem_zipIdx hentry
  have hplace : entry.2 < bound := by omega
  dsimp only
  rw [hread entry.2 hplace]
  rfl

variable {n : Nat}

/-- A raster of real pixels brought to another height. -/
def stretchColumns (source : Raster (Vector Float32 n)) (height : Nat) :
    Option (Raster (Vector Float32 n)) :=
  let rows := Array.ofFn (n := height) fun row => Resample.taps source.height height row
  generate source.width height fun x y => do
    weigh (← rows[y]?) fun row => source.get? x row

/-- A raster of real pixels brought to another width. -/
def stretchRows (source : Raster (Vector Float32 n)) (width : Nat) :
    Option (Raster (Vector Float32 n)) :=
  let columns := Array.ofFn (n := width) fun column => Resample.taps source.width width column
  generate width source.height fun x y => do
    weigh (← columns[x]?) fun column => source.get? column y

theorem get?_of_lt {raster : Raster α} {x y : Nat} (hx : x < raster.width) (hy : y < raster.height)
    (default : α) : raster.get? x y = some ((raster.get? x y).getD default) := by
  rw [Raster.get?, dif_pos ⟨hx, hy⟩, Option.getD_some]

theorem stretchColumns_eq_some {source : Raster (Vector Float32 n)} (hsource : 0 < source.height)
    (height : Nat) :
    stretchColumns source height = some (Resample.stretchColumns source height) := by
  unfold stretchColumns Resample.stretchColumns
  refine generate_of_values fun x y hx hy => ?_
  rw [Array.getElem?_ofFn, dif_pos hy, Option.getD_some]
  exact weigh_eq_some (taps_inside hsource height y) fun row hrow => get?_of_lt hx hrow _

theorem stretchRows_eq_some {source : Raster (Vector Float32 n)} (hsource : 0 < source.width)
    (width : Nat) : stretchRows source width = some (Resample.stretchRows source width) := by
  unfold stretchRows Resample.stretchRows
  refine generate_of_values fun x y hx hy => ?_
  rw [Array.getElem?_ofFn, dif_pos hx, Option.getD_some]
  exact weigh_eq_some (taps_inside hsource width x) fun column hcolumn => get?_of_lt hcolumn hy _

/-- A grid brought to another size. -/
def resample (grid : Grid) (size : Size) : Option Grid :=
  if grid.size = size then some grid
  else do
    let depth := grid.color.depth
    let reals := grid.raster.map fun pixel => pixel.map (Resample.toReal depth)
    let columns ← stretchColumns reals size.height
    let stretched ← stretchRows columns size.width
    return ⟨grid.color, stretched.map fun pixel => pixel.map (Resample.ofReal depth)⟩

theorem resample_eq_some {grid : Grid} (hgrid : grid.size.isEmpty = false) (size : Size) :
    resample grid size = some (grid.resample size) := by
  obtain ⟨hwidth, hheight⟩ := Size.isEmpty_eq_false_iff.mp hgrid
  unfold resample Grid.resample
  split
  · rfl
  · dsimp only
    rw [stretchColumns_eq_some hheight, Option.bind_eq_bind, Option.bind_some,
      stretchRows_eq_some hwidth]
    rfl

/-! ## Resizing -/

/-- A grid brought to a box. -/
def resize (grid : Grid) (mode : ResizeMode) (box : Size) : Option Grid :=
  if box.isEmpty || grid.size.isEmpty then some .empty
  else
    match mode with
    | .fit =>
      if grid.size = box then some grid
      else do resample grid (← scaledSize rounding .fit grid.size box)
    | .fill => do
      let scaled ← resample grid (← scaledSize rounding .fill grid.size box)
      let corner ← cropCorner scaled.size box
      return scaled.crop corner.1 corner.2 box

theorem resize_of_isEmpty {grid : Grid} {mode : ResizeMode} {box : Size}
    (hempty : (box.isEmpty || grid.size.isEmpty) = true) :
    resize rounding grid mode box = some (grid.resize rounding mode box) := by
  unfold resize Grid.resize
  rw [if_pos hempty, if_pos hempty]

theorem resize_fit {grid : Grid} {box : Size}
    (hpixels : (box.isEmpty || grid.size.isEmpty) = false) (hbox : box.IsStorable) :
    resize id grid .fit box = some (grid.resize id .fit box) := by
  have hnot := Bool.eq_false_iff.mp hpixels
  obtain ⟨hbelow, hgrid⟩ := Bool.or_eq_false_iff.mp hpixels
  have hscaled := scaledSize_eq_some id hgrid
    (hbox.of_fitsIn (scaledSize_fit_fitsIn hgrid hbelow))
  unfold resize Grid.resize
  rw [if_neg hnot, if_neg hnot]
  dsimp only
  split
  · rfl
  · rw [hscaled, Option.bind_eq_bind, Option.bind_some, resample_eq_some hgrid]

theorem resize_fill {grid : Grid} {box : Size}
    (hpixels : (box.isEmpty || grid.size.isEmpty) = false)
    (hmemory : (ImageChain.scaledSize id .fill grid.size box).IsStorable) :
    resize id grid .fill box = some (grid.resize id .fill box) := by
  have hnot := Bool.eq_false_iff.mp hpixels
  obtain ⟨hbelow, hgrid⟩ := Bool.or_eq_false_iff.mp hpixels
  have hcorner := cropCorner_eq_some hmemory (fitsIn_scaledSize_fill hgrid hbelow)
  unfold resize Grid.resize
  rw [if_neg hnot, if_neg hnot]
  simp only [scaledSize_eq_some id hgrid hmemory, Option.bind_eq_bind, Option.bind_some,
    resample_eq_some hgrid, Grid.size_resample, hcorner]
  rfl

/-! ## Laying over -/

/-- The place of the left or upper edge that leaves a margin. -/
def column (position : Position) (margin : Int) : Int :=
  match position with
  | .topLeft | .left | .bottomLeft => 0
  | .top | .center | .bottom => margin.tdiv 2
  | .topRight | .right | .bottomRight => margin

/-- The place of the upper edge that leaves a margin. -/
def row (position : Position) (margin : Int) : Int :=
  match position with
  | .topLeft | .top | .topRight => 0
  | .left | .center | .right => margin.tdiv 2
  | .bottomLeft | .bottom | .bottomRight => margin

/-- The column and the row in which a mark begins on a base.  Both margins are computed, whether the
position asks for them or not. -/
def corner (watermark : Watermark) (base : Size) : Option (Int × Int) := do
  let across ← int64 ((base.width : Int) - watermark.mark.width)
  let down ← int64 ((base.height : Int) - watermark.mark.height)
  return (column watermark.position across, row watermark.position down)

/-- A mark laid over its base. -/
def overlay (base mark : Raster (Pixel .rgba8)) (left top : Int) :
    Option (Raster (Pixel .rgba8)) :=
  generate base.width base.height fun x y => do
    let pixel ← base.get? x y
    let across ← int64 ((x : Int) - left)
    let down ← int64 ((y : Int) - top)
    return match mark.at? across down with
      | some upper => blend upper pixel
      | none => pixel

/-- A base with a mark over it. -/
def layOver (watermark : Watermark) (base : Grid) : Option Grid := do
  let place ← corner watermark base.size
  let raster ← overlay base.toRgba watermark.mark place.1 place.2
  return ⟨.rgba8, raster⟩

theorem left_eq (watermark : Watermark) (base : Size) :
    watermark.left base =
      column watermark.position ((base.width : Int) - watermark.mark.width) := by
  unfold column Watermark.left Position.column
  cases watermark.position <;> rfl

theorem top_eq (watermark : Watermark) (base : Size) :
    watermark.top base =
      row watermark.position ((base.height : Int) - watermark.mark.height) := by
  unfold row Watermark.top Position.row
  cases watermark.position <;> rfl

theorem corner_eq_some {watermark : Watermark} {base : Size} (hbase : base.IsStorable)
    (hmark : watermark.mark.size.IsStorable) :
    corner watermark base = some (watermark.left base, watermark.top base) := by
  have hacross : int64 ((base.width : Int) - watermark.mark.width) =
      some ((base.width : Int) - watermark.mark.width) := int64_sub hbase.width hmark.width
  have hdown : int64 ((base.height : Int) - watermark.mark.height) =
      some ((base.height : Int) - watermark.mark.height) := int64_sub hbase.height hmark.height
  rw [corner, hacross, hdown, left_eq, top_eq]
  rfl

theorem natAbs_half_le (margin : Int) : (margin.tdiv 2).natAbs ≤ margin.natAbs := by
  rw [Int.natAbs_tdiv]
  exact Nat.div_le_self _ _

theorem natAbs_column_le (position : Position) (margin : Int) :
    (column position margin).natAbs ≤ margin.natAbs := by
  cases position <;>
    first | exact Nat.zero_le _ | exact natAbs_half_le margin | exact Nat.le_refl _

theorem natAbs_row_le (position : Position) (margin : Int) :
    (row position margin).natAbs ≤ margin.natAbs := by
  cases position <;>
    first | exact Nat.zero_le _ | exact natAbs_half_le margin | exact Nat.le_refl _

/-- Whatever the position, a mark begins no further away than a side is long. -/
theorem natAbs_corner_lt {watermark : Watermark} {base : Size} (hbase : base.IsStorable)
    (hmark : watermark.mark.size.IsStorable) :
    (watermark.left base).natAbs < 2 ^ 32 ∧ (watermark.top base).natAbs < 2 ^ 32 := by
  have hmargin {first second : Nat} (hfirst : first < 2 ^ 32) (hsecond : second < 2 ^ 32) :
      ((first : Int) - second).natAbs < 2 ^ 32 := by omega
  rw [left_eq, top_eq]
  exact ⟨Nat.lt_of_le_of_lt (natAbs_column_le _ _) (hmargin hbase.width hmark.width),
    Nat.lt_of_le_of_lt (natAbs_row_le _ _) (hmargin hbase.height hmark.height)⟩

theorem overlay_eq_some {base mark : Raster (Pixel .rgba8)} {left top : Int}
    (hbase : base.size.IsStorable) (hleft : left.natAbs < 2 ^ 32) (htop : top.natAbs < 2 ^ 32) :
    overlay base mark left top = some (base.overlay mark left top) := by
  have hshift {place : Nat} {start : Int} (hplace : place < 2 ^ 32)
      (hstart : start.natAbs < 2 ^ 32) : int64 ((place : Int) - start) = some (place - start) :=
    if_pos (by omega)
  have hcells (i : Nat) (hi : i < (base.overlay mark left top).cells.size) :
      (do
        let pixel ← base.get? (i % base.width) (i / base.width)
        let across ← int64 (((i % base.width : Nat) : Int) - left)
        let down ← int64 (((i / base.width : Nat) : Int) - top)
        return match mark.at? across down with
          | some upper => blend upper pixel
          | none => pixel) = some (base.overlay mark left top).cells[i] := by
    have hcell : i < base.cells.size := Nat.lt_of_lt_of_eq hi Array.size_mapFinIdx
    have hplace := Raster.mod_lt_and_div_lt (Nat.lt_of_lt_of_eq hcell base.complete)
    have hcolumn := Nat.lt_trans hplace.1 hbase.width
    have hrow := Nat.lt_trans hplace.2 hbase.height
    simp only [Raster.get?_mod_div base hcell, hshift hcolumn hleft, hshift hrow htop,
      Option.bind_eq_bind, Option.bind_some, Raster.overlay, Array.getElem_mapFinIdx]
    rfl
  exact generate_eq_some (base.overlay mark left top) hcells

theorem layOver_eq_some {watermark : Watermark} {base : Grid} (hbase : base.size.IsStorable)
    (hmark : watermark.mark.size.IsStorable) :
    layOver watermark base = some (watermark.layOver base) := by
  obtain ⟨hleft, htop⟩ := natAbs_corner_lt hbase hmark
  have hrgba : base.toRgba.size.IsStorable := hbase
  rw [layOver, corner_eq_some hbase hmark, Option.bind_eq_bind, Option.bind_some,
    overlay_eq_some hrgba hleft htop]
  rfl

end Trapping

end ImageChain
