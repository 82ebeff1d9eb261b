import ImageChain.Pixel.Color

/-!
# Resampling

A grid is brought to another size by Lanczos interpolation, first along the columns and then along
the rows.  A sample of the result is a weighted sum of the samples around its place in the source;
the weights fall off with the distance as a product of two sinc functions and add up to one.
-/

namespace ImageChain.Resample

/-- The ratio of a circle's circumference to its diameter. -/
def pi : Float32 := 3.14159265358979

/-- The normalized sinc function. -/
def sinc (t : Float32) : Float32 :=
  let angle := t * pi
  if t == 0.0 then 1.0 else angle.sin / angle

/-- The Lanczos window with three lobes. -/
def lanczos (x : Float32) : Float32 :=
  if x.abs < 3.0 then sinc x * sinc (x / 3.0) else 0.0

/-- The source samples that one sample of the result is made of. -/
structure Taps where
  /-- The place of the first one. -/
  first : Nat
  /-- Their weights. -/
  weights : List Float32

/-- A number brought into a range. -/
def clampTo (least greatest : Int) (value : Int) : Int :=
  max least (min greatest value)

/-- The taps of sample `place` when `source` samples are brought to `target` ones. -/
def taps (source target place : Nat) : Taps :=
  let ratio := source.toFloat32 / target.toFloat32
  let stretch := if ratio < 1.0 then 1.0 else ratio
  let reach := 3.0 * stretch
  let centre := (place.toFloat32 + 0.5) * ratio
  let first := clampTo 0 (source - 1) (centre - reach).floor.toInt64.toInt
  let past := clampTo (first + 1) source (centre + reach).ceil.toInt64.toInt
  let middle := centre - 0.5
  let raw := (List.range (past - first).toNat).map fun i =>
    lanczos (((first.toNat + i).toFloat32 - middle) / stretch)
  let total := raw.foldl (· + ·) 0.0
  ⟨first.toNat, raw.map (· / total)⟩

/-- The weighted sum of pixels along a line. -/
def weigh {n : Nat} (taps : Taps) (pixel : Nat → Vector Float32 n) : Vector Float32 n :=
  (taps.weights.zipIdx taps.first).foldl
    (fun sum (weight, place) => sum.zipWith (fun s p => s + p * weight) (pixel place))
    (Vector.replicate n 0.0)

/-- The real value of a sample. -/
def toReal : (depth : Depth) → depth.Sample → Float32
  | .byte, sample => sample.toNat.toFloat32
  | .word, sample => sample.toNat.toFloat32
  | .real, sample => sample

/-- A real value brought into a range. -/
def clampReal (greatest value : Float32) : Float32 :=
  if value < 0.0 then 0.0 else if greatest < value then greatest else value

/-- The sample nearest to a real value. -/
def ofReal : (depth : Depth) → Float32 → depth.Sample
  | .byte, value => (clampReal 255.0 value).round.toUInt8
  | .word, value => (clampReal 65535.0 value).round.toUInt16
  | .real, value => clampReal 1.0 value

/-- A raster of real pixels brought to another height. -/
def stretchColumns {n : Nat} (source : Raster (Vector Float32 n)) (height : Nat) :
    Raster (Vector Float32 n) :=
  let rows := Array.ofFn (n := height) fun row => taps source.height height row
  .generate source.width height fun x y =>
    weigh (rows[y]?.getD ⟨0, []⟩) fun row => (source.get? x row).getD (Vector.replicate n 0.0)

/-- A raster of real pixels brought to another width. -/
def stretchRows {n : Nat} (source : Raster (Vector Float32 n)) (width : Nat) :
    Raster (Vector Float32 n) :=
  let columns := Array.ofFn (n := width) fun column => taps source.width width column
  .generate width source.height fun x y =>
    weigh (columns[x]?.getD ⟨0, []⟩) fun column =>
      (source.get? column y).getD (Vector.replicate n 0.0)

end Resample

/-- A grid brought to another size.  A grid that has it already is left as it is. -/
def Grid.resample (grid : Grid) (size : Size) : Grid :=
  if grid.size = size then grid
  else
    let depth := grid.color.depth
    let reals := grid.raster.map fun pixel => pixel.map (Resample.toReal depth)
    let stretched := Resample.stretchRows (Resample.stretchColumns reals size.height) size.width
    ⟨grid.color, stretched.map fun pixel => pixel.map (Resample.ofReal depth)⟩

end ImageChain
