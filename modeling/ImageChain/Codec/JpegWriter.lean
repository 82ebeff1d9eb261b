import ImageChain.Codec.JpegTables
import ImageChain.Pixel.Color

/-!
# Writing JPEG

A written file has one scan with a brightness and two colour differences for every pixel.  The
divisors are the customary ones for three quarters of the best quality.
-/

namespace ImageChain.Codec.Jpeg

/-- A divisor at three quarters of the best quality. -/
def halfDivisor (divisor : Nat) : Nat :=
  max 1 ((divisor * 50 + 50) / 100)

/-- The divisor of a coefficient of brightness or of colour. -/
def divisorAt (isColour : Bool) (place : Nat) : Nat :=
  let table := if isColour then colourDivisors else brightnessDivisors
  halfDivisor ((table[place]?).getD 1)

/-- A code word: its length and its bits. -/
structure Word where
  /-- The number of bits. -/
  length : Nat
  /-- The bits as a number. -/
  bits : Nat

/-- The code words of the symbols of a code, where `next` is the first word of the length before. -/
def wordsFrom : List Nat → Nat → Nat → List Nat → List (Nat × Word)
  | [], _, _, _ => []
  | count :: counts, length, next, symbols =>
    let own := (symbols.take count).zipIdx.map fun (symbol, i) =>
      (symbol, (⟨length, next + i⟩ : Word))
    own ++ wordsFrom counts (length + 1) (2 * (next + count)) (symbols.drop count)

/-- The code word of each symbol of a code. -/
def words (table : CodeTable) : Array Word :=
  (wordsFrom table.counts 1 0 table.symbols).foldl
    (fun words (symbol, word) => words.setIfInBounds symbol word) (Array.replicate 256 ⟨0, 0⟩)

/-- The code words for brightness averages. -/
def brightnessAverageWords : Array Word := words brightnessAverages

/-- The code words for the other brightness coefficients. -/
def brightnessDetailWords : Array Word := words brightnessDetails

/-- The code words for colour averages. -/
def colourAverageWords : Array Word := words colourAverages

/-- The code words for the other colour coefficients. -/
def colourDetailWords : Array Word := words colourDetails

/-- The lowest `count` bits of a number, the highest one first. -/
def highFirst (count value : Nat) : List Bool :=
  (lowFirst count value).reverse

/-- The bits of a symbol. -/
def wordBits (words : Array Word) (symbol : Nat) : List Bool :=
  match words[symbol]? with
  | some word => highFirst word.length word.bits
  | none => []

/-- The number of bits that a number needs. -/
def sizeOf (value : Int) : Nat :=
  if value = 0 then 0 else value.natAbs.log2 + 1

/-- The bits of a number of a size. -/
def signedBits (value : Int) : List Bool :=
  let size := sizeOf value
  highFirst size (if value < 0 then value + (1 <<< size : Nat) - 1 else value).toNat

/-- The bits of the coefficients of a block after its average, where `zeros` zeros have been
passed. -/
def detailBits (words : Array Word) : Nat → List Int → List Bool
  | 0, [] => []
  | _ + 1, [] => wordBits words 0
  | zeros, value :: rest =>
    if value = 0 then detailBits words (zeros + 1) rest
    else
      let skips := (List.replicate (zeros / 16) (wordBits words 0xF0)).flatten
      skips ++ wordBits words (zeros % 16 * 16 + sizeOf value) ++ signedBits value ++
        detailBits words 0 rest

/-- The coefficients of a block of samples, in the order of a zigzag. -/
def quantize (isColour : Bool) (samples : Array Float) : List Int :=
  let coefficients := toCoefficients samples
  (List.range 64).map fun step =>
    let place := zigzagPlace step
    roundToInt ((coefficients[place]?).getD 0.0 / (divisorAt isColour place).toFloat)

/-- The bits of a block whose component had the average `previous` before. -/
def blockBits (isColour : Bool) (previous : Int) (coefficients : List Int) : List Bool :=
  let averages := if isColour then colourAverageWords else brightnessAverageWords
  let details := if isColour then colourDetailWords else brightnessDetailWords
  let difference := coefficients.headD 0 - previous
  wordBits averages (sizeOf difference) ++ signedBits difference ++
    detailBits details 0 coefficients.tail

/-- The samples of a block: a component of its pixels, where the last column and the last row go on
beyond the edges. -/
def blockOf (raster : Raster (Pixel .rgb8)) (component : Pixel .rgb8 → Float) (left top : Nat) :
    Array Float :=
  Array.ofFn (n := 64) fun i =>
    let x := min (left + i.1 % 8) (raster.width - 1)
    let y := min (top + i.1 / 8) (raster.height - 1)
    ((raster.get? x y).map component).getD 0.0

/-- The brightness of a pixel. -/
def brightness (pixel : Pixel .rgb8) : Float :=
  0.299 * pixel[0].toNat.toFloat + 0.587 * pixel[1].toNat.toFloat +
    0.114 * pixel[2].toNat.toFloat - 128.0

/-- The difference between the blue of a pixel and its brightness. -/
def blueness (pixel : Pixel .rgb8) : Float :=
  0.5 * pixel[2].toNat.toFloat - 0.168736 * pixel[0].toNat.toFloat -
    0.331264 * pixel[1].toNat.toFloat

/-- The difference between the red of a pixel and its brightness. -/
def redness (pixel : Pixel .rgb8) : Float :=
  0.5 * pixel[0].toNat.toFloat - 0.418688 * pixel[1].toNat.toFloat -
    0.081312 * pixel[2].toNat.toFloat

/-- The bits of the blocks of a raster, given by their corners.  The averages before are those of
the brightness and of the two colour differences. -/
def rasterBits (raster : Raster (Pixel .rgb8)) :
    List (Nat × Nat) → Int × Int × Int → List Bool
  | [], _ => []
  | (left, top) :: rest, (previousY, previousBlue, previousRed) =>
    let y := quantize false (blockOf raster brightness left top)
    let blue := quantize true (blockOf raster blueness left top)
    let red := quantize true (blockOf raster redness left top)
    blockBits false previousY y ++ blockBits true previousBlue blue ++
      blockBits true previousRed red ++
      rasterBits raster rest (y.headD 0, blue.headD 0, red.headD 0)

/-- Bits packed into bytes, the highest one of each byte first, with ones at the end; `fuel` bounds
the bytes. -/
def packHighFrom : Nat → List Bool → List UInt8
  | 0, _ => []
  | fuel + 1, bits =>
    match bits with
    | [] => []
    | _ =>
      let own := bits.take 8
      let padded := own ++ List.replicate (8 - own.length) true
      let byte : UInt8 := (padded.foldl (fun (byte : Nat) bit => 2 * byte + bit.toNat) 0).toUInt8
      let rest := packHighFrom fuel (bits.drop 8)
      if byte = 0xFF then 0xFF :: 0 :: rest else byte :: rest

/-- The bytes of a segment. -/
def segment (mark : UInt8) (body : List UInt8) : List UInt8 :=
  [0xFF, mark] ++ bigEndian 2 (body.length + 2) ++ body

/-- The segment of a table of divisors. -/
def divisorSegment (isColour : Bool) : List UInt8 :=
  let divisors := (List.range 64).map fun step =>
    (divisorAt isColour (zigzagPlace step)).toUInt8
  segment 0xDB ((if isColour then 1 else 0) :: divisors)

/-- The segment of a code. -/
def codeSegment (number : UInt8) (table : CodeTable) : List UInt8 :=
  segment 0xC4 (number :: (table.counts ++ table.symbols).map Nat.toUInt8)

/-- The file that holds the pixels of a raster. -/
def encode (raster : Raster (Pixel .rgb8)) : Option ByteArray :=
  if raster.size.isEmpty || 65535 < raster.width || 65535 < raster.height then none
  else
    let identity : List UInt8 :=
      [0x4A, 0x46, 0x49, 0x46, 0, 1, 2, 0, 0, 1, 0, 1, 0, 0]
    let frame := [8] ++ bigEndian 2 raster.height ++ bigEndian 2 raster.width ++
      [3, 1, 0x11, 0, 2, 0x11, 1, 3, 0x11, 1]
    let scan : List UInt8 := [3, 1, 0, 2, 0x11, 3, 0x11, 0, 63, 0]
    let corners := (List.range ((raster.height + 7) / 8)).flatMap fun row =>
      (List.range ((raster.width + 7) / 8)).map fun column => (8 * column, 8 * row)
    let bits := rasterBits raster corners (0, 0, 0)
    some (ofBytes ([0xFF, 0xD8] ++ segment 0xE0 identity ++ segment 0xC0 frame ++
      divisorSegment false ++ divisorSegment true ++ codeSegment 0x00 brightnessAverages ++
      codeSegment 0x10 brightnessDetails ++ codeSegment 0x01 colourAverages ++
      codeSegment 0x11 colourDetails ++ segment 0xDA scan ++ packHighFrom bits.length bits ++
      [0xFF, 0xD9]))

end ImageChain.Codec.Jpeg
