import ImageChain.Codec.Huffman

/-!
# Tables and transforms of JPEG

JPEG turns blocks of eight by eight samples into as many coefficients, which are given in a zigzag
from the lowest frequency to the highest one.
-/

namespace ImageChain.Codec.Jpeg

/-- A block of 64 coefficients or samples, row by row. -/
abbrev Block := Array Int

/-- The block of zeros. -/
def emptyBlock : Block := Array.replicate 64 0

/-- The places of a block in the order of a zigzag. -/
def zigzag : Array Nat := #[
  0, 1, 8, 16, 9, 2, 3, 10, 17, 24, 32, 25, 18, 11, 4, 5, 12, 19, 26, 33, 40, 48, 41, 34, 27, 20,
  13, 6, 7, 14, 21, 28, 35, 42, 49, 56, 57, 50, 43, 36, 29, 22, 15, 23, 30, 37, 44, 51, 58, 59, 52,
  45, 38, 31, 39, 46, 53, 60, 61, 54, 47, 55, 62, 63]

/-- The place of a block that a step of the zigzag visits. -/
def zigzagPlace (step : Nat) : Nat :=
  (zigzag[step]?).getD 0

/-- The divisors of brightness coefficients. -/
def brightnessDivisors : Array Nat := #[
  16, 11, 10, 16, 24, 40, 51, 61, 12, 12, 14, 19, 26, 58, 60, 55, 14, 13, 16, 24, 40, 57, 69, 56,
  14, 17, 22, 29, 51, 87, 80, 62, 18, 22, 37, 56, 68, 109, 103, 77, 24, 35, 55, 64, 81, 104, 113,
  92, 49, 64, 78, 87, 103, 121, 120, 101, 72, 92, 95, 98, 112, 100, 103, 99]

/-- The divisors of colour coefficients. -/
def colourDivisors : Array Nat := #[
  17, 18, 24, 47, 99, 99, 99, 99, 18, 21, 26, 66, 99, 99, 99, 99, 24, 26, 56, 99, 99, 99, 99, 99,
  47, 66, 99, 99, 99, 99, 99, 99, 99, 99, 99, 99, 99, 99, 99, 99, 99, 99, 99, 99, 99, 99, 99, 99,
  99, 99, 99, 99, 99, 99, 99, 99, 99, 99, 99, 99, 99, 99, 99, 99]

/-- A code as files describe it: the number of words of each length, and the symbols in order. -/
structure CodeTable where
  /-- The number of code words of each length, beginning with length one. -/
  counts : List Nat
  /-- The symbols in the order of their code words. -/
  symbols : List Nat

/-- The code of a table. -/
def CodeTable.toCode (table : CodeTable) : Huffman :=
  ⟨table.counts, table.symbols.toArray⟩

/-- The code for the sizes of brightness averages. -/
def brightnessAverages : CodeTable :=
  ⟨[0, 1, 5, 1, 1, 1, 1, 1, 1, 0, 0, 0, 0, 0, 0, 0], List.range 12⟩

/-- The code for the sizes of colour averages. -/
def colourAverages : CodeTable :=
  ⟨[0, 3, 1, 1, 1, 1, 1, 1, 1, 1, 1, 0, 0, 0, 0, 0], List.range 12⟩

/-- The code for the other brightness coefficients. -/
def brightnessDetails : CodeTable :=
  ⟨[0, 2, 1, 3, 3, 2, 4, 3, 5, 5, 4, 4, 0, 0, 1, 125], [
    0x01, 0x02, 0x03, 0x00, 0x04, 0x11, 0x05, 0x12, 0x21, 0x31, 0x41, 0x06, 0x13, 0x51, 0x61, 0x07,
    0x22, 0x71, 0x14, 0x32, 0x81, 0x91, 0xA1, 0x08, 0x23, 0x42, 0xB1, 0xC1, 0x15, 0x52, 0xD1, 0xF0,
    0x24, 0x33, 0x62, 0x72, 0x82, 0x09, 0x0A, 0x16, 0x17, 0x18, 0x19, 0x1A, 0x25, 0x26, 0x27, 0x28,
    0x29, 0x2A, 0x34, 0x35, 0x36, 0x37, 0x38, 0x39, 0x3A, 0x43, 0x44, 0x45, 0x46, 0x47, 0x48, 0x49,
    0x4A, 0x53, 0x54, 0x55, 0x56, 0x57, 0x58, 0x59, 0x5A, 0x63, 0x64, 0x65, 0x66, 0x67, 0x68, 0x69,
    0x6A, 0x73, 0x74, 0x75, 0x76, 0x77, 0x78, 0x79, 0x7A, 0x83, 0x84, 0x85, 0x86, 0x87, 0x88, 0x89,
    0x8A, 0x92, 0x93, 0x94, 0x95, 0x96, 0x97, 0x98, 0x99, 0x9A, 0xA2, 0xA3, 0xA4, 0xA5, 0xA6, 0xA7,
    0xA8, 0xA9, 0xAA, 0xB2, 0xB3, 0xB4, 0xB5, 0xB6, 0xB7, 0xB8, 0xB9, 0xBA, 0xC2, 0xC3, 0xC4, 0xC5,
    0xC6, 0xC7, 0xC8, 0xC9, 0xCA, 0xD2, 0xD3, 0xD4, 0xD5, 0xD6, 0xD7, 0xD8, 0xD9, 0xDA, 0xE1, 0xE2,
    0xE3, 0xE4, 0xE5, 0xE6, 0xE7, 0xE8, 0xE9, 0xEA, 0xF1, 0xF2, 0xF3, 0xF4, 0xF5, 0xF6, 0xF7, 0xF8,
    0xF9, 0xFA]⟩

/-- The code for the other colour coefficients. -/
def colourDetails : CodeTable :=
  ⟨[0, 2, 1, 2, 4, 4, 3, 4, 7, 5, 4, 4, 0, 1, 2, 119], [
    0x00, 0x01, 0x02, 0x03, 0x11, 0x04, 0x05, 0x21, 0x31, 0x06, 0x12, 0x41, 0x51, 0x07, 0x61, 0x71,
    0x13, 0x22, 0x32, 0x81, 0x08, 0x14, 0x42, 0x91, 0xA1, 0xB1, 0xC1, 0x09, 0x23, 0x33, 0x52, 0xF0,
    0x15, 0x62, 0x72, 0xD1, 0x0A, 0x16, 0x24, 0x34, 0xE1, 0x25, 0xF1, 0x17, 0x18, 0x19, 0x1A, 0x26,
    0x27, 0x28, 0x29, 0x2A, 0x35, 0x36, 0x37, 0x38, 0x39, 0x3A, 0x43, 0x44, 0x45, 0x46, 0x47, 0x48,
    0x49, 0x4A, 0x53, 0x54, 0x55, 0x56, 0x57, 0x58, 0x59, 0x5A, 0x63, 0x64, 0x65, 0x66, 0x67, 0x68,
    0x69, 0x6A, 0x73, 0x74, 0x75, 0x76, 0x77, 0x78, 0x79, 0x7A, 0x82, 0x83, 0x84, 0x85, 0x86, 0x87,
    0x88, 0x89, 0x8A, 0x92, 0x93, 0x94, 0x95, 0x96, 0x97, 0x98, 0x99, 0x9A, 0xA2, 0xA3, 0xA4, 0xA5,
    0xA6, 0xA7, 0xA8, 0xA9, 0xAA, 0xB2, 0xB3, 0xB4, 0xB5, 0xB6, 0xB7, 0xB8, 0xB9, 0xBA, 0xC2, 0xC3,
    0xC4, 0xC5, 0xC6, 0xC7, 0xC8, 0xC9, 0xCA, 0xD2, 0xD3, 0xD4, 0xD5, 0xD6, 0xD7, 0xD8, 0xD9, 0xDA,
    0xE2, 0xE3, 0xE4, 0xE5, 0xE6, 0xE7, 0xE8, 0xE9, 0xEA, 0xF2, 0xF3, 0xF4, 0xF5, 0xF6, 0xF7, 0xF8,
    0xF9, 0xFA]⟩

/-! ### The cosine transform -/

/-- The values of the waves, frequency by frequency, scaled so that the transform and its inverse
are the same sums of products. -/
def waves : Array Float :=
  Array.ofFn (n := 64) fun i =>
    let frequency := i.1 / 8
    let scale : Float := if frequency = 0 then 0.35355339059327379 else 0.5
    scale * (((2 * (i.1 % 8) + 1) * frequency).toFloat * 0.19634954084936207).cos

/-- The value of a wave at a place. -/
def waveAt (frequency place : Nat) : Float :=
  (waves[8 * frequency + place]?).getD 0.0

/-- A block transformed by one sum of products in each direction. -/
def transform (factor : Nat → Nat → Float) (block : Array Float) : Array Float :=
  let value (values : Array Float) (i : Nat) : Float := (values[i]?).getD 0.0
  let rows := Array.ofFn (n := 64) fun i =>
    (List.range 8).foldl (fun sum k =>
      sum + factor (i.1 % 8) k * value block (8 * (i.1 / 8) + k)) 0.0
  Array.ofFn (n := 64) fun i =>
    (List.range 8).foldl (fun sum k =>
      sum + factor (i.1 / 8) k * value rows (8 * k + i.1 % 8)) 0.0

/-- The coefficients of samples. -/
def toCoefficients (samples : Array Float) : Array Float :=
  transform waveAt samples

/-- The samples of coefficients. -/
def toSamples (coefficients : Array Float) : Array Float :=
  transform (fun place frequency => waveAt frequency place) coefficients

/-- The nearest integer. -/
def roundToInt (value : Float) : Int :=
  value.round.toInt64.toInt

end ImageChain.Codec.Jpeg
