import ImageChain.Codec.Huffman
import ImageChain.Pixel.Color

/-!
# Lossless WebP

Only files that hold one picture without loss are read: not lossy ones, not those with transparency
beside a lossy picture, and no animations.

A lossless WebP image is a stream of bits.  Its pixels are coded with five codes at a time, or
copied from pixels before them, or taken from a cache of recent colours.  Transforms that make the
pixels easier to code are undone afterwards.  A written file uses the plainest codes and no
transform.
-/

namespace ImageChain.Codec.Webp

/-- A pixel: alpha, red, green and blue from the highest byte to the lowest one. -/
abbrev Argb := UInt32

/-- The byte of a pixel that begins `shift` bits from its end. -/
def channel (pixel : Argb) (shift : Nat) : Nat :=
  pixel.toNat >>> shift % 256

/-- The pixel with given samples. -/
def ofChannels (alpha red green blue : Nat) : Argb :=
  (16777216 * (alpha % 256) + 65536 * (red % 256) + 256 * (green % 256) + blue % 256).toUInt32

/-- Two pixels added sample by sample. -/
def addPixels (first second : Argb) : Argb :=
  let sum (shift : Nat) : Nat := channel first shift + channel second shift
  ofChannels (sum 24) (sum 16) (sum 8) (sum 0)

/-- The size of a raster of blocks of `2 ^ bits` pixels each. -/
def blocksFor (side bits : Nat) : Nat :=
  (side + (1 <<< bits) - 1) >>> bits

/-! ### Codes -/

/-- A code, or the only symbol there is, which takes no bits. -/
inductive Code where
  | only (symbol : Nat)
  | many (code : Huffman)

/-- The symbol of the next code word. -/
def Code.read : Code → BitReader Nat
  | only symbol => return symbol
  | many code => code.read

/-- The code with the given lengths. -/
def Code.ofLengths (lengths : List Nat) : BitReader Code :=
  match lengths.zipIdx.filter (·.1 != 0) with
  | [] => failure
  | [(_, symbol)] => return only symbol
  | _ =>
    let code := Huffman.ofLengths lengths
    if code.slack = 0 then return many code else failure

/-- The order in which the lengths of the code for code lengths are given. -/
def lengthOrder : List Nat :=
  [17, 18, 0, 1, 2, 3, 4, 5, 16, 6, 7, 8, 9, 10, 11, 12, 13, 14, 15]

/-- Reads code lengths after those in `lengths`, which come last first, until `count` are there or
`words` code words have been read. -/
def readLengths (code : Code) (count : Nat) : Nat → Nat → List Nat → BitReader (List Nat)
  | 0, _, lengths => return lengths.reverse
  | words + 1, previous, lengths => do
    if count ≤ lengths.length then
      if lengths.length = count then return lengths.reverse else failure
    else
      let symbol ← code.read
      if symbol < 16 then
        let previous := if symbol = 0 then previous else symbol
        readLengths code count words previous (symbol :: lengths)
      else
        let (length, times) ←
          if symbol = 16 then (fun times => (previous, 3 + times)) <$> readBits 2
          else if symbol = 17 then (fun times => (0, 3 + times)) <$> readBits 3
          else (fun times => (0, 11 + times)) <$> readBits 7
        readLengths code count words previous (List.replicate times length ++ lengths)

/-- Reads a code for `count` symbols. -/
def readCode (count : Nat) : BitReader Code := do
  if (← readBit) = 1 then
    let two ← readBit
    let wide ← readBit
    let first ← readBits (if wide = 1 then 8 else 1)
    if two = 0 then return .only first
    else
      let second ← readBits 8
      let lengths := (List.range count).map fun symbol =>
        if symbol = first ∨ symbol = second then 1 else 0
      Code.ofLengths lengths
  else
    let lengthCount := 4 + (← readBits 4)
    let given ← (List.range lengthCount).mapM fun _ => readBits 3
    let order := lengthOrder.zip given
    let code ← Code.ofLengths ((List.range 19).map fun symbol => (order.lookup symbol).getD 0)
    let words ←
      if (← readBit) = 1 then
        let bits ← readBits 3
        (2 + ·) <$> readBits (2 + 2 * bits)
      else pure count
    if count < words then failure
    else
      let lengths ← readLengths code count words 8 []
      if count < lengths.length then failure
      else Code.ofLengths (lengths ++ List.replicate (count - lengths.length) 0)

/-- The five codes for pixels. -/
structure CodeGroup where
  /-- The code for green samples, lengths and places in the cache. -/
  green : Code
  /-- The code for red samples. -/
  red : Code
  /-- The code for blue samples. -/
  blue : Code
  /-- The code for alpha samples. -/
  alpha : Code
  /-- The code for distances. -/
  distance : Code

/-- Reads the five codes for pixels with a cache of a size. -/
def readGroup (cacheSize : Nat) : BitReader CodeGroup := do
  let green ← readCode (280 + cacheSize)
  let red ← readCode 256
  let blue ← readCode 256
  let alpha ← readCode 256
  let distance ← readCode 40
  return ⟨green, red, blue, alpha, distance⟩

/-! ### Pixels -/

/-- Reads the number that a symbol and the bits after it stand for. -/
def readExtended (symbol : Nat) : BitReader Nat :=
  if symbol < 4 then return symbol + 1
  else do
    let bits := (symbol - 2) / 2
    return (2 + symbol % 2) <<< bits + (← readBits bits) + 1

/-- The columns to the left and the rows up that the least distances stand for. -/
def nearby : Array (Int × Int) := #[
  (0, 1), (1, 0), (1, 1), (-1, 1), (0, 2), (2, 0), (1, 2), (-1, 2), (2, 1), (-2, 1), (2, 2),
  (-2, 2), (0, 3), (3, 0), (1, 3), (-1, 3), (3, 1), (-3, 1), (2, 3), (-2, 3), (3, 2), (-3, 2),
  (0, 4), (4, 0), (1, 4), (-1, 4), (4, 1), (-4, 1), (3, 3), (-3, 3), (2, 4), (-2, 4), (4, 2),
  (-4, 2), (0, 5), (3, 4), (-3, 4), (4, 3), (-4, 3), (5, 0), (1, 5), (-1, 5), (5, 1), (-5, 1),
  (2, 5), (-2, 5), (5, 2), (-5, 2), (4, 4), (-4, 4), (3, 5), (-3, 5), (5, 3), (-5, 3), (0, 6),
  (6, 0), (1, 6), (-1, 6), (6, 1), (-6, 1), (2, 6), (-2, 6), (6, 2), (-6, 2), (4, 5), (-4, 5),
  (5, 4), (-5, 4), (3, 6), (-3, 6), (6, 3), (-6, 3), (0, 7), (7, 0), (1, 7), (-1, 7), (5, 5),
  (-5, 5), (7, 1), (-7, 1), (4, 6), (-4, 6), (6, 4), (-6, 4), (2, 7), (-2, 7), (7, 2), (-7, 2),
  (3, 7), (-3, 7), (7, 3), (-7, 3), (5, 6), (-5, 6), (6, 5), (-6, 5), (8, 0), (4, 7), (-4, 7),
  (7, 4), (-7, 4), (8, 1), (8, 2), (6, 6), (-6, 6), (8, 3), (5, 7), (-5, 7), (7, 5), (-7, 5),
  (8, 4), (6, 7), (-6, 7), (7, 6), (-7, 6), (8, 5), (7, 7), (-7, 7), (8, 6), (8, 7)]

/-- The number of pixels back that a distance stands for in rows of a width. -/
def pixelsBack (width distance : Nat) : Nat :=
  match nearby[distance - 1]? with
  | some (across, up) => max 1 (across + up * width).toNat
  | none => distance - 120

/-- The pixels read so far and the recent colours. -/
structure Canvas where
  /-- The pixels. -/
  pixels : Array Argb
  /-- The number of bits of a place in the cache; without a cache, nothing. -/
  cacheBits : Option Nat
  /-- The recent colours. -/
  cache : Array Argb

/-- The place of a colour in a cache. -/
def cachePlace (bits : Nat) (pixel : Argb) : Nat :=
  (0x1E35A7BD * pixel).toNat >>> (32 - bits)

/-- The canvas with one more pixel. -/
def Canvas.push (canvas : Canvas) (pixel : Argb) : Canvas :=
  let cache := match canvas.cacheBits with
    | some bits => canvas.cache.setIfInBounds (cachePlace bits pixel) pixel
    | none => canvas.cache
  { canvas with pixels := canvas.pixels.push pixel, cache := cache }

/-- The canvas with copies of the pixels that begin `distance` pixels back. -/
def Canvas.copy (distance : Nat) : Nat → Canvas → Option Canvas
  | 0, canvas => some canvas
  | count + 1, canvas =>
    if distance = 0 ∨ canvas.pixels.size < distance then none
    else do
      let pixel ← canvas.pixels[canvas.pixels.size - distance]?
      Canvas.copy distance count (canvas.push pixel)

/-- Reads pixels until `total` are there; `fuel` bounds the code words for green. -/
def readPixels (width total : Nat) (group : Nat → Nat → Option CodeGroup) :
    Nat → Canvas → BitReader (Array Argb)
  | 0, _ => failure
  | fuel + 1, canvas => do
    let place := canvas.pixels.size
    if total ≤ place then
      if place = total then return canvas.pixels else failure
    else
      match group (place % width) (place / width) with
      | none => failure
      | some codes =>
        let green ← codes.green.read
        if green < 256 then
          let red ← codes.red.read
          let blue ← codes.blue.read
          let alpha ← codes.alpha.read
          readPixels width total group fuel (canvas.push (ofChannels alpha red green blue))
        else if green < 280 then
          let length ← readExtended (green - 256)
          let distance ← readExtended (← codes.distance.read)
          match Canvas.copy (pixelsBack width distance) length canvas with
          | some canvas => readPixels width total group fuel canvas
          | none => failure
        else
          match canvas.cache[green - 280]? with
          | some pixel => readPixels width total group fuel (canvas.push pixel)
          | none => failure

/-- Reads the number of bits of a place in the cache, if there is a cache. -/
def readCacheBits : BitReader (Option Nat) := do
  if (← readBit) = 1 then
    let bits ← readBits 4
    if 1 ≤ bits ∧ bits ≤ 11 then return some bits else failure
  else return none

/-- The number of colours in a cache. -/
def cacheSize : Option Nat → Nat
  | some bits => 1 <<< bits
  | none => 0

/-- Reads an image that has the same codes everywhere. -/
def readPlainImage (width height : Nat) : BitReader (Array Argb) := do
  let cacheBits ← readCacheBits
  let group ← readGroup (cacheSize cacheBits)
  let canvas : Canvas := ⟨#[], cacheBits, Array.replicate (cacheSize cacheBits) 0⟩
  readPixels width (width * height) (fun _ _ => some group) (width * height + 1) canvas

/-- Reads an image that may have codes of its own for each block. -/
def readImage (width height : Nat) : BitReader (Array Argb) := do
  let cacheBits ← readCacheBits
  let canvas : Canvas := ⟨#[], cacheBits, Array.replicate (cacheSize cacheBits) 0⟩
  if (← readBit) = 1 then
    let bits := 2 + (← readBits 3)
    let columns := blocksFor width bits
    let blocks ← readPlainImage columns (blocksFor height bits)
    let numbers := blocks.map fun pixel => pixel.toNat / 256 % 65536
    let groups ← (List.range (numbers.foldl max 0 + 1)).mapM fun _ =>
      readGroup (cacheSize cacheBits)
    let groups := groups.toArray
    let group (x y : Nat) : Option CodeGroup := do
      groups[← numbers[(y >>> bits) * columns + (x >>> bits)]?]?
    readPixels width (width * height) group (width * height + 1) canvas
  else
    let group ← readGroup (cacheSize cacheBits)
    readPixels width (width * height) (fun _ _ => some group) (width * height + 1) canvas

/-! ### Transforms -/

/-- A change of the pixels that has to be undone. -/
inductive Transform where
  /-- Pixels are differences from predictions, one way of predicting for each block. -/
  | predict (bits : Nat) (modes : Array Argb)
  /-- Red and blue are differences from shares of other samples, for each block. -/
  | crossColour (bits : Nat) (shares : Array Argb)
  /-- Red and blue are differences from green. -/
  | subtractGreen
  /-- Pixels are places in a table of colours, several in a pixel. -/
  | indexed (bits : Nat) (table : Array Argb)

/-- The average of two pixels, rounded down. -/
def average (first second : Argb) : Argb :=
  let half (shift : Nat) : Nat := (channel first shift + channel second shift) / 2
  ofChannels (half 24) (half 16) (half 8) (half 0)

/-- A sample brought into the range of bytes. -/
def clampByte (value : Int) : Nat :=
  (max 0 (min 255 value)).toNat

/-- The sum of two pixels without a third one, sample by sample. -/
def clampedSum (left up corner : Argb) : Argb :=
  let sample (shift : Nat) : Nat :=
    clampByte ((channel left shift : Int) + channel up shift - channel corner shift)
  ofChannels (sample 24) (sample 16) (sample 8) (sample 0)

/-- A pixel moved away from another one by half of their difference. -/
def clampedHalf (middle corner : Argb) : Argb :=
  let sample (shift : Nat) : Nat :=
    let value : Int := channel middle shift
    clampByte (value + (value - channel corner shift).tdiv 2)
  ofChannels (sample 24) (sample 16) (sample 8) (sample 0)

/-- The one of two pixels that is nearer to the value expected from three. -/
def select (left up corner : Argb) : Argb :=
  let distance (pixel other : Argb) : Nat :=
    [24, 16, 8, 0].foldl (fun sum shift =>
      sum + ((channel pixel shift : Int) - channel other shift).natAbs) 0
  if distance up corner < distance left corner then left else up

/-- The prediction of a pixel from its neighbours in one of fourteen ways. -/
def prediction (mode : Nat) (left up corner next : Argb) : Argb :=
  match mode with
  | 1 => left
  | 2 => up
  | 3 => next
  | 4 => corner
  | 5 => average (average left next) up
  | 6 => average left corner
  | 7 => average left up
  | 8 => average corner up
  | 9 => average up next
  | 10 => average (average left corner) (average up next)
  | 11 => select left up corner
  | 12 => clampedSum left up corner
  | 13 => clampedHalf (average left up) corner
  | _ => 0xFF000000

/-- Restores pixels from their differences to predictions. -/
def undoPrediction (width bits : Nat) (modes pixels : Array Argb) : Array Argb :=
  let columns := blocksFor width bits
  pixels.foldl (fun restored difference =>
    let place := restored.size
    let x := place % width
    let y := place / width
    let before (count : Nat) : Argb := (restored[place - count]?).getD 0
    let mode := (modes[(y >>> bits) * columns + (x >>> bits)]?).getD 0
    let predicted :=
      if place = 0 then 0xFF000000
      else if y = 0 then before 1
      else if x = 0 then before width
      else
        prediction (channel mode 8 % 16) (before 1) (before width) (before (width + 1))
          (before (width - 1))
    restored.push (addPixels difference predicted)) #[]

/-- A byte as a number with a sign. -/
def signed (byte : Nat) : Int :=
  if byte < 128 then byte else byte - 256

/-- A share of a sample. -/
def shareOf (share sample : Nat) : Int :=
  (signed share * signed sample).fdiv 32

/-- Restores red and blue from their differences to shares of other samples. -/
def undoCrossColour (width bits : Nat) (shares pixels : Array Argb) : Array Argb :=
  let columns := blocksFor width bits
  pixels.mapIdx fun place pixel =>
    let block := ((place / width) >>> bits) * columns + ((place % width) >>> bits)
    let share := (shares[block]?).getD 0
    let green := channel pixel 8
    let wrap (value : Int) : Nat := (value % 256).toNat
    let red := wrap (channel pixel 16 + shareOf (channel share 0) green)
    let blue := wrap (channel pixel 0 + shareOf (channel share 8) green +
      shareOf (channel share 16) red)
    ofChannels (channel pixel 24) red green blue

/-- Restores red and blue from their differences to green. -/
def undoSubtractGreen (pixels : Array Argb) : Array Argb :=
  pixels.map fun pixel =>
    let green := channel pixel 8
    ofChannels (channel pixel 24) (channel pixel 16 + green) green (channel pixel 0 + green)

/-- Restores colours from their places in a table. -/
def undoIndexed (width bits : Nat) (table pixels : Array Argb) : Array Argb :=
  let columns := blocksFor width bits
  let height := if columns = 0 then 0 else pixels.size / columns
  Array.ofFn (n := width * height) fun i =>
    let x := i.1 % width
    let y := i.1 / width
    let packed := channel ((pixels[y * columns + (x >>> bits)]?).getD 0) 8
    let size := 8 >>> bits
    let index := packed >>> (x % (1 <<< bits) * size) % (1 <<< size)
    (table[index]?).getD 0

/-- Undoes a transform of pixels in rows of a width. -/
def Transform.undo (width : Nat) (pixels : Array Argb) : Transform → Array Argb
  | predict bits modes => undoPrediction width bits modes pixels
  | crossColour bits shares => undoCrossColour width bits shares pixels
  | subtractGreen => undoSubtractGreen pixels
  | indexed bits table => undoIndexed width bits table pixels

/-- The colours of a table, each given as the difference to the one before it. -/
def sumColours (differences : Array Argb) : Array Argb :=
  differences.foldl (fun colours difference =>
    colours.push (addPixels difference ((colours[colours.size - 1]?).getD 0))) #[]

/-- Reads the transforms of an image, last one first, each with the width of the rows it changed.
The result ends with the width of the rows that remain; `fuel` bounds the transforms. -/
def readTransforms (height : Nat) :
    Nat → Nat → List (Nat × Transform) → BitReader (List (Nat × Transform) × Nat)
  | 0, _, _ => failure
  | fuel + 1, width, transforms => do
    if (← readBit) = 0 then return (transforms, width)
    else
      match ← readBits 2 with
      | 0 =>
        let bits := 2 + (← readBits 3)
        let modes ← readPlainImage (blocksFor width bits) (blocksFor height bits)
        readTransforms height fuel width ((width, .predict bits modes) :: transforms)
      | 1 =>
        let bits := 2 + (← readBits 3)
        let shares ← readPlainImage (blocksFor width bits) (blocksFor height bits)
        readTransforms height fuel width ((width, .crossColour bits shares) :: transforms)
      | 2 => readTransforms height fuel width ((width, .subtractGreen) :: transforms)
      | _ =>
        let count := 1 + (← readBits 8)
        let table := sumColours (← readPlainImage count 1)
        let bits := if count ≤ 2 then 3 else if count ≤ 4 then 2 else if count ≤ 16 then 1 else 0
        readTransforms height fuel (blocksFor width bits)
          ((width, .indexed bits table) :: transforms)

/-! ### Reading a file -/

/-- The grid of an image in a stream of bits. -/
def readStream : BitReader Grid := do
  let mark ← readBits 8
  let width := 1 + (← readBits 14)
  let height := 1 + (← readBits 14)
  let hasAlpha ← readBit
  let version ← readBits 3
  if mark ≠ 0x2F ∨ version ≠ 0 then failure
  else
    let (transforms, narrowed) ← readTransforms height 5 width []
    let coded ← readImage narrowed height
    let pixels := transforms.foldl (fun pixels (width, transform) => transform.undo width pixels)
      coded
    let pixel (x y : Nat) : Argb := (pixels[y * width + x]?).getD 0
    let sample (pixel : Argb) (shift : Nat) : UInt8 := (channel pixel shift).toUInt8
    if hasAlpha = 1 then
      return ⟨.rgba8, .generate width height fun x y =>
        let p := pixel x y
        #v[sample p 16, sample p 8, sample p 0, sample p 24]⟩
    else
      return ⟨.rgb8, .generate width height fun x y =>
        let p := pixel x y
        #v[sample p 16, sample p 8, sample p 0]⟩

/-- The letters of a kind of chunk. -/
def kindOf (letters : String) : List UInt8 :=
  letters.toList.map fun c => c.toNat.toUInt8

/-- Looks for the chunk of a lossless image from a place; `fuel` bounds the chunks. -/
def findStream (bytes : ByteArray) : Nat → Nat → Option ByteArray
  | 0, _ => none
  | fuel + 1, place => do
    let length ← littleEndianAt bytes (place + 4) 4
    let kind := (bytes.extract place (place + 4)).data.toList
    if kind = kindOf "VP8L" then return bytes.extract (place + 8) (place + 8 + length)
    else findStream bytes fuel (place + 8 + length + length % 2)

/-- The grid a file holds. -/
def decode (bytes : ByteArray) : Option Grid := do
  let stream ← findStream bytes bytes.size 12
  let (grid, _) ← readStream.run ⟨stream, 0⟩
  return grid

/-! ### Writing a file -/

/-- The bits of a sample's code word. -/
def sampleBits (sample : UInt8) : List Bool :=
  (lowFirst 8 sample.toNat).reverse

/-- The bits of a code that gives each of 256 samples eight bits; `further` says that the code has
more symbols, which are not used. -/
def plainCode (further : Bool) : List Bool :=
  let lengths := (List.range 12).flatMap fun i => lowFirst 3 (if i = 11 then 1 else 0)
  let words := if further then lowFirst 1 1 ++ lowFirst 3 3 ++ lowFirst 8 254 else lowFirst 1 0
  lowFirst 1 0 ++ lowFirst 4 8 ++ lengths ++ words

/-- The bits of an image. -/
def streamBits (raster : Raster (Pixel .rgba8)) : List Bool :=
  let header := lowFirst 8 0x2F ++ lowFirst 14 (raster.width - 1) ++
    lowFirst 14 (raster.height - 1) ++ lowFirst 1 1 ++ lowFirst 3 0
  let codes := plainCode true ++ plainCode false ++ plainCode false ++ plainCode false ++
    lowFirst 4 1
  let pixels := raster.cells.toList.flatMap fun pixel =>
    sampleBits pixel.green ++ sampleBits pixel.red ++ sampleBits pixel.blue ++ sampleBits pixel.alpha
  header ++ lowFirst 3 0 ++ codes ++ pixels

/-- The file that holds the pixels of a raster. -/
def encode (raster : Raster (Pixel .rgba8)) : Option ByteArray :=
  if raster.size.isEmpty || 16384 < raster.width || 16384 < raster.height then none
  else
    let bits := streamBits raster
    let stream := packBits bits
    let padding : List UInt8 := if stream.length % 2 = 1 then [0] else []
    let chunk := kindOf "VP8L" ++ littleEndian 4 stream.length ++ stream ++ padding
    some (ofBytes (kindOf "RIFF" ++ littleEndian 4 (chunk.length + 4) ++ kindOf "WEBP" ++ chunk))

end ImageChain.Codec.Webp
