import ImageChain.Codec.Bits
import ImageChain.Pixel.Color

/-!
# GIF

A GIF file has a screen on which its frames are drawn with the colours of a palette.  Only the first
frame is read; it leaves the rest of the screen transparent.  A written file has one frame with the
216 colours that divide every channel in five equal steps.
-/

namespace ImageChain.Codec.Gif

/-! ### Reading -/

/-- Reads the data blocks from a place up to the empty one, and the place after it; `fuel` bounds
the blocks. -/
def readBlocks (bytes : ByteArray) : Nat → Nat → Option (ByteArray × Nat)
  | 0, _ => none
  | fuel + 1, place => do
    let length ← byteAt bytes place
    if length = 0 then return (.empty, place + 1)
    else if bytes.size < place + 1 + length then none
    else
      let block := bytes.extract (place + 1) (place + 1 + length)
      let (rest, place) ← readBlocks bytes fuel (place + 1 + length)
      return (block ++ rest, place)

/-- What the codes of packed pixels stand for at some point. -/
structure Dictionary where
  /-- The number of bits of a code. -/
  width : Nat
  /-- What each code stands for. -/
  entries : Array (List UInt8)
  /-- What the code before stands for. -/
  previous : Option (List UInt8)

/-- The dictionary after the code that clears it. -/
def Dictionary.fresh (bits : Nat) : Dictionary :=
  let literals := (List.range (1 <<< bits)).map fun value => [value.toUInt8]
  ⟨bits + 1, (literals ++ [[], []]).toArray, none⟩

/-- What a code stands for. -/
def Dictionary.meaning (dictionary : Dictionary) (code : Nat) : Option (List UInt8) :=
  match dictionary.previous with
  | none => dictionary.entries[code]?
  | some previous =>
    if code = dictionary.entries.size then some (previous ++ previous.take 1)
    else dictionary.entries[code]?

/-- The dictionary after a code with a meaning. -/
def Dictionary.learn (dictionary : Dictionary) (meaning : List UInt8) : Dictionary :=
  let entries := match dictionary.previous with
    | some previous =>
      if dictionary.entries.size < 4096 then dictionary.entries.push (previous ++ meaning.take 1)
      else dictionary.entries
    | none => dictionary.entries
  let width :=
    if entries.size = 1 <<< dictionary.width ∧ dictionary.width < 12 then dictionary.width + 1
    else dictionary.width
  ⟨width, entries, some meaning⟩

/-- Unpacks at least `count` pixels; `fuel` bounds the codes. -/
def unpack (bits count : Nat) : Nat → Dictionary → Array UInt8 → BitReader (Array UInt8)
  | 0, _, _ => failure
  | fuel + 1, dictionary, pixels =>
    if count ≤ pixels.size then return pixels
    else do
      let code ← readBits dictionary.width
      if code = 1 <<< bits then unpack bits count fuel (.fresh bits) pixels
      else if code = (1 <<< bits) + 1 then failure
      else
        match dictionary.meaning code with
        | some meaning =>
          unpack bits count fuel (dictionary.learn meaning) (pixels ++ meaning.toArray)
        | none => failure

/-- The colours of a palette, three bytes each. -/
abbrev Palette := ByteArray

/-- Reads the palette that a byte of flags announces, and the place after it. -/
def readPalette (bytes : ByteArray) (flags place : Nat) : Option (Option Palette × Nat) :=
  if flags < 128 then some (none, place)
  else
    let length := 3 <<< (flags % 8 + 1)
    if bytes.size < place + length then none
    else some (some (bytes.extract place (place + length)), place + length)

/-- A frame on a screen. -/
structure Frame where
  /-- The first column. -/
  left : Nat
  /-- The first row. -/
  top : Nat
  /-- The size of the frame. -/
  size : Size
  /-- The colours of its pixels. -/
  palette : Palette
  /-- The index of the transparent colour. -/
  transparent : Option Nat
  /-- The row of the image that each row of pixels is. -/
  rows : List Nat
  /-- The indices of its pixels in the order of the file. -/
  pixels : Array UInt8

/-- The rows of a frame in the order of an interlaced file. -/
def interlacedRows (height : Nat) : List Nat :=
  let every (first step : Nat) : List Nat :=
    (List.range height).filter fun row => row % step = first
  every 0 8 ++ every 4 8 ++ every 2 4 ++ every 1 2

/-- Reads a frame whose descriptor begins in a place. -/
def readFrame (bytes : ByteArray) (screenPalette : Option Palette) (transparent : Option Nat)
    (place : Nat) : Option Frame := do
  let left ← littleEndianAt bytes place 2
  let top ← littleEndianAt bytes (place + 2) 2
  let width ← littleEndianAt bytes (place + 4) 2
  let height ← littleEndianAt bytes (place + 6) 2
  let flags ← byteAt bytes (place + 8)
  let (ownPalette, place) ← readPalette bytes flags (place + 9)
  let palette ← ownPalette <|> screenPalette
  let bits ← byteAt bytes place
  let (packed, _) ← readBlocks bytes bytes.size (place + 1)
  if bits = 0 ∨ 11 < bits then none
  else
    let fuel := 8 * packed.size + 1
    let (pixels, _) ← (unpack bits (width * height) fuel (.fresh bits) #[]).run ⟨packed, 0⟩
    let rows := if flags / 64 % 2 = 1 then interlacedRows height else List.range height
    return ⟨left, top, ⟨width, height⟩, palette, transparent, rows, pixels⟩

/-- Looks for the first frame from a place; `fuel` bounds the blocks before it. -/
def findFrame (bytes : ByteArray) (palette : Option Palette) :
    Nat → Option Nat → Nat → Option Frame
  | 0, _, _ => none
  | fuel + 1, transparent, place => do
    match ← byteAt bytes place with
    | 0x2C => readFrame bytes palette transparent (place + 1)
    | 0x21 =>
      let label ← byteAt bytes (place + 1)
      let (content, next) ← readBlocks bytes bytes.size (place + 2)
      if label = 0xF9 then
        let flags ← byteAt content 0
        let index ← byteAt content 3
        findFrame bytes palette fuel (if flags % 2 = 1 then some index else none) next
      else findFrame bytes palette fuel transparent next
    | _ => none

/-- The pixel of a colour of a palette. -/
def Frame.colour (frame : Frame) (index : Nat) : Pixel .rgba8 :=
  if 3 * index + 3 ≤ frame.palette.size then
    let sample (channel : Nat) : UInt8 :=
      ((byteAt frame.palette (3 * index + channel)).getD 0).toUInt8
    #v[sample 0, sample 1, sample 2, if frame.transparent = some index then 0 else 255]
  else .transparent

/-- The pixels of a frame. -/
def Frame.raster (frame : Frame) : Raster (Pixel .rgba8) :=
  let order := ((List.range frame.size.height).map fun row => frame.rows.idxOf row).toArray
  .generate frame.size.width frame.size.height fun x y =>
    let place := (order[y]?).getD 0 * frame.size.width + x
    frame.colour ((frame.pixels[place]?).getD 0).toNat

/-- The grid a file holds. -/
def decode (bytes : ByteArray) : Option Grid := do
  let width ← littleEndianAt bytes 6 2
  let height ← littleEndianAt bytes 8 2
  let flags ← byteAt bytes 10
  let (palette, place) ← readPalette bytes flags 13
  let frame ← findFrame bytes palette bytes.size none place
  let raster := frame.raster
  return ⟨.rgba8, .generate width height fun x y =>
    if frame.left ≤ x ∧ frame.top ≤ y then
      (raster.get? (x - frame.left) (y - frame.top)).getD .transparent
    else .transparent⟩

/-! ### Writing -/

/-- The colours of a written file. -/
def writtenPalette : List UInt8 :=
  (List.range 256).flatMap fun index =>
    if index < 216 then
      [(51 * (index / 36)).toUInt8, (51 * (index / 6 % 6)).toUInt8, (51 * (index % 6)).toUInt8]
    else [0, 0, 0]

/-- The index of the transparent colour of a written file. -/
def transparentIndex : Nat := 216

/-- The index of the colour nearest to a pixel. -/
def nearestIndex (pixel : Pixel .rgba8) : Nat :=
  let step (sample : UInt8) : Nat := (sample.toNat + 25) / 51
  if pixel.alpha = 0 then transparentIndex
  else 36 * step pixel.red + 6 * step pixel.green + step pixel.blue

/-- The codes of pixels: the dictionary is cleared before it has learnt enough to widen them. -/
def codes (indices : List Nat) : List Nat :=
  let marked := indices.zipIdx.flatMap fun (index, i) => if i % 254 = 0 then [256, index] else [index]
  (if indices.isEmpty then [256] else marked) ++ [257]

/-- Bytes cut into data blocks; `fuel` bounds the blocks. -/
def writeBlocks : Nat → List UInt8 → List UInt8
  | 0, _ => [0]
  | fuel + 1, bytes =>
    match bytes with
    | [] => [0]
    | _ =>
      let block := bytes.take 255
      (block.length.toUInt8 :: block) ++ writeBlocks fuel (bytes.drop 255)

/-- The file that holds the pixels of a raster. -/
def encode (raster : Raster (Pixel .rgba8)) : Option ByteArray :=
  if 65535 < raster.width ∨ 65535 < raster.height then none
  else
    let size := littleEndian 2 raster.width ++ littleEndian 2 raster.height
    let header := ("GIF89a".toList.map fun c => c.toNat.toUInt8) ++ size ++ [0xF7, 0, 0]
    let control : List UInt8 := [0x21, 0xF9, 4, 1, 0, 0, transparentIndex.toUInt8, 0]
    let descriptor := [0x2C, 0, 0, 0, 0] ++ size ++ [0]
    let packed := (codes (raster.cells.toList.map nearestIndex)).flatMap (lowFirst 9)
    let blocks := writeBlocks (packed.length + 1) (packBits packed)
    some (ofBytes (header ++ writtenPalette ++ control ++ descriptor ++ [8] ++ blocks ++ [0x3B]))

end ImageChain.Codec.Gif
