import ImageChain.Codec.Checksum
import ImageChain.Codec.Inflate
import ImageChain.Pixel.Color

/-!
# PNG

A PNG file is a signature followed by chunks.  The header chunk gives the size and the kind of
pixel, further chunks give a palette and transparent values, and the data chunks together hold the
packed rows.  Each row says how its bytes were predicted from the bytes around them.  An interlaced
file holds seven smaller rasters that interleave.
-/

namespace ImageChain.Codec.Png

/-- The bytes every file starts with. -/
def signature : List UInt8 := [0x89, 0x50, 0x4E, 0x47, 0x0D, 0x0A, 0x1A, 0x0A]

/-! ### Chunks -/

/-- A chunk of a file. -/
structure Chunk where
  /-- The four letters that tell its kind. -/
  kind : List UInt8
  /-- Its content. -/
  body : ByteArray
  /-- Whether the file holds all of it. -/
  complete : Bool
  /-- Whether its checksum is right. -/
  sound : Bool

/-- The letters of a kind of chunk. -/
def kindOf (letters : String) : List UInt8 :=
  letters.toList.map fun c => c.toNat.toUInt8

/-- Whether a chunk may not be skipped, which the case of its first letter tells. -/
def Chunk.isCritical (chunk : Chunk) : Bool :=
  match chunk.kind with
  | first :: _ => first &&& 0x20 = 0
  | [] => true

/-- Reads the chunks from a place up to the end chunk or to the end of the file; `fuel` bounds
them. -/
def readChunks (bytes : ByteArray) : Nat → Nat → List Chunk
  | 0, _ => []
  | fuel + 1, place =>
    match bigEndianAt bytes place 4 with
    | none => []
    | some length =>
      if bytes.size < place + 8 then []
      else
        let kind := (bytes.extract (place + 4) (place + 8)).data.toList
        let body := bytes.extract (place + 8) (place + 8 + length)
        match bigEndianAt bytes (place + 8 + length) 4 with
        | none => [⟨kind, body, false, false⟩]
        | some checksum =>
          let sound := (crc32 (kind ++ body.data.toList)).toNat == checksum
          let chunk : Chunk := ⟨kind, body, true, sound⟩
          if kind = kindOf "IEND" then [chunk]
          else chunk :: readChunks bytes fuel (place + 12 + length)

/-! ### Header -/

/-- What the samples of a pixel of a file stand for. -/
inductive Meaning where
  | gray
  | rgb
  | indexed
  | grayAlpha
  | rgba
  deriving DecidableEq, Repr

/-- The number of samples of a pixel. -/
def Meaning.channels : Meaning → Nat
  | gray => 1
  | rgb => 3
  | indexed => 1
  | grayAlpha => 2
  | rgba => 4

/-- The numbers of bits a sample may have. -/
def Meaning.depths : Meaning → List Nat
  | gray => [1, 2, 4, 8, 16]
  | rgb => [8, 16]
  | indexed => [1, 2, 4, 8]
  | grayAlpha => [8, 16]
  | rgba => [8, 16]

/-- The meaning with a number. -/
def Meaning.ofCode : Nat → Option Meaning
  | 0 => some gray
  | 2 => some rgb
  | 3 => some indexed
  | 4 => some grayAlpha
  | 6 => some rgba
  | _ => none

/-- The header of a file. -/
structure Header where
  /-- The size of the image. -/
  size : Size
  /-- The number of bits of a sample. -/
  bits : Nat
  /-- What the samples stand for. -/
  meaning : Meaning
  /-- Whether the rows are interlaced. -/
  interlaced : Bool

/-- Reads the content of a header chunk. -/
def readHeader (body : ByteArray) : Option Header := do
  let width ← bigEndianAt body 0 4
  let height ← bigEndianAt body 4 4
  let bits ← byteAt body 8
  let meaning ← Meaning.ofCode (← byteAt body 9)
  let compression ← byteAt body 10
  let filtering ← byteAt body 11
  let interlacing ← byteAt body 12
  if body.size = 13 ∧ 0 < width ∧ 0 < height ∧ bits ∈ meaning.depths ∧ compression = 0 ∧
      filtering = 0 ∧ interlacing ≤ 1 then
    return ⟨⟨width, height⟩, bits, meaning, interlacing = 1⟩
  else none

/-- The number of bits of a pixel. -/
def Header.pixelBits (header : Header) : Nat :=
  header.bits * header.meaning.channels

/-- The number of bytes between a byte and the one it is predicted from. -/
def Header.stride (header : Header) : Nat :=
  max 1 (header.pixelBits / 8)

/-! ### Rows -/

/-- The neighbour that is nearest to the value expected from all three. -/
def paeth (left up corner : Nat) : Nat :=
  let expected : Int := left + up - corner
  let distance (value : Nat) : Nat := (expected - value).natAbs
  if distance left ≤ distance up ∧ distance left ≤ distance corner then left
  else if distance up ≤ distance corner then up
  else corner

/-- The value predicted for a byte from its neighbours. -/
def predict (filter left up corner : Nat) : Nat :=
  match filter with
  | 1 => left
  | 2 => up
  | 3 => (left + up) / 2
  | 4 => paeth left up corner
  | _ => 0

/-- Restores the bytes of a row from their differences to the predicted values. -/
def unfilter (filter stride : Nat) (previous : Array UInt8) (row : List UInt8) : Array UInt8 :=
  row.foldl (fun restored byte =>
    let i := restored.size
    let before (bytes : Array UInt8) : Nat :=
      if stride ≤ i then ((bytes[i - stride]?).getD 0).toNat else 0
    let up := ((previous[i]?).getD 0).toNat
    restored.push (byte + (predict filter (before restored) up (before previous)).toUInt8)) #[]

/-- Reads `count` rows of `length` bytes from a place in unpacked data. -/
def readRows (data : ByteArray) (stride length : Nat) :
    Nat → Nat → Array UInt8 → Option (List (Array UInt8))
  | 0, _, _ => some []
  | count + 1, place, previous => do
    let filter ← byteAt data place
    if 4 < filter ∨ data.size < place + 1 + length then none
    else
      let packed := (data.extract (place + 1) (place + 1 + length)).data.toList
      let row := unfilter filter stride previous packed
      return row :: (← readRows data stride length count (place + 1 + length) row)

/-- A sample of a row, counted from its start. -/
def sampleAt (bits : Nat) (row : Array UInt8) (place : Nat) : Nat :=
  let byte (i : Nat) : Nat := ((row[i]?).getD 0).toNat
  if bits = 16 then 256 * byte (2 * place) + byte (2 * place + 1)
  else
    let shift := 8 - bits - place * bits % 8
    byte (place * bits / 8) >>> shift % (1 <<< bits)

/-- The samples of a pixel as a file holds them. -/
abbrev RawPixel := List Nat

/-- The pixels of unpacked rows. -/
def rowPixels (header : Header) (size : Size) (rows : Array (Array UInt8)) : Raster RawPixel :=
  .generate size.width size.height fun x y =>
    let row := (rows[y]?).getD #[]
    (List.range header.meaning.channels).map fun channel =>
      sampleAt header.bits row (x * header.meaning.channels + channel)

/-! ### Interlacing -/

/-- A raster of every `acrossStep`-th column and every `downStep`-th row. -/
structure Pass where
  /-- The first column. -/
  left : Nat
  /-- The first row. -/
  top : Nat
  /-- The distance between columns. -/
  acrossStep : Nat
  /-- The distance between rows. -/
  downStep : Nat

/-- The passes of an interlaced file. -/
def interlacedPasses : List Pass :=
  [⟨0, 0, 8, 8⟩, ⟨4, 0, 8, 8⟩, ⟨0, 4, 4, 8⟩, ⟨2, 0, 4, 4⟩, ⟨0, 2, 2, 4⟩, ⟨1, 0, 2, 2⟩, ⟨0, 1, 1, 2⟩]

/-- The size of a pass over an image. -/
def Pass.size (pass : Pass) (image : Size) : Size :=
  ⟨(image.width + pass.acrossStep - 1 - pass.left) / pass.acrossStep,
    (image.height + pass.downStep - 1 - pass.top) / pass.downStep⟩

/-- Reads the passes of unpacked data from a place. -/
def readPasses (header : Header) (data : ByteArray) :
    List Pass → Nat → Option (List (Pass × Raster RawPixel))
  | [], _ => some []
  | pass :: passes, place => do
    let size := pass.size header.size
    if size.isEmpty then readPasses header data passes place
    else
      let length := (size.width * header.pixelBits + 7) / 8
      let rows ← readRows data header.stride length size.height place #[]
      let raster := rowPixels header size rows.toArray
      let rest ← readPasses header data passes (place + size.height * (length + 1))
      return (pass, raster) :: rest

/-- The pixel of a pass in a place of the image. -/
def Pass.pixel? (pass : Pass) (raster : Raster RawPixel) (x y : Nat) : Option RawPixel :=
  if x % pass.acrossStep = pass.left ∧ y % pass.downStep = pass.top then
    raster.get? (x / pass.acrossStep) (y / pass.downStep)
  else none

/-- The pixels of unpacked data. -/
def readPixels (header : Header) (data : ByteArray) : Option (Raster RawPixel) := do
  let passes := if header.interlaced then interlacedPasses else [⟨0, 0, 1, 1⟩]
  let rasters ← readPasses header data passes 0
  return .generate header.size.width header.size.height fun x y =>
    (rasters.findSome? fun (pass, raster) => pass.pixel? raster x y).getD []

/-! ### Colours -/

/-- What a file says about colours besides its header. -/
structure Colours where
  /-- The content of the palette chunk. -/
  palette : Option ByteArray
  /-- The content of the transparency chunk. -/
  transparency : Option ByteArray

/-- A sample of few bits as a byte. -/
def widen (bits sample : Nat) : UInt8 :=
  (sample * (255 / ((1 <<< bits) - 1))).toUInt8

/-- A sample of a pixel. -/
def RawPixel.sample (pixel : RawPixel) (channel : Nat) : Nat :=
  (pixel[channel]?).getD 0

/-- The value the transparency chunk gives for a channel. -/
def transparentSample (bits : Nat) (transparency : ByteArray) (channel : Nat) : Nat :=
  let value := (bigEndianAt transparency (2 * channel) 2).getD 0
  if bits = 16 then value else value % 256

/-- Whether a pixel has the value that is transparent. -/
def isTransparent (bits : Nat) (transparency : ByteArray) (pixel : RawPixel) : Bool :=
  pixel.zipIdx.all fun (sample, channel) =>
    sample == transparentSample bits transparency channel

/-- The pixel of a palette entry. -/
def paletteColour (palette : ByteArray) (index : Nat) : Pixel .rgb8 :=
  let sample (channel : Nat) : UInt8 :=
    if 3 * index + 3 ≤ palette.size then ((byteAt palette (3 * index + channel)).getD 0).toUInt8
    else 0
  #v[sample 0, sample 1, sample 2]

/-- The grid of the pixels of a file. -/
def toGrid (header : Header) (colours : Colours) (raster : Raster RawPixel) : Option Grid :=
  let bits := header.bits
  let byte (pixel : RawPixel) (channel : Nat) : UInt8 := widen bits (pixel.sample channel)
  let word (pixel : RawPixel) (channel : Nat) : UInt16 := (pixel.sample channel).toUInt16
  match header.meaning, colours.transparency with
  | .indexed, transparency => do
    let palette ← colours.palette
    match transparency with
    | none => return ⟨.rgb8, raster.map fun pixel => paletteColour palette (pixel.sample 0)⟩
    | some alphas =>
      return ⟨.rgba8, raster.map fun pixel =>
        let colour := paletteColour palette (pixel.sample 0)
        let alpha := ((byteAt alphas (pixel.sample 0)).getD 255).toUInt8
        colour.push alpha⟩
  | .gray, none =>
    if bits = 16 then some ⟨.gray16, raster.map fun pixel => #v[word pixel 0]⟩
    else some ⟨.gray8, raster.map fun pixel => #v[byte pixel 0]⟩
  | .gray, some transparency =>
    if transparency.size < 2 then none
    else if bits = 16 then
      some ⟨.grayAlpha16, raster.map fun pixel =>
        #v[word pixel 0, if isTransparent bits transparency pixel then 0 else 0xFFFF]⟩
    else
      some ⟨.grayAlpha8, raster.map fun pixel =>
        #v[byte pixel 0, if isTransparent bits transparency pixel then 0 else 0xFF]⟩
  | .rgb, none =>
    if bits = 16 then
      some ⟨.rgb16, raster.map fun pixel => #v[word pixel 0, word pixel 1, word pixel 2]⟩
    else some ⟨.rgb8, raster.map fun pixel => #v[byte pixel 0, byte pixel 1, byte pixel 2]⟩
  | .rgb, some transparency =>
    if transparency.size < 6 then none
    else if bits = 16 then
      some ⟨.rgba16, raster.map fun pixel =>
        #v[word pixel 0, word pixel 1, word pixel 2,
          if isTransparent bits transparency pixel then 0 else 0xFFFF]⟩
    else
      some ⟨.rgba8, raster.map fun pixel =>
        #v[byte pixel 0, byte pixel 1, byte pixel 2,
          if isTransparent bits transparency pixel then 0 else 0xFF]⟩
  | .grayAlpha, none =>
    if bits = 16 then
      some ⟨.grayAlpha16, raster.map fun pixel => #v[word pixel 0, word pixel 1]⟩
    else some ⟨.grayAlpha8, raster.map fun pixel => #v[byte pixel 0, byte pixel 1]⟩
  | .rgba, none =>
    if bits = 16 then
      some ⟨.rgba16, raster.map fun pixel =>
        #v[word pixel 0, word pixel 1, word pixel 2, word pixel 3]⟩
    else
      some ⟨.rgba8, raster.map fun pixel =>
        #v[byte pixel 0, byte pixel 1, byte pixel 2, byte pixel 3]⟩
  | .grayAlpha, some _ => none
  | .rgba, some _ => none

/-! ### Reading a file -/

/-- Whether a chunk stands in the way of reading the file. -/
def Chunk.isBroken (chunk : Chunk) : Bool :=
  !chunk.complete || (chunk.isCritical && !chunk.sound)

/-- The content of the only sound chunk of a kind, `none` if there are several, `some none` if there
is none. -/
def onlyChunk (letters : String) (chunks : List Chunk) : Option (Option ByteArray) :=
  match chunks.filter fun chunk => chunk.kind == kindOf letters && chunk.sound with
  | [] => some none
  | [chunk] => some (some chunk.body)
  | _ => none

/-- The grid a file holds. -/
def decode (bytes : ByteArray) : Option Grid := do
  let chunks := readChunks bytes bytes.size signature.length
  let first ← chunks.head?
  if first.kind ≠ kindOf "IHDR" ∨ first.isBroken then none
  else
    let header ← readHeader first.body
    let isData (chunk : Chunk) : Bool := chunk.kind == kindOf "IDAT"
    let before := chunks.tail.takeWhile fun chunk => !isData chunk
    let fromData := chunks.tail.dropWhile fun chunk => !isData chunk
    let data := fromData.takeWhile isData
    if (before ++ data).any Chunk.isBroken || (fromData.dropWhile isData).isEmpty then none
    else
      let colours : Colours := ⟨← onlyChunk "PLTE" before, ← onlyChunk "tRNS" before⟩
      let packed := data.foldl (fun all chunk => all ++ chunk.body) ByteArray.empty
      let raster ← readPixels header (← Inflate.unpack packed)
      toGrid header colours raster

/-! ### Writing a file -/

/-- The bytes of a chunk. -/
def writeChunk (letters : String) (body : List UInt8) : List UInt8 :=
  let content := kindOf letters ++ body
  bigEndian 4 body.length ++ content ++ bigEndian 4 (crc32 content).toNat

/-- Stores bytes in blocks without compression; `fuel` bounds the blocks. -/
def storeBlocks : Nat → List UInt8 → List UInt8
  | 0, _ => []
  | fuel + 1, bytes =>
    let block := bytes.take 65535
    let rest := bytes.drop 65535
    let last : UInt8 := if rest.isEmpty then 1 else 0
    let head := last :: (littleEndian 2 block.length ++ littleEndian 2 (65535 - block.length))
    head ++ block ++ if rest.isEmpty then [] else storeBlocks fuel rest

/-- Bytes in a zlib wrapper. -/
def store (bytes : List UInt8) : List UInt8 :=
  [0x78, 0x01] ++ storeBlocks (bytes.length + 1) bytes ++ bigEndian 4 (adler32 bytes)

/-- The number of a colour in the header, or nothing for a colour that files can not hold. -/
def colourCode : Color → Option Nat
  | .gray8 | .gray16 => some 0
  | .grayAlpha8 | .grayAlpha16 => some 4
  | .rgb8 | .rgb16 => some 2
  | .rgba8 | .rgba16 => some 6
  | .rgb32 | .rgba32 => none

/-- The bytes of a sample. -/
def sampleBytes : (depth : Depth) → depth.Sample → List UInt8
  | .byte, sample => [sample]
  | .word, sample => bigEndian 2 sample.toNat
  | .real, sample => bigEndian 4 sample.toBits.toNat

/-- The number of bits of a sample. -/
def sampleBits : Depth → Nat
  | .byte => 8
  | .word => 16
  | .real => 32

/-- The bytes of a row, none of them predicted. -/
def rowBytes (grid : Grid) (y : Nat) : List UInt8 :=
  let pixels := (grid.raster.cells.extract (y * grid.width) ((y + 1) * grid.width)).toList
  0 :: pixels.flatMap fun pixel => pixel.toList.flatMap (sampleBytes grid.color.depth)

/-- The file that holds a grid. -/
def encode (grid : Grid) : Option ByteArray := do
  let code ← colourCode grid.color
  if grid.size.isEmpty then none
  else
    let bits := sampleBits grid.color.depth
    let header := bigEndian 4 grid.width ++ bigEndian 4 grid.height ++
      [bits.toUInt8, code.toUInt8, 0, 0, 0]
    let rows := (List.range grid.height).flatMap (rowBytes grid)
    return ofBytes (signature ++ writeChunk "IHDR" header ++ writeChunk "IDAT" (store rows) ++
      writeChunk "IEND" [])

end ImageChain.Codec.Png
