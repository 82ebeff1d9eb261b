import ImageChain.Codec.JpegTables
import ImageChain.Pixel.Color

/-!
# Reading JPEG

A JPEG file is a list of segments: tables, a frame header, and scans.  A scan gives coefficients of
blocks, all of them at once or, in a progressive file, some of them or some of their bits at a time.
When the scans are over, the blocks are turned into samples and the samples into colours.  A scan
that ends early leaves the rest of its coefficients as they are.
-/

namespace ImageChain.Codec.Jpeg

/-! ### Coded data -/

/-- A byte with its bits in the opposite order.  Coded data begin with the highest bit of each
byte. -/
def mirror (byte : UInt8) : UInt8 :=
  (List.range 8).foldl
    (fun (mirrored : UInt8) i => mirrored + mirrored + (byte >>> i.toUInt8) % 2) 0

/-- The pieces of coded data between restart marks, last one first, and the place of the marker
that ends them.  `piece` is the piece begun; `fuel` bounds the bytes. -/
def readPieces (bytes : ByteArray) :
    Nat → Nat → ByteArray → List ByteArray → List ByteArray × Nat
  | 0, place, piece, pieces => (piece :: pieces, place)
  | fuel + 1, place, piece, pieces =>
    match byteAt bytes place with
    | none => (piece :: pieces, place)
    | some 0xFF =>
      match byteAt bytes (place + 1) with
      | none => (piece :: pieces, place)
      | some 0 => readPieces bytes fuel (place + 2) (piece.push 0xFF) pieces
      | some 0xFF => readPieces bytes fuel (place + 1) piece pieces
      | some mark =>
        if 0xD0 ≤ mark ∧ mark ≤ 0xD7 then readPieces bytes fuel (place + 2) .empty (piece :: pieces)
        else (piece :: pieces, place)
    | some byte => readPieces bytes fuel (place + 1) (piece.push (mirror byte.toUInt8)) pieces

/-- Reads a number of `count` bits, the highest one first. -/
def readHigh : Nat → BitReader Nat
  | 0 => return 0
  | count + 1 => do
    let high ← readHigh count
    return 2 * high + (← readBit)

/-- Reads a number of a size: one with a leading one stands for itself, and one with a leading zero
for a negative number. -/
def readSigned (size : Nat) : BitReader Int := do
  let value ← readHigh size
  if size = 0 then return 0
  else if 1 <<< (size - 1) ≤ value then return value
  else return (value : Int) - (1 <<< size : Nat) + 1

/-! ### The parts of a file -/

/-- One of the colour components of a frame. -/
structure Component where
  /-- The number scans call it by. -/
  name : Nat
  /-- The number of blocks in a row of a unit. -/
  across : Nat
  /-- The number of blocks in a column of a unit. -/
  down : Nat
  /-- The number of its table of divisors. -/
  divisors : Nat

/-- A frame header. -/
structure Frame where
  /-- The size of the image. -/
  size : Size
  /-- The components. -/
  components : List Component
  /-- Whether the coefficients come in several scans. -/
  progressive : Bool

namespace Frame

/-- The greatest number of blocks in a row of a unit. -/
def across (frame : Frame) : Nat := (frame.components.map Component.across).foldl max 1

/-- The greatest number of blocks in a column of a unit. -/
def down (frame : Frame) : Nat := (frame.components.map Component.down).foldl max 1

/-- The numbers of units in a row and in a column. -/
def units (frame : Frame) : Size :=
  let covering (side blocks : Nat) : Nat := (side + 8 * blocks - 1) / (8 * blocks)
  ⟨covering frame.size.width frame.across, covering frame.size.height frame.down⟩

/-- The size of a component in blocks, whole units only. -/
def blocks (frame : Frame) (component : Component) : Size :=
  ⟨frame.units.width * component.across, frame.units.height * component.down⟩

/-- The size of a component in blocks that have part in the image. -/
def ownBlocks (frame : Frame) (component : Component) : Size :=
  let covering (side part whole : Nat) : Nat :=
    ((side * part + whole - 1) / whole + 7) / 8
  ⟨covering frame.size.width component.across frame.across,
    covering frame.size.height component.down frame.down⟩

end Frame

/-- A component of a scan. -/
structure ScanComponent where
  /-- The place of the component in the frame. -/
  place : Nat
  /-- The code for averages. -/
  averages : Huffman
  /-- The code for the other coefficients. -/
  details : Huffman

/-- A scan header. -/
structure Scan where
  /-- The components it has coefficients of. -/
  components : List ScanComponent
  /-- The first step of the zigzag. -/
  first : Nat
  /-- The last step of the zigzag. -/
  last : Nat
  /-- The lowest bit given before; 0 when nothing was given. -/
  before : Nat
  /-- The lowest bit given. -/
  lowest : Nat

/-! ### Blocks -/

/-- What a scan has got hold of. -/
structure Progress where
  /-- The blocks of each component. -/
  blocks : Array (Array Block)
  /-- The last average of each component. -/
  averages : Array Int
  /-- The number of blocks that have no further coefficients. -/
  skipped : Nat

/-- The reading of a block. -/
abbrev BlockReader := StateT Progress BitReader

/-- Sets a coefficient of a block. -/
def setStep (block : Block) (step : Nat) (value : Int) : Block :=
  block.setIfInBounds (zigzagPlace step) value

/-- A coefficient of a block. -/
def stepOf (block : Block) (step : Nat) : Int :=
  (block[zigzagPlace step]?).getD 0

/-- Reads the average of a block. -/
def readAverage (component : ScanComponent) (lowest : Nat) (block : Block) : BlockReader Block := do
  let size ← component.averages.read
  let difference ← readSigned size
  let progress ← get
  let average := (progress.averages[component.place]?).getD 0 + difference
  set { progress with averages := progress.averages.setIfInBounds component.place average }
  return setStep block 0 (average <<< lowest)

/-- Reads the coefficients of a block from a step of the zigzag on; `fuel` bounds them. -/
def readDetails (code : Huffman) (last lowest : Nat) :
    Nat → Nat → Block → BlockReader Block
  | 0, _, block => return block
  | fuel + 1, step, block => do
    if last < step then return block
    else
      let symbol ← code.read
      let run := symbol / 16
      let size := symbol % 16
      if size = 0 then
        if run = 15 then readDetails code last lowest fuel (step + 16) block
        else
          let further ← readHigh run
          modify fun progress => { progress with skipped := (1 <<< run) + further - 1 }
          return block
      else
        let value ← readSigned size
        let block := setStep block (step + run) (value <<< lowest)
        readDetails code last lowest fuel (step + run + 1) block

/-- Reads one more bit of a coefficient that is not zero. -/
def refineStep (lowest step : Nat) (block : Block) : BlockReader Block := do
  if (← readBit) = 1 then
    let value := stepOf block step
    let unit : Int := (1 <<< lowest : Nat)
    return setStep block step (if value < 0 then value - unit else value + unit)
  else return block

/-- Refines the coefficients from a step on until `zeros` zeros have been passed, and gives the
next zero a value if there is one to give; `fuel` bounds the steps. -/
def refineRun (last lowest zeros : Nat) (value : Option Int) :
    Nat → Nat → Nat → Block → BlockReader (Nat × Block)
  | 0, step, _, block => return (step, block)
  | fuel + 1, step, passed, block => do
    if last < step then return (step, block)
    else if stepOf block step ≠ 0 then
      let block ← refineStep lowest step block
      refineRun last lowest zeros value fuel (step + 1) passed block
    else if passed = zeros then
      return (step + 1, (value.map (setStep block step)).getD block)
    else refineRun last lowest zeros value fuel (step + 1) (passed + 1) block

/-- Refines the coefficients of a block from a step of the zigzag on; `fuel` bounds the symbols. -/
def refineDetails (code : Huffman) (last lowest : Nat) :
    Nat → Nat → Block → BlockReader Block
  | 0, _, block => return block
  | fuel + 1, step, block => do
    if last < step then return block
    else
      let symbol ← code.read
      let run := symbol / 16
      let size := symbol % 16
      if size = 0 ∧ run < 15 then
        let further ← readHigh run
        modify fun progress => { progress with skipped := (1 <<< run) + further - 1 }
        let (_, block) ← refineRun last lowest 64 none 64 step 0 block
        return block
      else
        let unit : Int := (1 <<< lowest : Nat)
        let value ←
          if size = 0 then pure none
          else (fun bit => some (if bit = 1 then unit else -unit)) <$> readBit
        let (step, block) ← refineRun last lowest run value 64 step 0 block
        refineDetails code last lowest fuel step block

/-- Reads what a scan has of a block. -/
def readBlock (scan : Scan) (component : ScanComponent) (block : Block) : BlockReader Block := do
  let block ←
    if scan.first = 0 then
      if scan.before = 0 then readAverage component scan.lowest block
      else
        let bit ← readBit
        pure (if bit = 1 then setStep block 0 (stepOf block 0 + (1 <<< scan.lowest : Nat)) else block)
    else pure block
  if scan.last = 0 then return block
  else
    let start := max 1 scan.first
    let skipped := (← get).skipped
    if 0 < skipped then
      modify fun progress => { progress with skipped := skipped - 1 }
      if scan.before = 0 then return block
      else
        let (_, block) ← refineRun scan.last scan.lowest 64 none 64 start 0 block
        return block
    else if scan.before = 0 then readDetails component.details scan.last scan.lowest 64 start block
    else refineDetails component.details scan.last scan.lowest 64 start block

/-- Reads a block of a component in a place. -/
def readBlockAt (scan : Scan) (component : ScanComponent) (index : Nat) : BlockReader Unit := do
  let blocks := ((← get).blocks[component.place]?).getD #[]
  let block ← readBlock scan component ((blocks[index]?).getD emptyBlock)
  modify fun progress =>
    { progress with
      blocks := progress.blocks.modify component.place fun blocks =>
        blocks.setIfInBounds index block }

/-! ### Scans -/

/-- The blocks of a scan in order, each as a component and a place; one list for each unit. -/
def scanOrder (frame : Frame) (scan : Scan) : List (List (ScanComponent × Nat)) :=
  let component (part : ScanComponent) : Component :=
    (frame.components[part.place]?).getD ⟨0, 1, 1, 0⟩
  match scan.components with
  | [part] =>
    let own := frame.ownBlocks (component part)
    let width := (frame.blocks (component part)).width
    (List.range own.height).flatMap fun row =>
      (List.range own.width).map fun column => [(part, row * width + column)]
  | parts =>
    (List.range frame.units.height).flatMap fun unitRow =>
      (List.range frame.units.width).map fun unitColumn =>
        parts.flatMap fun part =>
          let shape := component part
          let width := (frame.blocks shape).width
          (List.range shape.down).flatMap fun row =>
            (List.range shape.across).map fun column =>
              (part, (unitRow * shape.down + row) * width + unitColumn * shape.across + column)

/-- Reads blocks one after the other and stops where the data end. -/
def readBlocks (scan : Scan) :
    List (ScanComponent × Nat) → Progress → BitSource → Progress
  | [], progress, _ => progress
  | (component, index) :: rest, progress, source =>
    match ((readBlockAt scan component index).run progress).run source with
    | some (((), progress), source) => readBlocks scan rest progress source
    | none => progress

/-- Reads the units of the pieces of a scan, `interval` in each piece but the last one. -/
def readUnits (scan : Scan) (interval : Nat) :
    List ByteArray → List (List (ScanComponent × Nat)) → Progress → Progress
  | [], _, progress => progress
  | piece :: pieces, units, progress =>
    let own := if interval = 0 then units else units.take interval
    let fresh := { progress with averages := progress.averages.map fun _ => 0, skipped := 0 }
    let progress := readBlocks scan own.flatten fresh ⟨piece, 0⟩
    readUnits scan interval pieces (units.drop own.length) progress

/-! ### Segments -/

/-- What has been read of a file. -/
structure State where
  /-- The tables of divisors, in the order of a zigzag. -/
  divisors : List (Nat × Array Nat)
  /-- The codes, under the number of their class and their own. -/
  codes : List (Nat × Huffman)
  /-- The number of units between restart marks. -/
  interval : Nat
  /-- The frame header. -/
  frame : Option Frame
  /-- Whether a file says that its components are not brightness and colour. -/
  plainColours : Bool
  /-- The blocks of each component. -/
  blocks : Array (Array Block)
  /-- Whether there has been a scan. -/
  scanned : Bool

/-- Reads tables of divisors from a place; `fuel` bounds them. -/
def readDivisors (body : ByteArray) :
    Nat → Nat → List (Nat × Array Nat) → Option (List (Nat × Array Nat))
  | 0, _, tables => some tables
  | fuel + 1, place, tables =>
    if body.size ≤ place then some tables
    else do
      let head ← byteAt body place
      let width := if head / 16 = 0 then 1 else 2
      let table ← (List.range 64).mapM fun i => bigEndianAt body (place + 1 + width * i) width
      let tables := (head % 16, table.toArray) :: tables
      readDivisors body fuel (place + 1 + 64 * width) tables

/-- Reads codes from a place; `fuel` bounds them. -/
def readCodes (body : ByteArray) :
    Nat → Nat → List (Nat × Huffman) → Option (List (Nat × Huffman))
  | 0, _, codes => some codes
  | fuel + 1, place, codes =>
    if body.size ≤ place then some codes
    else do
      let head ← byteAt body place
      let counts ← (List.range 16).mapM fun i => byteAt body (place + 1 + i)
      let total := counts.foldl (· + ·) 0
      let symbols ← (List.range total).mapM fun i => byteAt body (place + 17 + i)
      let codes := (head, ⟨counts, symbols.toArray⟩) :: codes
      readCodes body fuel (place + 17 + total) codes

/-- Reads a frame header. -/
def readFrame (progressive : Bool) (body : ByteArray) : Option Frame := do
  let bits ← byteAt body 0
  let height ← bigEndianAt body 1 2
  let width ← bigEndianAt body 3 2
  let count ← byteAt body 5
  let components ← (List.range count).mapM fun i => do
    let name ← byteAt body (6 + 3 * i)
    let shape ← byteAt body (7 + 3 * i)
    let divisors ← byteAt body (8 + 3 * i)
    return (⟨name, shape / 16, shape % 16, divisors⟩ : Component)
  let regular (component : Component) : Bool :=
    1 ≤ component.across && component.across ≤ 4 && 1 ≤ component.down && component.down ≤ 4
  if bits = 8 ∧ 0 < width ∧ 0 < height ∧ count ∈ [1, 3, 4] ∧ components.all regular then
    return ⟨⟨width, height⟩, components, progressive⟩
  else none

/-- Reads a scan header. -/
def readScan (state : State) (frame : Frame) (body : ByteArray) : Option Scan := do
  let count ← byteAt body 0
  let components ← (List.range count).mapM fun i => do
    let name ← byteAt body (1 + 2 * i)
    let codes ← byteAt body (2 + 2 * i)
    let place ← frame.components.findIdx? (·.name == name)
    let code (number : Nat) : Huffman := (state.codes.lookup number).getD ⟨[], #[]⟩
    return (⟨place, code (codes / 16), code (16 + codes % 16)⟩ : ScanComponent)
  let first ← byteAt body (1 + 2 * count)
  let last ← byteAt body (2 + 2 * count)
  let bits ← byteAt body (3 + 2 * count)
  if frame.progressive then return ⟨components, first, last, bits / 16, bits % 16⟩
  else return ⟨components, 0, 63, 0, 0⟩

/-- Reads the segments from a place on; `fuel` bounds them. -/
def readSegments (bytes : ByteArray) : Nat → Nat → State → Option State
  | 0, _, _ => none
  | fuel + 1, place, state => do
    match byteAt bytes place, byteAt bytes (place + 1) with
    | some 0xFF, some 0xFF => readSegments bytes fuel (place + 1) state
    | some 0xFF, some 0xD9 => return state
    | some 0xFF, some mark =>
      let length ← bigEndianAt bytes (place + 2) 2
      if length < 2 ∨ bytes.size < place + 2 + length then none
      else
        let body := bytes.extract (place + 4) (place + 2 + length)
        let next := place + 2 + length
        match mark with
        | 0xDB =>
          let divisors ← readDivisors body body.size 0 state.divisors
          readSegments bytes fuel next { state with divisors := divisors }
        | 0xC4 =>
          let codes ← readCodes body body.size 0 state.codes
          readSegments bytes fuel next { state with codes := codes }
        | 0xDD =>
          let interval ← bigEndianAt body 0 2
          readSegments bytes fuel next { state with interval := interval }
        | 0xEE =>
          let isAdobe := (body.extract 0 5).data.toList = [0x41, 0x64, 0x6F, 0x62, 0x65]
          let plain := isAdobe && byteAt body 11 == some 0
          readSegments bytes fuel next { state with plainColours := state.plainColours || plain }
        | 0xDA =>
          let frame ← state.frame
          let scan ← readScan state frame body
          let (pieces, next) := readPieces bytes bytes.size next .empty []
          let progress : Progress := ⟨state.blocks, frame.components.toArray.map fun _ => 0, 0⟩
          let order := scanOrder frame scan
          let progress := readUnits scan state.interval pieces.reverse order progress
          readSegments bytes fuel next
            { state with blocks := progress.blocks, scanned := true }
        | _ =>
          if mark = 0xC0 ∨ mark = 0xC1 ∨ mark = 0xC2 then
            let frame ← readFrame (mark = 0xC2) body
            let blocks := frame.components.toArray.map fun component =>
              let size := frame.blocks component
              Array.replicate (size.width * size.height) emptyBlock
            readSegments bytes fuel next { state with frame := some frame, blocks := blocks }
          else if 0xC3 ≤ mark ∧ mark ≤ 0xCF then none
          else readSegments bytes fuel next state
    | none, _ => if state.scanned then return state else none
    | some _, none => if state.scanned then return state else none
    | some _, some _ => if state.scanned then readSegments bytes fuel (place + 1) state else none

/-! ### Colours -/

/-- The samples of a block. -/
def blockSamples (divisors : Array Nat) (block : Block) : Array UInt8 :=
  let scaled := (List.range 64).foldl (fun (scaled : Array Float) step =>
    let value := stepOf block step * (divisors[step]?).getD 1
    scaled.setIfInBounds (zigzagPlace step) (.ofInt value)) (Array.replicate 64 0.0)
  (toSamples scaled).map fun value =>
    (max 0 (min 255 (roundToInt value + 128))).toNat.toUInt8

/-- The samples of a component. -/
structure Plane where
  /-- The component. -/
  component : Component
  /-- The number of blocks in a row. -/
  width : Nat
  /-- The samples of each block. -/
  blocks : Array (Array UInt8)

/-- The sample of a component at a pixel. -/
def Plane.sample (plane : Plane) (frame : Frame) (x y : Nat) : Nat :=
  let x := x * plane.component.across / frame.across
  let y := y * plane.component.down / frame.down
  let block := (plane.blocks[y / 8 * plane.width + x / 8]?).getD #[]
  ((block[y % 8 * 8 + x % 8]?).getD 0).toNat

/-- A number as a byte. -/
def clampByte (value : Float) : UInt8 :=
  (max 0 (min 255 (roundToInt value))).toNat.toUInt8

/-- The colour of a brightness and two colour differences. -/
def colourOf (brightness blue red : Nat) : Pixel .rgb8 :=
  let y := brightness.toFloat
  let cb := blue.toFloat - 128.0
  let cr := red.toFloat - 128.0
  #v[clampByte (y + 1.402 * cr), clampByte (y - 0.344136 * cb - 0.714136 * cr),
    clampByte (y + 1.772 * cb)]

/-- The grid of what has been read of a file. -/
def toGrid (state : State) (frame : Frame) : Option Grid :=
  let planes := frame.components.zipIdx.map fun (component, place) =>
    let divisors := (state.divisors.lookup component.divisors).getD #[]
    let blocks := (state.blocks[place]?).getD #[]
    (⟨component, (frame.blocks component).width, blocks.map (blockSamples divisors)⟩ : Plane)
  let generate (color : Color) (pixel : Nat → Nat → Pixel color) : Grid :=
    ⟨color, .generate frame.size.width frame.size.height pixel⟩
  match planes with
  | [gray] => some (generate .gray8 fun x y => #v[(gray.sample frame x y).toUInt8])
  | [first, second, third] =>
    some (generate .rgb8 fun x y =>
      let a := first.sample frame x y
      let b := second.sample frame x y
      let c := third.sample frame x y
      if state.plainColours then #v[a.toUInt8, b.toUInt8, c.toUInt8] else colourOf a b c)
  | [cyan, magenta, yellow, black] =>
    some (generate .rgb8 fun x y =>
      let k := black.sample frame x y
      let mix (plane : Plane) : UInt8 := (plane.sample frame x y * k / 255).toUInt8
      #v[mix cyan, mix magenta, mix yellow])
  | _ => none

/-- The grid a file holds. -/
def decode (bytes : ByteArray) : Option Grid := do
  let state ← readSegments bytes bytes.size 2 ⟨[], [], 0, none, false, #[], false⟩
  let frame ← state.frame
  if state.scanned then toGrid state frame else none

end ImageChain.Codec.Jpeg
