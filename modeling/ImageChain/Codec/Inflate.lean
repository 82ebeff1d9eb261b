import ImageChain.Codec.Huffman

/-!
# Unpacking compressed data

Compressed data are blocks of literal bytes and of copies of bytes before them.  A block is stored
plainly, or it uses a fixed code or one of its own.
-/

namespace ImageChain.Codec.Inflate

/-- The least length and the number of further bits of each length symbol. -/
def lengthSymbols : List (Nat × Nat) := [
  (3, 0), (4, 0), (5, 0), (6, 0), (7, 0), (8, 0), (9, 0), (10, 0), (11, 1), (13, 1), (15, 1),
  (17, 1), (19, 2), (23, 2), (27, 2), (31, 2), (35, 3), (43, 3), (51, 3), (59, 3), (67, 4),
  (83, 4), (99, 4), (115, 4), (131, 5), (163, 5), (195, 5), (227, 5), (258, 0)]

/-- The least distance and the number of further bits of each distance symbol. -/
def distanceSymbols : List (Nat × Nat) := [
  (1, 0), (2, 0), (3, 0), (4, 0), (5, 1), (7, 1), (9, 2), (13, 2), (17, 3), (25, 3), (33, 4),
  (49, 4), (65, 5), (97, 5), (129, 6), (193, 6), (257, 7), (385, 7), (513, 8), (769, 8),
  (1025, 9), (1537, 9), (2049, 10), (3073, 10), (4097, 11), (6145, 11), (8193, 12), (12289, 12),
  (16385, 13), (24577, 13)]

/-- The order in which a block gives the lengths of the code for its code lengths. -/
def lengthOrder : List Nat :=
  [16, 17, 18, 0, 8, 7, 9, 6, 10, 5, 11, 4, 12, 3, 13, 2, 14, 1, 15]

/-- The fixed code for literals and lengths. -/
def fixedLiterals : Huffman :=
  .ofLengths (List.replicate 144 8 ++ List.replicate 112 9 ++ List.replicate 24 7 ++
    List.replicate 8 8)

/-- The fixed code for distances. -/
def fixedDistances : Huffman :=
  .ofLengths (List.replicate 30 5)

/-- Reads the number that a symbol and the bits after it stand for. -/
def readExtended (table : List (Nat × Nat)) (symbol : Nat) : BitReader Nat :=
  match table[symbol]? with
  | some (least, bits) => do return least + (← readBits bits)
  | none => failure

/-- Unpacks a coded block onto the output; `fuel` bounds its symbols. -/
def readCoded (literals distances : Huffman) : Nat → ByteArray → BitReader ByteArray
  | 0, _ => failure
  | fuel + 1, output => do
    let symbol ← literals.read
    if symbol < 256 then readCoded literals distances fuel (output.push symbol.toUInt8)
    else if symbol = 256 then return output
    else
      let length ← readExtended lengthSymbols (symbol - 257)
      let distance ← readExtended distanceSymbols (← distances.read)
      match copyBack distance length output with
      | some output => readCoded literals distances fuel output
      | none => failure

/-- Reads `count` code lengths after those in `lengths`, which come last first; `fuel` bounds the
symbols. -/
def readLengths (code : Huffman) (count : Nat) : Nat → List Nat → BitReader (List Nat)
  | 0, _ => failure
  | fuel + 1, lengths => do
    if lengths.length = count then return lengths.reverse
    else if count < lengths.length then failure
    else
      let symbol ← code.read
      if symbol < 16 then readLengths code count fuel (symbol :: lengths)
      else if symbol = 16 then
        match lengths with
        | last :: _ =>
          let times := 3 + (← readBits 2)
          readLengths code count fuel (List.replicate times last ++ lengths)
        | [] => failure
      else
        let times ← if symbol = 17 then (3 + ·) <$> readBits 3 else (11 + ·) <$> readBits 7
        readLengths code count fuel (List.replicate times 0 ++ lengths)

/-- Reads the codes of a block with codes of its own. -/
def readCodes : BitReader (Huffman × Huffman) := do
  let literalCount := 257 + (← readBits 5)
  let distanceCount := 1 + (← readBits 5)
  let lengthCount := 4 + (← readBits 4)
  let given ← (List.range lengthCount).mapM fun _ => readBits 3
  let order := lengthOrder.zip given
  let lengths := (List.range 19).map fun symbol => (order.lookup symbol).getD 0
  let code := Huffman.ofLengths lengths
  if code.slack < 0 then failure
  else
    let total := literalCount + distanceCount
    let all ← readLengths code total (total + 1) []
    let literals := Huffman.ofLengths (all.take literalCount)
    let distances := Huffman.ofLengths (all.drop literalCount)
    if literals.slack < 0 ∨ distances.slack < 0 then failure
    else return (literals, distances)

/-- Copies `count` bytes of the source. -/
def readPlain : Nat → ByteArray → BitReader ByteArray
  | 0, output => return output
  | count + 1, output => do
    let byte ← readBits 8
    readPlain count (output.push byte.toUInt8)

/-- Unpacks blocks onto the output up to the last one; `fuel` bounds the blocks and the symbols of
each. -/
def readBlocks : Nat → ByteArray → BitReader ByteArray
  | 0, _ => failure
  | fuel + 1, output => do
    let last ← readBit
    let kind ← readBits 2
    let output ← match kind with
      | 0 => do
        alignToByte
        let length ← readBits 16
        let complement ← readBits 16
        if length + complement = 65535 then readPlain length output else failure
      | 1 => readCoded fixedLiterals fixedDistances (fuel + 1) output
      | 2 => do
        let (literals, distances) ← readCodes
        readCoded literals distances (fuel + 1) output
      | _ => failure
    if last = 1 then return output else readBlocks fuel output

/-- The bytes that compressed data in a zlib wrapper stand for. -/
def unpack (bytes : ByteArray) : Option ByteArray := do
  let method ← byteAt bytes 0
  let flags ← byteAt bytes 1
  if method % 16 = 8 ∧ method / 16 ≤ 7 ∧ (256 * method + flags) % 31 = 0 ∧ flags / 32 % 2 = 0 then
    let (output, _) ← (readBlocks (8 * bytes.size) .empty).run ⟨bytes, 16⟩
    return output
  else none

end ImageChain.Codec.Inflate
