/-!
# Reading bytes and bits

Whole bytes are read in either order.  Packed data are read bit by bit, beginning with the lowest
bit of each byte; reading past the end fails.
-/

namespace ImageChain.Codec

/-- The byte in a place, if there is one. -/
def byteAt (bytes : ByteArray) (place : Nat) : Option Nat :=
  if h : place < bytes.size then some bytes[place].toNat else none

/-- A number of `count` bytes, the highest one first. -/
def bigEndianAt (bytes : ByteArray) (place : Nat) : Nat → Option Nat
  | 0 => some 0
  | count + 1 => do
    let high ← bigEndianAt bytes place count
    return 256 * high + (← byteAt bytes (place + count))

/-- A number of `count` bytes, the lowest one first. -/
def littleEndianAt (bytes : ByteArray) (place : Nat) : Nat → Option Nat
  | 0 => some 0
  | count + 1 => do
    let low ← littleEndianAt bytes place count
    return low + (← byteAt bytes (place + count)) <<< (8 * count)

/-- The lowest `count` bytes of a number, the highest one first. -/
def bigEndian (count value : Nat) : List UInt8 :=
  (List.range count).map fun i => (value >>> (8 * (count - 1 - i))).toUInt8

/-- The lowest `count` bytes of a number, the lowest one first. -/
def littleEndian (count value : Nat) : List UInt8 :=
  (List.range count).map fun i => (value >>> (8 * i)).toUInt8

/-- Bytes as an array. -/
def ofBytes (bytes : List UInt8) : ByteArray := ⟨bytes.toArray⟩

/-- Packed bits and how many of them have been read. -/
structure BitSource where
  /-- The bytes that hold the bits. -/
  bytes : ByteArray
  /-- The number of bits read. -/
  position : Nat

/-- A computation that reads packed bits and fails where there are none. -/
abbrev BitReader := StateT BitSource Option

/-- Reads one bit. -/
def readBit : BitReader Nat := do
  let source ← get
  let byte ← byteAt source.bytes (source.position / 8)
  set { source with position := source.position + 1 }
  return byte >>> (source.position % 8) % 2

/-- Reads a number of `count` bits, the lowest one first. -/
def readBits : Nat → BitReader Nat
  | 0 => return 0
  | count + 1 => do
    let low ← readBit
    let high ← readBits count
    return low + 2 * high

/-- Drops the rest of a byte that has been read in part. -/
def alignToByte : BitReader Unit :=
  modify fun source => { source with position := (source.position + 7) / 8 * 8 }

/-- Appends the `count` bytes that begin `distance` bytes before the end, one after the other. -/
def copyBack (distance : Nat) : Nat → ByteArray → Option ByteArray
  | 0, output => some output
  | count + 1, output =>
    if distance = 0 ∨ output.size < distance then none
    else do
      let byte ← byteAt output (output.size - distance)
      copyBack distance count (output.push byte.toUInt8)

/-- The lowest `count` bits of a number, the lowest one first. -/
def lowFirst (count value : Nat) : List Bool :=
  (List.range count).map fun i => value.testBit i

/-- Bits packed into bytes, the lowest one of each byte first; `fuel` bounds the bytes. -/
def packBitsFrom : Nat → List Bool → List UInt8
  | 0, _ => []
  | fuel + 1, bits =>
    match bits with
    | [] => []
    | _ =>
      let byte := (bits.take 8).foldr (fun bit byte => 2 * byte + bit.toNat) 0
      byte.toUInt8 :: packBitsFrom fuel (bits.drop 8)

/-- Bits packed into bytes, the lowest one of each byte first. -/
def packBits (bits : List Bool) : List UInt8 :=
  packBitsFrom bits.length bits

end ImageChain.Codec
