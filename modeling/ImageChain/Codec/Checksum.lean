/-!
# Checksums

The two checksums that guard the parts of a PNG file.
-/

namespace ImageChain.Codec

/-- One step of the division by the cyclic redundancy check's polynomial. -/
def crcStep (remainder : UInt32) : UInt32 :=
  if remainder &&& 1 = 1 then (remainder >>> 1) ^^^ 0xEDB88320 else remainder >>> 1

/-- The remainder after one more byte. -/
def crcByte (remainder : UInt32) (byte : UInt8) : UInt32 :=
  (List.range 8).foldl (fun remainder _ => crcStep remainder) (remainder ^^^ byte.toUInt32)

/-- The cyclic redundancy check of some bytes. -/
def crc32 (bytes : List UInt8) : UInt32 :=
  bytes.foldl crcByte 0xFFFFFFFF ^^^ 0xFFFFFFFF

/-- The two running sums of a checksum after one more byte. -/
def adlerByte (sums : Nat × Nat) (byte : UInt8) : Nat × Nat :=
  let first := (sums.1 + byte.toNat) % 65521
  (first, (sums.2 + first) % 65521)

/-- The Adler checksum of some bytes. -/
def adler32 (bytes : List UInt8) : Nat :=
  let sums := bytes.foldl adlerByte (1, 0)
  65536 * sums.2 + sums.1

end ImageChain.Codec
