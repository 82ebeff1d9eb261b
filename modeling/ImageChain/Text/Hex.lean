import ImageChain.Text.Escape

/-!
# Bytes as hexadecimal digits

Every byte is written as two lower-case digits.
-/

namespace ImageChain

/-- The digits of bytes. -/
def writeHex (bytes : List UInt8) : String :=
  String.ofList (bytes.flatMap fun byte =>
    [Nat.digitChar (byte.toNat / 16), Nat.digitChar (byte.toNat % 16)])

/-- The bytes that digits in either case stand for, up to the first character that is no digit. -/
def readHex : List Char → List UInt8
  | high :: low :: rest =>
    match escapedByte high.toNat.toUInt8 low.toNat.toUInt8 with
    | some byte => byte :: readHex rest
    | none => []
  | _ => []

end ImageChain
