import ImageChain.Failure
import ImageChain.Text.Hex

/-!
# Object ids

A stored file is named by twelve bytes, which are written as twenty-four hexadecimal digits.
-/

namespace ImageChain

/-- The name of a stored file. -/
structure ObjectId where
  /-- Its bytes. -/
  bytes : List UInt8
  deriving DecidableEq, Repr

namespace ObjectId

/-- The number of bytes of a name. -/
def byteCount : Nat := 12

/-- The bytes that hexadecimal digits stand for, or the first byte that is no digit and its place.
The number of digits is even. -/
def readHexFrom (place : Nat) : List UInt8 → Except (UInt8 × Nat) (List UInt8)
  | high :: low :: rest =>
    match hexValue high, hexValue low with
    | none, _ => .error (high, place)
    | some _, none => .error (low, place + 1)
    | some h, some l => (readHexFrom (place + 2) rest).map ((16 * h + l) :: ·)
  | _ => .ok []

/-- Why a text is not the name of a stored file, or the name. -/
def read (text : String) : Except String ObjectId :=
  let digits := Utf8.encode text
  let badLength := "provided hex string representation must be exactly 12 bytes, instead got: \"" ++
    text ++ "\", length " ++ toString digits.length
  if digits.length % 2 = 1 then .error badLength
  else
    match readHexFrom 0 digits with
    | .error (byte, place) =>
      .error ("invalid character '" ++ (Char.ofNat byte.toNat).toString ++ "' was found at index " ++
        toString place ++ " in the provided hex string: \"" ++ text ++ "\"")
    | .ok bytes => if bytes.length = byteCount then .ok ⟨bytes⟩ else .error badLength

/-- The name of a stored file that a lookup parameter gives. -/
def parse (text : String) : Except Failure ObjectId :=
  match read text with
  | .ok id => .ok id
  | .error reason => .error (.argument ("Invalid object id " ++ quote text ++ ": " ++ reason))

/-- The digits of a name. -/
def render (id : ObjectId) : String :=
  writeHex id.bytes

end ObjectId

end ImageChain
