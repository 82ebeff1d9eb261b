import ImageChain.Failure
import ImageChain.Text.Utf8

/-!
# Query escapes

A query-escaped text writes a space as `+` and any byte as `%` with two hexadecimal digits.  The
decoder of escapes is lenient and takes an incomplete one as it stands, so a text is checked before
it is decoded.
-/

namespace ImageChain

/-- The value of a hexadecimal digit in either case. -/
def hexValue (b : UInt8) : Option UInt8 :=
  if 0x30 ≤ b && b ≤ 0x39 then some (b - 0x30)
  else if 0x41 ≤ b && b ≤ 0x46 then some (b - 0x37)
  else if 0x61 ≤ b && b ≤ 0x66 then some (b - 0x57)
  else none

/-- The byte that two hexadecimal digits stand for. -/
def escapedByte (high low : UInt8) : Option UInt8 :=
  match hexValue high, hexValue low with
  | some h, some l => some (16 * h + l)
  | _, _ => none

/-- Whether every percent sign starts a complete escape, an escape being left behind as a whole. -/
def escapesComplete : List UInt8 → Bool
  | [] => true
  | b :: rest =>
    if b = 0x25 then
      match rest with
      | high :: low :: rest => (escapedByte high low).isSome && escapesComplete rest
      | _ => false
    else escapesComplete rest

/-- The byte that a byte outside an escape stands for. -/
def plainByte (b : UInt8) : UInt8 :=
  if b = 0x2B then 0x20 else b

/-- The bytes that percent-escaped bytes stand for; an incomplete escape stands for itself. -/
def percentDecode : List UInt8 → List UInt8
  | [] => []
  | b :: rest =>
    if b = 0x25 then
      match rest with
      | high :: low :: more =>
        match escapedByte high low with
        | some value => value :: percentDecode more
        | none => b :: percentDecode (high :: low :: more)
      | [digit] => [b, digit]
      | [] => [b]
    else b :: percentDecode rest

/-- The text that a query-escaped text stands for.  The escapes are checked as they are written, and
decoded in a copy that has a space for every plus sign. -/
def queryUnescape (text : String) : Except Failure String :=
  let written := Utf8.encode text
  if escapesComplete written then
    match Utf8.decode (percentDecode (written.map plainByte)) with
    | .ok decoded => .ok decoded
    | .error fault =>
      .error (.argument ("invalid URL escape in " ++ quote text ++ ": " ++ fault.message))
  else .error (.argument ("invalid URL escape in " ++ quote text))

end ImageChain
