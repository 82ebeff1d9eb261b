/-!
# UTF-8

Bytes are a text when they decode completely.  Otherwise the first offending sequence is
reported: where it starts, and how long it is when it is not merely cut short.
-/

namespace ImageChain.Utf8

/-- The first sequence that keeps bytes from being a text. -/
structure Fault where
  /-- How many bytes before it decode. -/
  index : Nat
  /-- The length of the invalid sequence, or `none` when the bytes end inside a character. -/
  badLength : Option Nat
  deriving DecidableEq, Repr

/-- The message that goes with a fault. -/
def Fault.message (fault : Fault) : String :=
  match fault.badLength with
  | some length => s!"invalid utf-8 sequence of {length} bytes from index {fault.index}"
  | none => s!"incomplete utf-8 byte sequence from index {fault.index}"

/-- The number of bytes that follow a leading byte, or `none` if the byte can not lead. -/
def followers (lead : UInt8) : Option Nat :=
  if lead < 0x80 then some 0
  else if 0xC2 ≤ lead && lead ≤ 0xDF then some 1
  else if 0xE0 ≤ lead && lead ≤ 0xEF then some 2
  else if 0xF0 ≤ lead && lead ≤ 0xF4 then some 3
  else none

/-- The least second byte that may follow a leading byte. -/
def leastSecond (lead : UInt8) : UInt8 :=
  if lead = 0xE0 then 0xA0 else if lead = 0xF0 then 0x90 else 0x80

/-- The greatest second byte that may follow a leading byte. -/
def greatestSecond (lead : UInt8) : UInt8 :=
  if lead = 0xED then 0x9F else if lead = 0xF4 then 0x8F else 0xBF

/-- Reads `count` following bytes, the first of them between `least` and `greatest`.  Fails with
the length of the sequence read so far, or with `none` at the end of the bytes. -/
def follow (least greatest : UInt8) (read : Nat) : Nat → List UInt8 → Except (Option Nat) Nat
  | 0, _ => .ok read
  | _ + 1, [] => .error none
  | count + 1, b :: rest =>
    if least ≤ b && b ≤ greatest then follow 0x80 0xBF (read + 1) count rest
    else .error (some read)

/-- The width of the character the bytes start with. -/
def headWidth : List UInt8 → Except (Option Nat) Nat
  | [] => .error none
  | lead :: rest =>
    match followers lead with
    | some count => follow (leastSecond lead) (greatestSecond lead) 1 count rest
    | none => .error (some 1)

/-- The first fault of `bytes`, which start at `index`; `fuel` bounds the characters read. -/
def faultFrom : Nat → Nat → List UInt8 → Fault
  | 0, index, _ => ⟨index, none⟩
  | fuel + 1, index, bytes =>
    match headWidth bytes with
    | .ok width => faultFrom fuel (index + width) (bytes.drop width)
    | .error badLength => ⟨index, badLength⟩

/-- The text that `bytes` encode, or their first fault. -/
def decode (bytes : List UInt8) : Except Fault String :=
  match String.fromUTF8? ⟨bytes.toArray⟩ with
  | some text => .ok text
  | none => .error (faultFrom (bytes.length + 1) 0 bytes)

/-- Decodes bytes, putting U+FFFD for every offending sequence; `fuel` bounds the pieces. -/
def decodeLossyFrom : Nat → List UInt8 → String
  | 0, _ => ""
  | fuel + 1, bytes =>
    match decode bytes with
    | .ok text => text
    | .error fault =>
      let valid := (String.fromUTF8? ⟨(bytes.take fault.index).toArray⟩).getD ""
      let skipped := fault.index + fault.badLength.getD bytes.length
      valid ++ "\uFFFD" ++ decodeLossyFrom fuel (bytes.drop skipped)

/-- The text of `bytes` with U+FFFD for every offending sequence. -/
def decodeLossy (bytes : List UInt8) : String :=
  decodeLossyFrom (bytes.length + 1) bytes

/-- The bytes that encode a text. -/
def encode (text : String) : List UInt8 :=
  text.toUTF8.data.toList

end ImageChain.Utf8
