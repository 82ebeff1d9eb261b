import ImageChain.Format

/-!
# Messages to the optimizer

The optimizer speaks a binary message format.  A message is a sequence of fields in any order, each
with a number and a type of content; the last field of a number counts, and fields of unknown
numbers are passed over.  Fields with their usual content, zero or no bytes, are not written.
-/

namespace ImageChain.Wire

/-! ### Numbers of variable length -/

/-- The bytes of a number: seven bits each, the lowest ones first; `fuel` bounds the bytes after the
first one. -/
def writeVarintFrom : Nat → Nat → List UInt8
  | 0, value => [(value % 128).toUInt8]
  | fuel + 1, value =>
    if value < 128 then [value.toUInt8]
    else (value % 128 + 128).toUInt8 :: writeVarintFrom fuel (value / 128)

/-- The bytes of a number of at most 64 bits. -/
def writeVarint (value : Nat) : List UInt8 :=
  writeVarintFrom 9 value

/-- Reads a number of at most `count` more bytes, whose lowest `shift` bits have been read. -/
def readVarintFrom : Nat → Nat → List UInt8 → Option (Nat × List UInt8)
  | 0, _, _ => none
  | _ + 1, _, [] => none
  | count + 1, shift, byte :: rest =>
    if byte < 128 then
      let value := byte.toNat <<< shift
      if value < UInt64.size then some (value, rest) else none
    else
      (readVarintFrom count (shift + 7) rest).map fun (value, rest) =>
        (((byte.toNat - 128) <<< shift) + value, rest)

/-- Reads a number of at most 64 bits. -/
def readVarint (bytes : List UInt8) : Option (Nat × List UInt8) :=
  readVarintFrom 10 0 bytes

/-! ### Fields -/

/-- The content of a field. -/
inductive Content where
  /-- A number of variable length. -/
  | varint (value : Nat)
  /-- Bytes. -/
  | bytes (value : List UInt8)
  /-- Content that no known field has. -/
  | other
  deriving DecidableEq, Repr

/-- A field of a message. -/
structure Field where
  /-- The number that tells what the content is for. -/
  number : Nat
  /-- The content. -/
  content : Content
  deriving DecidableEq, Repr

/-- Reads the number of a field and the type of its content. -/
def readKey (bytes : List UInt8) : Option ((Nat × Nat) × List UInt8) :=
  match readVarint bytes with
  | none => none
  | some (key, rest) =>
    if key < UInt32.size ∧ 8 ≤ key ∧ key % 8 < 6 then some ((key / 8, key % 8), rest) else none

/-- Drops a number of bytes, all of which have to be there. -/
def skipBytes (count : Nat) (bytes : List UInt8) : Option (List UInt8) :=
  if bytes.length < count then none else some (bytes.drop count)

/-- Reads bytes after their number. -/
def readBytes (bytes : List UInt8) : Option (List UInt8 × List UInt8) :=
  match readVarint bytes with
  | none => none
  | some (count, rest) =>
    if rest.length < count then none else some (rest.take count, rest.drop count)

/-- The greatest number of groups inside each other. -/
def greatestNesting : Nat := 100

/-- Passes over the fields of the innermost of the open groups up to the end of the outermost one.
The groups are given by their numbers, innermost first; `fuel` bounds the fields. -/
def skipGroups : Nat → List Nat → List UInt8 → Option (List UInt8)
  | 0, _, _ => none
  | _ + 1, [], _ => none
  | fuel + 1, number :: outer, bytes =>
    match readKey bytes with
    | none => none
    | some ((inner, 4), rest) =>
      if inner ≠ number then none
      else if outer.isEmpty then some rest
      else skipGroups fuel outer rest
    | some ((inner, kind), rest) =>
      if greatestNesting ≤ outer.length + 1 then none
      else
        match kind with
        | 0 => (readVarint rest).bind fun (_, rest) => skipGroups fuel (number :: outer) rest
        | 1 => (skipBytes 8 rest).bind (skipGroups fuel (number :: outer))
        | 2 => (readBytes rest).bind fun (_, rest) => skipGroups fuel (number :: outer) rest
        | 3 => skipGroups fuel (inner :: number :: outer) rest
        | _ => (skipBytes 4 rest).bind (skipGroups fuel (number :: outer))

/-- Reads a field. -/
def readField (bytes : List UInt8) : Option (Field × List UInt8) :=
  match readKey bytes with
  | none => none
  | some ((number, kind), rest) =>
    match kind with
    | 0 => (readVarint rest).map fun (value, rest) => (⟨number, .varint value⟩, rest)
    | 1 => (skipBytes 8 rest).map fun rest => (⟨number, .other⟩, rest)
    | 2 => (readBytes rest).map fun (value, rest) => (⟨number, .bytes value⟩, rest)
    | 3 => (skipGroups rest.length [number] rest).map fun rest => (⟨number, .other⟩, rest)
    | 5 => (skipBytes 4 rest).map fun rest => (⟨number, .other⟩, rest)
    | _ => none

/-- Reads the fields of a message; `fuel` bounds them. -/
def readFieldsFrom : Nat → List UInt8 → Option (List Field)
  | _, [] => some []
  | 0, _ => none
  | fuel + 1, bytes =>
    match readField bytes with
    | none => none
    | some (field, rest) => (readFieldsFrom fuel rest).map (field :: ·)

/-- Reads the fields of a message. -/
def readFields (bytes : List UInt8) : Option (List Field) :=
  readFieldsFrom bytes.length bytes

/-- The bytes of a number field, which is not written when it is zero. -/
def writeNumber (number value : Nat) : List UInt8 :=
  if value = 0 then [] else writeVarint (8 * number) ++ writeVarint value

/-- The bytes of a field of bytes, which is not written when there are none. -/
def writeBytes (number : Nat) (value : List UInt8) : List UInt8 :=
  if value = [] then []
  else writeVarint (8 * number + 2) ++ writeVarint value.length ++ value

/-! ### Messages -/

/-- What the optimizer is asked to do. -/
structure Request where
  /-- The encoded image. -/
  data : List UInt8
  /-- The code of its format. -/
  source : Int32
  /-- The code of the format asked for. -/
  output : Int32
  /-- The quality asked for. -/
  quality : UInt32
  deriving DecidableEq, Repr

/-- What the optimizer answers. -/
structure Reply where
  /-- The encoded image. -/
  data : List UInt8
  deriving DecidableEq, Repr

/-- A signed number as the unsigned one of 64 bits that stands for it. -/
def signedToNat (value : Int32) : Nat :=
  (value.toInt % UInt64.size).toNat

/-- The bytes of a request. -/
def Request.encode (request : Request) : List UInt8 :=
  writeBytes 1 request.data ++ writeNumber 2 (signedToNat request.source) ++
    writeNumber 3 (signedToNat request.output) ++ writeNumber 4 request.quality.toNat

/-- The request with a further field; a known field must have the right type of content. -/
def Request.apply (request : Request) (field : Field) : Option Request :=
  match field.number, field.content with
  | 1, .bytes value => some { request with data := value }
  | 2, .varint value => some { request with source := Int32.ofInt value }
  | 3, .varint value => some { request with output := Int32.ofInt value }
  | 4, .varint value => some { request with quality := UInt32.ofNat value }
  | 1, _ | 2, _ | 3, _ | 4, _ => none
  | _, _ => some request

/-- The request that bytes hold. -/
def Request.decode (bytes : List UInt8) : Option Request :=
  (readFields bytes).bind fun fields => fields.foldlM Request.apply ⟨[], 0, 0, 0⟩

/-- The bytes of a reply. -/
def Reply.encode (reply : Reply) : List UInt8 :=
  writeBytes 1 reply.data

/-- The reply with a further field; a known field must have the right type of content. -/
def Reply.apply (reply : Reply) (field : Field) : Option Reply :=
  match field.number, field.content with
  | 1, .bytes value => some { reply with data := value }
  | 1, _ => none
  | _, _ => some reply

/-- The reply that bytes hold. -/
def Reply.decode (bytes : List UInt8) : Option Reply :=
  (readFields bytes).bind fun fields => fields.foldlM Reply.apply ⟨[]⟩

/-! ### Formats -/

/-- The code of a format. -/
def formatCode : Format → Int32
  | .jpeg => 0
  | .png => 1
  | .webp => 2
  | .gif => 3
  | .avif => 4

/-- The format with a code. -/
def codeFormat (code : Int32) : Option Format :=
  [Format.jpeg, .png, .webp, .gif, .avif].find? fun format => formatCode format == code

end ImageChain.Wire
