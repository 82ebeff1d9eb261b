import ImageChain.Codec.Codec

/-!
# Images

The value that goes through a chain: a grid, the format it belongs to, and an encoded form of it if
one is at hand.  A step that changes pixels starts a new picture and keeps the one before it, so an
image also holds its own history.  An optimizer's reply replaces the encoded form only.
-/

namespace ImageChain

/-- One stage of an image. -/
structure Picture where
  /-- The pixels. -/
  grid : Grid
  /-- The format the picture is encoded in. -/
  format : Option Format
  /-- The encoded form, once it is known. -/
  encoded : Option ByteArray
  /-- The number of bytes the image was decoded from. -/
  originalSize : Nat

/-- A picture and the pictures before it. -/
structure Image where
  /-- The picture as it is now. -/
  current : Picture
  /-- The pictures before the pixel changes, latest first. -/
  earlier : List Picture

namespace Image

variable [Codecs]

/-- The grid of an image. -/
def grid (image : Image) : Grid := image.current.grid

/-- The format of an image. -/
def format (image : Image) : Option Format := image.current.format

/-- The encoded form of an image that is at hand. -/
def encoded (image : Image) : Option ByteArray := image.current.encoded

/-- The number of bytes an image was decoded from. -/
def originalSize (image : Image) : Nat := image.current.originalSize

/-- The size of an image. -/
def size (image : Image) : Size := image.grid.size

/-- The empty image without a format, which a chain starts from. -/
def blank : Image := ⟨⟨.empty, none, none, 0⟩, []⟩

/-- The image that encoded bytes hold; they are its encoded form. -/
def decode (bytes : ByteArray) : Except Failure Image :=
  match Codec.decode bytes with
  | .ok (format, grid) => .ok ⟨⟨grid, some format, some bytes, bytes.size⟩, []⟩
  | .error failure => .error failure

/-- The image with other pixels.  Nothing encodes them yet, and the picture so far becomes
history. -/
def withGrid (image : Image) (grid : Grid) : Image :=
  ⟨⟨grid, image.format, none, image.originalSize⟩, image.current :: image.earlier⟩

/-- The image with the same pixels and history, and `bytes` as its encoded form in `format`. -/
def withEncoded (image : Image) (bytes : ByteArray) (format : Format) : Image :=
  ⟨{ image.current with encoded := some bytes, format := some format }, image.earlier⟩

/-- The image before the last pixel change. -/
def previous (image : Image) : Option Image :=
  match image.earlier with
  | [] => none
  | picture :: earlier => some ⟨picture, earlier⟩

/-- Whether an encoded form is at hand. -/
def isEncoded (image : Image) : Bool := image.encoded.isSome

/-- The encoded form that is at hand, if it is one in `format` and holds any bytes. -/
def encodedIn (image : Image) (format : Format) : Option ByteArray :=
  if image.format = some format then image.encoded.filter fun bytes => bytes.size ≠ 0 else none

/-- The image in a format: the encoded form at hand, or else a fresh encoding, which is not kept. -/
def encodeIn (image : Image) (format : Format) : Except Failure ByteArray :=
  match image.encodedIn format with
  | some bytes => .ok bytes
  | none => Codec.encode image.grid format

/-- The image as PNG. -/
def png (image : Image) : Except Failure ByteArray := image.encodeIn .png

/-- The image as JPEG. -/
def jpeg (image : Image) : Except Failure ByteArray := image.encodeIn .jpeg

/-- The image in its own format, and the image afterwards: a fresh encoding becomes the encoded
form. -/
def readBytes (image : Image) : Except Failure (ByteArray × Format) × Image :=
  match image.format with
  | none => (.error (.backend "Image has no format to encode"), image)
  | some format =>
    match image.encoded with
    | some bytes => (.ok (bytes, format), image)
    | none =>
      match Codec.encode image.grid format with
      | .error failure => (.error failure, image)
      | .ok bytes =>
        (.ok (bytes, format), { image with current := { image.current with encoded := some bytes } })

/-- The image in its own format. -/
def bytes (image : Image) : Except Failure (ByteArray × Format) := image.readBytes.1

/-- An optional value shown to a developer. -/
private def inspectOption (shown : Option String) : String :=
  match shown with
  | some text => "Some(" ++ text ++ ")"
  | none => "None"

/-- The image as it is shown to a developer. -/
def inspect (image : Image) : String :=
  let format := inspectOption (image.format.map Format.label)
  let encoded := inspectOption (image.encoded.map fun bytes => toString bytes.size)
  let fields := [
    "width: " ++ toString image.size.width,
    "height: " ++ toString image.size.height,
    "format: " ++ format,
    "original_size: " ++ toString image.originalSize,
    "encoded: " ++ encoded,
    "has_previous: " ++ toString image.previous.isSome]
  "Image \x7b " ++ ", ".intercalate fields ++ " \x7d"

end Image

end ImageChain
