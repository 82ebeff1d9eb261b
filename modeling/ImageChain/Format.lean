import ImageChain.Failure
import ImageChain.Unicode.Lowercase

/-!
# Image formats

The formats a chain carries, the names they go by, and the choice of a format from the media types
a client accepts.
-/

namespace ImageChain

/-- An image format a chain carries. -/
inductive Format where
  | jpeg
  | png
  | webp
  | avif
  | gif
  deriving DecidableEq, Repr

namespace Format

/-- The tag of a format in tasks and in JSON. -/
def tag : Format → String
  | jpeg => "jpeg"
  | png => "png"
  | webp => "webp"
  | avif => "avif"
  | gif => "gif"

/-- The media type of a format. -/
def mediaType (format : Format) : String :=
  "image/" ++ format.tag

/-- The name of a format shown to a developer. -/
def label : Format → String
  | jpeg => "JPEG"
  | png => "PNG"
  | webp => "WebP"
  | avif => "AVIF"
  | gif => "GIF"

/-- The format with exactly this tag. -/
def ofTag : String → Option Format
  | "jpeg" => some jpeg
  | "png" => some png
  | "webp" => some webp
  | "avif" => some avif
  | "gif" => some gif
  | _ => none

/-- The format a text names, whatever the case of its letters. -/
def parse (text : String) : Except Failure Format :=
  let lowered := Unicode.lowercase text
  match lowered with
  | "jpg" | "jpeg" => .ok jpeg
  | "png" => .ok png
  | "webp" => .ok webp
  | "avif" => .ok avif
  | "gif" => .ok gif
  | _ => .error (.argument ("Unsupported image format: " ++ lowered))

/-- The format to ask the optimizer for: JPEG in place of GIF, which it does not write. -/
def forOutput : Format → Format
  | gif => jpeg
  | format => format

/-- The output format a text names; an unknown name means JPEG. -/
def outputOrJpeg (text : String) : Format :=
  match parse text with
  | .ok format => format.forOutput
  | .error _ => jpeg

/-- Whether a text holds another one, character for character. -/
def mentions (needle : List Char) : List Char → Bool
  | [] => needle.isEmpty
  | c :: rest => needle.isPrefixOf (c :: rest) || mentions needle rest

/-- Whether an accept hint mentions the media type of a format. -/
def acceptedBy (format : Format) (accept : String) : Bool :=
  mentions format.mediaType.toList accept.toList

/-- The format to convert an image to: AVIF if the accept hint mentions it, else WebP if it
mentions that, else the current one. -/
def negotiate (accept : String) (current : Option Format) : Option Format :=
  if avif.acceptedBy accept then some avif
  else if webp.acceptedBy accept then some webp
  else current

end Format

end ImageChain
