import ImageChain.Format

/-!
# Telling file formats apart

Encoded images start with bytes that tell their format.  Many formats are recognized, but a chain
carries only some of them.
-/

namespace ImageChain.Codec

/-- A file format that is recognized by its first bytes. -/
inductive Kind where
  | png
  | jpeg
  | gif
  | webp
  | tiff
  | dds
  | bmp
  | ico
  | hdr
  | avif
  | openExr
  | qoi
  | pnm
  | farbfeld
  deriving DecidableEq, Repr

namespace Kind

/-- The name of a file format. -/
def name : Kind → String
  | png => "Png"
  | jpeg => "Jpeg"
  | gif => "Gif"
  | webp => "WebP"
  | tiff => "Tiff"
  | dds => "Dds"
  | bmp => "Bmp"
  | ico => "Ico"
  | hdr => "Hdr"
  | avif => "Avif"
  | openExr => "OpenExr"
  | qoi => "Qoi"
  | pnm => "Pnm"
  | farbfeld => "Farbfeld"

/-- The format of a file format that a chain carries. -/
def format : Kind → Option Format
  | png => some .png
  | jpeg => some .jpeg
  | gif => some .gif
  | webp => some .webp
  | avif => some .avif
  | _ => none

/-- The bytes of an ASCII text, each of them required. -/
private def ascii (text : String) : List (Option UInt8) :=
  text.toList.map fun c => some c.toNat.toUInt8

/-- Any bytes. -/
private def anything (count : Nat) : List (Option UInt8) :=
  List.replicate count none

/-- The first bytes of each file format, in the order in which they are tried; `none` stands for
any byte. -/
def signatures : List (List (Option UInt8) × Kind) := [
  ([some 0x89] ++ ascii "PNG\r\n" ++ [some 0x1A] ++ ascii "\n", png),
  ([some 0xFF, some 0xD8, some 0xFF], jpeg),
  (ascii "GIF89a", gif),
  (ascii "GIF87a", gif),
  (ascii "RIFF" ++ anything 4 ++ ascii "WEBP", webp),
  (ascii "MM" ++ [some 0] ++ ascii "*", tiff),
  (ascii "II*" ++ [some 0], tiff),
  (ascii "DDS ", dds),
  (ascii "BM", bmp),
  ([some 0, some 0, some 1, some 0], ico),
  (ascii "#?RADIANCE", hdr),
  ([some 0, some 0] ++ anything 2 ++ ascii "ftypavif", avif),
  ([some 0x76, some 0x2F, some 0x31, some 0x01], openExr),
  (ascii "qoif", qoi),
  (ascii "P1", pnm),
  (ascii "P2", pnm),
  (ascii "P3", pnm),
  (ascii "P4", pnm),
  (ascii "P5", pnm),
  (ascii "P6", pnm),
  (ascii "P7", pnm),
  (ascii "farbfeld", farbfeld)]

/-- Whether bytes start as a signature asks. -/
def startsWith : List (Option UInt8) → List UInt8 → Bool
  | [], _ => true
  | _ :: _, [] => false
  | some expected :: signature, b :: bytes => expected == b && startsWith signature bytes
  | none :: signature, _ :: bytes => startsWith signature bytes

/-- The file format of some bytes. -/
def detect (bytes : ByteArray) : Option Kind :=
  let start := (bytes.extract 0 16).data.toList
  (signatures.find? fun signature => startsWith signature.1 start).map (·.2)

end Kind

end ImageChain.Codec
