import ImageChain.Codec.Avif
import ImageChain.Codec.Codec
import ImageChain.Codec.Gif
import ImageChain.Codec.Jpeg
import ImageChain.Codec.JpegWriter
import ImageChain.Codec.Png
import ImageChain.Codec.Webp

/-!
# Plain codecs

Codecs to run a chain with.  They read PNG, JPEG and GIF, and WebP as long as it is a single picture
without loss; nothing else.  They write every format, but in the plainest way there is: PNG and AVIF
do not compress, and GIF has one palette for all pictures.  What is proved of chains does
not depend on them.
-/

namespace ImageChain.Codec

/-- The grid that bytes of a format hold. -/
def decodeAs (format : Format) (bytes : ByteArray) : Option Grid :=
  match format with
  | .png => Png.decode bytes
  | .jpeg => Jpeg.decode bytes
  | .gif => Gif.decode bytes
  | .webp => Webp.decode bytes
  | .avif => none

/-- The bytes of a format that hold a grid. -/
def encodeAs (format : Format) (grid : Grid) : Option ByteArray :=
  match format with
  | .jpeg => Jpeg.encode grid.toRgb
  | .png => Png.encode grid
  | .gif => Gif.encode grid.toRgba
  | .webp => Webp.encode grid.toRgba
  | .avif => Avif.encode grid.toRgba

instance plain : Codecs where
  recognize bytes :=
    match Kind.detect bytes with
    | some kind => .ok kind
    | none => .error "The image format could not be determined"
  read format bytes :=
    match decodeAs format bytes with
    | some grid => .ok grid
    | none => .error ("Format error decoding " ++ format.label)
  write format grid :=
    match encodeAs format grid with
    | some bytes => .ok bytes
    | none => .error ("Format error encoding " ++ format.label)

end ImageChain.Codec
