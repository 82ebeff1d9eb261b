import ImageChain.Codec.Bits
import ImageChain.Pixel.Color

/-!
# Writing AVIF

An AVIF file is a tree of boxes.  The written file describes one item, the image, whose samples
stand uncompressed in the data box.
-/

namespace ImageChain.Codec.Avif

/-- The bytes of an ASCII text. -/
def ascii (text : String) : List UInt8 :=
  text.toList.map fun c => c.toNat.toUInt8

/-- A box with a content. -/
def box (kind : String) (content : List UInt8) : List UInt8 :=
  bigEndian 4 (content.length + 8) ++ ascii kind ++ content

/-- A box with a version and flags before its content. -/
def fullBox (kind : String) (version : UInt8) (content : List UInt8) : List UInt8 :=
  box kind ([version, 0, 0, 0] ++ content)

/-- The box that tells the kind of file. -/
def fileType : List UInt8 :=
  box "ftyp" (ascii "avif" ++ bigEndian 4 0 ++ ascii "avif" ++ ascii "mif1" ++ ascii "unif")

/-- The box that describes an image of a size whose samples begin in a place. -/
def description (size : Size) (place : Nat) : List UInt8 :=
  let handler := fullBox "hdlr" 0 (bigEndian 4 0 ++ ascii "pict" ++ List.replicate 13 0)
  let primary := fullBox "pitm" 0 (bigEndian 2 1)
  let item := fullBox "infe" 2 (bigEndian 2 1 ++ bigEndian 2 0 ++ ascii "unci" ++ [0])
  let items := fullBox "iinf" 0 (bigEndian 2 1 ++ item)
  let extent := bigEndian 4 place ++ bigEndian 4 (4 * size.width * size.height)
  let location := fullBox "iloc" 0
    ([0x44, 0] ++ bigEndian 2 1 ++ bigEndian 2 1 ++ bigEndian 2 0 ++ bigEndian 2 1 ++ extent)
  let components := box "cmpd" (bigEndian 4 4 ++ [4, 5, 6, 7].flatMap (bigEndian 2))
  let layout := (List.range 4).flatMap fun i => bigEndian 2 i ++ [7, 0, 0]
  let coding := fullBox "uncC" 0 (ascii "rgba" ++ bigEndian 4 4 ++ layout ++ [0, 1, 0, 0, 0] ++
    bigEndian 4 0 ++ bigEndian 4 0 ++ bigEndian 4 0 ++ bigEndian 4 0)
  let extents := fullBox "ispe" 0 (bigEndian 4 size.width ++ bigEndian 4 size.height)
  let properties := box "ipco" (extents ++ components ++ coding)
  let association := fullBox "ipma" 0 (bigEndian 4 1 ++ bigEndian 2 1 ++ [3, 1, 2, 0x83])
  fullBox "meta" 0 (handler ++ primary ++ items ++ location ++ box "iprp" (properties ++ association))

/-- The file that holds the pixels of a raster. -/
def encode (raster : Raster (Pixel .rgba8)) : Option ByteArray :=
  if raster.size.isEmpty then none
  else
    let place := fileType.length + (description raster.size 0).length + 8
    let samples := raster.cells.toList.flatMap Vector.toList
    some (ofBytes (fileType ++ description raster.size place ++ box "mdat" samples))

end ImageChain.Codec.Avif
