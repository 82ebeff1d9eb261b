import ImageChain.Image
import ImageChain.Pixel.Resize

/-!
# Resizing images

A resize brings an image to a box.  An image that has to fit and does so already is kept as it is,
together with its encoded form; any other one gets new pixels.
-/

namespace ImageChain

/-- A box and how an image is brought to it. -/
structure Resize where
  /-- How. -/
  mode : ResizeMode
  /-- The box. -/
  box : Size
  deriving DecidableEq, Repr

namespace Resize

/-- The name of the step: its task word and the sides of the box. -/
def name (resize : Resize) : String :=
  s!"{resize.mode.taskWord}/{resize.box.width}/{resize.box.height}"

/-- Whether an image stays as it is. -/
def keeps (resize : Resize) (image : Image) : Bool :=
  resize.mode == .fit && image.size.fitsIn resize.box

/-- The image brought to the box. -/
def apply (rounding : Rounding) (resize : Resize) (image : Image) : Image :=
  if resize.keeps image then image
  else image.withGrid (image.grid.resize rounding resize.mode resize.box)

/-- The resize as it is shown to a developer. -/
def inspect (resize : Resize) : String :=
  let fields := [
    "mode: " ++ resize.mode.label,
    "width: " ++ toString resize.box.width,
    "height: " ++ toString resize.box.height,
    "name: " ++ quote resize.name]
  "ResizeJob \x7b " ++ ", ".intercalate fields ++ " \x7d"

end Resize

end ImageChain
