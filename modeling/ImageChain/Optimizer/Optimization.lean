import ImageChain.Image
import ImageChain.Optimizer.Wire

/-!
# Optimizing images

An optimizer is a service that converts and compresses images.  It is sent the image as PNG together
with the format and the quality that are wanted, and its reply becomes the encoded form of the image
while the pixels stay as they are.
-/

namespace ImageChain

/-- How the format of an optimized image is chosen. -/
inductive FormatChoice where
  /-- The given format, or else the current one. -/
  | given (format : Option Format)
  /-- The format that suits an accept hint best. -/
  | accepted (accept : String)
  deriving DecidableEq, Repr

/-- An optimizer and what it is asked for. -/
structure Optimization where
  /-- Where the optimizer is. -/
  address : String
  /-- The quality that is wanted; zero leaves it to the optimizer. -/
  quality : UInt32
  /-- The format that is wanted. -/
  choice : FormatChoice
  deriving DecidableEq, Repr

namespace Optimization

/-- The format that is chosen for an image of format `current`, which may be none. -/
def chosen (optimization : Optimization) (current : Option Format) : Option Format :=
  match optimization.choice with
  | .given (some format) => some format
  | .given none => current
  | .accepted accept => Format.negotiate accept current

/-- The format that is asked for. -/
def output (optimization : Optimization) (current : Option Format) : Format :=
  match optimization.chosen current with
  | some format => format.forOutput
  | none => .jpeg

/-- The quality that is asked for.  A PNG that becomes WebP on account of an accept hint is left to
the optimizer. -/
def wantedQuality (optimization : Optimization) (current : Option Format) : UInt32 :=
  match optimization.choice with
  | .given _ => optimization.quality
  | .accepted _ =>
    if optimization.chosen current = some .webp ∧ current = some .png then 0 else optimization.quality

/-- What the optimizer is sent for an image. -/
def request [Codecs] (optimization : Optimization) (image : Image) :
    Except Failure Wire.Request := do
  let data ← image.png
  return {
    data := data.toList
    source := Wire.formatCode .png
    output := Wire.formatCode (optimization.output image.format)
    quality := optimization.wantedQuality image.format }

/-- The image with the optimizer's reply as its encoded form. -/
def finish (optimization : Optimization) (image : Image) (reply : List UInt8) : Image :=
  image.withEncoded ⟨reply.toArray⟩ (optimization.output image.format)

/-- The name of the step. -/
def name (optimization : Optimization) : String :=
  match optimization.choice with
  | .given _ => "optimize"
  | .accepted _ => "autoOptimize"

/-- The step as it is shown to a developer. -/
def inspect (optimization : Optimization) : String :=
  let shared := "address: " ++ quote optimization.address ++ ", quality: " ++ toString optimization.quality
  match optimization.choice with
  | .given (some format) =>
    "OptimizeJob \x7b " ++ shared ++ ", format: Some(" ++ format.label ++ ") \x7d"
  | .given none => "OptimizeJob \x7b " ++ shared ++ ", format: None \x7d"
  | .accepted accept => "AutoOptimizeJob \x7b " ++ shared ++ ", accept: " ++ quote accept ++ " \x7d"

end Optimization

end ImageChain
