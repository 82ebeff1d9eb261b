import ImageChain.Optimizer.Optimization
import ImageChain.Resize
import ImageChain.Watermark

/-!
# Steps of a chain

A chain is a list of steps.  Each takes the current image and gives the next one.  Some steps have
to ask for something outside; what they ask is given to every run, so the same steps can be run
against a real network or a described one.
-/

namespace ImageChain

/-- A step of a chain whose sources have the type `σ`. -/
inductive Step (σ : Type) where
  /-- Brings the image to a box. -/
  | resize (resize : Resize)
  /-- Lays a mark over the image. -/
  | watermark (watermark : Watermark)
  /-- Fetches an image from a web address, whatever the current one is. -/
  | proxy (url : String)
  /-- Looks an image up in a source, whatever the current one is. -/
  | find (name : String) (source : σ) (parameters : List String)
  /-- Has an optimizer encode the image. -/
  | optimize (optimization : Optimization)

/-- What the steps of a chain ask for while they run. -/
structure Services (σ : Type) (m : Type → Type) where
  /-- Looks an image up in a source. -/
  find : σ → List String → ExceptT Failure m Image
  /-- Fetches an image from a web address. -/
  fetch : String → ExceptT Failure m Image
  /-- Sends a request to the optimizer at an address. -/
  optimize : String → Wire.Request → ExceptT Failure m (List UInt8)
  /-- The rounding of computed sizes. -/
  rounding : Rounding

namespace Step

variable [Codecs] {σ : Type} {m : Type → Type} [Monad m]

/-- The name of a step. -/
def name : Step σ → String
  | resize box => box.name
  | watermark mark => mark.name
  | proxy _ => "proxy"
  | find name _ _ => name
  | optimize optimization => optimization.name

/-- Runs the optimizer on an image. -/
def runOptimize (services : Services σ m) (optimization : Optimization) (image : Image) :
    ExceptT Failure m Image := do
  let request ← ExceptT.mk (pure (optimization.request image))
  let reply ← services.optimize optimization.address request
  return optimization.finish image reply

/-- Runs a step on an image. -/
def run (services : Services σ m) : Step σ → Image → ExceptT Failure m Image
  | resize box, image => return box.apply services.rounding image
  | watermark mark, image => return mark.apply image
  | proxy url, _ => services.fetch url
  | find _ source parameters, _ => services.find source parameters
  | optimize optimization, image => runOptimize services optimization image

end Step

end ImageChain
