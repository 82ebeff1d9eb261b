import ImageChain.Chain.Execute
import ImageChain.Simulation.World

/-!
# Jobs in a described world

Besides the steps of a chain, a run in a described world may have jobs that fail, wait or cut a part
out of the image.  A run tells whether its result is still the very image it started with: steps that
leave the image as it is hand it on.
-/

namespace ImageChain

/-- A job of a run in a described world. -/
inductive Job where
  /-- A step of a chain, for which the optimizer may follow a script. -/
  | step (step : Step WorldSource) (optimizer : Option (Script (List UInt8)))
  /-- Fails. -/
  | fail (failure : Failure)
  /-- Waits and hands the image on. -/
  | wait (duration : Duration)
  /-- Cuts out the part of the image that begins in a place and is not greater than a box. -/
  | crop (left top : Nat) (box : Size)

namespace Job

/-- The name of a job. -/
def name : Job → String
  | step task _ => task.name
  | fail _ => "fail"
  | wait _ => "sleep"
  | crop left top box => s!"crop/[{left}, {top}, {box.width}, {box.height}]"

/-- Whether a job hands an image on as it is. -/
def keeps (image : Image) : Job → Bool
  | step (.resize box) _ => box.keeps image
  | wait _ => true
  | _ => false

/-- The image after a job. -/
def apply (rounding : Rounding) (image : Image) : Job → ExceptT Failure (Timed World) Image
  | step task optimizer => task.run (World.services rounding optimizer) image
  | fail failure => throw failure
  | wait duration => do
    ExceptT.lift (Timed.sleep duration)
    return image
  | crop left top box => return image.withGrid (image.grid.crop left top box)

/-- Runs a job.  The flag tells whether the image is still the one the run started with. -/
def run (rounding : Rounding) (job : Job) (current : Image × Bool) :
    ExceptT Failure (Timed World) (Image × Bool) := do
  let image ← job.apply rounding current.1
  World.note fun world => { world with trace := world.trace ++ [image] }
  return (image, current.2 && job.keeps current.1)

/-- Runs jobs in order, possibly not longer than a limit. -/
def runAll (rounding : Rounding) (jobs : List Job) (limit : Option Duration) (start : Image) :
    Timed World (Except Failure (Image × Bool)) :=
  match limit with
  | none => (Chain.execute (run rounding) jobs (start, true)).run
  | some limit => (Chain.executeWithin Timed.within limit (run rounding) jobs (start, true)).run

end Job

end ImageChain
