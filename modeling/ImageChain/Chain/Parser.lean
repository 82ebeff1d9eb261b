import ImageChain.Chain.Step
import ImageChain.Registry
import ImageChain.Text.Escape
import ImageChain.Text.Fields
import ImageChain.Text.Number

/-!
# Reading chains

A chain is written as tasks between bars, and a task as words between slashes.  The first word of a
task tells what to do.  Five of them are keywords; any other one is the name of a source, and the
words after it are the parameters of the lookup.

A chain is read as a whole: the first task that is wrong is the failure of the chain.
-/

namespace ImageChain.Chain

/-- The keyword of a task that fetches from a web address. -/
def proxyWord : String := "proxy"

/-- The keyword of a task for the optimizer. -/
def optimizeWord : String := "optimize"

/-- The keyword of a task for the optimizer that goes by the accept hint. -/
def autoOptimizeWord : String := "autoOptimize"

/-- A number brought into the range of 32 bits. -/
def saturate (value : Int) : Nat :=
  min value.toNat greatestNat32

/-- The number that an argument stands for: 0 if it is missing, negative or no number, and at most
the greatest one of 32 bits. -/
def numberArgument (argument : Option String) : Nat :=
  saturate (intOrZero argument)

/-- The quality among the arguments of an optimizer task. -/
def qualityArgument (arguments : List String) : UInt32 :=
  UInt32.ofNat (numberArgument arguments[1]?)

/-- The web address that the arguments give. -/
def parseProxy (arguments : List String) : Except Failure String := do
  let url ← queryUnescape (← requireFirst "proxy url" arguments)
  if url = "" then throw (.argument "proxy url can not be empty")
  return url

/-- The optimizer task that the arguments give. -/
def parseOptimize (arguments : List String) : Except Failure Optimization := do
  let address ← requireFirst "optimize addr" arguments
  let format := arguments[2]?.map Format.outputOrJpeg
  return ⟨address, qualityArgument arguments, .given format⟩

/-- The optimizer task that the arguments and the accept hint give. -/
def parseAutoOptimize (accept : String) (arguments : List String) : Except Failure Optimization := do
  let address ← requireFirst "optimize addr" arguments
  return ⟨address, qualityArgument arguments, .accepted accept⟩

/-- The box that the arguments of a resize give. -/
def parseBox (mode : ResizeMode) (arguments : List String) : Except Failure Size :=
  match arguments with
  | [first, second] =>
    let box : Size := ⟨numberArgument (some first), numberArgument (some second)⟩
    if greatestSide < box.width ∨ greatestSide < box.height then
      .error (.argument
        s!"{mode.taskWord} {box.width}×{box.height} exceeds the {greatestSide}px limit")
    else .ok box
  | _ =>
    .error (.argument
      s!"{mode.taskWord} expects width and height, got {arguments.length} argument(s)")

/-- The resize that the arguments give. -/
def parseResize (mode : ResizeMode) (arguments : List String) : Except Failure Resize :=
  (parseBox mode arguments).map fun box => ⟨mode, box⟩

/-- The step that the words of a task give. -/
def parseWords {σ : Type} (registry : Registry σ) (accept word : String)
    (arguments : List String) : Except Failure (Step σ) :=
  if word = proxyWord then (parseProxy arguments).map .proxy
  else if word = optimizeWord then (parseOptimize arguments).map .optimize
  else if word = autoOptimizeWord then (parseAutoOptimize accept arguments).map .optimize
  else if word = ResizeMode.fit.taskWord then (parseResize .fit arguments).map .resize
  else if word = ResizeMode.fill.taskWord then (parseResize .fill arguments).map .resize
  else (registry.lookup word).map fun source => .find word source arguments

/-- The step that a task gives. -/
def parseTask {σ : Type} (registry : Registry σ) (accept task : String) :
    Except Failure (Step σ) :=
  let words := fields '/' task
  parseWords registry accept (words.headD "") words.tail

/-- The steps that a chain gives. -/
def parse {σ : Type} (registry : Registry σ) (accept chain : String) :
    Except Failure (List (Step σ)) :=
  (fields '|' chain).mapM (parseTask registry accept)

end ImageChain.Chain
