import ImageChain.Codec.Plain
import ImageChain.Offline
import ImageChain.Program

/-!
# The program on a real system

Files are read and written on disk, and images by the plain codecs.  There is no network: sources
and optimizers on other machines can not be reached.
-/

namespace ImageChain.Main

/-- The text that tells a user about a failed file operation. -/
def describe : IO.Error → String
  | .noFileOrDirectory .. => "No such file or directory (os error 2)"
  | .permissionDenied .. => "Permission denied (os error 13)"
  | .inappropriateType _ code _ =>
    if code = 20 then "Not a directory (os error 20)" else "Is a directory (os error 21)"
  | error => toString error

/-- The outcome of a file operation. -/
def attempt {α : Type} (operation : IO α) : IO (Except String α) := do
  try
    return .ok (← operation)
  catch error => return .error (describe error)

/-- Runs an action and drops its result if it took longer than a limit. -/
def within {α : Type} (limit : Duration) (action : IO α) : IO (Option α) := do
  let start ← IO.monoNanosNow
  let result ← action
  let stop ← IO.monoNanosNow
  return if stop - start ≤ limit.nanoseconds then some result else none

/-- The real system, with the variables of the environment that matter. -/
def system (values : List (String × String)) : System Unit IO where
  backends := .offline fun path => attempt (IO.FS.readBinFile path)
  carrier := .offline
  environment name := values.lookup name
  writeFile path bytes := attempt (IO.FS.writeBinFile path bytes)
  within := within
  rounding := Fraction.nearestDouble

/-- The variables of the environment that matter. -/
def readVariables : IO (List (String × String)) := do
  let names := [Config.healthCheckVariable, Config.timeoutVariable]
  let found ← names.mapM fun name => do
    return (← IO.getEnv name).map fun value => (name, value)
  return found.filterMap id

end ImageChain.Main

/-- Runs the program and shows what it reports. -/
def main (arguments : List String) : IO UInt32 := do
  let values ← ImageChain.Main.readVariables
  let report ← ImageChain.Program.run (ImageChain.Main.system values) arguments
  for line in report.output do
    IO.println line
  for line in report.messages do
    IO.eprintln line
  return report.code.toUInt32
