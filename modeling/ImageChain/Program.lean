import ImageChain.Chain.Execute
import ImageChain.Chain.Parser
import ImageChain.CommandLine
import ImageChain.Workspace

/-!
# The program

The program loads the settings, registers the sources they list, runs one chain from the empty image
and writes the result to a file.  Nothing is written unless everything before has gone well.  What
stands for the outside world is a parameter, so the program runs on a real system as well as on a
described one.
-/

namespace ImageChain

/-- The outside world. -/
structure System (κ : Type) (m : Type → Type) where
  /-- The file system and the network. -/
  backends : Backends m
  /-- The way to optimizers. -/
  carrier : Carrier κ m
  /-- The variables of the environment. -/
  environment : String → Option String
  /-- Writes a file, or tells why it can not be written. -/
  writeFile : String → ByteArray → m (Except String Unit)
  /-- Cuts an action off after a limit. -/
  within : {α : Type} → Duration → m α → m (Option α)
  /-- The rounding of computed sizes. -/
  rounding : Rounding

/-- What the program leaves behind besides files. -/
structure Report where
  /-- The exit code. -/
  code : Nat
  /-- The lines of the output. -/
  output : List String
  /-- The lines of the messages. -/
  messages : List String
  deriving DecidableEq, Repr

/-- Why the program fails. -/
structure Fault where
  /-- What was being done, if that has to be told. -/
  context : Option String
  /-- What went wrong. -/
  cause : String
  deriving DecidableEq, Repr

namespace Fault

/-- A failure as it is. -/
def ofFailure (failure : Failure) : Fault := ⟨none, failure.message⟩

/-- The lines that tell a user about a fault. -/
def lines (fault : Fault) : List String :=
  match fault.context with
  | none => fields '\n' ("Error: " ++ fault.cause)
  | some context =>
    fields '\n' ("Error: " ++ context) ++ ["", "Caused by:"] ++
      (fields '\n' fault.cause).map ("    " ++ ·)

end Fault

namespace Program

variable [Codecs] {κ : Type} {m : Type → Type} [Monad m]

/-- Gives a failure a context, or leaves it as it is. -/
def explain {α : Type} (context : Option String) (result : Except Failure α) : Except Fault α :=
  match result with
  | .ok a => .ok a
  | .error failure => .error ⟨context, failure.message⟩

/-- An action on a workspace that is cut off after a limit.  The workspace is then left as it was
before. -/
def cutOff {α : Type} (system : System κ m) (limit : Duration)
    (action : StateT (Workspace κ) m α) : StateT (Workspace κ) m (Option α) := fun workspace => do
  match ← system.within limit (action.run workspace) with
  | some (a, workspace) => return (some a, workspace)
  | none => return (none, workspace)

/-- Loads the settings. -/
def loadConfig (system : System κ m) (path : String) : m (Except Failure Config) := do
  let content ← system.backends.readFile path
  return Config.load system.environment path content

/-- Registers the sources of the settings in order, up to the first failure. -/
def registerSources (system : System κ m) (config : Config) :
    StateT (Registry Nat) (StateT Catalog m) (Except Failure Unit) :=
  (Registry.addAll (Catalog.build system.backends config.healthCheckInterval) config.sources).run

/-- Reads a chain and runs it from the empty image, within the time that the settings allow. -/
def runChain (system : System κ m) (config : Config) (registry : Registry Nat) (accept chain : String) :
    ExceptT Failure (StateT (Workspace κ) m) Image := do
  let steps ← ExceptT.mk (pure (Chain.parse registry accept chain))
  let run := Step.run (Workspace.services system.backends system.carrier system.rounding)
  match config.timeout with
  | none => Chain.execute run steps .blank
  | some limit => Chain.executeWithin (cutOff system) limit run steps .blank

/-- The encoded image that a command line asks for. -/
def produce (system : System κ m) (line : CommandLine) : m (Except Fault ByteArray) := do
  match explain (some ("Failed to load " ++ line.config)) (← loadConfig system line.config) with
  | .error fault => return .error fault
  | .ok config =>
    let ((registered, registry), catalog) ←
      ((registerSources system config).run .empty).run .empty
    match registered with
    | .error failure => return .error (.ofFailure failure)
    | .ok () =>
      let workspace : Workspace κ := ⟨catalog, .empty⟩
      let (result, _) ← (runChain system config registry line.accept line.chain).run.run workspace
      return explain none do
        let image ← result
        let (bytes, _) ← image.bytes
        return bytes

/-- Does what a command line asks for. -/
def runLine (system : System κ m) (line : CommandLine) : m (Except Fault Unit) := do
  match ← produce system line with
  | .error fault => return .error fault
  | .ok bytes =>
    match ← system.writeFile line.output bytes with
    | .ok () => return .ok ()
    | .error reason => return .error ⟨some ("Failed to write " ++ line.output), reason⟩

/-- Runs the program with arguments. -/
def run (system : System κ m) (arguments : List String) : m Report := do
  match CommandLine.parse arguments with
  | .error .help => return ⟨0, CommandLine.helpLines, []⟩
  | .error .version => return ⟨0, [CommandLine.versionLine], []⟩
  | .error halt => return ⟨2, [], ["error: " ++ halt.problem.getD ""]⟩
  | .ok line =>
    match ← runLine system line with
    | .ok () => return ⟨0, [], []⟩
    | .error fault => return ⟨1, [], fault.lines⟩

end Program

end ImageChain
