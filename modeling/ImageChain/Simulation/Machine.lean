import ImageChain.Program
import ImageChain.Simulation.FileTree
import ImageChain.Timed

/-!
# A described machine

A machine has files, a clock and a network.  Whatever is on the other side of the network may see the
files of the machine and may change its own state with every request, but files are only changed by
writing them.  Requests and reading take time.
-/

namespace ImageChain

/-- A machine that is connected to something outside. -/
structure Machine (ω : Type) where
  /-- The files. -/
  files : FileTree
  /-- The state of what is outside. -/
  outside : ω

/-- What a request does: how long it takes, its answer and what is outside afterwards. -/
def Effect (ω α : Type) : Type := FileTree → ω → Duration × α × ω

/-- What is on the other side of the network, and what else a program can not change. -/
structure Surroundings (κ ω : Type) where
  /-- How long it takes to read a file. -/
  reading : String → Duration
  /-- Asks for what a web address shows. -/
  get : String → Effect ω (Except String WebReply)
  /-- Asks for an object by bucket and key. -/
  getObject : StoreKind → Store → String → String → Effect ω (Except String ByteArray)
  /-- Asks for a stored file by bucket and object id. -/
  download : FileStore → String → ObjectId → Effect ω (Except DownloadFault ByteArray)
  /-- Connects to an optimizer. -/
  connect : String → Effect ω (Except String κ)
  /-- Sends bytes over a connection. -/
  call : κ → List UInt8 → Effect ω (Except CallFault (List UInt8))
  /-- The variables of the environment. -/
  environment : String → Option String
  /-- The rounding of computed sizes. -/
  rounding : Rounding

namespace Machine

variable {κ ω α : Type}

/-- Sends a request and waits for the answer. -/
def perform (effect : Effect ω α) : Timed (Machine ω) α := do
  let machine ← Timed.world
  let (delay, answer, outside) := effect machine.files machine.outside
  Timed.change fun machine => { machine with outside := outside }
  Timed.sleep delay
  return answer

/-- Reads a file. -/
def readFile (delay : Duration) (path : String) :
    Timed (Machine ω) (Except String ByteArray) := do
  Timed.sleep delay
  return (← Timed.world).files.read path

/-- Writes a file. -/
def writeFile (path : String) (content : ByteArray) : Timed (Machine ω) (Except String Unit) := do
  match (← Timed.world).files.write path content with
  | .error reason => return .error reason
  | .ok files =>
    Timed.change fun machine => { machine with files := files }
    return .ok ()

/-- A machine as the outside world of the program. -/
def system (surroundings : Surroundings κ ω) : System κ (Timed (Machine ω)) where
  backends :=
    { readFile := fun path => readFile (surroundings.reading path) path
      get := fun url => perform (surroundings.get url)
      getObject := fun kind store bucket key =>
        perform (surroundings.getObject kind store bucket key)
      download := fun store bucket id => perform (surroundings.download store bucket id) }
  carrier :=
    { connect := fun address => perform (surroundings.connect address)
      call := fun connection bytes => perform (surroundings.call connection bytes) }
  environment := surroundings.environment
  writeFile := writeFile
  within := Timed.within
  rounding := surroundings.rounding

end Machine

end ImageChain
