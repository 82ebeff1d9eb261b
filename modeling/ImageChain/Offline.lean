import ImageChain.Optimizer.Client
import ImageChain.Source.Request

/-!
# Without a network

When there is no network, only files can be read.  Every request to a server fails the way it does
when the server can not be reached.
-/

namespace ImageChain

variable {m : Type → Type} [Monad m]

/-- Performs requests for files only. -/
def Backends.offline (readFile : String → m (Except String ByteArray)) : Backends m where
  readFile := readFile
  get url := return .error ("error sending request for url (" ++ url ++ ")")
  getObject _ _ _ _ := return .error "dispatch failure"
  download _ _ _ := return .error (.closed "Server selection timeout: No available servers")

/-- Reaches no optimizer. -/
def Carrier.offline {κ : Type} : Carrier κ m where
  connect _ := return .error "transport error"
  call _ _ := return .error (.notReady "transport error")

end ImageChain
