import ImageChain.Connection.Cache
import ImageChain.Optimizer.Wire
import ImageChain.Text.Utf8

/-!
# Calling the optimizer

An optimizer is called over a connection to its address, which is made on the first call and kept.
An address has to be fit for the middle part of a web address, between `//` and the path.
-/

namespace ImageChain

/-- Why a call over a connection gives no reply. -/
inductive CallFault where
  /-- The connection is not ready. -/
  | notReady (reason : String)
  /-- The optimizer refuses. -/
  | refused (reason : String)

/-- What connects to optimizers and carries messages to them. -/
structure Carrier (κ : Type) (m : Type → Type) where
  /-- Connects to an address, or tells why that is not possible. -/
  connect : String → m (Except String κ)
  /-- Sends the bytes of a request and gives the bytes of the reply. -/
  call : κ → List UInt8 → m (Except CallFault (List UInt8))

namespace OptimizerAddress

/-- What has been read of an address. -/
structure Progress where
  /-- The number of colons since the last closing bracket or at sign. -/
  colons : Nat
  /-- Whether a bracket has been opened. -/
  opened : Bool
  /-- Whether it has been closed. -/
  closed : Bool
  /-- Whether there was a percent sign since the last closing bracket or at sign. -/
  percent : Bool
  /-- Whether the last character is an at sign. -/
  atSign : Bool

/-- The greatest number of colons in a row of groups. -/
def greatestColons : Nat := 8

/-- The greatest number of bytes of a web address. -/
def greatestLength : Nat := 65534

/-- Whether a byte may stand in the middle part of a web address for itself. -/
def isPlain (b : UInt8) : Bool :=
  (0x30 ≤ b && b ≤ 0x39) || (0x41 ≤ b && b ≤ 0x5A) || (0x61 ≤ b && b ≤ 0x7A) ||
    (Utf8.encode "-._~!$&'()*+,;=").contains b

/-- Reads a byte that does not end the middle part. -/
def Progress.read (progress : Progress) (b : UInt8) : Option Progress :=
  let next := { progress with atSign := false }
  if b = 0x3A then
    if greatestColons ≤ progress.colons then none
    else some { next with colons := progress.colons + 1 }
  else if b = 0x5B then
    if progress.percent || progress.opened then none else some { next with opened := true }
  else if b = 0x5D then
    if !progress.opened || progress.closed then none
    else some { next with closed := true, colons := 0, percent := false }
  else if b = 0x40 then some { next with colons := 0, percent := false, atSign := true }
  else if b = 0x25 then some { next with percent := true }
  else if isPlain b then some next
  else none

/-- Whether a byte ends the middle part. -/
def endsMiddle (b : UInt8) : Bool :=
  b = 0x2F || b = 0x3F || b = 0x23

/-- Whether a byte may stand in the path. -/
def isPathByte (b : UInt8) : Bool :=
  b = 0x21 || (0x24 ≤ b && b ≤ 0x3B) || b = 0x3D || (0x40 ≤ b && b ≤ 0x5F) ||
    (0x61 ≤ b && b ≤ 0x7A) || (Utf8.encode "|~\"\x7b\x7d").contains b || 0x7F ≤ b

/-- Whether a byte may stand in the query. -/
def isQueryByte (b : UInt8) : Bool :=
  b = 0x21 || (0x24 ≤ b && b ≤ 0x3B) || b = 0x3D || 0x3F ≤ b

/-- Whether the bytes after the middle part make a path and a query. -/
def isRest (rest : List UInt8) : Bool :=
  let shown := rest.takeWhile (· != 0x23)
  let path := shown.takeWhile (· != 0x3F)
  path.all isPathByte && (shown.drop (path.length + 1)).all isQueryByte

/-- Whether a text is fit for the middle part of a web address, possibly with a path. -/
def isFit (address : String) : Bool :=
  let bytes := Utf8.encode address
  let middle := bytes.takeWhile fun b => !endsMiddle b
  match middle.foldlM Progress.read ⟨0, false, false, false, false⟩ with
  | none => false
  | some progress =>
    !middle.isEmpty && progress.opened == progress.closed && progress.colons ≤ 1 &&
      !progress.atSign && !progress.percent && isRest (bytes.drop middle.length) &&
      bytes.length + "http://".length ≤ greatestLength

end OptimizerAddress

namespace Carrier

variable {κ : Type} {m : Type → Type} [Monad m]

/-- Connects to the optimizer at an address. -/
def dial (carrier : Carrier κ m) (address : String) : m (Except Failure κ) := do
  if !OptimizerAddress.isFit address then
    return .error
      (.configuration ("Invalid optimizer address " ++ address ++ ": invalid uri character"))
  match ← carrier.connect address with
  | .ok connection => return .ok connection
  | .error reason =>
    return .error (.backend ("Cannot connect to optimizer " ++ address ++ ": " ++ reason))

/-- The failure that goes with a fault in a call to an address. -/
def callFailure (address : String) : CallFault → Failure
  | .notReady reason => .backend ("Optimizer " ++ address ++ " not ready: " ++ reason)
  | .refused reason => .backend ("Optimizer " ++ address ++ " failed: " ++ reason)

/-- Sends a request to the optimizer at an address, over the connection that is kept for it. -/
def optimize (carrier : Carrier κ m) (address : String) (request : Wire.Request) :
    ExceptT Failure (StateT (ConnectionCache κ) m) (List UInt8) := do
  let connection ← ConnectionCache.connect carrier.dial address
  match ← ExceptT.lift (StateT.lift (carrier.call connection request.encode)) with
  | .error fault => throw (callFailure address fault)
  | .ok bytes =>
    match Wire.Reply.decode bytes with
    | some reply => return reply.data
    | none => throw (callFailure address (.refused "failed to decode Protobuf message"))

end Carrier

end ImageChain
