import ImageChain.Duration
import ImageChain.Json.Writer

/-!
# Failures

Everything that can go wrong while a chain is read, run or written out.  One of them is no failure
at all but a signal that ends a chain early.
-/

namespace ImageChain

/-- Why a chain, a source or a step did not give a result. -/
inductive Failure where
  /-- No source is registered under the name. -/
  | notFound (name : String)
  /-- A source or a setting is described wrongly. -/
  | configuration (reason : String)
  /-- A task or a lookup parameter is wrong. -/
  | argument (reason : String)
  /-- A source, a codec or the optimizer could not do its work. -/
  | backend (reason : String)
  /-- The chain did not finish in time. -/
  | timeout (limit : Duration)
  /-- The signal to stop and keep the current image. -/
  | abortNext
  deriving DecidableEq, Repr

namespace Failure

/-- The name of the kind of failure. -/
def kind : Failure → String
  | notFound _ => "NotFound"
  | configuration _ => "Configuration"
  | argument _ => "Argument"
  | backend _ => "Backend"
  | timeout _ => "Timeout"
  | abortNext => "AbortNext"

/-- The message shown to a user. -/
def message : Failure → String
  | notFound name => "Source not found: " ++ name
  | configuration reason => "Configuration error: " ++ reason
  | argument reason => "Argument error: " ++ reason
  | backend reason => "Backend error: " ++ reason
  | timeout limit => "Pipeline timed out after " ++ limit.render
  | abortNext => "abort next"

/-- Whether the failure is the signal to stop and keep the current image. -/
def isAbort : Failure → Bool
  | abortNext => true
  | _ => false

/-- The failure as it is shown to a developer: its kind and its quoted payload. -/
def inspect (failure : Failure) : String :=
  match failure with
  | notFound text | configuration text | argument text | backend text =>
    failure.kind ++ "(" ++ quote text ++ ")"
  | timeout limit => failure.kind ++ "(" ++ limit.render ++ ")"
  | abortNext => failure.kind

/-- The failure as JSON. -/
def toJson (failure : Failure) : String :=
  match failure with
  | notFound text | configuration text | argument text | backend text =>
    Json.writeObject [(failure.kind, Json.writeString text)]
  | timeout limit =>
    let duration := Json.writeObject
      [("secs", toString limit.seconds), ("nanos", toString limit.subsecond)]
    Json.writeObject [(failure.kind, duration)]
  | abortNext => Json.writeString failure.kind

/-- A failed file operation. -/
def io (reason : String) : Failure := backend ("IO error: " ++ reason)

/-- An image that can not be decoded or encoded. -/
def codec (reason : String) : Failure := backend ("Image codec error: " ++ reason)

/-- A failed web request. -/
def web (reason : String) : Failure := backend ("HTTP error: " ++ reason)

end Failure

/-- The first of several parameters, which `what` names in the message when it is missing or
empty. -/
def requireFirst (what : String) : List String → Except Failure String
  | first :: _ => if first = "" then .error (.argument (what ++ " can not be empty")) else .ok first
  | [] => .error (.argument (what ++ " can not be empty"))

/-- Fails unless a source was given at least `least` lookup parameters. -/
def requireParameters (source : String) (least : Nat) (parameters : List String) :
    Except Failure Unit :=
  if parameters.length < least then
    .error (.argument
      s!"{source} source expects at least {least} parameter(s), got {parameters.length}")
  else .ok ()

end ImageChain
