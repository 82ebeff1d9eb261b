import ImageChain.Registry
import ImageChain.Config
import ImageChain.Source.Request

/-!
# Building sources

The beginning of an address tells what kind of source it describes; an address without a known
beginning is a directory.  A source is registered only after it has been built, so an address that
is wrong changes nothing.
-/

namespace ImageChain

variable {m : Type → Type} [Monad m] {σ : Type}

/-- Whether a web address can be reached and answers with success. -/
def Backends.ping (backends : Backends m) (url : String) : m Bool := do
  match ← backends.get url with
  | .ok reply => return Status.isSuccess reply.status
  | .error _ => return false

/-- The rest of a text after its beginning, if it has that beginning. -/
def afterStart (start text : String) : Option String :=
  if start.toList.isPrefixOf text.toList then
    some (String.ofList (text.toList.drop start.length))
  else none

/-- The source that an address describes.  `ping` checks a host of a web source, whose checks are
`interval` apart. -/
def Source.build (ping : String → m Bool) (interval : Duration) (uri : String) :
    ExceptT Failure m Source := do
  if (afterStart "minio://" uri).isSome then
    return .store .minio (← ExceptT.mk (pure (Store.parsePlain uri)))
  if (afterStart "mongodb://" uri).isSome then
    return .files (← ExceptT.mk (pure (FileStore.parse uri)))
  if let some rest := afterStart "aliyun://" uri then
    return .store .oss (← ExceptT.mk (pure (Store.parseSecure ("https://" ++ rest))))
  if (afterStart "http://" uri).isSome || (afterStart "https://" uri).isSome then
    return .web (← Upstream.connect ping uri interval).1
  return .directory uri

namespace Registry

/-- Builds what an address describes and registers it. -/
def add (build : String → ExceptT Failure m σ) (name uri : String) :
    ExceptT Failure (StateT (Registry σ) m) Unit := ExceptT.mk do
  match ← StateT.lift (build uri).run with
  | .error failure => return .error failure
  | .ok value =>
    modify fun registry => registry.insert name value
    return .ok ()

/-- Builds and registers several entries in order, up to the first failure. -/
def addAll (build : String → ExceptT Failure m σ) :
    List SourceEntry → ExceptT Failure (StateT (Registry σ) m) Unit
  | [] => return
  | entry :: rest => do
    add build entry.name entry.uri
    addAll build rest

end Registry

end ImageChain
