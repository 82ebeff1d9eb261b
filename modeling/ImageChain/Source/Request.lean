import ImageChain.Source.FileStore
import ImageChain.Source.Path
import ImageChain.Source.Status
import ImageChain.Source.Store
import ImageChain.Source.Upstream

/-!
# Sources and the requests they make

A source answers lookups.  What a lookup asks for is decided without touching anything: the
parameters become a request for one file, web address, object or stored file.  Only then the request
is performed, through whatever stands for the file system and the network.
-/

namespace ImageChain

/-- Something that images are looked up in. -/
inductive Source where
  /-- A directory. -/
  | directory (base : String)
  /-- Several hosts that offer the same images. -/
  | web (upstream : Upstream)
  /-- An object store. -/
  | store (kind : StoreKind) (store : Store)
  /-- A database that stores files. -/
  | files (store : FileStore)

/-- What a lookup asks for. -/
inductive Request where
  /-- A file. -/
  | file (path : String)
  /-- What a web address shows. -/
  | web (url : String)
  /-- An object in a bucket. -/
  | object (kind : StoreKind) (store : Store) (bucket key : String)
  /-- A stored file in a bucket. -/
  | stored (store : FileStore) (bucket : String) (id : ObjectId)
  deriving DecidableEq, Repr

namespace Source

/-- The request of a lookup in a directory. -/
def directoryRequest (base : String) (parameters : List String) : Except Failure Request := do
  requireParameters "file" 1 parameters
  let path ← Path.resolveWithin base (parameters.headD "")
  return .file path

/-- The request of a lookup in a web source, and the hosts afterwards.  The turn of a host is only
taken once the parameters are known to be right. -/
def webRequest (upstream : Upstream) (parameters : List String) :
    Except Failure (Request × Upstream) := do
  requireParameters "http" 1 parameters
  let path ← queryUnescape (parameters.headD "")
  match upstream.pick with
  | some (host, upstream) => return (.web (host ++ path), upstream)
  | none => throw (.backend "No healthy http upstream")

/-- The request of a lookup in an object store. -/
def storeRequest (kind : StoreKind) (store : Store) (parameters : List String) :
    Except Failure Request := do
  requireParameters kind.name 2 parameters
  return .object kind store (parameters.headD "") (parameters.tail.headD "")

/-- The request of a lookup in a file store. -/
def filesRequest (store : FileStore) (parameters : List String) : Except Failure Request := do
  requireParameters "gridfs" 1 parameters
  let id ← ObjectId.parse (parameters.headD "")
  return .stored store (parameters.tail.headD FileStore.defaultBucket) id

/-- The request of a lookup, and the source afterwards. -/
def request (source : Source) (parameters : List String) : Except Failure (Request × Source) :=
  match source with
  | directory base => (directoryRequest base parameters).map fun request => (request, source)
  | web upstream =>
    (webRequest upstream parameters).map fun (request, upstream) => (request, .web upstream)
  | store kind objects =>
    (storeRequest kind objects parameters).map fun request => (request, source)
  | files stored => (filesRequest stored parameters).map fun request => (request, source)

end Source

/-- A reply to a web request. -/
structure WebReply where
  /-- The status code. -/
  status : Nat
  /-- The content. -/
  body : ByteArray

/-- Why a stored file can not be had. -/
inductive DownloadFault where
  /-- It can not be opened. -/
  | closed (reason : String)
  /-- It can not be read to its end. -/
  | broken (reason : String)

/-- What performs requests. -/
structure Backends (m : Type → Type) where
  /-- Reads a file, or tells why it can not be read. -/
  readFile : String → m (Except String ByteArray)
  /-- Asks for what a web address shows, or tells why there is no reply. -/
  get : String → m (Except String WebReply)
  /-- Asks for an object by bucket and key, or tells why it can not be had. -/
  getObject : StoreKind → Store → String → String → m (Except String ByteArray)
  /-- Asks for a stored file by bucket and object id. -/
  download : FileStore → String → ObjectId → m (Except DownloadFault ByteArray)

namespace Request

variable {m : Type → Type} [Monad m]

/-- The bytes of a file. -/
def readFile (backends : Backends m) (path : String) : ExceptT Failure m ByteArray := do
  match ← ExceptT.lift (backends.readFile path) with
  | .ok bytes => return bytes
  | .error reason => throw (.backend ("Failed to read " ++ path ++ ": " ++ reason))

/-- The bytes that a web address shows. -/
def fetch (backends : Backends m) (url : String) : ExceptT Failure m ByteArray := do
  match ← ExceptT.lift (backends.get url) with
  | .error reason => throw (.web reason)
  | .ok reply =>
    if Status.isSuccess reply.status then return reply.body
    else throw (.backend ("GET " ++ url ++ " returned " ++ Status.render reply.status))

/-- Whether an object may have such a name.  The bucket must not be blank, and the key not empty. -/
def namesObject (bucket key : String) : Bool :=
  trim bucket != "" && key != ""

/-- The bytes of an object. -/
def getObject (backends : Backends m) (kind : StoreKind) (store : Store) (bucket key : String) :
    ExceptT Failure m ByteArray := do
  let failure (reason : String) : Failure :=
    .backend (kind.name ++ " get " ++ bucket ++ "/" ++ key ++ " failed: " ++ reason)
  if !namesObject bucket key then throw (failure "failed to construct request")
  match ← ExceptT.lift (backends.getObject kind store bucket key) with
  | .ok bytes => return bytes
  | .error reason => throw (failure reason)

/-- The bytes of a stored file. -/
def download (backends : Backends m) (store : FileStore) (bucket : String) (id : ObjectId) :
    ExceptT Failure m ByteArray := do
  match ← ExceptT.lift (backends.download store bucket id) with
  | .ok bytes => return bytes
  | .error (.closed reason) =>
    throw (.backend ("GridFS download of " ++ id.render ++ " failed: " ++ reason))
  | .error (.broken reason) => throw (.io reason)

/-- The bytes that a request asks for. -/
def perform (backends : Backends m) : Request → ExceptT Failure m ByteArray
  | file path => readFile backends path
  | web url => fetch backends url
  | object kind store bucket key => getObject backends kind store bucket key
  | stored store bucket id => download backends store bucket id

end Request

end ImageChain
