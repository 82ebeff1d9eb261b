import ImageChain.Failure
import ImageChain.Source.Address

/-!
# Object stores

An object store is described by an address: a host, possibly a port, and two keys in the query.  A
lookup asks it for an object by bucket and key.
-/

namespace ImageChain

/-- How an object store is reached. -/
inductive StoreKind where
  /-- In the clear. -/
  | minio
  /-- Over a secure connection. -/
  | oss
  deriving DecidableEq, Repr

/-- The name of a kind of object store. -/
def StoreKind.name : StoreKind → String
  | minio => "minio"
  | oss => "oss"

/-- An object store and the keys to it. -/
structure Store where
  /-- The host. -/
  host : String
  /-- The port, unless it is the usual one. -/
  port : Option Nat
  /-- The key that names the user. -/
  accessKey : String
  /-- The key that proves it. -/
  secretKey : String
  deriving DecidableEq, Repr

namespace Store

/-- Whether a character is dropped from either end of an address. -/
def isControlOrSpace (c : Char) : Bool :=
  c.toNat ≤ 0x20

/-- The characters of an address that count. -/
def significant (address : List Char) : List Char :=
  let trimmed := ((address.dropWhile isControlOrSpace).reverse.dropWhile isControlOrSpace).reverse
  trimmed.filter fun c => c ≠ '\t' && c ≠ '\n' && c ≠ '\r'

/-- The text that form-encoded characters stand for. -/
def decodeForm (characters : List Char) : String :=
  let bytes := (Utf8.encode (String.ofList characters)).map plainByte
  Utf8.decodeLossy (percentDecode bytes)

/-- The names and values of a query. -/
def queryPairs (query : List Char) : List (String × String) :=
  ((splitChars '&' query).filter fun pair => !pair.isEmpty).map fun pair =>
    let name := pair.takeWhile (· != '=')
    let value := (pair.dropWhile (· != '=')).drop 1
    (decodeForm name, decodeForm value)

/-- The last value a query gives a name, or no text. -/
def queryValue (query : List Char) (name : String) : String :=
  ((queryPairs query).reverse.lookup name).getD ""

/-- The store that the part of an address after its scheme describes; `uri` is the whole address in
messages. -/
def parseAfterScheme (isWeb : Bool) (uri : String) (rest : List Char) : Except Failure Store :=
  let isSlash (c : Char) : Bool := c == '/' || (isWeb && c == '\\')
  let start := if isWeb then rest.dropWhile isSlash else rest.drop 2
  let endsAuthority (c : Char) : Bool := isSlash c || c == '?' || c == '#'
  let authority := start.takeWhile fun c => !endsAuthority c
  let beforeFragment := (start.drop authority.length).takeWhile (· != '#')
  let query := (beforeFragment.dropWhile (· != '?')).drop 1
  match Address.readAuthority isWeb authority with
  | .error fault =>
    .error (.configuration ("Invalid storage URI " ++ uri ++ ": " ++ fault.message))
  | .ok (host, port) =>
    if host = "" then .error (.configuration ("Storage URI has no host: " ++ uri))
    else .ok ⟨host, port, queryValue query "accessKey", queryValue query "secretKey"⟩

/-- The store of an address with the scheme `minio`. -/
def parsePlain (uri : String) : Except Failure Store :=
  parseAfterScheme false uri ((significant uri.toList).drop "minio:".length)

/-- The store of a web address.  Both keys have to be there. -/
def parseSecure (uri : String) : Except Failure Store :=
  match parseAfterScheme true uri ((significant uri.toList).drop "https:".length) with
  | .error failure => .error failure
  | .ok store =>
    if store.accessKey = "" ∨ store.secretKey = "" then
      .error (.configuration "access key and secret key can not be empty")
    else .ok store

/-- The host of a store with its port. -/
def authority (store : Store) : String :=
  match store.port with
  | some port => store.host ++ ":" ++ toString port
  | none => store.host

/-- The region of a store that is named after it: the first label of the host. -/
def region (store : Store) : String :=
  String.ofList (store.host.toList.takeWhile (· != '.'))

end Store

end ImageChain
