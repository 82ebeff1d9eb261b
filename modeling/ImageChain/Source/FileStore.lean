import ImageChain.Source.Address
import ImageChain.Source.ObjectId

/-!
# File stores

A file store keeps files in buckets of a database.  It is described by an address with the scheme
`mongodb`: credentials, a list of hosts, the name of the database, and options.  A lookup names a
file by its object id, and possibly a bucket.
-/

namespace ImageChain

/-- A database that stores files. -/
structure FileStore where
  /-- The name of the database. -/
  database : String
  deriving DecidableEq, Repr

namespace FileStore

/-- The bucket of a lookup that does not name one. -/
def defaultBucket : String := "fs"

/-! ### The parts of an address -/

/-- The characters before and after the first separator, if there is one. -/
def splitFirst (separator : Char) (text : List Char) : Option (List Char × List Char) :=
  let before := text.takeWhile (· != separator)
  if before.length < text.length then some (before, text.drop (before.length + 1)) else none

/-- The characters before and after the last separator, if there is one. -/
def splitLast (separator : Char) (text : List Char) : Option (List Char × List Char) :=
  (splitFirst separator text.reverse).map fun (after, before) => (before.reverse, after.reverse)

/-- A part of an address, which is missing if it is empty. -/
def nonEmpty (part : List Char) : Option (List Char) :=
  if part.isEmpty then none else some part

/-- The text that percent-escaped characters stand for; an incomplete escape stands for itself. -/
def decodeText (part : List Char) : Option String :=
  (Utf8.decode (percentDecode (Utf8.encode (String.ofList part)))).toOption

/-- Whether every percent sign starts a complete escape. -/
def hasCompleteEscapes : List Char → Bool
  | [] => true
  | '%' :: high :: low :: rest =>
    let isHex (c : Char) : Bool := c.toNat < 128 && (hexValue c.toNat.toUInt8).isSome
    isHex high && isHex low && hasCompleteEscapes rest
  | '%' :: _ => false
  | _ :: rest => hasCompleteEscapes rest

/-- Whether a user name or a password is written as it has to be. -/
def isCredential (part : List Char) : Bool :=
  !part.any (":/?#[]@".toList.contains ·) && hasCompleteEscapes part && (decodeText part).isSome

/-- Whether the credentials before a list of hosts are written as they have to be. -/
def areCredentials (credentials : List Char) : Bool :=
  match splitFirst ':' credentials with
  | none => isCredential credentials
  | some (name, password) => name.isEmpty || (isCredential name && isCredential password)

/-- Whether a text is a port. -/
def isPort (text : List Char) : Bool :=
  ((readNat 65535 text).filter (0 < ·)).isSome

/-- Whether a text is a host, possibly with a port. -/
def isHost (text : List Char) : Bool :=
  match text with
  | '[' :: rest =>
    match splitFirst ']' rest with
    | none => false
    | some (numbers, after) =>
      (Address.readEightNumbers numbers).isSome &&
        (after.isEmpty || (after.head? == some ':' && isPort after.tail))
  | _ =>
    match splitFirst ':' text with
    | none => !text.isEmpty
    | some (host, port) => !host.isEmpty && isPort port

/-- The name of the database in the part of an address after the hosts; a name has to do without
some characters. -/
def readDatabase (part : List Char) : Option String :=
  (decodeText part).filter fun name => !name.toList.any ("/\\ \"$".toList.contains ·)

/-! ### Options -/

/-- What the value of an option has to be. -/
inductive OptionKind where
  /-- Any text. -/
  | text
  /-- Either `true` or `false`. -/
  | switch
  /-- A number in a range. -/
  | number (least greatest : Nat)
  /-- One of several words. -/
  | word (words : List String)

/-- Whether a value is one of a kind. -/
def OptionKind.admits : OptionKind → String → Bool
  | text, _ => true
  | switch, value => value == "true" || value == "false"
  | number least greatest, value => ((readNat greatest value.toList).filter (least ≤ ·)).isSome
  | word words, value => words.contains value

/-- The options there are, in lower case. -/
def options : List (String × OptionKind) := [
  ("appname", .text),
  ("authmechanism", .word ["SCRAM-SHA-1", "SCRAM-SHA-256", "MONGODB-X509", "PLAIN"]),
  ("authmechanismproperties", .text),
  ("authsource", .text),
  ("connecttimeoutms", .number 0 greatestNat64),
  ("directconnection", .switch),
  ("heartbeatfrequencyms", .number 500 greatestNat64),
  ("journal", .switch),
  ("loadbalanced", .switch),
  ("localthresholdms", .number 0 greatestNat64),
  ("maxconnecting", .number 1 greatestNat32),
  ("maxidletimems", .number 0 greatestNat64),
  ("maxpoolsize", .number 0 greatestNat32),
  ("minpoolsize", .number 0 greatestNat32),
  ("readconcernlevel", .text),
  ("readpreference",
    .word ["primary", "primaryPreferred", "secondary", "secondaryPreferred", "nearest"]),
  ("replicaset", .text),
  ("retryreads", .switch),
  ("retrywrites", .switch),
  ("servermonitoringmode", .word ["auto", "poll", "stream"]),
  ("serverselectiontimeoutms", .number 0 greatestNat64),
  ("sockettimeoutms", .number 0 greatestNat64),
  ("ssl", .switch),
  ("tls", .switch),
  ("tlsallowinvalidcertificates", .switch),
  ("tlscafile", .text),
  ("tlscertificatekeyfile", .text),
  ("tlsinsecure", .switch),
  ("uuidrepresentation", .word ["csharpLegacy", "javaLegacy", "pythonLegacy"]),
  ("w", .text),
  ("waitqueuetimeoutms", .number 0 greatestNat64),
  ("wtimeoutms", .number 0 greatestNat64)]

/-- Whether an option is there and admits a value. -/
def isOption (name value : List Char) : Bool :=
  match options.lookup (Unicode.lowercase (String.ofList name)) with
  | none => false
  | some kind =>
    kind.admits (Utf8.decodeLossy (percentDecode (Utf8.encode (String.ofList value))))

/-- Whether texts are options with values, none of them given twice or given in `seen`. -/
def areOptions (seen : List (List Char)) : List (List Char) → Bool
  | [] => true
  | option :: rest =>
    match splitFirst '=' option with
    | none => false
    | some (name, value) =>
      !seen.contains name && isOption name value && areOptions (name :: seen) rest

/-! ### The address -/

/-- The database that an address names, which may be none, or nothing if the address is written
wrongly. -/
def readAddress (uri : String) : Option (Option String) := do
  let rest := uri.toList.drop "mongodb://".length
  let (servers, afterSlash) ← match splitFirst '/' rest with
    | none => if rest.contains '?' then none else some (rest, [])
    | some (servers, after) => some (servers, after)
  let hosts := match splitLast '@' servers with
    | none => servers
    | some (_, hosts) => hosts
  let credentials := (splitLast '@' servers).bind fun (credentials, _) => nonEmpty credentials
  let (name, optionText) := match splitFirst '?' afterSlash with
    | none => (afterSlash, [])
    | some parts => parts
  let database ← match nonEmpty name with
    | none => some none
    | some name => (readDatabase name).map some
  if !(splitChars ',' hosts).all isHost then none
  else if !credentials.all areCredentials then none
  else if !optionText.isEmpty && !areOptions [] (splitChars '&' optionText) then none
  else some database

/-- The file store of an address, which has to name a database. -/
def parse (uri : String) : Except Failure FileStore :=
  match readAddress uri with
  | none => .error (.configuration ("Invalid mongodb URI: " ++ uri))
  | some none => .error (.configuration "database can not be empty")
  | some (some database) => .ok ⟨database⟩

end FileStore

end ImageChain
