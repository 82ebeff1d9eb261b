import ImageChain.Failure
import ImageChain.Json.Reader
import ImageChain.Text.Blank
import ImageChain.Text.Utf8

/-!
# Settings

The settings of a process: its named sources, how often the hosts of a web source are checked, and
how long a chain may take.  They are read from a JSON file, checked, and then overridden from the
environment.
-/

namespace ImageChain

/-- A named source and the address it is built from. -/
structure SourceEntry where
  /-- The name chains use. -/
  name : String
  /-- Where the source finds its images. -/
  uri : String
  deriving DecidableEq, Repr

/-- The settings of a process. -/
structure Config where
  /-- The sources to register, in order. -/
  sources : List SourceEntry
  /-- The seconds between two checks of a web source's hosts. -/
  healthCheckSeconds : Nat
  /-- The seconds a chain may take, or `none` for as long as it likes. -/
  timeoutSeconds : Option Nat
  deriving DecidableEq, Repr

namespace Config

/-- The seconds between two health checks when nothing else is said. -/
def defaultHealthCheckSeconds : Nat := 10

/-- The settings of an empty file. -/
def default : Config := ⟨[], defaultHealthCheckSeconds, none⟩

/-- The time between two checks of a web source's hosts. -/
def healthCheckInterval (config : Config) : Duration :=
  .ofSeconds config.healthCheckSeconds

/-- The time a chain may take. -/
def timeout (config : Config) : Option Duration :=
  config.timeoutSeconds.map .ofSeconds

/-! ### Reading a file -/

open Json

/-- A string that is a text. -/
def readText : Value → Option String
  | .string text => text
  | _ => none

/-- A natural number of at most 64 bits. -/
def readSeconds : Value → Option Nat
  | .natural value => if value ≤ greatestNat64 then some value else none
  | _ => none

/-- A number of seconds or null. -/
def readOptionalSeconds : Value → Option (Option Nat)
  | .null => some none
  | value => (readSeconds value).map some

/-- The keys of an object's members, all of them texts. -/
def readKeys (members : List (Option String × Value)) : Option (List (String × Value)) :=
  members.mapM fun (key, value) => key.map fun key => (key, value)

/-- The value of the only member with a key: `none` if there are several, `some none` if there is
no such member. -/
def lookupOnce (key : String) (members : List (String × Value)) : Option (Option Value) :=
  match members.filter (·.1 == key) with
  | [] => some none
  | [(_, value)] => some (some value)
  | _ => none

/-- A source entry, as an object or as the list of its fields. -/
def readEntry : Value → Option SourceEntry
  | .object members => do
    let members ← readKeys members
    let name ← readText (← (← lookupOnce "name" members))
    let uri ← readText (← (← lookupOnce "uri" members))
    return ⟨name, uri⟩
  | .array [name, uri] => do return ⟨← readText name, ← readText uri⟩
  | _ => none

/-- The source entries of a file. -/
def readEntries : Value → Option (List SourceEntry)
  | .array entries => entries.mapM readEntry
  | _ => none

/-- The settings with the given fields; a missing field keeps its default. -/
def ofFields (sources interval timeout : Option Value) : Option Config := do
  let sources ← (sources.map readEntries).getD (some default.sources)
  let interval ← (interval.map readSeconds).getD (some default.healthCheckSeconds)
  let timeout ← (timeout.map readOptionalSeconds).getD (some default.timeoutSeconds)
  return ⟨sources, interval, timeout⟩

/-- The settings a JSON value describes, as an object or as the list of its fields. -/
def ofValue : Value → Option Config
  | .object members => do
    let members ← readKeys members
    ofFields (← lookupOnce "sources" members) (← lookupOnce "healthCheckIntervalSecs" members)
      (← lookupOnce "timeoutSecs" members)
  | .array fields =>
    if fields.length ≤ 3 then ofFields fields[0]? fields[1]? fields[2]? else none
  | _ => none

/-! ### Checking -/

/-- Checks that the names of the entries are neither empty, nor in `seen`, nor repeated. -/
def checkNames (seen : List String) : List SourceEntry → Except Failure Unit
  | [] => .ok ()
  | entry :: rest =>
    if entry.name = "" then .error (.configuration "Source name can not be empty")
    else if entry.name ∈ seen then
      .error (.configuration ("Duplicate source name: " ++ entry.name))
    else checkNames (entry.name :: seen) rest

/-- Checks that every source has a name of its own and that the health checks have an interval. -/
def validate (config : Config) : Except Failure Unit :=
  match checkNames [] config.sources with
  | .error failure => .error failure
  | .ok () =>
    if config.healthCheckSeconds = 0 then
      .error (.configuration "Health check interval must be positive")
    else .ok ()

/-- The checked settings that a JSON text describes. -/
def ofJson (text : String) : Except Failure Config :=
  match (read text).bind ofValue with
  | none => .error (.configuration "Invalid config: not a pipeline configuration")
  | some config =>
    match config.validate with
    | .ok () => .ok config
    | .error failure => .error failure

/-! ### Overriding -/

/-- The variable that overrides the health check interval. -/
def healthCheckVariable : String := "IMAGE_PIPELINE_HEALTH_CHECK_SECS"

/-- The variable that overrides the time a chain may take. -/
def timeoutVariable : String := "IMAGE_PIPELINE_TIMEOUT_SECS"

/-- The number of seconds a variable holds, with any white space around it. -/
def parseSeconds (key value : String) : Except Failure Nat :=
  match readNat greatestNat64 (trimChars value.toList) with
  | some seconds => .ok seconds
  | none =>
    .error (.configuration (key ++ " must be a number of seconds, got " ++ quote value))

/-- The number of seconds an environment gives a variable, if it gives one. -/
def lookupSeconds (environment : String → Option String) (key : String) :
    Except Failure (Option Nat) :=
  match environment key with
  | none => .ok none
  | some value => (parseSeconds key value).map some

/-- Overrides the settings from an environment, one after the other.  The settings are given back
with the outcome: a variable that does not hold a number leaves them as they are by then. -/
def applyOverrides (environment : String → Option String) (config : Config) :
    Except Failure Unit × Config :=
  match lookupSeconds environment healthCheckVariable with
  | .error failure => (.error failure, config)
  | .ok interval =>
    let config :=
      { config with healthCheckSeconds := interval.getD config.healthCheckSeconds }
    match lookupSeconds environment timeoutVariable with
    | .error failure => (.error failure, config)
    | .ok timeout => (.ok (), { config with timeoutSeconds := timeout <|> config.timeoutSeconds })

/-- The settings that the content of a file describes, overridden from an environment. -/
def load (environment : String → Option String) (path : String)
    (content : Except String ByteArray) : Except Failure Config :=
  let unreadable (reason : String) : Failure :=
    .configuration ("Cannot read config " ++ path ++ ": " ++ reason)
  match content with
  | .error reason => .error (unreadable reason)
  | .ok bytes =>
    match String.fromUTF8? bytes with
    | none => .error (unreadable "stream did not contain valid UTF-8")
    | some text =>
      match ofJson text with
      | .error failure => .error failure
      | .ok config =>
        match config.applyOverrides environment with
        | (.ok (), config) => .ok config
        | (.error failure, _) => .error failure

/-! ### Writing -/

/-- A source entry as JSON. -/
def entryToJson (entry : SourceEntry) : String :=
  writeObject [("name", writeString entry.name), ("uri", writeString entry.uri)]

/-- The settings as JSON. -/
def toJson (config : Config) : String :=
  writeObject [
    ("sources", writeArray (config.sources.map entryToJson)),
    ("healthCheckIntervalSecs", toString config.healthCheckSeconds),
    ("timeoutSecs", (config.timeoutSeconds.map toString).getD "null")]

end Config

end ImageChain
