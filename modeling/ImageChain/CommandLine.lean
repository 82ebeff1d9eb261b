/-!
# The command line

The command line gives the path of the settings, the chain, the path for the result and possibly an
accept hint.  Options have a long name, and most of them a short one; their value follows them or is
attached to them.  After `--` everything is taken as it stands.

A value that follows its option is looked at only when the next argument has been recognized, so of
two mistakes the unknown argument is reported first.
-/

namespace ImageChain

/-- What the command line gives. -/
structure CommandLine where
  /-- The path of the settings. -/
  config : String
  /-- The chain. -/
  chain : String
  /-- The accept hint. -/
  accept : String
  /-- The path for the result. -/
  output : String
  deriving DecidableEq, Repr

namespace CommandLine

/-- Something that the command line gives. -/
inductive Item where
  | config
  | chain
  | accept
  | output
  deriving DecidableEq, Repr

/-- How an item is shown to a user. -/
def Item.label : Item → String
  | config => "--config <CONFIG>"
  | chain => "<TASK_CHAIN>"
  | accept => "--accept <ACCEPT>"
  | output => "--output <OUTPUT>"

/-- Whether an item is a path, which can not be empty. -/
def Item.isPath : Item → Bool
  | config | output => true
  | chain | accept => false

/-- What an option stands for. -/
inductive Meaning where
  /-- The value of an item follows. -/
  | item (item : Item)
  /-- The user wants to see how the program is called. -/
  | help
  /-- The user wants to see the version of the program. -/
  | version
  deriving DecidableEq, Repr

/-- What a long name of an option stands for. -/
def ofLongName : List Char → Option Meaning
  | ['c', 'o', 'n', 'f', 'i', 'g'] => some (.item .config)
  | ['a', 'c', 'c', 'e', 'p', 't'] => some (.item .accept)
  | ['o', 'u', 't', 'p', 'u', 't'] => some (.item .output)
  | ['h', 'e', 'l', 'p'] => some .help
  | ['v', 'e', 'r', 's', 'i', 'o', 'n'] => some .version
  | _ => none

/-- What a short name of an option stands for. -/
def ofShortName : Char → Option Meaning
  | 'c' => some (.item .config)
  | 'o' => some (.item .output)
  | 'h' => some .help
  | 'V' => some .version
  | _ => none

/-- Why the arguments are not read to a command line. -/
inductive Halt where
  /-- The user wants to see how the program is called. -/
  | help
  /-- The user wants to see the version of the program. -/
  | version
  /-- An item has no value. -/
  | valueMissing (item : Item)
  /-- An item is given twice. -/
  | repeated (item : Item)
  /-- There is no such argument. -/
  | unexpected (argument : String)
  /-- An option that takes no value has one. -/
  | unneeded (option value : String)
  /-- An item is missing. -/
  | incomplete
  deriving DecidableEq, Repr

/-- What has been read of the arguments. -/
structure Progress where
  /-- The items and their values. -/
  values : List (Item × String)
  /-- The last item, not yet looked at, and its value if that has come. -/
  pending : Option (Item × Option String)
  /-- Whether the chain has come. -/
  hasChain : Bool
  /-- Whether everything from now on is taken as it stands. -/
  plain : Bool

namespace Progress

/-- The progress before the first argument. -/
def start : Progress := ⟨[], none, false, false⟩

/-- Accepts a value of an item. -/
def accept (progress : Progress) (item : Item) (value : String) : Except Halt Progress :=
  if (progress.values.lookup item).isSome then .error (.repeated item)
  else if item.isPath && value == "" then .error (.valueMissing item)
  else .ok { progress with values := progress.values ++ [(item, value)] }

/-- Looks at the last item. -/
def settle (progress : Progress) : Except Halt Progress :=
  match progress.pending with
  | none => .ok progress
  | some (item, none) => .error (.valueMissing item)
  | some (item, some value) => { progress with pending := none }.accept item value

/-- Reads an option that stands for something, and the value attached to it. -/
def readMeaning (progress : Progress) (meaning : Meaning) (attached : Option String) :
    Except Halt Progress := do
  let progress ← progress.settle
  match meaning, attached with
  | .help, _ => throw .help
  | .version, _ => throw .version
  | .item item, some value => progress.accept item value
  | .item item, none => return { progress with pending := some (item, none) }

/-- Reads a long option without its dashes. -/
def readLong (progress : Progress) (text : List Char) : Except Halt Progress :=
  let name := text.takeWhile (· != '=')
  let option := "--" ++ String.ofList name
  let attached : Option String :=
    if name.length < text.length then some (String.ofList (text.drop (name.length + 1))) else none
  match ofLongName name, attached with
  | none, _ => .error (.unexpected option)
  | some (.item item), attached => progress.readMeaning (.item item) attached
  | some _, some value => .error (.unneeded option value)
  | some meaning, none => progress.readMeaning meaning none

/-- Reads short options without their dash.  What follows an option that takes a value is that
value. -/
def readShort (progress : Progress) : List Char → Except Halt Progress
  | [] => .ok progress
  | c :: rest =>
    match ofShortName c with
    | none => .error (.unexpected ("-" ++ c.toString))
    | some (.item item) =>
      match rest with
      | [] => progress.readMeaning (.item item) none
      | '=' :: value => progress.readMeaning (.item item) (some (String.ofList value))
      | value => progress.readMeaning (.item item) (some (String.ofList value))
    | some meaning => do
      let progress ← progress.readMeaning meaning none
      progress.readShort rest

/-- Reads an argument that is taken as it stands. -/
def readPlain (progress : Progress) (argument : String) : Except Halt Progress :=
  if progress.hasChain then .error (.unexpected argument)
  else do
    let progress ← progress.settle
    return { progress with pending := some (.chain, some argument), hasChain := true }

/-- Reads an argument. -/
def read (progress : Progress) (argument : String) : Except Halt Progress :=
  if progress.plain then progress.readPlain argument
  else
    match argument.toList with
    | ['-', '-'] => .ok { progress with plain := true }
    | '-' :: '-' :: text => progress.readLong text
    | '-' :: c :: text => progress.readShort (c :: text)
    | _ =>
      match progress.pending with
      | some (item, none) => .ok { progress with pending := some (item, some argument) }
      | _ => progress.readPlain argument

end Progress

/-- The command line that arguments give. -/
def parse (arguments : List String) : Except Halt CommandLine := do
  let progress ← (← arguments.foldlM Progress.read .start).settle
  let value (item : Item) : Option String := progress.values.lookup item
  match value .config, value .chain, value .output with
  | some config, some chain, some output =>
    return ⟨config, chain, (value .accept).getD "", output⟩
  | _, _, _ => throw .incomplete

/-- The text for a user who wants to see how the program is called. -/
def helpLines : List String := [
  "Run an image task chain",
  "",
  "Usage: image-pipeline [OPTIONS] --config <CONFIG> --output <OUTPUT> <TASK_CHAIN>",
  "",
  "Arguments:",
  "  <TASK_CHAIN>  Task chain, e.g. `local/cat.png|fitResize/800/600`",
  "",
  "Options:",
  "  -c, --config <CONFIG>  JSON config listing the sources to register",
  "      --accept <ACCEPT>  Accept hint used by autoOptimize [default: ]",
  "  -o, --output <OUTPUT>  Where to write the result",
  "  -h, --help             Print help",
  "  -V, --version          Print version"]

/-- The text for a user who wants to see the version of the program. -/
def versionLine : String := "image-pipeline 0.1.0"

/-- What is wrong with the arguments, if anything is. -/
def Halt.problem : Halt → Option String
  | help | version => none
  | valueMissing item =>
    some ("a value is required for '" ++ item.label ++ "' but none was supplied")
  | repeated item => some ("the argument '" ++ item.label ++ "' cannot be used multiple times")
  | unexpected argument => some ("unexpected argument '" ++ argument ++ "' found")
  | unneeded option value =>
    some ("unexpected value '" ++ value ++ "' for '" ++ option ++
      "' found; no more were expected")
  | incomplete => some "the following required arguments were not provided:"

end CommandLine

end ImageChain
