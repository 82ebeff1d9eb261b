import ImageChain.Text.Escape
import ImageChain.Text.Fields
import ImageChain.Text.Number
import ImageChain.Unicode.Lowercase

/-!
# Hosts and ports in addresses

The part of an address between `//` and the path names a host, which may be a name or a number of
one of two lengths, and possibly a port.  A web address has stricter rules for names than an address
with another scheme, and numbers are written in one way only.
-/

namespace ImageChain.Address

/-- Why an address can not be read. -/
inductive Fault where
  | emptyHost
  | badPort
  | badName
  | badInternationalName
  | badFourNumbers
  | badEightNumbers
  deriving DecidableEq, Repr

/-- The message that goes with a fault. -/
def Fault.message : Fault → String
  | emptyHost => "empty host"
  | badPort => "invalid port number"
  | badName => "invalid domain character"
  | badInternationalName => "invalid international domain name"
  | badFourNumbers => "invalid IPv4 address"
  | badEightNumbers => "invalid IPv6 address"

/-! ### Eight numbers -/

/-- A group of at most four hexadecimal digits. -/
def readGroup (digits : List Char) : Option Nat :=
  if digits.isEmpty || 4 < digits.length then none
  else
    digits.foldlM (fun value c => do
      let digit ← hexValue c.toNat.toUInt8
      if c.toNat < 128 then return 16 * value + digit.toNat else none) 0

/-- A byte in decimal digits without leading zeros. -/
def readOctet (digits : List Char) : Option Nat :=
  match digits with
  | '0' :: _ :: _ => none
  | _ => (readDigits digits).filter (· ≤ 255)

/-- The groups between colons, of which the last one may be four bytes. -/
def readGroups : List (List Char) → Option (List Nat)
  | [] => some []
  | [last] =>
    match splitChars '.' last with
    | [a, b, c, d] => do
      let a ← readOctet a
      let b ← readOctet b
      let c ← readOctet c
      let d ← readOctet d
      return [256 * a + b, 256 * c + d]
    | _ => (readGroup last).map fun group => [group]
  | first :: rest => do
    let group ← readGroup first
    return group :: (← readGroups rest)

/-- The characters before and after the first two colons in a row. -/
def splitGap : List Char → Option (List Char × List Char)
  | [] => none
  | ':' :: ':' :: rest => some ([], rest)
  | c :: rest => (splitGap rest).map fun (before, after) => (c :: before, after)

/-- The groups of a side of the gap. -/
def readSide (side : List Char) : Option (List Nat) :=
  if side.isEmpty then some [] else readGroups (splitChars ':' side)

/-- The eight numbers of a text, where a gap stands for zeros. -/
def readEightNumbers (text : List Char) : Option (List Nat) :=
  match splitGap text with
  | none => (readGroups (splitChars ':' text)).filter (·.length = 8)
  | some (before, after) => do
    if before.contains '.' then none
    else
      let first ← readSide before
      let last ← readSide after
      if first.length + last.length < 8 then
        return first ++ List.replicate (8 - first.length - last.length) 0 ++ last
      else none

/-- The number of zeros a list of numbers starts with. -/
def zerosAhead (numbers : List Nat) : Nat :=
  (numbers.takeWhile (· == 0)).length

/-- The place and the length of the first longest run of zeros. -/
def longestZeros (numbers : List Nat) : Nat × Nat :=
  (List.range numbers.length).foldl (fun best place =>
    let length := zerosAhead (numbers.drop place)
    if best.2 < length then (place, length) else best) (0, 0)

/-- Eight numbers as a text; the longest run of several zeros becomes a gap. -/
def writeEightNumbers (numbers : List Nat) : String :=
  let groups (part : List Nat) : String :=
    ":".intercalate (part.map fun group => String.ofList (Nat.toDigits 16 group))
  let (place, length) := longestZeros numbers
  if length < 2 then "[" ++ groups numbers ++ "]"
  else "[" ++ groups (numbers.take place) ++ "::" ++ groups (numbers.drop (place + length)) ++ "]"

/-! ### Four numbers -/

/-- A number in decimal, octal or hexadecimal digits. -/
def readPart (text : List Char) : Option Nat :=
  let inBase (base : Nat) (digits : List Char) : Option Nat :=
    digits.foldlM (fun value c => do
      let digit ← hexValue c.toNat.toUInt8
      if c.toNat < 128 ∧ digit.toNat < base then return base * value + digit.toNat else none) 0
  match text with
  | [] => none
  | '0' :: 'x' :: digits => inBase 16 digits
  | '0' :: 'X' :: digits => inBase 16 digits
  | '0' :: digit :: digits => inBase 8 (digit :: digits)
  | digits => inBase 10 digits

/-- The labels of a name, without the empty one after a dot at the end. -/
def labels (name : List Char) : List (List Char) :=
  let all := splitChars '.' name
  if 1 < all.length && all.getLast? == some [] then all.dropLast else all

/-- Whether a name ends in a number, so that it has to be an address of four bytes. -/
def endsInNumber (name : List Char) : Bool :=
  match (labels name).getLast? with
  | none => false
  | some last =>
    (!last.isEmpty && last.all fun c => (digitValue c).isSome) ||
      ((last.take 2 == ['0', 'x'] || last.take 2 == ['0', 'X']) && (readPart last).isSome)

/-- The value of an address whose last part may stand for several bytes. -/
def joinParts (parts : List Nat) : Option Nat :=
  match parts.reverse with
  | [] => none
  | last :: others =>
    if 3 < others.length ∨ others.any (255 < ·) ∨ 1 <<< (8 * (4 - others.length)) ≤ last then none
    else
      some (others.reverse.zipIdx.foldl (fun value (part, place) => value + part <<< (8 * (3 - place))) last)

/-- An address of four bytes as a text. -/
def writeFourNumbers (value : Nat) : String :=
  ".".intercalate ([3, 2, 1, 0].map fun place => toString (value >>> (8 * place) % 256))

/-! ### Names -/

/-- Whether a character can not be part of any host. -/
def isForbidden (c : Char) : Bool :=
  c.toNat = 0 || "\t\n\r #/:<>?@[\\]^|".toList.contains c

/-- Whether a character can not be part of the host of a web address. -/
def isForbiddenInWebName (c : Char) : Bool :=
  isForbidden c || c = '%' || c.toNat < 0x20 || c.toNat = 0x7F

/-- A name with characters outside of printable ASCII escaped. -/
def escapeName (name : List Char) : String :=
  let hex (n : Nat) : Char := (Nat.digitChar n).toUpper
  String.join (name.map fun c =>
    if 0x20 ≤ c.toNat && c.toNat < 0x7F then c.toString
    else
      String.join ((Utf8.encode c.toString).map fun byte =>
        String.ofList ['%', hex (byte.toNat / 16), hex (byte.toNat % 16)]))

/-- The host a text names. -/
def readHost (isWeb : Bool) (text : List Char) : Except Fault String :=
  match text with
  | '[' :: rest =>
    if rest.getLast? = some ']' then
      match readEightNumbers rest.dropLast with
      | some numbers => .ok (writeEightNumbers numbers)
      | none => .error .badEightNumbers
    else .error .badEightNumbers
  | _ =>
    if isWeb then
      let decoded := Utf8.decodeLossy (percentDecode (Utf8.encode (String.ofList text)))
      let name := (Unicode.lowercase decoded).toList
      if name.isEmpty then .error .emptyHost
      else if name.any isForbiddenInWebName then .error .badInternationalName
      else if endsInNumber name then
        match ((labels name).mapM readPart).bind joinParts with
        | some value => .ok (writeFourNumbers value)
        | none => .error .badFourNumbers
      else .ok (String.ofList name)
    else if text.any isForbidden then .error .badName
    else .ok (escapeName text)

/-! ### Hosts and ports -/

/-- The characters of a host, and those after it.  A colon ends a host unless it stands in
brackets. -/
def splitHost (bracketed : Bool) : List Char → List Char × List Char
  | [] => ([], [])
  | c :: rest =>
    if c = ':' && !bracketed then ([], c :: rest)
    else
      let inside := if c = '[' then true else if c = ']' then false else bracketed
      let (host, after) := splitHost inside rest
      (c :: host, after)

/-- A port number; without digits there is none. -/
def readPort (text : List Char) : Except Fault (Option Nat) :=
  if text.isEmpty then .ok none
  else
    match (readDigits text).filter (· < 65536) with
    | some port => .ok (some port)
    | none => .error .badPort

/-- The host and the port in the part of an address between `//` and the path. -/
def readAuthority (isWeb : Bool) (text : List Char) : Except Fault (String × Option Nat) := do
  let beforeUser := text.reverse.takeWhile (· != '@')
  let hostAndPort := beforeUser.reverse
  let hasUser := beforeUser.length + 1 < text.length
  let (host, after) := splitHost false hostAndPort
  if hostAndPort.isEmpty && text.length = 1 then throw .emptyHost
  if host.isEmpty && (isWeb || !after.isEmpty || hasUser && isWeb) then throw .emptyHost
  let host ← if host.isEmpty then pure "" else readHost isWeb host
  let port ← readPort (after.drop 1)
  return (host, if isWeb ∧ port = some 443 then none else port)

end ImageChain.Address
