import ImageChain.Text.Number

/-!
# Reading JSON

A reader for strict JSON.  Only what a settings file can hold is kept apart: plain natural numbers
from all others, and strings that are texts from those with an unpaired surrogate escape.  A value
that nobody looks at may hold either.
-/

namespace ImageChain.Json

/-- A JSON value. -/
inductive Value where
  | null
  | boolean (value : Bool)
  /-- A number written with digits only. -/
  | natural (value : Nat)
  /-- A number with a sign, a fraction or an exponent. -/
  | number
  /-- A string, or `none` when it escapes a surrogate that has no partner. -/
  | string (text : Option String)
  | array (elements : List Value)
  | object (members : List (Option String × Value))

/-- What stands between the quotes of a string. -/
inductive Piece where
  /-- A character, possibly escaped. -/
  | character (c : Char)
  /-- An escaped surrogate. -/
  | surrogate (unit : Nat)

/-- Drops the white space a text starts with. -/
def skipBlanks : List Char → List Char
  | [] => []
  | c :: rest =>
    if c = ' ' || c = '\n' || c = '\t' || c = '\r' then skipBlanks rest else c :: rest

/-- The value of a hexadecimal digit. -/
def hexDigitValue (c : Char) : Option Nat :=
  if '0' ≤ c && c ≤ '9' then some (c.toNat - 48)
  else if 'a' ≤ c && c ≤ 'f' then some (c.toNat - 87)
  else if 'A' ≤ c && c ≤ 'F' then some (c.toNat - 55)
  else none

/-- The value of four hexadecimal digits. -/
def unitValue (a b c d : Char) : Option Nat :=
  match hexDigitValue a, hexDigitValue b, hexDigitValue c, hexDigitValue d with
  | some a, some b, some c, some d => some (4096 * a + 256 * b + 16 * c + d)
  | _, _, _, _ => none

/-- The piece that an escaped code unit stands for. -/
def unitPiece (unit : Nat) : Piece :=
  if 0xD800 ≤ unit && unit ≤ 0xDFFF then .surrogate unit else .character (Char.ofNat unit)

/-- The character that a one-letter escape stands for. -/
def escapedChar : Char → Option Char
  | '\"' => some '\"'
  | '\\' => some '\\'
  | '/' => some '/'
  | 'b' => some (Char.ofNat 0x8)
  | 'f' => some (Char.ofNat 0xC)
  | 'n' => some '\n'
  | 'r' => some '\r'
  | 't' => some '\t'
  | _ => none

/-- Reads the pieces of a string up to its closing quote. -/
def readPieces : List Char → Option (List Piece × List Char)
  | [] => none
  | '\"' :: rest => some ([], rest)
  | '\\' :: 'u' :: a :: b :: c :: d :: rest =>
    match unitValue a b c d, readPieces rest with
    | some unit, some (pieces, rest) => some (unitPiece unit :: pieces, rest)
    | _, _ => none
  | '\\' :: letter :: rest =>
    match escapedChar letter, readPieces rest with
    | some c, some (pieces, rest) => some (.character c :: pieces, rest)
    | _, _ => none
  | c :: rest =>
    if c = '\\' || c.toNat < 0x20 then none
    else (readPieces rest).map fun (pieces, rest) => (.character c :: pieces, rest)

/-- The characters of a string, with each pair of surrogates made one. -/
def joinPieces : List Piece → Option (List Char)
  | [] => some []
  | .character c :: rest => (joinPieces rest).map (c :: ·)
  | .surrogate high :: .surrogate low :: rest =>
    if high < 0xDC00 && 0xDC00 ≤ low then
      let code := 0x10000 + 0x400 * (high - 0xD800) + (low - 0xDC00)
      (joinPieces rest).map (Char.ofNat code :: ·)
    else none
  | .surrogate _ :: _ => none

/-- Reads a string after its opening quote. -/
def readString (input : List Char) : Option (Option String × List Char) :=
  (readPieces input).map fun (pieces, rest) => ((joinPieces pieces).map String.ofList, rest)

/-- Whether a character is a decimal digit. -/
def isDigit (c : Char) : Bool :=
  (digitValue c).isSome

/-- Drops one digit or more. -/
def skipDigits (input : List Char) : Option (List Char) :=
  match input with
  | c :: rest => if isDigit c then some (rest.dropWhile isDigit) else none
  | [] => none

/-- Drops an exponent, if there is one; the flag says whether there was. -/
def skipExponent (input : List Char) : Option (Bool × List Char) :=
  match input with
  | c :: rest =>
    if c = 'e' || c = 'E' then
      let unsigned := match rest with
        | '+' :: rest => rest
        | '-' :: rest => rest
        | _ => rest
      (skipDigits unsigned).map fun rest => (true, rest)
    else some (false, input)
  | [] => some (false, input)

/-- Drops a fraction, if there is one; the flag says whether there was. -/
def skipFraction (input : List Char) : Option (Bool × List Char) :=
  match input with
  | '.' :: rest => (skipDigits rest).map fun rest => (true, rest)
  | _ => some (false, input)

/-- Reads a number without its sign: its value if it has digits only. -/
def readMagnitude (input : List Char) : Option (Option Nat × List Char) :=
  let digits := input.takeWhile isDigit
  let rest := input.dropWhile isDigit
  match digits with
  | [] => none
  | '0' :: _ :: _ => none
  | _ =>
    (skipFraction rest).bind fun (hasFraction, rest) =>
      (skipExponent rest).map fun (hasExponent, rest) =>
        (if hasFraction || hasExponent then none else readDigits digits, rest)

/-- Reads a number. -/
def readNumber (input : List Char) : Option (Value × List Char) :=
  match input with
  | '-' :: rest => (readMagnitude rest).map fun (_, rest) => (.number, rest)
  | _ =>
    (readMagnitude input).map fun (value, rest) =>
      ((value.map Value.natural).getD .number, rest)

mutual

/-- Reads one value; `fuel` bounds the values and members read. -/
def readValue : Nat → List Char → Option (Value × List Char)
  | 0, _ => none
  | fuel + 1, input =>
    match skipBlanks input with
    | '\x7b' :: rest =>
      match skipBlanks rest with
      | '\x7d' :: rest => some (.object [], rest)
      | rest => (readMembers fuel rest).map fun (members, rest) => (.object members, rest)
    | '[' :: rest =>
      match skipBlanks rest with
      | ']' :: rest => some (.array [], rest)
      | rest => (readElements fuel rest).map fun (elements, rest) => (.array elements, rest)
    | '\"' :: rest => (readString rest).map fun (text, rest) => (.string text, rest)
    | 'n' :: 'u' :: 'l' :: 'l' :: rest => some (.null, rest)
    | 't' :: 'r' :: 'u' :: 'e' :: rest => some (.boolean true, rest)
    | 'f' :: 'a' :: 'l' :: 's' :: 'e' :: rest => some (.boolean false, rest)
    | rest => readNumber rest

/-- Reads the elements of an array that is not empty, and its closing bracket. -/
def readElements : Nat → List Char → Option (List Value × List Char)
  | 0, _ => none
  | fuel + 1, input =>
    (readValue fuel input).bind fun (element, rest) =>
      match skipBlanks rest with
      | ',' :: rest =>
        (readElements fuel rest).map fun (elements, rest) => (element :: elements, rest)
      | ']' :: rest => some ([element], rest)
      | _ => none

/-- Reads the members of an object that is not empty, and its closing brace. -/
def readMembers : Nat → List Char → Option (List (Option String × Value) × List Char)
  | 0, _ => none
  | fuel + 1, input =>
    match skipBlanks input with
    | '\"' :: rest =>
      (readString rest).bind fun (key, rest) =>
        match skipBlanks rest with
        | ':' :: rest =>
          (readValue fuel rest).bind fun (value, rest) =>
            match skipBlanks rest with
            | ',' :: rest =>
              (readMembers fuel rest).map fun (members, rest) => ((key, value) :: members, rest)
            | '\x7d' :: rest => some ([(key, value)], rest)
            | _ => none
        | _ => none
    | _ => none

end

/-- The JSON value a text consists of. -/
def read (text : String) : Option Value :=
  let input := text.toList
  match readValue (2 * input.length + 2) input with
  | some (value, rest) => if (skipBlanks rest).isEmpty then some value else none
  | none => none

end ImageChain.Json
