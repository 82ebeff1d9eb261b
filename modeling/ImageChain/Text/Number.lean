/-!
# Decimal numbers

Numbers are read strictly: an optional sign and at least one ASCII digit, nothing else.  A number
outside the range asked for is not read at all.
-/

namespace ImageChain

/-- The value of an ASCII digit. -/
def digitValue (c : Char) : Option Nat :=
  if '0' ≤ c && c ≤ '9' then some (c.toNat - 48) else none

/-- The value of a numeral whose earlier digits have the value `value`. -/
def readDigitsFrom (value : Nat) : List Char → Option Nat
  | [] => some value
  | c :: rest => (digitValue c).bind fun digit => readDigitsFrom (10 * value + digit) rest

/-- The value of a non-empty numeral. -/
def readDigits : List Char → Option Nat
  | [] => none
  | numeral => readDigitsFrom 0 numeral

/-- A number of at most `greatest`, with an optional plus sign. -/
def readNat (greatest : Nat) (text : List Char) : Option Nat :=
  let numeral := match text with
    | '+' :: rest => rest
    | _ => text
  (readDigits numeral).filter (· ≤ greatest)

/-- The greatest 64-bit number. -/
def greatestNat64 : Nat := UInt64.size - 1

/-- The greatest 32-bit number. -/
def greatestNat32 : Nat := UInt32.size - 1

/-- The greatest signed 64-bit number. -/
def greatestInt64 : Nat := UInt64.size / 2 - 1

/-- A signed 64-bit number, with an optional sign. -/
def readInt64 (text : List Char) : Option Int :=
  match text with
  | '-' :: numeral => ((readDigits numeral).filter (· ≤ greatestInt64 + 1)).map fun value => -(value : Int)
  | _ => (readNat greatestInt64 text).map Int.ofNat

/-- The number a text stands for, or 0 when it stands for none. -/
def intOrZero (text : Option String) : Int :=
  (text.bind fun text => readInt64 text.toList).getD 0

/-- The digits of a number with zeros in front up to the given width. -/
def padDigits (width n : Nat) : List Char :=
  let digits := Nat.toDigits 10 n
  List.replicate (width - digits.length) '0' ++ digits

end ImageChain
