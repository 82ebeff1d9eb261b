import ImageChain.Text.Quote

/-!
# Writing JSON strings

Only the double quote, the backslash and the control characters below the space are escaped.
-/

namespace ImageChain.Json

/-- One character as it stands in a JSON string. -/
def escapeChar (c : Char) : String :=
  match c with
  | '\"' => "\\\""
  | '\\' => "\\\\"
  | '\n' => "\\n"
  | '\r' => "\\r"
  | '\t' => "\\t"
  | c =>
    if c.toNat = 0x8 then "\\b"
    else if c.toNat = 0xC then "\\f"
    else if c.toNat < 0x10 then "\\u000" ++ hexDigits c.toNat
    else if c.toNat < 0x20 then "\\u00" ++ hexDigits c.toNat
    else c.toString

/-- A text as a JSON string. -/
def writeString (text : String) : String :=
  "\"" ++ String.join (text.toList.map escapeChar) ++ "\""

/-- A JSON array of written values. -/
def writeArray (values : List String) : String :=
  "[" ++ ",".intercalate values ++ "]"

/-- A JSON object of written values, in the order given. -/
def writeObject (fields : List (String × String)) : String :=
  let members := fields.map fun field => writeString field.1 ++ ":" ++ field.2
  "\x7b" ++ ",".intercalate members ++ "\x7d"

end ImageChain.Json
