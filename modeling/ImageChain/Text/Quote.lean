import ImageChain.Unicode.Visible

/-!
# Quoted text

The form in which messages show a text that came from outside: in double quotes, with escapes for
everything that would not be visible.
-/

namespace ImageChain

/-- The lower-case hexadecimal digits of a number. -/
def hexDigits (n : Nat) : String :=
  String.ofList (Nat.toDigits 16 n)

/-- One character as it stands between quotes. -/
def quoteChar (c : Char) : String :=
  match c with
  | '\t' => "\\t"
  | '\r' => "\\r"
  | '\n' => "\\n"
  | '\\' => "\\\\"
  | '\"' => "\\\""
  | c =>
    if c.toNat = 0 then "\\0"
    else if Unicode.inTable Unicode.graphemeExtend c || Unicode.inTable Unicode.unprintable c then
      "\\u\x7b" ++ hexDigits c.toNat ++ "\x7d"
    else c.toString

/-- A text between double quotes. -/
def quote (text : String) : String :=
  "\"" ++ String.join (text.toList.map quoteChar) ++ "\""

/-- Quoted texts in brackets. -/
def quoteAll (texts : List String) : String :=
  "[" ++ ", ".intercalate (texts.map quote) ++ "]"

end ImageChain
