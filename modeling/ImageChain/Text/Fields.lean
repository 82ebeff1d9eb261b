/-!
# Fields of a text

A text cut at every occurrence of a separator.  There is always one field more than there are
separators, so a text without a separator is its own only field.
-/

namespace ImageChain

/-- The runs of characters between the separators. -/
def splitChars (separator : Char) : List Char → List (List Char)
  | [] => [[]]
  | c :: rest =>
    if c = separator then [] :: splitChars separator rest
    else
      match splitChars separator rest with
      | [] => [[c]]
      | first :: others => (c :: first) :: others

/-- The fields of a text. -/
def fields (separator : Char) (text : String) : List String :=
  (splitChars separator text.toList).map String.ofList

end ImageChain
