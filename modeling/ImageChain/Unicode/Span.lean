/-!
# Ranges of code points

The character properties used here are tables of closed ranges of code points.  They stay plain
lists, so a question about a whole table is a question about finitely many ranges.
-/

namespace ImageChain.Unicode

/-- A closed range of code points. -/
structure Span where
  /-- The least code point of the range. -/
  first : Nat
  /-- The greatest code point of the range. -/
  last : Nat
  deriving DecidableEq, Repr

/-- Whether a code point lies in the range. -/
def Span.covers (span : Span) (code : Nat) : Bool :=
  span.first ≤ code && code ≤ span.last

/-- Whether a character lies in one of the ranges of a table. -/
def inTable (table : List Span) (c : Char) : Bool :=
  table.any (·.covers c.toNat)

end ImageChain.Unicode
