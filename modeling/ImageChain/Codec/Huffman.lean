import ImageChain.Codec.Bits

/-!
# Canonical codes

A canonical code is given by the length of each symbol's code word.  Words of one length are
consecutive numbers in the order of their symbols, and follow on the words of the length before.
-/

namespace ImageChain.Codec

/-- A canonical code. -/
structure Huffman where
  /-- The number of code words of each length, beginning with length one. -/
  counts : List Nat
  /-- The symbols in the order of their code words. -/
  symbols : Array Nat

namespace Huffman

/-- The greatest length of a code word. -/
def greatestLength : Nat := 15

/-- The code with the given lengths, of which 0 means that a symbol is not used. -/
def ofLengths (lengths : List Nat) : Huffman :=
  let used (length : Nat) : List Nat :=
    lengths.zipIdx.filterMap fun (l, symbol) => if l = length then some symbol else none
  let groups := (List.range greatestLength).map fun i => used (i + 1)
  ⟨groups.map List.length, groups.flatten.toArray⟩

/-- How many code words of the greatest length a code leaves free; negative if there are more words
than can be told apart. -/
def slack (code : Huffman) : Int :=
  code.counts.foldl (fun (left : Int) (count : Nat) => 2 * left - count) 1

/-- Reads a code word bit by bit.  `word` has been read, `first` is the first word of that length,
and `index` is the place of its symbol. -/
def readFrom (symbols : Array Nat) : List Nat → Nat → Nat → Nat → BitReader Nat
  | [], _, _, _ => failure
  | count :: counts, word, first, index => do
    let bit ← readBit
    let word := 2 * word + bit
    let first := 2 * first
    if word < first + count then
      match symbols[index + word - first]? with
      | some symbol => return symbol
      | none => failure
    else readFrom symbols counts word (first + count) (index + count)

/-- Reads the symbol of the next code word. -/
def read (code : Huffman) : BitReader Nat :=
  readFrom code.symbols code.counts 0 0 0

end Huffman

end ImageChain.Codec
