/-
  Montage.Compression.PrefixCode

  Codes of bits in which no code word begins another one.  A code is given by the
  lengths of its words: shorter words come first, and words of one length are counted
  up in the order of their symbols.
-/

namespace Montage.Compression

structure PrefixCode where
  /-- How many words there are of each length, from one bit on. -/
  counts : List Nat
  /-- The symbols, those with shorter words first. -/
  symbols : List Nat
  deriving DecidableEq, Repr

/-- The longest word. -/
def maxWordLength : Nat := 15

/-- How many words could still be made at the end of a list of counts, where there is
    room for that many now; nothing if there are more words than room. -/
def roomAfter (room : Nat) : List Nat → Option Nat
  | [] => some room
  | count :: rest => if 2 * room < count then none else roomAfter (2 * room - count) rest

namespace PrefixCode

/-- How many symbols have words of each length, up to the longest one; the word of a
    code has one bit at least. -/
def countsOf (lengths : List Nat) : List Nat :=
  (List.range (max 1 (lengths.foldl max 0))).map fun below => lengths.count (below + 1)

/-- The symbols that have words, by the lengths of these. -/
def symbolsOf (lengths : List Nat) : List Nat :=
  (List.range maxWordLength).flatMap fun below =>
    (lengths.zipIdx.filter fun (length, _) => length = below + 1).map Prod.snd

/-- The code with words of these lengths, in the order of the symbols; zero stands for
    a symbol without a word.  There may not be more words than bits can tell apart, and
    every text of bits has to be a text of words, unless there is no word at all or, as
    far as `allowsSingle` says, one word of one bit. -/
def ofLengths? (allowsSingle : Bool) (lengths : List Nat) : Option PrefixCode :=
  let counts := countsOf lengths
  let code : PrefixCode := ⟨counts, symbolsOf lengths⟩
  if code.symbols.isEmpty then some code
  else
    match roomAfter 1 counts with
    | some 0 => some code
    | some _ => if allowsSingle ∧ counts.length = 1 then some code else none
    | none => none

/-- Looks for a word at the start of bits.  `word` is the bits so far as a number,
    `first` the first word of their length, and `index` the number of shorter words.
    The outer result is missing where the bits end before a word does, and the inner one
    where no word fits. -/
def findFrom (symbols : List Nat) (word first index : Nat) :
    List Nat → List Bool → Option (Option Nat × List Bool)
  | [], bits => some (none, bits)
  | _ :: _, [] => none
  | count :: counts, bit :: bits =>
    let word := 2 * word + bit.toNat
    let first := 2 * first
    if word < first + count then some (symbols[index + (word - first)]?, bits)
    else findFrom symbols word (first + count) (index + count) counts bits

/-- The symbol of the word at the start of bits, and the bits after it. -/
def find (code : PrefixCode) (bits : List Bool) : Option (Option Nat × List Bool) :=
  findFrom code.symbols 0 0 0 code.counts bits

end PrefixCode

end Montage.Compression
