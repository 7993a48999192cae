import Promptbook.Data.Fields
import Promptbook.Text.LetterCase

/-!
# Corpora and Similarity

A corpus is a sequence of documents. The similarity of a document and a query is the cosine of the
angle between their vectors of word counts. The counts are exact; the lengths of the vectors and the
cosine are numbers of a scale. A search computes in binary floating-point numbers.
-/

namespace Promptbook

/-- How often each word occurs in a text. -/
abbrev WordCounts := Fields Nat

namespace WordCounts

/-- The maximal runs of letters, digits and number characters of a text. -/
def words (s : List Char) : List (List Char) :=
  (s.splitOnP fun c => !Text.isAlphanumeric c).filter fun word => !word.isEmpty

/-- The words of `text` in lowercase. -/
def lowercaseWords (text : String) : List String :=
  (words text.toList).map fun word => Text.lowercase (String.ofList word)

/-- The counts with one more occurrence of `word`. -/
def add (counts : WordCounts) (word : String) : WordCounts :=
  counts.put word ((counts.value? word).getD 0 + 1)

/-- The word counts of `text`, with all words in lowercase. -/
def ofText (text : String) : WordCounts :=
  (lowercaseWords text).foldl add []

/-- The sum over the words of the products of their counts in `left` and `right`. -/
def product (left right : WordCounts) : Nat :=
  left.foldl (fun total entry => total + entry.2 * (right.value? entry.1).getD 0) 0

/-- The sum of the squares of `counts`. -/
def square (counts : WordCounts) : Nat :=
  counts.foldl (fun total entry => total + entry.2 * entry.2) 0

end WordCounts

/-- The numbers in which similarities are computed. -/
structure Scale (σ : Type) where
  /-- A count as a number. -/
  ofNat : Nat → σ
  /-- The square root of a number. -/
  sqrt : σ → σ
  /-- The product of two numbers. -/
  mul : σ → σ → σ
  /-- The quotient of two numbers. -/
  div : σ → σ → σ
  /-- Whether a number is above zero. -/
  isPositive : σ → Bool
  /-- Whether a number is at most another one. -/
  le : σ → σ → Bool

namespace Scale

variable {σ : Type} (scale : Scale σ)

/-- Binary floating-point numbers. -/
def binary : Scale Float where
  ofNat := Float.ofNat
  sqrt := Float.sqrt
  mul x y := x * y
  div x y := x / y
  isPositive x := 0 < x
  le x y := x ≤ y

/-- The length of the vector `counts`. -/
def norm (counts : WordCounts) : σ :=
  scale.sqrt (scale.ofNat counts.square)

/-- The cosine of the angle between the vectors `left` and `right`, which is zero if one of them
is. -/
def similarity (left right : WordCounts) : σ :=
  if left.square = 0 ∨ right.square = 0 then scale.ofNat 0
  else scale.div (scale.ofNat (left.product right)) (scale.mul (scale.norm right) (scale.norm left))

end Scale

/-- An example text. -/
structure Document where
  /-- Where the text comes from. -/
  location : String
  /-- The text. -/
  text : String
  deriving DecidableEq, Inhabited

/-- A sequence of documents. -/
abbrev Corpus := List Document

namespace Corpus

section Scales

variable {σ : Type} (scale : Scale σ)

/-- The documents of `corpus` that share words with `query`, with their similarity. -/
def score (corpus : Corpus) (query : String) : List (σ × Document) :=
  let counts := WordCounts.ofText query
  (corpus.map fun document =>
    (scale.similarity counts (WordCounts.ofText document.text), document)).filter
      fun scored => scale.isPositive scored.1

/-- At most `count` documents of `corpus`, those most similar to `query` first, by similarities on a
scale. Documents of equal similarity stay in the order of the corpus. -/
def searchIn (corpus : Corpus) (query : String) (count : Nat) : List Document :=
  (((corpus.score scale query).mergeSort fun s t => scale.le t.1 s.1).take count).map Prod.snd

end Scales

/-- At most `count` documents of `corpus`, those most similar to `query` first. -/
def search (corpus : Corpus) (query : String) (count : Nat) : List Document :=
  corpus.searchIn .binary query count

end Corpus

end Promptbook
