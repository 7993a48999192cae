import Promptbook.Data.Whole
import Promptbook.Decimal.Reader
import Promptbook.Directive.Call
import Promptbook.Text.Space

/-!
# Estimates of Word Counts
-/

namespace Promptbook.Builtin

/-- The average number of characters of a word. -/
def charsPerWord : Float := 5

/-- The whole number at the start of `text`, white space before it apart, if it fits sixty-four
bits. -/
def leadingInteger? (text : String) : Option Int :=
  let s := Text.dropSpace text.toList
  let numeral := match s with
    | c :: rest => if c == '-' || c == '+' then c :: rest.takeWhile Char.isDigit
      else s.takeWhile Char.isDigit
    | [] => []
  (Decimal.readInt? (String.ofList numeral)).filter Whole.fits

/-- The number of characters that a value states. -/
def charCount : Value → Float
  | .string s => ((leadingInteger? s).map Float.ofInt).getD 0
  | v => v.double?.getD 0

/-- The estimated number of words of `chars` characters, which is at least one. -/
def estimateWords (chars : Float) : String :=
  if charsPerWord < chars then toString (chars / charsPerWord).round.toInt64.toInt else "1"

/-- Estimate the number of words from a number of characters. -/
def charsToWords {ω : Type} : Directive ω := ⟨false, fun call =>
  return call.answer (some (estimateWords
    (((call.arguments.value? "chars").map charCount).getD 0)))⟩

end Promptbook.Builtin
