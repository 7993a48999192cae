import Promptbook.Template.Filter.Basic
import Promptbook.Text.Cluster
import Promptbook.Text.LetterCase

/-!
# Filters on Text

Every operand has a text, so these filters never fail, apart from arguments that must be whole
numbers. Lengths are counted in bytes, while what is kept is counted in characters.
-/

namespace Promptbook.Template.Filter

/-- A text without its line ends. -/
def withoutLineEnds (s : String) : String :=
  String.ofList (s.toList.filter fun c => c != '\n' && c != '\r')

/-- A text with a line break tag before every line feed. -/
def withBreaks (s : String) : String :=
  String.ofList (Text.replace ['\n'] "<br />\n".toList s.toList)

/-- A text with every occurrence of a pattern replaced. -/
def replaceAll (pattern replacement s : String) : String :=
  String.ofList (Text.replace pattern.toList replacement.toList s.toList)

/-- A text with the first occurrence of a pattern replaced. -/
def replaceOnce (pattern replacement s : String) : String :=
  String.ofList (Text.replaceFirst pattern.toList replacement.toList s.toList)

/-- The pieces of a text between occurrences of a pattern; the empty text has no pieces. -/
def splitText (pattern s : String) : List Value :=
  if s == "" then []
  else (Text.split pattern.toList s.toList).map fun piece => .string (String.ofList piece)

/-- Cut a text that is longer than `length` bytes: so many of its characters as would fit beside
the ellipsis if each were one byte long, and the ellipsis. -/
def truncate (input : Operand) (length : Nat) (ellipsis : String) : Operand :=
  let s := input.text
  if length < s.utf8ByteSize then
    let kept := (Text.clusters s.toList).take (length - ellipsis.utf8ByteSize)
    ofText (String.ofList kept.flatten ++ ellipsis)
  else input

/-- Cut a text that has more than `count` words, which are separated by single spaces. -/
def truncateWords (input : Operand) (count : Nat) (ellipsis : String) : Operand :=
  let words := Text.split [' '] input.text.toList
  if count < words.length then
    ofText (String.ofList ([' '].intercalate (words.take count)) ++ ellipsis)
  else input

/-- Where a slice starts, if it starts inside a sequence of `size`, and how long it is. An offset
counts from the end if it is negative. -/
def sliceBounds (offset length : Int) (size : Nat) : Option Nat × Nat :=
  let start := if offset < 0 then offset + size else min offset size
  (if start < 0 then none else some start.toNat,
    (if start + length > size then size - start else length).toNat)

/-- The slice of a list. -/
def sliceList {α : Type} (items : List α) (bounds : Option Nat × Nat) : List α :=
  match bounds.1 with
  | none => []
  | some start => (items.drop start).take bounds.2

/-- Part of a sequence or of a text. -/
def slice (input : Operand) (arguments : List Operand) : Except Fault Operand := do
  let offset ← match arguments[0]?.bind Operand.whole? with
    | some n => pure n
    | none => throw (.unexpected "whole number")
  let length ← wholeAtOr arguments 1 1
  if length < 1 then throw (.unexpected "positive number")
  match input.items? with
  | some items => return ofItems (sliceList items (sliceBounds offset length items.length))
  | none =>
    let s := input.text
    let kept := sliceList s.toList (sliceBounds offset length s.utf8ByteSize)
    return ofText (String.ofList kept)

/-- The filters on text. -/
def textFilters : List Filter := [
  onText "upcase" Text.uppercase,
  onText "downcase" Text.lowercase,
  onText "capitalize" Text.capitalize,
  onText "strip" Text.trim,
  onText "lstrip" Text.trimStart,
  onText "rstrip" Text.trimEnd,
  onText "strip_newlines" withoutLineEnds,
  onText "newline_to_br" withBreaks,
  onTextWith "append" fun s t => s ++ t,
  onTextWith "prepend" fun s t => t ++ s,
  onTextWith "remove" fun s pattern => replaceAll pattern "" s,
  onTextWith "remove_first" fun s pattern => replaceOnce pattern "" s,
  ⟨"replace", 1, 1, fun input arguments =>
    .ok (ofText (replaceAll (textAt arguments 0) (textAt arguments 1) input.text))⟩,
  ⟨"replace_first", 1, 1, fun input arguments =>
    .ok (ofText (replaceOnce (textAt arguments 0) (textAt arguments 1) input.text))⟩,
  ⟨"split", 1, 0, fun input arguments =>
    .ok (ofItems (splitText (textAt arguments 0) input.text))⟩,
  ⟨"slice", 1, 1, slice⟩,
  ⟨"truncate", 0, 2, fun input arguments => do
    let length ← wholeAtOr arguments 0 50
    return truncate input (sizeOf length) (textAtOr arguments 1 "...")⟩,
  ⟨"truncatewords", 0, 2, fun input arguments => do
    let count ← wholeAtOr arguments 0 50
    return truncateWords input (sizeOf count) (textAtOr arguments 1 "...")⟩]

end Promptbook.Template.Filter
