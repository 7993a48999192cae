import Promptbook.Template.Filter.Basic

/-!
# Filters for Markup and Addresses

Escaping for markup, removal of markup tags, and the percent encoding of addresses.
-/

namespace Promptbook.Template.Filter

/-- The entity of a character that has a meaning in markup. -/
def entity? : Char → Option String
  | '<' => some "&lt;"
  | '>' => some "&gt;"
  | '\'' => some "&#39;"
  | '"' => some "&quot;"
  | '&' => some "&amp;"
  | _ => none

/-- Whether an entity, without its ampersand, stands at the start of a text. -/
def startsEntity (s : List Char) : Bool :=
  ["lt;", "gt;", "#39;", "quot;", "amp;"].any fun name => name.toList.isPrefixOf s

/-- A text with every character that has a meaning in markup written as an entity; with `once`,
entities that are there already are kept. -/
def escape (once : Bool) : List Char → List Char
  | [] => []
  | c :: s =>
    match entity? c with
    | none => c :: escape once s
    | some entity =>
      if once && c == '&' && startsEntity s then c :: escape once s
      else entity.toList ++ escape once s

/-- The lowercase of an ASCII letter; a long s is an s. -/
def foldLetter (c : Char) : Char :=
  if c == 'ſ' then 's' else c.toLower

/-- Whether two characters agree when letters are compared without case. -/
def sameLetter (c d : Char) : Bool :=
  foldLetter c == foldLetter d

/-- What follows `pattern` at the start of a text, letters compared without case. -/
def afterPattern? : (pattern s : List Char) → Option (List Char)
  | [], s => some s
  | _ :: _, [] => none
  | p :: pattern, c :: s => if sameLetter p c then afterPattern? pattern s else none

/-- What follows the first occurrence of `pattern` in a text, letters compared without case. -/
def afterFirst? (pattern : List Char) : List Char → Option (List Char)
  | [] => afterPattern? pattern []
  | c :: s =>
    match afterPattern? pattern (c :: s) with
    | some rest => some rest
    | none => afterFirst? pattern s

/-- A text without the parts that start with `opening` and end with the next `closing`. The fuel
bounds the number of steps; one step for each character suffices. -/
def withoutParts (opening closing : List Char) : (fuel : Nat) → List Char → List Char
  | 0, s => s
  | _ + 1, [] => []
  | fuel + 1, c :: s =>
    match (afterPattern? opening (c :: s)).bind (afterFirst? closing) with
    | some rest => withoutParts opening closing fuel rest
    | none => c :: withoutParts opening closing fuel s

/-- A text without scripts, style sheets, comments and tags. -/
def withoutMarkup (s : List Char) : List Char :=
  let strip (opening closing : String) (s : List Char) : List Char :=
    withoutParts opening.toList closing.toList s.length s
  strip "<" ">" (strip "<!--" "-->" (strip "<style" "</style>" (strip "<script" "</script>" s)))

/-- A digit of a number to base sixteen, in uppercase. -/
def hexDigit (n : Nat) : Char :=
  if n < 10 then Char.ofNat ('0'.toNat + n) else Char.ofNat ('A'.toNat + n - 10)

/-- Whether a character stands for itself in an address. -/
def isPlain (c : Char) : Bool :=
  c.isAlphanum || c == '-' || c == '_' || c == '.'

/-- The percent form of a byte. -/
def percentByte (b : UInt8) : List Char :=
  ['%', hexDigit (b.toNat / 16), hexDigit (b.toNat % 16)]

/-- A text with every other character written as its bytes in percent form. -/
def percentEncode (s : List Char) : List Char :=
  s.flatMap fun c =>
    if isPlain c then [c] else (String.singleton c).toUTF8.toList.flatMap percentByte

/-- The value of a hexadecimal digit. -/
def hexValue? (c : Char) : Option Nat :=
  if c.isDigit then some (c.toNat - '0'.toNat)
  else if 'a' ≤ c && c ≤ 'f' then some (c.toNat - 'a'.toNat + 10)
  else if 'A' ≤ c && c ≤ 'F' then some (c.toNat - 'A'.toNat + 10)
  else none

/-- The byte that two hexadecimal digits denote. -/
def byteOf? (c d : Char) : Option UInt8 :=
  match hexValue? c, hexValue? d with
  | some m, some n => some (UInt8.ofNat (16 * m + n))
  | _, _ => none

/-- The bytes of an address text. A percent sign without two digits stands for itself, and a plus
sign for a space. -/
def percentDecode : List Char → List UInt8
  | [] => []
  | '%' :: c :: d :: s =>
    match byteOf? c d with
    | some b => b :: percentDecode s
    | none => 37 :: percentDecode (c :: d :: s)
  | '+' :: s => 32 :: percentDecode s
  | c :: s => (String.singleton c).toUTF8.toList ++ percentDecode s
termination_by s => s.length

/-- Decode an address text. -/
def decodeAddress (s : String) : Except Fault Operand :=
  match String.fromUTF8? ⟨(percentDecode s.toList).toArray⟩ with
  | some decoded => .ok (ofText decoded)
  | none => .error .invalidText

/-- The filter that does something with a text and keeps the absent value. -/
def onPresentText (name : String) (f : String → Except Fault Operand) : Filter :=
  ⟨name, 0, 0, fun input _ => match input with
    | .value .null => .ok input
    | _ => f input.text⟩

/-- The filters for markup and addresses. -/
def markupFilters : List Filter := [
  onPresentText "escape" fun s => .ok (ofText (String.ofList (escape false s.toList))),
  onPresentText "escape_once" fun s => .ok (ofText (String.ofList (escape true s.toList))),
  onText "strip_html" fun s => String.ofList (withoutMarkup s.toList),
  onPresentText "url_encode" fun s => .ok (ofText (String.ofList (percentEncode s.toList))),
  onPresentText "url_decode" decodeAddress]

end Promptbook.Template.Filter
