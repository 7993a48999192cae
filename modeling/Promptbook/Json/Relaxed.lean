import Promptbook.Json.Reader
import Promptbook.Text.Letter
import Promptbook.Text.Space

/-!
# Relaxed JSON

The dialect in which people write specifications and settings by hand: comments, bare names, single
quotes, commas before a closing bracket, hexadecimal numbers, and numbers with a leading or trailing
point or a plus sign. Specifications take every number, settings only those in range.
-/

namespace Promptbook.Json.Relaxed

/-- White space between tokens: that of Unicode and the byte order mark, without the next-line
control. -/
def isBlankChar (c : Char) : Bool :=
  c == '\ufeff' || (Text.isSpace c && c != '\x85')

/-- A character that ends a line. -/
def isLineEnd (c : Char) : Bool :=
  c == '\n' || c == '\r' || c == '\u2028' || c == '\u2029'

/-- A character that can start a bare name. -/
def startsName (c : Char) : Bool :=
  c == '$' || c == '_' || Text.isLetter c

/-- A character that can continue a bare name. -/
def continuesName (c : Char) : Bool :=
  c == '$' || Text.isLetter c || Text.isMark c || c == '\u200c' || c == '\u200d'

/-- A character that can continue a number. -/
def continuesNumber (c : Char) : Bool :=
  c.isAlphanum || c == '.' || c == '+' || c == '-' || c == '_' || c == '$'

/-- Whether a whole number to base sixteen is in range: it has at most 128 bits, one of them for a
minus sign. -/
def hexFits (negative : Bool) (n : Nat) : Bool :=
  if negative then n ≤ 1 <<< 127 else n < 1 <<< 128

/-- The parts of a decimal number without its sign, if it is one: there is a digit in front of an
exponent, and no zero in front of another digit. -/
def decimal? (s : List Char) : Option Decimal.Numeral :=
  let (numeral, rest) := Decimal.Numeral.split s
  let legal := rest.isEmpty
    && !(numeral.whole.isEmpty && (numeral.fraction.getD []).isEmpty)
    && (numeral.whole.length ≤ 1 || numeral.whole.head? != some '0')
  if legal then some numeral else none

/-- Whether a number is written without point and exponent. -/
def isWhole (numeral : Decimal.Numeral) : Bool :=
  numeral.fraction.isNone && numeral.exponent.isNone

/-- The value of a number without its sign, in a specification. -/
def unsignedValue? (negative : Bool) (s : List Char) : Option Value :=
  let whole (n : Nat) (x : Float) : Option Value :=
    some ((wholeNumber? (if negative then -(n : Int) else n) x).getD (.double x))
  match s with
  | '0' :: 'x' :: digits | '0' :: 'X' :: digits =>
    ((hexValue? digits).filter (hexFits negative)).bind fun n =>
      whole n (if negative then -Decimal.nearest n 0 else Decimal.nearest n 0)
  | _ =>
    if s == "Infinity".toList then
      some (.double (if negative then -(1.0 / 0.0) else 1.0 / 0.0))
    else if s == "NaN".toList then some (.double (0.0 / 0.0))
    else
      (decimal? s).bind fun numeral =>
        let x := numeral.toFloat negative
        if isWhole numeral then whole (Decimal.digitsValue numeral.whole) x else some (.double x)

/-- The value of a number in a specification. Integers out of range and numbers without a fixed
value are doubles. -/
def specifiedNumber? (s : List Char) : Option Value :=
  let (negative, rest) := Decimal.Numeral.takeSign s
  unsignedValue? negative rest

/-- The value of a number in settings. Integers have sixty-four bits, one of them for the sign;
those to base sixteen have no sign and thirty-two bits. Only the words for infinity and for an
undefined number have no finite value, and only a minus may stand in front of them. -/
def setNumber? (s : List Char) : Option Value :=
  match s with
  | '0' :: 'x' :: digits | '0' :: 'X' :: digits =>
    ((hexValue? digits).filter (· < 1 <<< 32)).map fun n => .int n
  | _ =>
    if s == "-Infinity".toList then some (.double (-(1.0 / 0.0)))
    else if s == "-NaN".toList then some (.double (0.0 / 0.0))
    else
      let (negative, rest) := Decimal.Numeral.takeSign s
      (decimal? rest).bind fun numeral =>
        if isWhole numeral then
          let n : Int := Decimal.digitsValue numeral.whole
          let n := if negative then -n else n
          if Whole.fits n then some (.int n) else none
        else
          let x := numeral.toFloat negative
          if x.isFinite then some (.double x) else none

/-- What the lexer is inside of. Texts in progress are kept backwards. -/
inductive Mode where
  /-- Between tokens. -/
  | between
  /-- A text in the given quotes. -/
  | text (quote : Char) (chars : List Char)
  /-- A quoted text, behind a backslash. -/
  | escape (quote : Char) (chars : List Char)
  /-- A quoted text, behind an escaped zero, which no digit may follow. -/
  | zero (quote : Char) (chars : List Char)
  /-- A quoted text, behind an escaped carriage return, which takes a line feed with it. -/
  | carriage (quote : Char) (chars : List Char)
  /-- A quoted text, in the two digits of a short code. -/
  | short (quote : Char) (chars : List Char) (digits : List Char)
  /-- A quoted text, in the digits of a code unit; `lead` is the first unit of a pair. -/
  | unit (quote : Char) (chars : List Char) (lead : Option Nat) (digits : List Char)
  /-- A quoted text, behind the first unit of a pair; `slash` says whether the backslash of the
  second one has been read. -/
  | pair (quote : Char) (chars : List Char) (lead : Nat) (slash : Bool)
  /-- A number. -/
  | number (chars : List Char)
  /-- A bare name; `escaped` says whether it has an escape. -/
  | name (chars : List Char) (escaped : Bool)
  /-- A bare name, in an escape: the first unit of a pair if there was one, and the digits read so
  far, unless the `u` is still to come. -/
  | nameEscape (chars : List Char) (lead : Option Nat) (digits : Option (List Char))
  /-- A bare name, behind the first unit of a pair. -/
  | namePair (chars : List Char) (lead : Nat)
  /-- Behind a slash that must start a comment. -/
  | slash
  /-- A comment up to the end of the line. -/
  | lineComment
  /-- A comment up to its closing mark; `star` says whether the last character was a star. -/
  | blockComment (star : Bool)
  deriving DecidableEq

/-- The lexer: its mode and the tokens read so far, backwards. -/
structure Lexer where
  /-- What the lexer is inside of. -/
  mode : Mode
  /-- The tokens read so far, the last one first. -/
  tokens : List Token
  deriving DecidableEq

namespace Lexer

/-- Read a character between tokens. -/
def start (tokens : List Token) (c : Char) : Option Lexer :=
  if isBlankChar c then some ⟨.between, tokens⟩
  else match punctuation? c with
    | some token => some ⟨.between, token :: tokens⟩
    | none =>
      if c == '"' || c == '\'' then some ⟨.text c [], tokens⟩
      else if c.isDigit || c == '-' || c == '+' || c == '.' then some ⟨.number [c], tokens⟩
      else if startsName c then some ⟨.name [c] false, tokens⟩
      else if c == '\\' then some ⟨.nameEscape [] none none, tokens⟩
      else if c == '/' then some ⟨.slash, tokens⟩
      else none

/-- Read the character behind a backslash in a quoted text. -/
def escape (quote : Char) (chars : List Char) (c : Char) : Option Mode :=
  match c with
  | 'b' => some (.text quote ('\x08' :: chars))
  | 'f' => some (.text quote ('\x0c' :: chars))
  | 'n' => some (.text quote ('\n' :: chars))
  | 'r' => some (.text quote ('\r' :: chars))
  | 't' => some (.text quote ('\t' :: chars))
  | 'v' => some (.text quote ('\x0b' :: chars))
  | '0' => some (.zero quote ('\x00' :: chars))
  | 'x' => some (.short quote chars [])
  | 'u' => some (.unit quote chars none [])
  | '\r' => some (.carriage quote chars)
  | _ =>
    if isLineEnd c then some (.text quote chars)
    else if c.isDigit then none
    else some (.text quote (c :: chars))

/-- Read a code unit that is complete. -/
def takeUnit (quote : Char) (chars : List Char) (lead : Option Nat) (n : Nat) : Option Mode :=
  match lead with
  | some first => if isTrailUnit n then some (.text quote (pairedChar first n :: chars)) else none
  | none =>
    if isLeadUnit n then some (.pair quote chars n false)
    else if isTrailUnit n then none
    else some (.text quote (Char.ofNat n :: chars))

/-- Read a character of a quoted text. -/
def takeText (tokens : List Token) (quote : Char) (chars : List Char) (c : Char) : Option Lexer :=
  if c == quote then some ⟨.between, .text (String.ofList chars.reverse) :: tokens⟩
  else if c == '\\' then some ⟨.escape quote chars, tokens⟩
  else if c == '\n' || c == '\r' then none
  else some ⟨.text quote (c :: chars), tokens⟩

/-- Read an escaped character of a bare name. -/
def takeNameChar (chars : List Char) (c : Char) : Option Mode :=
  if (if chars.isEmpty then startsName c else continuesName c) then some (.name (c :: chars) true)
  else none

/-- Read a code unit of a bare name that is complete. -/
def takeNameUnit (chars : List Char) (lead : Option Nat) (n : Nat) : Option Mode :=
  match lead with
  | some first => if isTrailUnit n then takeNameChar chars (pairedChar first n) else none
  | none =>
    if isLeadUnit n then some (.namePair chars n)
    else if isTrailUnit n then none
    else takeNameChar chars (Char.ofNat n)

/-- The token that a bare name is. -/
def nameToken (chars : List Char) (escaped : Bool) : Token :=
  if escaped then .name (String.ofList chars.reverse) else .word (String.ofList chars.reverse)

/-- Read one character; `number?` gives the values of numbers. -/
def step (number? : List Char → Option Value) (lexer : Lexer) (c : Char) : Option Lexer :=
  let tokens := lexer.tokens
  match lexer.mode with
  | .between => start tokens c
  | .text quote chars => takeText tokens quote chars c
  | .escape quote chars => (escape quote chars c).map fun mode => ⟨mode, tokens⟩
  | .zero quote chars => if c.isDigit then none else takeText tokens quote chars c
  | .carriage quote chars =>
    if c == '\n' then some ⟨.text quote chars, tokens⟩ else takeText tokens quote chars c
  | .short quote chars digits =>
    let all := digits ++ [c]
    if all.length < 2 then some ⟨.short quote chars all, tokens⟩
    else (hexValue? all).map fun n => ⟨.text quote (Char.ofNat n :: chars), tokens⟩
  | .unit quote chars lead digits =>
    let all := digits ++ [c]
    if all.length < 4 then some ⟨.unit quote chars lead all, tokens⟩
    else ((hexValue? all).bind (takeUnit quote chars lead)).map fun mode => ⟨mode, tokens⟩
  | .pair quote chars lead false =>
    if c == '\\' then some ⟨.pair quote chars lead true, tokens⟩ else none
  | .pair quote chars lead true =>
    if c == 'u' then some ⟨.unit quote chars (some lead) [], tokens⟩ else none
  | .number chars =>
    if continuesNumber c then some ⟨.number (c :: chars), tokens⟩
    else (number? chars.reverse).bind fun v => start (.number v :: tokens) c
  | .name chars escaped =>
    if continuesName c then some ⟨.name (c :: chars) escaped, tokens⟩
    else if c == '\\' then some ⟨.nameEscape chars none none, tokens⟩
    else start (nameToken chars escaped :: tokens) c
  | .nameEscape chars lead none =>
    if c == 'u' then some ⟨.nameEscape chars lead (some []), tokens⟩ else none
  | .nameEscape chars lead (some digits) =>
    let all := digits ++ [c]
    if all.length < 4 then some ⟨.nameEscape chars lead (some all), tokens⟩
    else ((hexValue? all).bind (takeNameUnit chars lead)).map fun mode => ⟨mode, tokens⟩
  | .namePair chars lead =>
    if c == '\\' then some ⟨.nameEscape chars (some lead) none, tokens⟩ else none
  | .slash =>
    if c == '/' then some ⟨.lineComment, tokens⟩
    else if c == '*' then some ⟨.blockComment false, tokens⟩
    else none
  | .lineComment => some ⟨if isLineEnd c then .between else .lineComment, tokens⟩
  | .blockComment star =>
    some ⟨if star && c == '/' then .between else .blockComment (c == '*'), tokens⟩

/-- Read a sequence of characters. -/
def feed (number? : List Char → Option Value) : Lexer → List Char → Option Lexer
  | lexer, [] => some lexer
  | lexer, c :: rest =>
    match lexer.step number? c with
    | some next => feed number? next rest
    | none => none

/-- The tokens at the end of the text, unless it ends inside a quoted text, an escape or a comment
that needs a closing mark. -/
def finish (number? : List Char → Option Value) (lexer : Lexer) : Option (List Token) :=
  match lexer.mode with
  | .between | .lineComment => some lexer.tokens.reverse
  | .number chars =>
    (number? chars.reverse).map fun v => (Token.number v :: lexer.tokens).reverse
  | .name chars escaped => some (nameToken chars escaped :: lexer.tokens).reverse
  | _ => none

end Lexer

/-- The tokens of a relaxed JSON text. -/
def tokens? (number? : List Char → Option Value) (s : List Char) : Option (List Token) :=
  (Lexer.feed number? ⟨.between, []⟩ s).bind (Lexer.finish number?)

/-- The values of bare words. -/
def wordValue? : String → Option Value
  | "Infinity" => some (.double (1.0 / 0.0))
  | "NaN" => some (.double (0.0 / 0.0))
  | w => Json.wordValue? w

/-- The dialect of the reader. -/
def dialect : Dialect := ⟨none, true, true, wordValue?⟩

/-- What a specification denotes. -/
def specification? (text : String) : Option Document :=
  (tokens? specifiedNumber? text.toList).bind dialect.document?

/-- What settings denote. -/
def settings? (text : String) : Option Value :=
  ((tokens? setNumber? text.toList).bind dialect.document?).map Document.toValue

end Promptbook.Json.Relaxed
