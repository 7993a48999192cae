import Promptbook.Decimal.Reader
import Promptbook.Json.Token
import Promptbook.Text.Space

/-!
# Lexer of Strict JSON

Cuts a JSON text into tokens, one character at a time. A number or a word ends at the first
character that cannot continue it; whether it is a legal one is decided there.
-/

namespace Promptbook.Json

/-- A character that can continue a number. -/
def isNumberChar (c : Char) : Bool :=
  c.isDigit || c == '-' || c == '+' || c == '.' || c == 'e' || c == 'E'

/-- The value that a numeral denotes: an optional minus, digits without a superfluous leading zero,
an optional fraction with at least one digit, an optional exponent. -/
def numberValue? (s : List Char) : Option Value :=
  let negative := s.head? == some '-'
  let unsigned := if negative then s.tail else s
  let (numeral, rest) := Decimal.Numeral.split unsigned
  let legal := rest.isEmpty && !numeral.whole.isEmpty
    && (numeral.whole.length == 1 || numeral.whole.head? != some '0')
    && numeral.fraction != some []
  if !legal then none
  else
    let x := numeral.toFloat negative
    if numeral.fraction.isNone && numeral.exponent.isNone then
      let n := Decimal.digitsValue numeral.whole
      if negative && n == 0 then some (.double x)
      else wholeNumber? (if negative then -(n : Int) else n) x
    else if x.isFinite then some (.double x) else none

/-- What the lexer is inside of. Texts in progress are kept backwards. -/
inductive LexMode where
  /-- Between tokens. -/
  | between
  /-- A quoted text. -/
  | text (chars : List Char)
  /-- A quoted text, behind a backslash. -/
  | escape (chars : List Char)
  /-- A quoted text, in the digits of a code unit; `lead` is the first unit of a pair. -/
  | unit (chars : List Char) (lead : Option Nat) (digits : List Char)
  /-- A quoted text, behind the first unit of a pair; `slash` says whether the backslash of the
  second one has been read. -/
  | pair (chars : List Char) (lead : Nat) (slash : Bool)
  /-- A number. -/
  | number (chars : List Char)
  /-- A bare word. -/
  | word (chars : List Char)
  deriving DecidableEq

/-- The lexer: its mode and the tokens read so far, backwards. -/
structure Lexer where
  /-- What the lexer is inside of. -/
  mode : LexMode
  /-- The tokens read so far, the last one first. -/
  tokens : List Token
  deriving DecidableEq

namespace Lexer

/-- The character that a simple escape stands for. -/
def escaped? : Char → Option Char
  | '"' => some '"'
  | '\\' => some '\\'
  | '/' => some '/'
  | 'b' => some '\x08'
  | 'f' => some '\x0c'
  | 'n' => some '\n'
  | 'r' => some '\r'
  | 't' => some '\t'
  | _ => none

/-- Read a character between tokens. -/
def start (tokens : List Token) (c : Char) : Option Lexer :=
  if Text.isPlainSpace c then some ⟨.between, tokens⟩
  else match punctuation? c with
    | some token => some ⟨.between, token :: tokens⟩
    | none =>
      if c == '"' then some ⟨.text [], tokens⟩
      else if c.isDigit || c == '-' then some ⟨.number [c], tokens⟩
      else if c.isAlpha then some ⟨.word [c], tokens⟩
      else none

/-- Read a code unit that is complete. -/
def takeUnit (chars : List Char) (lead : Option Nat) (n : Nat) : Option LexMode :=
  match lead with
  | some first => if isTrailUnit n then some (.text (pairedChar first n :: chars)) else none
  | none =>
    if isLeadUnit n then some (.pair chars n false)
    else if isTrailUnit n then none
    else some (.text (Char.ofNat n :: chars))

/-- Read one character. -/
def step (lexer : Lexer) (c : Char) : Option Lexer :=
  let tokens := lexer.tokens
  match lexer.mode with
  | .between => start tokens c
  | .text chars =>
    if c == '"' then some ⟨.between, .text (String.ofList chars.reverse) :: tokens⟩
    else if c == '\\' then some ⟨.escape chars, tokens⟩
    else if c.toNat < 32 then none
    else some ⟨.text (c :: chars), tokens⟩
  | .escape chars =>
    if c == 'u' then some ⟨.unit chars none [], tokens⟩
    else (escaped? c).map fun d => ⟨.text (d :: chars), tokens⟩
  | .unit chars lead digits =>
    let all := digits ++ [c]
    if all.length < 4 then some ⟨.unit chars lead all, tokens⟩
    else ((hexValue? all).bind (takeUnit chars lead)).map fun mode => ⟨mode, tokens⟩
  | .pair chars lead false => if c == '\\' then some ⟨.pair chars lead true, tokens⟩ else none
  | .pair chars lead true => if c == 'u' then some ⟨.unit chars (some lead) [], tokens⟩ else none
  | .number chars =>
    if isNumberChar c then some ⟨.number (c :: chars), tokens⟩
    else (numberValue? chars.reverse).bind fun v => start (.number v :: tokens) c
  | .word chars =>
    if c.isAlpha then some ⟨.word (c :: chars), tokens⟩
    else start (.word (String.ofList chars.reverse) :: tokens) c

/-- Read a sequence of characters. -/
def feed : Lexer → List Char → Option Lexer
  | lexer, [] => some lexer
  | lexer, c :: rest =>
    match lexer.step c with
    | some next => feed next rest
    | none => none

/-- The tokens at the end of the text, unless it ends inside a quoted text. -/
def finish (lexer : Lexer) : Option (List Token) :=
  match lexer.mode with
  | .between => some lexer.tokens.reverse
  | .number chars =>
    (numberValue? chars.reverse).map fun v => (Token.number v :: lexer.tokens).reverse
  | .word chars => some (.word (String.ofList chars.reverse) :: lexer.tokens).reverse
  | _ => none

/-- Reading one text after another is reading both together. -/
theorem feed_append (lexer : Lexer) (s t : List Char) :
    lexer.feed (s ++ t) = (lexer.feed s).bind fun next => next.feed t := by
  induction s generalizing lexer with
  | nil => rfl
  | cons c s ih =>
    simp only [List.cons_append, feed]
    cases lexer.step c with
    | none => rfl
    | some next => exact ih next

end Lexer

/-- The tokens of a strict JSON text. -/
def tokens? (s : List Char) : Option (List Token) :=
  (Lexer.feed ⟨.between, []⟩ s).bind Lexer.finish

end Promptbook.Json
