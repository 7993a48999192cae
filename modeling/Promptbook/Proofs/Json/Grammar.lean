import Promptbook.Json.Reader
import Promptbook.Proofs.Directive.Written
import Promptbook.Proofs.Specification.Lexing

/-!
# The Grammar of JSON Texts

What a JSON text is, apart from how it is read: a value with blanks around it. Whatever is read as a
value is such a text. The lexer and the reader are machines that go through a text from its start.
What each of their states still asks of the rest of the text is written down, and a machine that
comes to its end has found it there.

## Main definitions

* `IsNumeral`, `IsCharacters`: numbers, and what may stand in quotes.
* `IsValue`, `IsItems`, `IsMembers`, `IsText`: values, the parts of arrays and objects, and texts.
* `Token.Written`, `Spelled`: texts as tokens with blanks before and between them.
* `ClosesWith`: texts that go on up to the bracket that closes an array or an object.
* `Lexer.Asks`, `Reading.Asks`: what a lexer and a reader ask of the rest of a text.

## Main results

* `Lexer.asks_of_step`, `Lexer.asks_of_feed`: what the lexer has read is what it has asked for, by
  characters and in whole.
* `Reading.asks_of_step`, `Reading.asks_of_feed`: the same of the reader, by tokens and in whole.
* `isText_of_read?`: what is read as a value is a JSON text.
* `IsText.begins`: how a JSON text can begin.
-/

namespace Promptbook.Json

open Grammar (IsBlank)
open Decimal (Numeral)

/-! ## The grammar -/

/-- Digits, at least one. -/
def IsDigits (s : List Char) : Prop :=
  s ≠ [] ∧ ∀ c ∈ s, c.isDigit = true

/-- Whole numbers without a sign and without zeros in front. -/
inductive IsCount : List Char → Prop where
  /-- A single digit `c`. -/
  | digit {c : Char} (hc : c.isDigit = true) : IsCount [c]
  /-- Digits of which the first is not zero. -/
  | digits {s : List Char} (hs : IsDigits s) (hfirst : s.head? ≠ some '0') : IsCount s

/-- Fractions, which may be missing. -/
inductive IsFraction : List Char → Prop where
  /-- No fraction. -/
  | none : IsFraction []
  /-- Digits behind a point. -/
  | some {s : List Char} (hs : IsDigits s) : IsFraction ('.' :: s)

/-- Exponents, which may be missing. -/
inductive IsExponent : List Char → Prop where
  /-- No exponent. -/
  | none : IsExponent []
  /-- Digits behind a `mark`, with or without a `sign`. -/
  | some {mark : Char} {sign s : List Char} (hmark : mark = 'e' ∨ mark = 'E')
      (hsign : sign = [] ∨ sign = ['-'] ∨ sign = ['+']) (hs : IsDigits s) :
      IsExponent (mark :: (sign ++ s))

/-- Numbers. -/
inductive IsNumeral : List Char → Prop where
  /-- The parts of a number behind each other, with or without a minus as its `sign`. -/
  | mk {sign whole fraction exponent : List Char} (hsign : sign = [] ∨ sign = ['-'])
      (hwhole : IsCount whole) (hfraction : IsFraction fraction) (hexponent : IsExponent exponent) :
      IsNumeral (sign ++ (whole ++ (fraction ++ exponent)))

/-- What may stand in quotes. -/
inductive IsCharacters : List Char → Prop where
  /-- Nothing. -/
  | nil : IsCharacters []
  /-- Any character `c` but quotes, backslashes and control characters. -/
  | plain {c : Char} {s : List Char} (hquote : c ≠ '"') (hslash : c ≠ '\\') (hc : 32 ≤ c.toNat)
      (hs : IsCharacters s) : IsCharacters (c :: s)
  /-- A character `c` behind a backslash. -/
  | escape {c : Char} {s : List Char} (hc : c ∈ ['"', '\\', '/', 'b', 'f', 'n', 'r', 't'])
      (hs : IsCharacters s) : IsCharacters ('\\' :: c :: s)
  /-- A code unit of four hexadecimal `digits`. -/
  | unit {digits s : List Char} (hlength : digits.length = 4)
      (hdigits : ∀ c ∈ digits, isHex c = true) (hs : IsCharacters s) :
      IsCharacters ('\\' :: 'u' :: (digits ++ s))

mutual

/-- Values. -/
inductive IsValue : List Char → Prop where
  /-- One of the words for values. -/
  | word {s : List Char} (hs : s ∈ ["null".toList, "true".toList, "false".toList]) : IsValue s
  /-- A number. -/
  | number {s : List Char} (hs : IsNumeral s) : IsValue s
  /-- A text in quotes. -/
  | text {s : List Char} (hs : IsCharacters s) : IsValue ('"' :: (s ++ ['"']))
  /-- An array without items. -/
  | emptyArray {s : List Char} (hs : IsBlank s) : IsValue ('[' :: (s ++ [']']))
  /-- An array of items. -/
  | array {s : List Char} (hs : IsItems s) : IsValue ('[' :: (s ++ [']']))
  /-- An object without members. -/
  | emptyObject {s : List Char} (hs : IsBlank s) : IsValue ('\x7b' :: (s ++ ['\x7d']))
  /-- An object with members. -/
  | object {s : List Char} (hs : IsMembers s) : IsValue ('\x7b' :: (s ++ ['\x7d']))

/-- The items of an array, with commas between them. -/
inductive IsItems : List Char → Prop where
  /-- The last item. -/
  | last {s : List Char} (hs : IsText s) : IsItems s
  /-- An item with others behind it. -/
  | more {s rest : List Char} (hs : IsText s) (hrest : IsItems rest) : IsItems (s ++ ',' :: rest)

/-- A member of an object. -/
inductive IsMember : List Char → Prop where
  /-- A `name` in quotes with blanks around it, and behind a colon its value. -/
  | mk {before name after s : List Char} (hbefore : IsBlank before) (hname : IsCharacters name)
      (hafter : IsBlank after) (hs : IsText s) :
      IsMember (before ++ '"' :: (name ++ '"' :: (after ++ ':' :: s)))

/-- The members of an object, with commas between them. -/
inductive IsMembers : List Char → Prop where
  /-- The last member. -/
  | last {s : List Char} (hs : IsMember s) : IsMembers s
  /-- A member with others behind it. -/
  | more {s rest : List Char} (hs : IsMember s) (hrest : IsMembers rest) :
      IsMembers (s ++ ',' :: rest)

/-- JSON texts. -/
inductive IsText : List Char → Prop where
  /-- A value with blanks around it. -/
  | mk {before s after : List Char} (hbefore : IsBlank before) (hs : IsValue s)
      (hafter : IsBlank after) : IsText (before ++ (s ++ after))

end

/-! ## Numbers -/

section Numbers

variable {s : List Char}

/-- If a text starts with a digit, the stretch of digits at its start is a sequence of digits. -/
theorem isDigits_takeWhile (h : s.takeWhile Char.isDigit ≠ []) :
    IsDigits (s.takeWhile Char.isDigit) :=
  ⟨h, fun _ hc => List.all_eq_true.1 List.all_takeWhile _ hc⟩

/-- Cut a fraction off the front of a text: its digits, if there is a point, and what follows. -/
def splitFraction : List Char → Option (List Char) × List Char
  | '.' :: rest => (some (rest.takeWhile Char.isDigit), rest.dropWhile Char.isDigit)
  | rest => (none, rest)

/-- Cut an exponent off the front of `s`: its sign and its digits, if there is one, and what
follows. -/
def splitExponent (s : List Char) : Option (Bool × List Char) × List Char :=
  match s with
  | mark :: rest =>
    if mark == 'e' || mark == 'E' then
      let (negative, digits) := Numeral.takeSign rest
      if (digits.takeWhile Char.isDigit).isEmpty then (none, s)
      else (some (negative, digits.takeWhile Char.isDigit), digits.dropWhile Char.isDigit)
    else (none, s)
  | [] => (none, [])

theorem split_eq (s : List Char) :
    Numeral.split s =
      let fraction := splitFraction (s.dropWhile Char.isDigit)
      let exponent := splitExponent fraction.2
      (⟨s.takeWhile Char.isDigit, fraction.1, exponent.1⟩, exponent.2) := rfl

theorem exists_eq_splitFraction (s : List Char) :
    ∃ fraction, s = fraction ++ (splitFraction s).2 ∧
      ((splitFraction s).1 ≠ some [] → IsFraction fraction) := by
  unfold splitFraction
  split
  · rename_i rest
    refine ⟨'.' :: rest.takeWhile Char.isDigit, ?_, fun h => .some (isDigits_takeWhile ?_)⟩
    · rw [List.cons_append, List.takeWhile_append_dropWhile]
    · exact fun hnil => h (congrArg some hnil)
  · exact ⟨[], rfl, fun _ => .none⟩

theorem exists_eq_takeSign (s : List Char) :
    ∃ sign, s = sign ++ (Numeral.takeSign s).2 ∧ (sign = [] ∨ sign = ['-'] ∨ sign = ['+']) := by
  unfold Numeral.takeSign
  split
  · exact ⟨['-'], rfl, .inr (.inl rfl)⟩
  · exact ⟨['+'], rfl, .inr (.inr rfl)⟩
  · exact ⟨[], rfl, .inl rfl⟩

theorem exists_eq_splitExponent (s : List Char) :
    ∃ exponent, s = exponent ++ (splitExponent s).2 ∧ IsExponent exponent := by
  have hnone : ∃ exponent, s = exponent ++ s ∧ IsExponent exponent := ⟨[], rfl, .none⟩
  unfold splitExponent
  split
  · rename_i mark rest
    dsimp only
    split
    · rename_i hmark
      split
      · exact hnone
      · rename_i hdigits
        obtain ⟨sign, hsign, hform⟩ := exists_eq_takeSign rest
        simp only [Bool.or_eq_true, beq_iff_eq] at hmark
        refine ⟨mark :: (sign ++ (Numeral.takeSign rest).2.takeWhile Char.isDigit), ?_,
          .some hmark hform (isDigits_takeWhile ?_)⟩
        · rw [List.cons_append, List.append_assoc, List.takeWhile_append_dropWhile, ← hsign]
        · rwa [List.isEmpty_iff] at hdigits
    · exact hnone
  · exact ⟨[], rfl, .none⟩

/-- If the number read from `unsigned` is legal, the text in front of the rest is a whole number
with a fraction and an exponent, each of which may be missing. -/
theorem exists_eq_of_legal {unsigned : List Char}
    (h : let numeral := (Numeral.split unsigned).1
      ((Numeral.split unsigned).2.isEmpty && !numeral.whole.isEmpty
        && (numeral.whole.length == 1 || numeral.whole.head? != some '0')
        && numeral.fraction != some []) = true) :
    ∃ whole fraction exponent, unsigned = whole ++ (fraction ++ exponent) ∧ IsCount whole ∧
      IsFraction fraction ∧ IsExponent exponent := by
  rw [split_eq] at h
  obtain ⟨fraction, hafter, hfraction⟩ :=
    exists_eq_splitFraction (unsigned.dropWhile Char.isDigit)
  obtain ⟨exponent, hrest, hexponent⟩ :=
    exists_eq_splitExponent (splitFraction (unsigned.dropWhile Char.isDigit)).2
  simp only [Bool.and_eq_true, List.isEmpty_iff, Bool.not_eq_true', List.isEmpty_eq_false_iff,
    bne_iff_ne, Bool.or_eq_true, beq_iff_eq] at h
  obtain ⟨⟨⟨hend, hne⟩, hzero⟩, hlegal⟩ := h
  rw [hend, List.append_nil] at hrest
  have hdigits := isDigits_takeWhile hne
  refine ⟨unsigned.takeWhile Char.isDigit, fraction, exponent, ?_, ?_, hfraction hlegal, hexponent⟩
  · rw [← hrest, ← hafter, List.takeWhile_append_dropWhile]
  -- A whole number is a single digit, or its first digit is no zero.
  · rcases hzero with hlength | hfirst
    · obtain ⟨c, hc⟩ := List.length_eq_one_iff.1 hlength
      rw [hc] at hdigits ⊢
      exact .digit (hdigits.2 c List.mem_cons_self)
    · exact .digits hdigits hfirst

/-- If `s` has the value of a number, it is one. -/
theorem isNumeral_of_numberValue? {v : Value} (h : numberValue? s = some v) : IsNumeral s := by
  unfold numberValue? at h
  dsimp only at h
  generalize hunsigned : (if (s.head? == some '-') = true then s.tail else s) = unsigned at h
  split at h
  · cases h
  · rename_i hlegal
    clear h
    obtain ⟨whole, fraction, exponent, rfl, hwhole, hfraction, hexponent⟩ := exists_eq_of_legal
      (by simpa only [Bool.not_eq_true, Bool.not_eq_false'] using hlegal)
    split at hunsigned
    · rename_i hminus
      obtain ⟨rest, rfl⟩ := List.head?_eq_some_iff.1 (eq_of_beq hminus)
      obtain rfl : rest = _ := hunsigned
      exact .mk (.inr rfl) hwhole hfraction hexponent
    · rw [hunsigned]
      exact .mk (.inl rfl) hwhole hfraction hexponent

end Numbers

/-! ## Tokens in a text -/

/-- The texts as which a token is written. -/
def Token.Written : Token → List Char → Prop
  | .openArray, s => s = ['[']
  | .closeArray, s => s = [']']
  | .openObject, s => s = ['\x7b']
  | .closeObject, s => s = ['\x7d']
  | .comma, s => s = [',']
  | .colon, s => s = [':']
  | .text _, s => ∃ body, s = '"' :: (body ++ ['"']) ∧ IsCharacters body
  | .number _, s => IsNumeral s
  | .word w, s => s = w.toList
  | .name _, _ => False

/-- The punctuation `c` is written as it is. -/
theorem Token.written_of_punctuation? {token : Token} {c : Char}
    (h : punctuation? c = some token) : token.Written [c] := by
  unfold punctuation? at h
  split at h <;> cases h <;> rfl

/-- A text spells the listed tokens, with blanks before and between them and at its end. -/
inductive Spelled : List Token → List Char → Prop where
  /-- Blanks spell nothing. -/
  | nil {s : List Char} (hs : IsBlank s) : Spelled [] s
  /-- The first `token` stands in front of the others. -/
  | cons {token : Token} {rest : List Token} {blank s t : List Char} (hblank : IsBlank blank)
      (htoken : token.Written s) (hrest : Spelled rest t) :
      Spelled (token :: rest) (blank ++ (s ++ t))

section Tokens

variable {tokens : List Token} {s : List Char} {c : Char}

/-- One more blank `c` in front spells nothing more. -/
theorem Spelled.blank (h : Spelled tokens s) (hc : Text.isPlainSpace c = true) :
    Spelled tokens (c :: s) := by
  cases h with
  | nil hs => exact .nil (List.forall_mem_cons.2 ⟨hc, hs⟩)
  | @cons token rest blank w t hblank htoken hrest =>
    have hblank' : IsBlank (c :: blank) := List.forall_mem_cons.2 ⟨hc, hblank⟩
    exact .cons hblank' htoken hrest

/-- A written `token` in front of a text that spells `tokens`, without a blank between. -/
theorem Spelled.token (h : Spelled tokens s) (token : Token) {w : List Char}
    (htoken : token.Written w) : Spelled (token :: tokens) (w ++ s) :=
  have hblank : IsBlank [] := List.forall_mem_nil _
  .cons hblank htoken h

/-- The text `s` is the rest of a text in quotes, and together with what follows it spells
`tokens`. -/
def SpelledWithin (tokens : List Token) (s : List Char) : Prop :=
  ∃ body rest x more, s = body ++ '"' :: rest ∧ tokens = .text x :: more ∧ IsCharacters body ∧
    Spelled more rest

/-- The rest of a text in quotes, put behind its first quote, spells the tokens. -/
theorem SpelledWithin.spelled (h : SpelledWithin tokens s) : Spelled tokens ('"' :: s) := by
  obtain ⟨body, rest, x, more, rfl, rfl, hbody, hmore⟩ := h
  have htoken := hmore.token (.text x) ⟨body, rfl, hbody⟩
  rwa [List.cons_append, List.append_assoc] at htoken

/-- Characters in `front` may be put at the start of a quoted text. -/
theorem SpelledWithin.append (h : SpelledWithin tokens s) (front : List Char)
    (hfront : ∀ body, IsCharacters body → IsCharacters (front ++ body)) :
    SpelledWithin tokens (front ++ s) := by
  obtain ⟨body, rest, x, more, rfl, rfl, hbody, hmore⟩ := h
  exact ⟨front ++ body, rest, x, more, (List.append_assoc ..).symm, rfl, hfront body hbody, hmore⟩

end Tokens

/-- What the mode of a lexer asks of the rest of a text for the rest to spell the listed tokens. -/
def LexMode.Asks : LexMode → List Token → List Char → Prop
  | .between, tokens, s => Spelled tokens s
  | .text _, tokens, s => SpelledWithin tokens s
  | .escape _, tokens, s => SpelledWithin tokens ('\\' :: s)
  -- Modes with more digits than a unit has do not occur.
  | .unit _ _ digits, tokens, s =>
    digits.length < 4 → SpelledWithin tokens ('\\' :: 'u' :: (digits ++ s))
  | .pair _ _ false, tokens, s => SpelledWithin tokens s
  | .pair _ _ true, tokens, s => SpelledWithin tokens ('\\' :: s)
  | .number chars, tokens, s => ∃ w rest v more, s = w ++ rest ∧ tokens = .number v :: more ∧
      IsNumeral (chars.reverse ++ w) ∧ Spelled more rest
  | .word chars, tokens, s => ∃ w rest more, s = w ++ rest ∧
      tokens = .word (String.ofList (chars.reverse ++ w)) :: more ∧ Spelled more rest

namespace Lexer

/-- What `lexer` asks of the rest `s` of a text for `tokens` to be all tokens of the text. -/
def Asks (lexer : Lexer) (tokens : List Token) (s : List Char) : Prop :=
  ∃ more, tokens = lexer.tokens.reverse ++ more ∧ lexer.mode.Asks more s

variable {lexer next : Lexer} {before tokens : List Token} {s chars : List Char} {c : Char}

/-- If a lexer that has read `token` asks for `tokens`, the token stands in front of those that
follow. -/
theorem asks_cons {mode : LexMode} {token : Token} {t : List Char}
    (h : Asks ⟨.between, token :: before⟩ tokens s)
    (hmode : ∀ more, Spelled more s → mode.Asks (token :: more) t) :
    Asks ⟨mode, before⟩ tokens t := by
  obtain ⟨more, rfl, hmore⟩ := h
  refine ⟨token :: more, ?_, hmode more hmore⟩
  rw [List.reverse_cons, List.append_assoc, List.singleton_append]

/-- Between tokens, a character `c` that the lexer accepts is a blank or the start of a token. -/
theorem asks_of_start (h : start before c = some next) (hnext : next.Asks tokens s) :
    Asks ⟨.between, before⟩ tokens (c :: s) := by
  unfold start at h
  -- In the order of the lexer: a blank, punctuation, a quotation mark, a number, a word.
  split at h
  · rename_i hblank
    cases h
    obtain ⟨more, rfl, hmore⟩ := hnext
    exact ⟨more, rfl, Spelled.blank hmore hblank⟩
  split at h
  · rename_i token hmark
    cases h
    exact asks_cons hnext fun more hmore => hmore.token _ (Token.written_of_punctuation? hmark)
  split at h
  · rename_i hquote
    cases h
    obtain rfl := eq_of_beq hquote
    obtain ⟨more, rfl, hmore⟩ := hnext
    exact ⟨more, rfl, SpelledWithin.spelled hmore⟩
  split at h
  · cases h
    obtain ⟨_, rfl, w, rest, v, more, rfl, rfl, hnumeral, hmore⟩ := hnext
    exact ⟨_, rfl, hmore.token (.number v) hnumeral⟩
  split at h
  · cases h
    obtain ⟨_, rfl, w, rest, more, rfl, rfl, hmore⟩ := hnext
    exact ⟨_, rfl, hmore.token (.word _) String.toList_ofList.symm⟩
  · cases h

/-- In a quoted text, a character `c` ends the text, begins an escape or stands for itself. -/
theorem asks_of_step_text (h : step ⟨.text chars, before⟩ c = some next)
    (hnext : next.Asks tokens s) : Asks ⟨.text chars, before⟩ tokens (c :: s) := by
  simp only [step] at h
  split at h
  · rename_i hquote
    cases h
    obtain rfl := eq_of_beq hquote
    exact asks_cons hnext fun more hmore => ⟨[], s, _, more, rfl, rfl, .nil, hmore⟩
  rename_i hquote
  split at h
  · rename_i hslash
    cases h
    obtain rfl := eq_of_beq hslash
    exact hnext
  rename_i hslash
  split at h
  · cases h
  · rename_i hplain
    cases h
    obtain ⟨more, rfl, hmore⟩ := hnext
    refine ⟨more, rfl, SpelledWithin.append hmore [c] fun body => ?_⟩
    exact .plain (by simpa using hquote) (by simpa using hslash) (Nat.le_of_not_lt hplain)

/-- The characters that may stand behind a backslash. -/
theorem mem_of_escaped? {d : Char} (h : escaped? c = some d) :
    c ∈ ['"', '\\', '/', 'b', 'f', 'n', 'r', 't'] := by
  unfold escaped? at h
  split at h <;> first | decide | cases h

/-- Behind a complete code unit with the number `n`, the lexer asks for the rest of the quoted
text. -/
theorem within_of_takeUnit {lead : Option Nat} {n : Nat} {mode : LexMode}
    (h : takeUnit chars lead n = some mode) (hmode : mode.Asks tokens s) :
    SpelledWithin tokens s := by
  unfold takeUnit at h
  split at h
  · split at h <;> cases h
    exact hmode
  split at h
  · cases h
    exact hmode
  · split at h <;> cases h
    exact hmode

/-- The last digit `c` of a code unit completes an escape, and the others go on with it. -/
theorem asks_of_step_unit {lead : Option Nat} {digits : List Char}
    (h : step ⟨.unit chars lead digits, before⟩ c = some next) (hnext : next.Asks tokens s) :
    Asks ⟨.unit chars lead digits, before⟩ tokens (c :: s) := by
  simp only [step] at h
  split at h
  · rename_i hshort
    cases h
    obtain ⟨more, rfl, hmore⟩ := hnext
    refine ⟨more, rfl, fun _ => ?_⟩
    have hrest := hmore hshort
    rwa [List.append_assoc] at hrest
  · rename_i hlong
    obtain ⟨mode, hmode, rfl⟩ := Option.map_eq_some_iff.1 h
    obtain ⟨n, hvalue, hunit⟩ := Option.bind_eq_some_iff.1 hmode
    obtain ⟨more, rfl, hmore⟩ := hnext
    refine ⟨more, rfl, fun hshort => ?_⟩
    -- The unit is complete with `c`, as it is read only once there are four digits.
    have hlength : (digits ++ [c]).length = 4 := by
      rw [List.length_append, List.length_singleton] at hlong ⊢
      omega
    have hrest := (within_of_takeUnit hunit hmore).append ('\\' :: 'u' :: (digits ++ [c]))
      fun body => .unit hlength (isHex_of_hexValue? hvalue)
    rwa [List.cons_append, List.cons_append, List.append_assoc] at hrest

/-- A character `c` goes on with a number, or stands behind a complete one. -/
theorem asks_of_step_number (h : step ⟨.number chars, before⟩ c = some next)
    (hnext : next.Asks tokens s) : Asks ⟨.number chars, before⟩ tokens (c :: s) := by
  simp only [step] at h
  split at h
  · cases h
    obtain ⟨_, rfl, w, rest, v, more, rfl, rfl, hnumeral, hmore⟩ := hnext
    rw [List.reverse_cons, List.append_assoc] at hnumeral
    exact ⟨_, rfl, c :: w, rest, v, more, rfl, rfl, hnumeral, hmore⟩
  · obtain ⟨v, hvalue, hstart⟩ := Option.bind_eq_some_iff.1 h
    refine asks_cons (asks_of_start hstart hnext) fun more hmore =>
      ⟨[], c :: s, v, more, rfl, rfl, ?_, hmore⟩
    rw [List.append_nil]
    exact isNumeral_of_numberValue? hvalue

/-- A character `c` goes on with a word, or stands behind it. -/
theorem asks_of_step_word (h : step ⟨.word chars, before⟩ c = some next)
    (hnext : next.Asks tokens s) : Asks ⟨.word chars, before⟩ tokens (c :: s) := by
  simp only [step] at h
  split at h
  · cases h
    obtain ⟨_, rfl, w, rest, more, rfl, rfl, hmore⟩ := hnext
    rw [List.reverse_cons, List.append_assoc]
    exact ⟨_, rfl, c :: w, rest, more, rfl, rfl, hmore⟩
  · refine asks_cons (asks_of_start h hnext) fun more hmore =>
      ⟨[], c :: s, more, rfl, ?_, hmore⟩
    rw [List.append_nil]

/-- A character `c` that a lexer reads is part of what it asks for. -/
theorem asks_of_step (h : lexer.step c = some next) (hnext : next.Asks tokens s) :
    lexer.Asks tokens (c :: s) := by
  obtain ⟨mode, before⟩ := lexer
  cases mode with
  | between => exact asks_of_start h hnext
  | text chars => exact asks_of_step_text h hnext
  | unit chars lead digits => exact asks_of_step_unit h hnext
  | number chars => exact asks_of_step_number h hnext
  | word chars => exact asks_of_step_word h hnext
  | escape chars =>
    simp only [step] at h
    split at h
    · rename_i hunit
      cases h
      obtain rfl := eq_of_beq hunit
      obtain ⟨more, rfl, hmore⟩ := hnext
      exact ⟨more, rfl, hmore (by decide)⟩
    · obtain ⟨d, hescaped, rfl⟩ := Option.map_eq_some_iff.1 h
      obtain ⟨more, rfl, hmore⟩ := hnext
      exact ⟨more, rfl, SpelledWithin.append hmore ['\\', c] fun body =>
        .escape (mem_of_escaped? hescaped)⟩
  | pair chars lead slash =>
    -- The second unit of a pair is an escape of its own, in two steps up to its digits.
    cases slash with
    | false =>
      simp only [step] at h
      split at h <;> cases h
      rename_i hslash
      obtain rfl := eq_of_beq hslash
      exact hnext
    | true =>
      simp only [step] at h
      split at h <;> cases h
      rename_i hunit
      obtain rfl := eq_of_beq hunit
      obtain ⟨more, rfl, hmore⟩ := hnext
      exact ⟨more, rfl, hmore (by decide)⟩

/-- At the end of a text a lexer asks for no more. -/
theorem asks_of_finish (h : lexer.finish = some tokens) : lexer.Asks tokens [] := by
  obtain ⟨mode, before⟩ := lexer
  have hend : Spelled [] [] := .nil (List.forall_mem_nil _)
  cases mode with
  | between =>
    cases h
    exact ⟨[], (List.append_nil _).symm, hend⟩
  | number chars =>
    obtain ⟨v, hvalue, rfl⟩ := Option.map_eq_some_iff.1 h
    refine ⟨[.number v], List.reverse_cons, [], [], v, [], rfl, rfl, ?_, hend⟩
    rw [List.append_nil]
    exact isNumeral_of_numberValue? hvalue
  | word chars =>
    cases h
    refine ⟨_, List.reverse_cons, [], [], [], rfl, ?_, hend⟩
    rw [List.append_nil]
  | _ => cases h

/-- What a lexer has read at the end of `s` is what it has asked for. The induction goes from the
end of the text to its start. -/
theorem asks_of_feed (h : (lexer.feed s).bind finish = some tokens) : lexer.Asks tokens s := by
  induction s generalizing lexer with
  | nil => exact asks_of_finish h
  | cons c s ih =>
    rw [feed] at h
    cases hstep : lexer.step c with
    | none =>
      rw [hstep] at h
      cases h
    | some next =>
      rw [hstep] at h
      exact asks_of_step hstep (ih h)

end Lexer

/-- A text spells its tokens. -/
theorem spelled_of_tokens? {s : List Char} {tokens : List Token} (h : tokens? s = some tokens) :
    Spelled tokens s := by
  obtain ⟨more, rfl, hmore⟩ := Lexer.asks_of_feed h
  exact hmore

/-! ## Values in a text -/

/-- What may stand between brackets where a part may begin: `parts`, or blanks if there are none in
front, which is when `first` holds. -/
def IsInside (parts : List Char → Prop) (first : Prop) (s : List Char) : Prop :=
  parts s ∨ first ∧ IsBlank s

/-- What may stand between a part and the bracket behind it: blanks, or a comma behind blanks and
more `parts`. -/
def IsMore (parts : List Char → Prop) (s : List Char) : Prop :=
  IsBlank s ∨ ∃ blank rest, s = blank ++ ',' :: rest ∧ IsBlank blank ∧ parts rest

/-- The text `s` goes on with something `inside`, the bracket `close`, and something `behind`. -/
def ClosesWith (close : Char) (inside behind : List Char → Prop) (s : List Char) : Prop :=
  ∃ body rest, s = body ++ close :: rest ∧ inside body ∧ behind rest

section Parts

variable {blank s more : List Char} {close : Char} {inside inside' behind : List Char → Prop}

/-- A bracket may close behind a `blank`, if blanks may stand inside. -/
theorem closesWith_token (hblank : inside blank) (hs : behind s) :
    ClosesWith close inside behind (blank ++ ([close] ++ s)) :=
  ⟨blank, s, rfl, hblank, hs⟩

/-- What stands in `front` of a text is inside the same brackets. -/
theorem ClosesWith.prepend (h : ClosesWith close inside behind s) (front : List Char)
    (hfront : ∀ body, inside body → inside' (front ++ body)) :
    ClosesWith close inside' behind (front ++ s) := by
  obtain ⟨body, rest, rfl, hbody, hrest⟩ := h
  exact ⟨front ++ body, rest, (List.append_assoc ..).symm, hfront body hbody, hrest⟩

/-- An item and what stands behind it are items. -/
theorem isItems_append (hblank : IsBlank blank) (hs : IsValue s) (hmore : IsMore IsItems more) :
    IsItems (blank ++ (s ++ more)) := by
  rcases hmore with hmore | ⟨after, rest, rfl, hafter, hrest⟩
  · exact .last (.mk hblank hs hmore)
  · have hitems := IsItems.more (.mk hblank hs hafter) hrest
    rwa [List.append_assoc, List.append_assoc] at hitems

/-- A member and what stands behind it are members. -/
theorem isMembers_append {before name after : List Char} (hbefore : IsBlank before)
    (hname : IsCharacters name) (hafter : IsBlank after) (hblank : IsBlank blank) (hs : IsValue s)
    (hmore : IsMore IsMembers more) :
    IsMembers (before ++ '"' :: (name ++ '"' :: (after ++ ':' :: (blank ++ (s ++ more))))) := by
  rcases hmore with hmore | ⟨around, rest, rfl, haround, hrest⟩
  · exact .last (.mk hbefore hname hafter (.mk hblank hs hmore))
  · have hmembers := IsMembers.more (.mk hbefore hname hafter (.mk hblank hs haround)) hrest
    simpa only [List.append_assoc, List.cons_append] using hmembers

end Parts

/-- What is asked of the rest of a text behind a value: it has to close all frames that are open. -/
def AsksBehind : List Frame → List Char → Prop
  | [], s => IsBlank s
  | .array _ :: stack, s => ClosesWith ']' (IsMore IsItems) (AsksBehind stack) s
  | .object _ _ :: stack, s => ClosesWith '\x7d' (IsMore IsMembers) (AsksBehind stack) s

/-- What is asked of the rest `s` of a text where a value begins. -/
def AsksValue (stack : List Frame) (s : List Char) : Prop :=
  ∃ blank v rest, s = blank ++ (v ++ rest) ∧ IsBlank blank ∧ IsValue v ∧ AsksBehind stack rest

/-- What a reader asks of the rest of a text. -/
def Reading.Asks : Reading → List Char → Prop
  | .value stack, s => AsksValue stack s
  | .item items stack, s => ClosesWith ']' (IsInside IsItems (items = [])) (AsksBehind stack) s
  -- There is an item in front of what follows one.
  | .afterItem items stack, s => items ≠ [] → AsksBehind (.array items :: stack) s
  | .member entries stack, s =>
    ClosesWith '\x7d' (IsInside IsMembers (entries = [])) (AsksBehind stack) s
  | .colon entries name stack, s => ∃ blank rest, s = blank ++ ':' :: rest ∧ IsBlank blank ∧
      AsksValue (.object entries name :: stack) rest
  | .afterMember entries stack, s => entries ≠ [] → AsksBehind (.object entries "" :: stack) s
  | .done _, s => IsBlank s

namespace Reading

variable {stack : List Frame} {token : Token} {reading next : Reading} {limit : Option Nat}
variable {blank w s : List Char} {items : List Value} {entries : List (String × Value)}

/-- Behind a complete value there is what closes the frames in `stack`. -/
theorem asksBehind_of_complete {document : Document} (h : (complete document stack).Asks s) :
    AsksBehind stack s := by
  cases stack with
  | nil => exact h
  | cons frame stack => cases frame <;> exact h (List.cons_ne_nil _ _)

/-- A value in an array is an item, and what is asked behind it are more of them. -/
theorem closesWith_of_asksValue (h : AsksValue (.array items :: stack) s) :
    ClosesWith ']' IsItems (AsksBehind stack) s := by
  obtain ⟨blank, v, _, rfl, hblank, hv, hrest⟩ := h
  rw [← List.append_assoc]
  refine ClosesWith.prepend hrest (blank ++ v) fun body hbody => ?_
  rw [List.append_assoc]
  exact isItems_append hblank hv hbody

/-- A bare word that has a value is one of three. -/
theorem mem_of_wordValue? {word : String} {v : Value} (h : wordValue? word = some v) :
    word.toList ∈ ["null".toList, "true".toList, "false".toList] := by
  unfold wordValue? at h
  split at h <;> first | decide | cases h

/-- The first `token` of a value is part of what is asked for. -/
theorem asksValue_of_begin (h : begin (strict limit) stack token = some next)
    (hblank : IsBlank blank) (htoken : token.Written w) (hnext : next.Asks s) :
    AsksValue stack (blank ++ (w ++ s)) := by
  -- A bracket begins a value that ends with the bracket that closes it.
  have henclosed : ∀ {opening close : Char} {inside : List Char → Prop},
      (∀ body, inside body → IsValue (opening :: (body ++ [close]))) →
      ClosesWith close inside (AsksBehind stack) s →
      AsksValue stack (blank ++ ([opening] ++ s)) := by
    rintro opening close inside hvalue ⟨body, rest, rfl, hbody, hrest⟩
    refine ⟨blank, _, rest, ?_, hblank, hvalue body hbody, hrest⟩
    simp only [List.append_assoc, List.cons_append, List.nil_append]
  cases token with
  | openArray =>
    obtain rfl := htoken
    simp only [begin] at h
    split at h <;> cases h
    exact henclosed (fun body hbody => hbody.elim .array fun hempty => .emptyArray hempty.2) hnext
  | openObject =>
    obtain rfl := htoken
    simp only [begin] at h
    split at h <;> cases h
    exact henclosed (fun body hbody => hbody.elim .object fun hempty => .emptyObject hempty.2) hnext
  | text x =>
    cases h
    obtain ⟨body, rfl, hbody⟩ := htoken
    exact ⟨blank, _, s, rfl, hblank, .text hbody, asksBehind_of_complete hnext⟩
  | number v =>
    cases h
    exact ⟨blank, w, s, rfl, hblank, .number htoken, asksBehind_of_complete hnext⟩
  | word x =>
    obtain ⟨v, hword, rfl⟩ := Option.map_eq_some_iff.1 h
    obtain rfl := htoken
    exact ⟨blank, _, s, rfl, hblank, .word (mem_of_wordValue? hword), asksBehind_of_complete hnext⟩
  | _ => cases h

/-- A comma behind a part asks for another one. -/
theorem closesWith_of_comma {close : Char} {parts : List Char → Prop} {first : Prop}
    (hblank : IsBlank blank) (hfirst : ¬ first)
    (h : ClosesWith close (IsInside parts first) (AsksBehind stack) s) :
    ClosesWith close (IsMore parts) (AsksBehind stack) (blank ++ ([','] ++ s)) := by
  rw [← List.append_assoc]
  refine h.prepend (blank ++ [',']) fun body hbody => ?_
  rw [List.append_assoc]
  exact .inr ⟨blank, body, rfl, hblank, hbody.resolve_right fun hempty => hfirst hempty.1⟩

/-- A `token` that the reader takes is part of what it asks for. -/
theorem asks_of_step (h : step (strict limit) reading token = some next)
    (hblank : IsBlank blank) (htoken : token.Written w) (hnext : next.Asks s) :
    reading.Asks (blank ++ (w ++ s)) := by
  cases reading with
  | value stack => exact asksValue_of_begin h hblank htoken hnext
  | item items stack =>
    simp only [step] at h
    split at h
    · rename_i hclose
      subst hclose
      obtain rfl := htoken
      split at h <;> cases h
      rename_i hempty
      have hfirst : items = [] := by simpa [strict] using hempty
      exact closesWith_token (.inr ⟨hfirst, hblank⟩) (asksBehind_of_complete hnext)
    · have hvalue := closesWith_of_asksValue (asksValue_of_begin h hblank htoken hnext)
      exact hvalue.prepend [] fun body hbody => .inl hbody
  | afterItem items stack =>
    intro hitems
    cases token with
    | comma =>
      cases h
      obtain rfl := htoken
      exact closesWith_of_comma hblank hitems hnext
    | closeArray =>
      cases h
      obtain rfl := htoken
      exact closesWith_token (.inl hblank) (asksBehind_of_complete hnext)
    | _ => cases h
  | member entries stack =>
    cases token with
    | closeObject =>
      simp only [step] at h
      obtain rfl := htoken
      split at h <;> cases h
      rename_i hempty
      have hfirst : entries = [] := by simpa [strict] using hempty
      exact closesWith_token (.inr ⟨hfirst, hblank⟩) (asksBehind_of_complete hnext)
    | text name =>
      cases h
      obtain ⟨body, rfl, hbody⟩ := htoken
      obtain ⟨after, _, rfl, hafter, b, v, _, rfl, hb, hv, more, rest, rfl, hmore, hrest⟩ := hnext
      refine ⟨_, rest, ?_, .inl (isMembers_append hblank hbody hafter hb hv hmore), hrest⟩
      simp only [List.append_assoc, List.cons_append, List.nil_append]
    -- Names have to stand in quotes.
    | _ => cases h
  | colon entries name stack =>
    cases token with
    | colon =>
      cases h
      obtain rfl := htoken
      exact ⟨blank, s, rfl, hblank, hnext⟩
    | _ => cases h
  | afterMember entries stack =>
    intro hentries
    cases token with
    | comma =>
      cases h
      obtain rfl := htoken
      exact closesWith_of_comma hblank hentries hnext
    | closeObject =>
      cases h
      obtain rfl := htoken
      exact closesWith_token (.inl hblank) (asksBehind_of_complete hnext)
    | _ => cases h
  | done => cases h

/-- A reader that comes to the end of a document has found what it asked for. -/
theorem asks_of_feed {tokens : List Token} {document : Document}
    (h : (feed (strict limit) reading tokens).bind document? = some document)
    (hs : Spelled tokens s) : reading.Asks s := by
  induction hs generalizing reading with
  | nil hs =>
    cases reading with
    | done => exact hs
    | _ => cases h
  | @cons token rest blank w s hblank htoken _ ih =>
    rw [feed] at h
    cases hstep : step (strict limit) reading token with
    | none =>
      rw [hstep] at h
      cases h
    | some next =>
      rw [hstep] at h
      exact asks_of_step hstep hblank htoken (ih h)

end Reading

/-- If `text` is read as a value, it is a JSON text. -/
theorem isText_of_read? {text : String} {v : Value} (h : read? text = some v) :
    IsText text.toList := by
  obtain ⟨tokens, htokens, hread⟩ := Option.bind_eq_some_iff.1 h
  obtain ⟨document, hdocument, -⟩ := Option.map_eq_some_iff.1 hread
  obtain ⟨blank, s, rest, htext, hblank, hs, hrest⟩ :=
    Reading.asks_of_feed hdocument (spelled_of_tokens? htokens)
  rw [htext]
  exact .mk hblank hs hrest

/-! ## How a text begins -/

/-- A character of a `kind` to which no blank belongs is no blank. -/
theorem isPlainSpace_eq_false (kind : Char → Bool)
    (hkind : [' ', '\t', '\n', '\r'].any kind = false) {c : Char} (hc : kind c = true) :
    Text.isPlainSpace c = false := by
  by_contra hspace
  rw [Bool.not_eq_false] at hspace
  have hmem : c ∈ [' ', '\t', '\n', '\r'] := by
    simpa [Text.isPlainSpace, or_assoc] using hspace
  exact List.any_eq_false.1 hkind c hmem hc

/-- A character with which a value can begin. -/
def beginsValue (c : Char) : Bool :=
  c.isDigit || ['"', '-', '[', '\x7b', 'f', 'n', 't'].contains c

section Beginnings

variable {s : List Char}

/-- A number begins with a minus or a digit. -/
theorem IsNumeral.begins (h : IsNumeral s) : ∃ c rest, s = c :: rest ∧ beginsValue c = true := by
  obtain ⟨rfl | rfl, hwhole, -, -⟩ := h
  · have hdigit : ∀ {c : Char}, c.isDigit = true → beginsValue c = true := fun hc => by
      rw [beginsValue, hc, Bool.true_or]
    cases hwhole with
    | digit hc => exact ⟨_, _, rfl, hdigit hc⟩
    | digits hs =>
      obtain ⟨c, rest, rfl⟩ := List.exists_cons_of_ne_nil hs.1
      exact ⟨c, _, rfl, hdigit (hs.2 c List.mem_cons_self)⟩
  · exact ⟨'-', _, rfl, by decide⟩

/-- A value begins with a character that tells what kind of value it is. -/
theorem IsValue.begins (h : IsValue s) : ∃ c rest, s = c :: rest ∧ beginsValue c = true := by
  cases h with
  | word hs =>
    simp only [List.mem_cons, List.not_mem_nil, or_false] at hs
    rcases hs with rfl | rfl | rfl <;> exact ⟨_, _, rfl, by decide⟩
  | number hs => exact hs.begins
  | _ => exact ⟨_, _, rfl, by decide⟩

/-- The first character of a JSON text that is no blank is one with which a value can begin. -/
theorem IsText.begins (h : IsText s) :
    ∃ c, (s.dropWhile Text.isPlainSpace).head? = some c ∧ beginsValue c = true := by
  obtain ⟨hbefore, hs, -⟩ := h
  obtain ⟨c, rest, rfl, hc⟩ := hs.begins
  refine ⟨c, ?_, hc⟩
  have hspace := isPlainSpace_eq_false beginsValue rfl hc
  rw [List.dropWhile_append_of_pos hbefore, List.cons_append, List.dropWhile_cons, hspace]
  rfl

end Beginnings

end Promptbook.Json
