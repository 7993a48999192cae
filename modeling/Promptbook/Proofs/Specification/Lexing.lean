import Promptbook.Proofs.Specification.Newlines

/-!
# Lexing of Specifications

The lexer of relaxed JSON goes through the places of specifications: where it is in a text, behind a
backslash or in a comment, there is the lexer that only tells places apart. They part company where
digits are expected and something else is found, which is never mended, and behind the separators
for lines and paragraphs, which end a comment of relaxed JSON but not of a specification.

A line may end with a line feed or with a carriage return in front of it. Between tokens both are
white space, a comment ends before the next token either way, an escaped carriage return takes the
line feed with it, and nothing else goes on behind either of them.

## Main definitions

* `withReturns`: a text with a carriage return in front of every line feed.
* `Lexer.outcome`: the tokens that a lexer finds in the rest of a text.
* `InStep`: the lexer is at a place.

## Main results

* `Lexer.outcome_foreign`: a character that is no digit is not mended where digits are read.
* `InStep.step`: what a character leads to.
* `InStep.outcome_return`: a lexer does not mind a carriage return in front of a line feed.
* `tokens?_withReturns`: the tokens of a text do not depend on its line ends.
-/

namespace Promptbook.Json

/-- Whether `c` is a digit of hexadecimal numbers. -/
def isHex (c : Char) : Bool :=
  (Radix.digit? 16 c).isSome

/-- If `digits` have a value, all of them are digits. -/
theorem isHex_of_hexValue? {digits : List Char} {n : Nat} (h : hexValue? digits = some n) :
    ∀ c ∈ digits, isHex c = true := by
  have extend : ∀ (digits : List Char) (m : Nat), (Radix.extend? 16 m digits).isSome →
      ∀ c ∈ digits, isHex c = true := by
    intro digits
    induction digits with
    | nil => exact fun _ _ => List.forall_mem_nil _
    | cons c digits ih =>
      intro m hsome
      rw [Radix.extend?, List.foldlM_cons] at hsome
      cases hdigit : Radix.digit? 16 c with
      | none => simp [hdigit] at hsome
      | some d =>
        rw [hdigit] at hsome
        exact List.forall_mem_cons.2 ⟨by rw [isHex, hdigit]; rfl, ih _ hsome⟩
  unfold hexValue? Radix.read? at h
  split at h
  · cases h
  · exact extend digits 0 (by rw [h]; rfl)

namespace Relaxed

open Builtin (Quote SpecPlace)

/-- The text `s` with a carriage return in front of every line feed. -/
def withReturns (s : List Char) : List Char :=
  s.flatMap fun c => if c = '\n' then ['\r', '\n'] else [c]

@[simp] theorem withReturns_nil : withReturns [] = [] := rfl

@[simp] theorem withReturns_newline (s : List Char) :
    withReturns ('\n' :: s) = '\r' :: '\n' :: withReturns s := rfl

theorem withReturns_cons {c : Char} (h : c ≠ '\n') (s : List Char) :
    withReturns (c :: s) = c :: withReturns s := by
  simp [withReturns, h]

/-- The digits that a mode is in the middle of, if it is. -/
def Mode.digits? : Mode → Option (List Char)
  | .short _ _ digits => some digits
  | .unit _ _ _ digits => some digits
  | .nameEscape _ _ digits => digits
  | _ => none

/-- A mode between tokens, or in a token that is not quoted. -/
def Mode.IsCode : Mode → Prop
  | .between | .number _ | .name _ _ | .nameEscape _ _ _ | .namePair _ _ => True
  | _ => False

/-- A mode in a text in `quote`, before a character that nothing hides. -/
def Mode.IsWithin (quote : Char) : Mode → Prop
  | .text quote' _ | .zero quote' _ | .short quote' _ _ | .unit quote' _ _ _
  | .pair quote' _ _ false => quote' = quote
  | _ => False

namespace Lexer

variable {number? : List Char → Option Value} {lexer next : Lexer} {c : Char} {s : List Char}

/-- The tokens that `lexer` has found once it comes to the end of `s`. -/
def outcome (number? : List Char → Option Value) (lexer : Lexer) (s : List Char) :
    Option (List Token) :=
  (lexer.feed number? s).bind (finish number?)

theorem outcome_cons :
    lexer.outcome number? (c :: s) =
      (lexer.step number? c).bind fun next => next.outcome number? s := by
  unfold outcome
  rw [feed]
  cases lexer.step number? c <;> rfl

theorem outcome_of_step (next : Lexer) (h : lexer.step number? c = some next) :
    lexer.outcome number? (c :: s) = next.outcome number? s := by
  rw [outcome_cons, h, Option.bind_some]

theorem outcome_of_step_eq_none (h : lexer.step number? c = none) :
    lexer.outcome number? (c :: s) = none := by
  rw [outcome_cons, h, Option.bind_none]

/-- Digits go on until there are enough of them, and what they denote is looked at then. -/
theorem step_digits {digits : List Char} (h : lexer.mode.digits? = some digits)
    (hnext : lexer.step number? c = some next) :
    next.mode.digits? = some (digits ++ [c]) ∨ ∃ n, hexValue? (digits ++ [c]) = some n := by
  obtain ⟨mode, tokens⟩ := lexer
  -- Only three modes have digits; in each the digit is taken, or it was the last one and has a
  -- value.
  cases mode with
  | short quote chars digits' =>
    obtain rfl := Option.some.inj h
    simp only [step] at hnext
    split at hnext
    · cases hnext
      exact .inl rfl
    · obtain ⟨n, hvalue, -⟩ := Option.map_eq_some_iff.1 hnext
      exact .inr ⟨n, hvalue⟩
  | unit quote chars lead digits' =>
    obtain rfl := Option.some.inj h
    simp only [step] at hnext
    split at hnext
    · cases hnext
      exact .inl rfl
    · obtain ⟨mode, hmode, -⟩ := Option.map_eq_some_iff.1 hnext
      obtain ⟨n, hvalue, -⟩ := Option.bind_eq_some_iff.1 hmode
      exact .inr ⟨n, hvalue⟩
  | nameEscape chars lead digits' =>
    obtain rfl : digits' = some digits := h
    simp only [step] at hnext
    split at hnext
    · cases hnext
      exact .inl rfl
    · obtain ⟨mode, hmode, -⟩ := Option.map_eq_some_iff.1 hnext
      obtain ⟨n, hvalue, -⟩ := Option.bind_eq_some_iff.1 hmode
      exact .inr ⟨n, hvalue⟩
  | _ => cases h

/-- A lexer that is in the middle of `digits` of which one is none finds nothing. -/
theorem outcome_of_not_isHex {digits : List Char} (h : lexer.mode.digits? = some digits)
    (hmem : c ∈ digits) (hc : isHex c = false) : lexer.outcome number? s = none := by
  induction s generalizing lexer digits with
  | nil =>
    obtain ⟨mode, tokens⟩ := lexer
    cases mode with
    | short | unit | nameEscape => rfl
    | _ => cases h
  | cons d s ih =>
    rw [outcome_cons, Option.bind_eq_none_iff]
    intro next hnext
    rcases step_digits h hnext with hdigits | ⟨n, hvalue⟩
    · exact ih hdigits (List.mem_append_left _ hmem)
    · cases hc.symm.trans (isHex_of_hexValue? hvalue c (List.mem_append_left _ hmem))

/-- A lexer in the middle of digits finds nothing if the next character `c` is no digit. -/
theorem outcome_foreign {digits : List Char} (h : lexer.mode.digits? = some digits)
    (hc : isHex c = false) : lexer.outcome number? (c :: s) = none := by
  rw [outcome_cons, Option.bind_eq_none_iff]
  intro next hnext
  rcases step_digits h hnext with hdigits | ⟨n, hvalue⟩
  · exact outcome_of_not_isHex hdigits (by simp) hc
  · cases hc.symm.trans (isHex_of_hexValue? hvalue c (by simp))

/-- If both ends of a line lead from between tokens to the same place, the line feed of both
together is white space there. -/
theorem outcome_return_of_between (hsame : lexer.step number? '\r' = lexer.step number? '\n')
    (hbetween : ∀ next, lexer.step number? '\n' = some next → next.mode = .between) :
    lexer.outcome number? ('\r' :: '\n' :: s) = lexer.outcome number? ('\n' :: s) := by
  rw [outcome_cons, hsame, outcome_cons (c := '\n')]
  refine Option.bind_congr fun next hnext => ?_
  obtain ⟨mode, tokens⟩ := next
  obtain rfl : mode = .between := hbetween _ hnext
  exact outcome_of_step _ rfl

/-- What a character `c` between tokens leads to. -/
theorem start_cases {tokens : List Token} (h : start tokens c = some next) :
    (c = '"' ∨ c = '\'') ∧ next.mode = .text c [] ∨ c = '/' ∧ next.mode = .slash ∨
      (c ≠ '"' ∧ c ≠ '\'' ∧ c ≠ '/') ∧ next.mode.IsCode := by
  by_cases hslash : c = '/'
  · subst hslash
    cases h
    exact .inr (.inl ⟨rfl, rfl⟩)
  by_cases hquote : c = '"' ∨ c = '\''
  · refine .inl ⟨hquote, ?_⟩
    rcases hquote with rfl | rfl <;> (cases h; rfl)
  refine .inr (.inr ⟨⟨fun hc => hquote (.inl hc), fun hc => hquote (.inr hc), hslash⟩, ?_⟩)
  have hquote' : ¬ (c == '"' || c == '\'') = true := by simpa using hquote
  have hslash' : ¬ (c == '/') = true := by simpa using hslash
  simp only [start, hquote', hslash', Bool.false_eq_true, if_false] at h
  -- White space, punctuation, a number, a name or an escape in one: all of them are code.
  repeat' split at h
  all_goals cases h
  all_goals trivial

/-- What a character `c` of a quoted text leads to. -/
theorem takeText_cases {tokens : List Token} {quote : Char} {chars : List Char}
    (h : takeText tokens quote chars c = some next) :
    c = quote ∧ next.mode = .between ∨ (c ≠ quote ∧ c = '\\') ∧ next.mode = .escape quote chars ∨
      (c ≠ quote ∧ c ≠ '\\' ∧ c ≠ '\n') ∧ next.mode = .text quote (c :: chars) := by
  unfold takeText at h
  split at h
  · rename_i hquote
    cases h
    exact .inl ⟨eq_of_beq hquote, rfl⟩
  rename_i hquote
  rw [beq_iff_eq] at hquote
  split at h
  · rename_i hbackslash
    cases h
    exact .inr (.inl ⟨⟨hquote, eq_of_beq hbackslash⟩, rfl⟩)
  rename_i hbackslash
  rw [beq_iff_eq] at hbackslash
  split at h
  · cases h
  · rename_i hend
    cases h
    refine .inr (.inr ⟨⟨hquote, hbackslash, ?_⟩, rfl⟩)
    rintro rfl
    exact hend rfl

/-- A character `c` behind a backslash leads back into the text. -/
theorem isWithin_of_escape {quote : Char} {chars : List Char} {mode : Mode} (hc : c ≠ '\r')
    (h : escape quote chars c = some mode) : mode.IsWithin quote := by
  unfold escape at h
  split at h
  case h_10 => exact absurd rfl hc
  case h_11 =>
    split at h
    · cases h
      rfl
    split at h
    · cases h
    · cases h
      rfl
  all_goals
    cases h
    rfl

/-- A code unit with the number `n` leads back into the text. -/
theorem isWithin_of_takeUnit {quote : Char} {chars : List Char} {lead : Option Nat} {n : Nat}
    {mode : Mode} (h : takeUnit quote chars lead n = some mode) : mode.IsWithin quote := by
  unfold takeUnit at h
  split at h
  · split at h
    · cases h
      rfl
    · cases h
  · split at h
    · cases h
      rfl
    split at h
    · cases h
    · cases h
      rfl

/-- A code unit of a name leads back into the name. -/
theorem isCode_of_takeNameUnit {chars : List Char} {lead : Option Nat} {n : Nat} {mode : Mode}
    (h : takeNameUnit chars lead n = some mode) : mode.IsCode := by
  have hchar : ∀ {d}, takeNameChar chars d = some mode → mode.IsCode := by
    intro d h
    obtain ⟨-, hmode⟩ := Option.ite_none_right_eq_some.1 h
    cases hmode
    trivial
  unfold takeNameUnit at h
  split at h
  · split at h
    · exact hchar h
    · cases h
  · split at h
    · cases h
      trivial
    split at h
    · cases h
    · exact hchar h

end Lexer

/-- A lexer in this mode is at this place of a specification. -/
inductive InStep : SpecPlace → Mode → Prop where
  /-- In code. -/
  | code {mode : Mode} (hmode : mode.IsCode) : InStep .code mode
  /-- Behind a slash. -/
  | slash : InStep .slash .slash
  /-- In a text in `quote`. -/
  | text {quote : Quote} {mode : Mode} (hmode : mode.IsWithin quote.char) :
    InStep (.text quote) mode
  /-- Behind the backslash of an escape. -/
  | escape (quote : Quote) (chars : List Char) :
    InStep (.hidden quote) (.escape quote.char chars)
  /-- Behind the backslash of the second unit of a pair. -/
  | trail (quote : Quote) (chars : List Char) (lead : Nat) :
    InStep (.hidden quote) (.pair quote.char chars lead true)
  /-- In a comment up to the end of the line. -/
  | lineComment : InStep .lineComment .lineComment
  /-- In a comment up to its closing mark. -/
  | blockComment : InStep .blockComment (.blockComment false)
  /-- In such a comment behind a star. -/
  | star : InStep .star (.blockComment true)

/-- The character `c` separates lines or paragraphs. -/
def IsSeparator (c : Char) : Prop :=
  c = '\u2028' ∨ c = '\u2029'

/-- Where the character `c` leads from a `place` that the lexer is at. -/
inductive Follows (place : SpecPlace) (c : Char) (next : Mode) : Prop where
  /-- To the next place. -/
  | inStep (h : InStep (place.step c) next)
  /-- Among digits there is a character that is none. -/
  | foreign {digits : List Char} (hdigits : next.digits? = some digits) (hmem : c ∈ digits)
    (hc : isHex c = false) (hplace : InStep place next)
  /-- A separator ends a comment. -/
  | separated (hplace : place = .lineComment) (hc : IsSeparator c) (hnext : next = .between)

variable {number? : List Char → Option Value} {lexer next : Lexer} {place : SpecPlace} {c : Char}
  {s : List Char}

section Characters

variable {p : Char → Bool}

/-- A character of a class `p` without slashes and quotes stays in code. -/
theorem opened_of_class (hp : p '/' = false ∧ p '"' = false ∧ p '\'' = false) (hc : p c = true) :
    SpecPlace.opened c = .code := by
  have hne : ∀ {d}, p d = false → c ≠ d := by
    rintro d hd rfl
    cases hc.symm.trans hd
  exact SpecPlace.opened_eq_code (hne hp.1) (hne hp.2.1) (hne hp.2.2)

theorem step_text_of_isHex (quote : Quote) (hc : isHex c = true) :
    (SpecPlace.text quote).step c = .text quote := by
  have hne : ∀ {d}, isHex d = false → c ≠ d := by
    rintro d hd rfl
    cases hc.symm.trans hd
  refine SpecPlace.step_text_eq (hne (by decide)) (hne ?_)
  rcases quote.char_eq with h | h <;> rw [h] <;> decide

end Characters

namespace InStep

/-- Between tokens, the lexer is in step behind `c`. -/
theorem of_start {tokens : List Token} (h : Lexer.start tokens c = some next) :
    InStep (SpecPlace.opened c) next.mode := by
  rcases Lexer.start_cases h with ⟨hquote, hmode⟩ | ⟨rfl, hmode⟩ |
    ⟨⟨hdouble, hsingle, hslash⟩, hmode⟩
  · rw [hmode, SpecPlace.opened_quote hquote]
    exact .text rfl
  · rw [hmode]
    exact .slash
  · rw [SpecPlace.opened_eq_code hslash hdouble hsingle]
    exact .code hmode

/-- In a text in `quote`, the lexer is in step behind `c`. -/
theorem of_takeText {tokens : List Token} {quote : Quote} {chars : List Char}
    (h : Lexer.takeText tokens quote.char chars c = some next) :
    InStep ((SpecPlace.text quote).step c) next.mode := by
  rcases Lexer.takeText_cases h with ⟨rfl, hmode⟩ | ⟨⟨-, rfl⟩, hmode⟩ |
    ⟨⟨hquote, hbackslash, -⟩, hmode⟩
  · rw [hmode, SpecPlace.step_text_quote]
    exact .code trivial
  · rw [hmode]
    exact .escape quote chars
  · rw [hmode, SpecPlace.step_text_eq hbackslash hquote]
    exact .text rfl

/-- A character `c` that completes a number of digits is one. -/
theorem isHex_of_hexValue?_concat {digits : List Char} {n : Nat}
    (h : hexValue? (digits ++ [c]) = some n) : isHex c = true :=
  isHex_of_hexValue? h c (List.mem_append_right _ List.mem_cons_self)

/-- Among digits the lexer is in step behind `c`, unless this is none. -/
theorem follows_of_digits {mode : Mode} {digits : List Char}
    (hdigits : mode.digits? = some (digits ++ [c])) (hplace : InStep place mode)
    (hstep : isHex c = true → place.step c = place) : Follows place c mode := by
  cases hc : isHex c with
  | true => exact .inStep ((hstep hc).symm ▸ hplace)
  | false => exact .foreign hdigits (List.mem_append_right _ List.mem_cons_self) hc hplace

/-- In code the lexer is in step behind `c`. -/
theorem follows_of_code (h : lexer.mode.IsCode) (hnext : lexer.step number? c = some next) :
    Follows .code c next.mode := by
  -- A class of characters that opens nothing keeps the place in code, whatever the mode makes of
  -- them.
  have hclass : ∀ p : Char → Bool, p '/' = false ∧ p '"' = false ∧ p '\'' = false → p c = true →
      next.mode.IsCode → Follows .code c next.mode := by
    intro p hp hc hmode
    refine .inStep ?_
    rw [SpecPlace.step, opened_of_class hp hc]
    exact .code hmode
  obtain ⟨mode, tokens⟩ := lexer
  cases mode with
  | between => exact .inStep (.of_start hnext)
  -- A number ends at a character that it cannot have, and that character starts the next token.
  | number chars =>
    simp only [Lexer.step] at hnext
    split at hnext
    · rename_i hnumber
      cases hnext
      exact hclass continuesNumber (by decide) hnumber trivial
    · obtain ⟨v, -, hnext⟩ := Option.bind_eq_some_iff.1 hnext
      exact .inStep (.of_start hnext)
  | name chars escaped =>
    simp only [Lexer.step] at hnext
    split at hnext
    · rename_i hname
      cases hnext
      exact hclass continuesName ⟨rfl, rfl, rfl⟩ hname trivial
    split at hnext
    · rename_i hbackslash
      cases hnext
      exact hclass (· == '\\') (by decide) hbackslash trivial
    · exact .inStep (.of_start hnext)
  | nameEscape chars lead digits =>
    cases digits with
    | none =>
      obtain ⟨hletter, hnext⟩ := Option.ite_none_right_eq_some.1 hnext
      cases hnext
      exact hclass (· == 'u') (by decide) hletter trivial
    | some digits =>
      simp only [Lexer.step] at hnext
      split at hnext
      · cases hnext
        refine follows_of_digits rfl (.code trivial) fun hc => ?_
        exact opened_of_class (by decide) hc
      · obtain ⟨mode, hmode, rfl⟩ := Option.map_eq_some_iff.1 hnext
        obtain ⟨n, hvalue, hmode⟩ := Option.bind_eq_some_iff.1 hmode
        exact hclass isHex (by decide) (isHex_of_hexValue?_concat hvalue)
          (Lexer.isCode_of_takeNameUnit hmode)
  -- Behind the first half of a pair only the backslash of the second one is taken.
  | namePair chars lead =>
    obtain ⟨hbackslash, hnext⟩ := Option.ite_none_right_eq_some.1 hnext
    cases hnext
    exact hclass (· == '\\') (by decide) hbackslash trivial
  | _ => cases h

/-- In a text in `quote` the lexer is in step behind `c`. -/
theorem follows_of_text {quote : Quote} (h : lexer.mode.IsWithin quote.char)
    (hnext : lexer.step number? c = some next) : Follows (.text quote) c next.mode := by
  obtain ⟨mode, tokens⟩ := lexer
  cases mode with
  | text quote' chars =>
    obtain rfl : quote' = quote.char := h
    exact .inStep (.of_takeText hnext)
  -- No digit may follow `\0`; any other character is one of the text.
  | zero quote' chars =>
    obtain rfl : quote' = quote.char := h
    simp only [Lexer.step] at hnext
    split at hnext
    · cases hnext
    · exact .inStep (.of_takeText hnext)
  -- A character that is no digit is taken for one, and the escape fails at its end.
  | short quote' chars digits =>
    simp only [Lexer.step] at hnext
    split at hnext
    · cases hnext
      exact follows_of_digits rfl (.text h) (step_text_of_isHex quote)
    · obtain ⟨n, hvalue, rfl⟩ := Option.map_eq_some_iff.1 hnext
      refine .inStep ?_
      rw [step_text_of_isHex quote (isHex_of_hexValue?_concat hvalue)]
      exact .text h
  | unit quote' chars lead digits =>
    obtain rfl : quote' = quote.char := h
    simp only [Lexer.step] at hnext
    split at hnext
    · cases hnext
      exact follows_of_digits rfl (.text rfl) (step_text_of_isHex quote)
    · obtain ⟨mode, hmode, rfl⟩ := Option.map_eq_some_iff.1 hnext
      obtain ⟨n, hvalue, hmode⟩ := Option.bind_eq_some_iff.1 hmode
      refine .inStep ?_
      rw [step_text_of_isHex quote (isHex_of_hexValue?_concat hvalue)]
      exact .text (Lexer.isWithin_of_takeUnit hmode)
  -- Behind the first half of a pair only the backslash of the second one is taken.
  | pair quote' chars lead slash =>
    cases slash with
    | false =>
      obtain rfl : quote' = quote.char := h
      obtain ⟨hbackslash, hnext⟩ := Option.ite_none_right_eq_some.1 hnext
      obtain rfl := eq_of_beq hbackslash
      cases hnext
      exact .inStep (.trail quote chars lead)
    | true => cases h
  | _ => cases h

/-- From a `place` that the lexer is at, `c` leads to the next place, or there is no way to the
end. -/
theorem step (h : InStep place lexer.mode) (hc : c ≠ '\r')
    (hnext : lexer.step number? c = some next) : Follows place c next.mode := by
  obtain ⟨mode, tokens⟩ := lexer
  -- By what kind of place the lexer is at: the comments and the slash have one mode each.
  cases h with
  | code hmode => exact follows_of_code hmode hnext
  | text hmode => exact follows_of_text hmode hnext
  | escape quote chars =>
    obtain ⟨mode, hmode, rfl⟩ := Option.map_eq_some_iff.1 hnext
    exact .inStep (.text (Lexer.isWithin_of_escape hc hmode))
  | trail quote chars lead =>
    obtain ⟨-, hnext⟩ := Option.ite_none_right_eq_some.1 hnext
    cases hnext
    exact .inStep (.text rfl)
  | slash =>
    simp only [Lexer.step] at hnext
    split at hnext
    · rename_i hslash
      obtain rfl := eq_of_beq hslash
      cases hnext
      exact .inStep .lineComment
    split at hnext
    · rename_i hstar
      obtain rfl := eq_of_beq hstar
      cases hnext
      exact .inStep .blockComment
    · cases hnext
  | lineComment =>
    cases hnext
    by_cases hseparator : IsSeparator c
    -- U+2028 and U+2029 end the line for the lexer, but not for the places.
    · refine .separated rfl hseparator ?_
      rcases hseparator with rfl | rfl <;> rfl
    by_cases hnewline : c = '\n'
    · subst hnewline
      exact .inStep (.code trivial)
    · have hend : isLineEnd c = false := by
        simpa [isLineEnd, hnewline, hc, IsSeparator] using hseparator
      refine .inStep ?_
      simp only [hend, SpecPlace.step, hnewline, if_false]
      exact .lineComment
  | blockComment =>
    cases hnext
    refine .inStep ?_
    by_cases hstar : c = '*'
    · subst hstar
      exact .star
    · simp only [SpecPlace.step, hstar, Bool.false_and, beq_eq_false_iff_ne.2 hstar, if_false]
      exact .blockComment
  | star =>
    cases hnext
    refine .inStep ?_
    by_cases hslash : c = '/'
    · subst hslash
      exact .code trivial
    by_cases hstar : c = '*'
    · subst hstar
      exact .star
    · simp only [SpecPlace.step, hslash, hstar, Bool.true_and, beq_eq_false_iff_ne.2 hslash,
        beq_eq_false_iff_ne.2 hstar, if_false]
      exact .blockComment

/-- In a text in `quote` no line ends. -/
theorem outcome_of_text {quote : Quote} (h : InStep (.text quote) lexer.mode)
    (hc : c = '\r' ∨ c = '\n') : lexer.outcome number? (c :: s) = none := by
  have hhex : isHex c = false := by rcases hc with rfl | rfl <;> decide
  obtain ⟨mode, tokens⟩ := lexer
  cases h with | text hmode =>
  cases mode with
  | text quote' chars | zero quote' chars =>
    obtain rfl : quote' = quote.char := hmode
    -- Neither end of a line is the quote.
    rcases quote.char_eq with h | h <;> rw [h] <;> rcases hc with rfl | rfl <;>
      exact Lexer.outcome_of_step_eq_none rfl
  | short | unit => exact Lexer.outcome_foreign rfl hhex
  | pair quote' chars lead slash =>
    cases slash <;> rcases hc with rfl | rfl <;> exact Lexer.outcome_of_step_eq_none rfl
  | _ => cases hmode

/-- A lexer does not mind a carriage return in front of a line feed. -/
theorem outcome_return (h : InStep place lexer.mode) :
    lexer.outcome number? ('\r' :: '\n' :: s) = lexer.outcome number? ('\n' :: s) := by
  have hreturn : isHex '\r' = false := by decide
  have hnewline : isHex '\n' = false := by decide
  obtain ⟨mode, tokens⟩ := lexer
  cases h with
  | code hmode =>
    cases mode with
    | between => exact Lexer.outcome_of_step _ rfl
    | number chars =>
      have hstep : ∀ {c}, c = '\r' ∨ c = '\n' → Lexer.step number? ⟨.number chars, tokens⟩ c =
          (number? chars.reverse).bind fun v => some ⟨.between, .number v :: tokens⟩ := by
        rintro c (rfl | rfl) <;> rfl
      refine Lexer.outcome_return_of_between ((hstep (.inl rfl)).trans (hstep (.inr rfl)).symm) ?_
      intro next hnext
      rw [hstep (.inr rfl)] at hnext
      obtain ⟨v, -, hnext⟩ := Option.bind_eq_some_iff.1 hnext
      cases hnext
      rfl
    | name chars escaped =>
      have hstep : ∀ {c}, c = '\r' ∨ c = '\n' →
          Lexer.step number? ⟨.name chars escaped, tokens⟩ c =
            some ⟨.between, Lexer.nameToken chars escaped :: tokens⟩ := by
        rintro c (rfl | rfl) <;> rfl
      refine Lexer.outcome_return_of_between ((hstep (.inl rfl)).trans (hstep (.inr rfl)).symm) ?_
      intro next hnext
      cases (hstep (.inr rfl)).symm.trans hnext
      rfl
    | nameEscape chars lead digits =>
      cases digits with
      | none => rw [Lexer.outcome_of_step_eq_none rfl, Lexer.outcome_of_step_eq_none rfl]
      | some digits => rw [Lexer.outcome_foreign rfl hreturn, Lexer.outcome_foreign rfl hnewline]
    | namePair => rw [Lexer.outcome_of_step_eq_none rfl, Lexer.outcome_of_step_eq_none rfl]
    | _ => cases hmode
  | text hmode =>
    rw [outcome_of_text (.text hmode) (.inl rfl), outcome_of_text (.text hmode) (.inr rfl)]
  | escape quote chars =>
    -- The escape takes the line feed with it.
    rw [Lexer.outcome_of_step ⟨.carriage quote.char chars, tokens⟩ rfl,
      Lexer.outcome_of_step ⟨.text quote.char chars, tokens⟩ rfl,
      Lexer.outcome_of_step ⟨.text quote.char chars, tokens⟩ rfl]
  | trail | slash => rw [Lexer.outcome_of_step_eq_none rfl, Lexer.outcome_of_step_eq_none rfl]
  | lineComment =>
    refine Lexer.outcome_return_of_between rfl fun next hnext => ?_
    cases hnext
    rfl
  | blockComment => exact Lexer.outcome_of_step _ rfl
  | star =>
    rw [Lexer.outcome_of_step ⟨.blockComment false, tokens⟩ rfl]
    rfl

end InStep

/-- Wherever a character leads, the lexer is at some place. -/
theorem Follows.exists_inStep {mode : Mode} (h : Follows place c mode) :
    ∃ place, InStep place mode := by
  cases h with
  | inStep h => exact ⟨_, h⟩
  | foreign _ _ _ hplace => exact ⟨_, hplace⟩
  | separated _ _ hnext => exact ⟨.code, hnext ▸ .code trivial⟩

/-- What a lexer finds in `s` does not depend on the line ends. -/
theorem Lexer.outcome_withReturns (h : ∃ place, InStep place lexer.mode) (hs : '\r' ∉ s) :
    lexer.outcome number? (withReturns s) = lexer.outcome number? s := by
  -- That the lexer is at a place carries the induction, whichever place it is: a text without
  -- carriage returns leads to a place again.
  induction s generalizing lexer with
  | nil => rfl
  | cons c s ih =>
    obtain ⟨hc, hs⟩ := List.ne_and_not_mem_of_not_mem_cons hs
    obtain ⟨place, hplace⟩ := h
    have hrest : lexer.outcome number? (c :: withReturns s) = lexer.outcome number? (c :: s) := by
      rw [outcome_cons, outcome_cons]
      refine Option.bind_congr fun next hnext => ih ?_ hs
      exact (hplace.step (Ne.symm hc) hnext).exists_inStep
    by_cases hnewline : c = '\n'
    · subst hnewline
      rw [withReturns_newline, hplace.outcome_return, hrest]
    · rw [withReturns_cons hnewline, hrest]

/-- The tokens of `s` do not depend on whether its lines end with carriage returns. -/
theorem tokens?_withReturns (number? : List Char → Option Value) {s : List Char}
    (hs : '\r' ∉ s) : tokens? number? (withReturns s) = tokens? number? s :=
  @Lexer.outcome_withReturns number? ⟨.between, []⟩ s ⟨.code, .code trivial⟩ hs

end Relaxed

end Promptbook.Json
