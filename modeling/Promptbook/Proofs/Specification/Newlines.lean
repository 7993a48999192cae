import Promptbook.Directive.Builtin.FieldSpec

/-!
# Line Feeds in Specifications

A quoted text of a specification may span lines, since its line feeds are written as escapes before
the specification is read. Which line feeds these are is said here by a lexer that looks at one
character after the other and never ahead: each line feed that it meets inside of a quoted text and
not behind a backslash. The scan that writes the escapes looks ahead at the marks of comments and
behind backslashes. It stays in step with the lexer, which for its part is not led astray by the
escapes.

## Main definitions

* `SpecPlace`: what a lexer of specifications is inside of.
* `SpecPlace.behind`: where it is behind a text.
* `SpecPlace.written`: what is written for a character at a place.

## Main results

* `escapeNewlinesFrom_eq`: the scan writes what the places call for.
* `SpecPlace.after_writtenFrom`: the lexer is at the same place behind what has been written.
* `escapeNewlines_places`: which line feeds of a text are written as escapes, and that another scan
  changes nothing.
-/

namespace Promptbook.Builtin

/-- A character that opens a quoted text, and closes it again. -/
structure Quote where
  /-- The character. -/
  char : Char
  /-- The character is one of two. -/
  char_eq : char = '"' ∨ char = '\''
  deriving DecidableEq

/-- No `quote` is a line feed. -/
theorem Quote.char_ne_newline (quote : Quote) : quote.char ≠ '\n' := by
  rcases quote.char_eq with h | h <;> rw [h] <;> decide

/-- What a lexer of specifications is inside of. It reads one character after the other. -/
inductive SpecPlace where
  /-- Neither a quoted text nor a comment. -/
  | code
  /-- Behind a slash that may start a comment. -/
  | slash
  /-- A text in `quote`. -/
  | text (quote : Quote)
  /-- A text in `quote`, behind a backslash that hides the next character. -/
  | hidden (quote : Quote)
  /-- A comment up to a line feed. -/
  | lineComment
  /-- A comment up to its closing mark. -/
  | blockComment
  /-- A comment up to its closing mark, behind a star. -/
  | star
  deriving DecidableEq

namespace SpecPlace

/-- Where a character `c` leads that no comment or text claims. -/
def opened (c : Char) : SpecPlace :=
  if c = '/' then slash
  else if h : c = '"' ∨ c = '\'' then text ⟨c, h⟩ else code

/-- Where the next character leads. -/
def step : SpecPlace → Char → SpecPlace
  | code, c => opened c
  | slash, c => if c = '/' then lineComment else if c = '*' then blockComment else opened c
  | text quote, c => if c = '\\' then hidden quote else if c = quote.char then code else text quote
  | hidden quote, _ => text quote
  | lineComment, c => if c = '\n' then code else lineComment
  | blockComment, c => if c = '*' then star else blockComment
  | star, c => if c = '/' then code else if c = '*' then star else blockComment

/-- Where the text `s` leads from `place`. -/
def after (place : SpecPlace) (s : List Char) : SpecPlace :=
  s.foldl step place

/-- Where the lexer is behind the text `s`. -/
def behind (s : List Char) : SpecPlace :=
  code.after s

/-- Whether a place is inside of a quoted text and not behind a backslash. -/
def isText : SpecPlace → Bool
  | text _ => true
  | _ => false

/-- What is written for the character `c` at `place`: an escape for a line feed in a quoted text,
and otherwise `c`. -/
def written (place : SpecPlace) (c : Char) : List Char :=
  if c = '\n' ∧ place.isText then ['\\', 'n'] else [c]

/-- What is written for a text that begins at a place. -/
def writtenFrom : SpecPlace → List Char → List Char
  | _, [] => []
  | place, c :: s => place.written c ++ writtenFrom (place.step c) s

variable {place : SpecPlace} {c : Char} {s t : List Char}

@[simp] theorem after_nil : place.after [] = place := rfl

@[simp] theorem after_cons : place.after (c :: s) = (place.step c).after s := rfl

theorem after_append : place.after (s ++ t) = (place.after s).after t :=
  List.foldl_append

@[simp] theorem writtenFrom_nil : place.writtenFrom [] = [] := rfl

@[simp] theorem writtenFrom_cons :
    place.writtenFrom (c :: s) = place.written c ++ (place.step c).writtenFrom s := rfl

theorem writtenFrom_append :
    place.writtenFrom (s ++ t) = place.writtenFrom s ++ (place.after s).writtenFrom t := by
  induction s generalizing place with
  | nil => rfl
  | cons c s ih => simp only [List.cons_append, writtenFrom_cons, after_cons, ih, List.append_assoc]

theorem written_of_ne (h : c ≠ '\n') : place.written c = [c] := by
  simp [written, h]

theorem written_of_not_isText (h : place.isText = false) : place.written c = [c] := by
  simp [written, h]

theorem written_newline (quote : Quote) : (text quote).written '\n' = ['\\', 'n'] := by
  simp [written, isText]

theorem opened_quote (h : c = '"' ∨ c = '\'') : opened c = text ⟨c, h⟩ := by
  have hslash : c ≠ '/' := by rcases h with rfl | rfl <;> decide
  rw [opened, if_neg hslash, dif_pos h]

theorem opened_eq_code (hslash : c ≠ '/') (hdouble : c ≠ '"') (hsingle : c ≠ '\'') :
    opened c = code := by
  simp [opened, hslash, hdouble, hsingle]

theorem step_text_eq {quote : Quote} (hbackslash : c ≠ '\\') (hquote : c ≠ quote.char) :
    (text quote).step c = text quote := by
  simp [step, hbackslash, hquote]

theorem step_text_quote (quote : Quote) : (text quote).step quote.char = code := by
  have hbackslash : quote.char ≠ '\\' := by rcases quote.char_eq with h | h <;> rw [h] <;> decide
  simp [step, hbackslash]

/-- A line feed does not end a quoted text. -/
theorem step_text_newline (quote : Quote) : (text quote).step '\n' = text quote :=
  step_text_eq (by decide) quote.char_ne_newline.symm

theorem step_text_backslash (quote : Quote) : (text quote).step '\\' = hidden quote := rfl

/-- What is written for `c` leads where `c` leads. -/
theorem after_written (place : SpecPlace) (c : Char) :
    place.after (place.written c) = place.step c := by
  unfold written
  split
  · rename_i h
    obtain ⟨rfl, htext⟩ := h
    cases place with
    | text quote => rw [step_text_newline]; rfl
    | _ => cases htext
  · rfl

/-- What is written for `s` leads where `s` leads. -/
theorem after_writtenFrom (place : SpecPlace) (s : List Char) :
    place.after (place.writtenFrom s) = place.after s := by
  induction s generalizing place with
  | nil => rfl
  | cons c s ih => rw [writtenFrom_cons, after_append, after_written, ih, after_cons]

/-- What is written for `c` is written once more as it is. -/
theorem writtenFrom_written (place : SpecPlace) (c : Char) :
    place.writtenFrom (place.written c) = place.written c := by
  unfold written
  split
  · rename_i h
    cases place with
    | text quote => rfl
    | _ => cases h.2
  · rename_i h
    rw [writtenFrom_cons, writtenFrom_nil, List.append_nil, written, if_neg h]

/-- Writing twice is writing once. -/
theorem writtenFrom_writtenFrom (place : SpecPlace) (s : List Char) :
    place.writtenFrom (place.writtenFrom s) = place.writtenFrom s := by
  induction s generalizing place with
  | nil => rfl
  | cons c s ih =>
    rw [writtenFrom_cons, writtenFrom_append, writtenFrom_written, after_written, ih]

/-- What is written for `s` is written for one character after the other, each at the place behind
those before it. -/
theorem writtenFrom_eq_flatMap (place : SpecPlace) (s : List Char) :
    place.writtenFrom s =
      (List.finRange s.length).flatMap fun i : Fin s.length =>
        (place.after (s.take i)).written s[i] := by
  induction s generalizing place with
  | nil => rfl
  | cons c s ih =>
    rw [writtenFrom_cons, ih]
    simp [List.finRange_succ, List.flatMap_map]

/-- Behind a slash all is as in code if no comment starts there. -/
theorem writtenFrom_slash (hslash : ∀ t, s ≠ '/' :: t) (hstar : ∀ t, s ≠ '*' :: t) :
    slash.writtenFrom s = code.writtenFrom s := by
  cases s with
  | nil => rfl
  | cons c s =>
    have hc : c ≠ '/' := fun h => hslash s (h ▸ rfl)
    have hc' : c ≠ '*' := fun h => hstar s (h ▸ rfl)
    simp [step, hc, hc', written, isText]

/-- Behind a star all is as in the comment if no slash follows. -/
theorem writtenFrom_star (hslash : ∀ t, s ≠ '/' :: t) :
    star.writtenFrom s = blockComment.writtenFrom s := by
  cases s with
  | nil => rfl
  | cons c s =>
    have hc : c ≠ '/' := fun h => hslash s (h ▸ rfl)
    simp [step, hc, written, isText]

end SpecPlace

/-- The scan is inside of what the lexer is inside of, between its looks ahead. -/
inductive SpecScan.Follows : SpecScan → SpecPlace → Prop where
  /-- Code. -/
  | code : Follows .code .code
  /-- A text in `quote`. -/
  | quoted (quote : Quote) : Follows (.quoted quote.char) (.text quote)
  /-- A comment up to the end of the line. -/
  | lineComment : Follows .lineComment .lineComment
  /-- A comment up to its closing mark. -/
  | blockComment : Follows .blockComment .blockComment

open SpecPlace in
/-- The scan of `s` writes what the places call for. -/
theorem escapeNewlinesFrom_eq {scan : SpecScan} {place : SpecPlace} (h : scan.Follows place)
    (s : List Char) : escapeNewlinesFrom scan s = place.writtenFrom s := by
  -- Where the scan looks ahead, the lexer has a place of its own: behind a backslash, a slash and a
  -- star. It has left the place when the scan goes on.
  fun_induction escapeNewlinesFrom scan s generalizing place with
  | case1 => rfl
  | case2 quote c s hc ih =>
    cases h with | quoted quote =>
    obtain rfl := eq_of_beq hc
    rw [writtenFrom_cons, written_newline, step_text_newline, ih (.quoted quote)]
    rfl
  | case3 quote c _ hc =>
    obtain rfl := eq_of_beq hc
    rw [writtenFrom_cons, writtenFrom_nil, written_of_ne (by decide), List.append_nil]
  | case4 quote c _ hc d s ih =>
    -- The character behind the backslash leads back into the text, whatever it is.
    cases h with | quoted quote =>
    obtain rfl := eq_of_beq hc
    rw [writtenFrom_cons, writtenFrom_cons, written_of_ne (by decide), step_text_backslash,
      written_of_not_isText rfl, ih (.quoted quote)]
    rfl
  | case5 quote c s hnewline hbackslash hc ih =>
    cases h with | quoted quote =>
    obtain rfl := eq_of_beq hc
    rw [beq_iff_eq] at hnewline hbackslash
    rw [writtenFrom_cons, written_of_ne hnewline, ih .code, step_text_quote]
    rfl
  | case6 quote c s hnewline hbackslash hc ih =>
    cases h with | quoted quote =>
    rw [beq_iff_eq] at hnewline hbackslash hc
    rw [writtenFrom_cons, written_of_ne hnewline, ih (.quoted quote), step_text_eq hbackslash hc]
    rfl
  | case7 c s ih =>
    cases h
    rw [writtenFrom_cons, written_of_not_isText rfl]
    by_cases hc : c = '\n'
    · simp only [hc, beq_self_eq_true, if_true] at ih ⊢
      rw [ih .code]
      rfl
    · simp only [beq_iff_eq, hc, if_false] at ih ⊢
      rw [ih .lineComment]
      simp [step, hc]
  | case8 s ih =>
    cases h
    rw [ih .code]
    rfl
  | case9 c s hclosing ih =>
    cases h
    rw [writtenFrom_cons, written_of_not_isText rfl, ih .blockComment]
    -- A star that closes nothing may be followed by one that does.
    by_cases hc : c = '*'
    · subst hc
      rw [← writtenFrom_star fun t => hclosing t rfl]
      rfl
    · simp [step, hc]
  | case10 s ih =>
    cases h
    rw [ih .blockComment]
    rfl
  | case11 s ih =>
    cases h
    rw [ih .lineComment]
    rfl
  | case12 c s hstar hslash ih =>
    cases h
    rw [writtenFrom_cons, written_of_not_isText rfl]
    -- A slash that opens nothing may be followed by one that does.
    by_cases hc : c = '/'
    · subst hc
      rw [show code.step '/' = slash from rfl,
        writtenFrom_slash (fun t => hslash t rfl) fun t => hstar t rfl, ← ih .code]
      rfl
    by_cases hquote : c = '"' ∨ c = '\''
    · rw [if_pos (by simpa using hquote)] at ih ⊢
      rw [step, opened_quote hquote, ih (.quoted ⟨c, hquote⟩)]
      rfl
    · rw [if_neg (by simpa using hquote)] at ih ⊢
      rw [step, opened_eq_code hc (hquote ∘ .inl) (hquote ∘ .inr), ih .code]
      rfl

open SpecPlace in
/-- What is written for `text` is what the places of its characters call for. -/
theorem toList_escapeNewlines (text : String) :
    (escapeNewlines text).toList = code.writtenFrom text.toList := by
  rw [escapeNewlines, String.toList_ofList, escapeNewlinesFrom_eq .code]

open SpecPlace in
/-- The line feeds of `text` that are written as escapes are those that a lexer meets inside of a
quoted text and not behind a backslash. All other characters stay, in their order. The lexer ends
where it did, and once the escapes are written the scan leaves the text as it is. -/
theorem escapeNewlines_places (text : String) :
    let s := text.toList
    (escapeNewlines text).toList =
        ((List.finRange s.length).flatMap fun i : Fin s.length =>
          if s[i] = '\n' ∧ (behind (s.take i)).isText then ['\\', 'n'] else [s[i]]) ∧
      behind (escapeNewlines text).toList = behind s ∧
      escapeNewlines (escapeNewlines text) = escapeNewlines text := by
  intro s
  refine ⟨?_, ?_, ?_⟩
  · rw [toList_escapeNewlines, writtenFrom_eq_flatMap]
    rfl
  · rw [toList_escapeNewlines]
    exact after_writtenFrom code s
  · rw [← String.toList_inj, toList_escapeNewlines, toList_escapeNewlines,
      writtenFrom_writtenFrom]

/-- The line feed in the quoted text is written as an escape. The one behind the backslash stays, as
does the one that ends the comment with a quote in it. -/
example : escapeNewlines "\x7b // it's\n a: 'x\ny\\\nz' \x7d" =
    "\x7b // it's\n a: 'x\\ny\\\nz' \x7d" := by
  decide +kernel

end Promptbook.Builtin
