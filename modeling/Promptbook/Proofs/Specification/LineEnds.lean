import Promptbook.Proofs.Specification.Lexing

/-!
# Line Ends of Specifications

A specification can be saved with a carriage return in front of every line feed. It is then read as
it was, unless one of its lines ends in a quoted text. There the escape is written for the line feed
only. The carriage return stays in the text, which may have none, or it is what a backslash in front
of it hides, and then the line feed counts.

## Main definitions

* `SpecPlace.Meets`: a text has a certain character at a certain place.
* `SpecPlace.respelledFrom`: the text with a line feed that counts in place of each one that a
  backslash hides.

## Main results

* `Json.Relaxed.InStep.outcome_of_breaks`, `Json.Relaxed.InStep.outcome_of_not_breaks`: what the
  lexer finds in a text with carriage returns.
* `FieldSpec.ofArgument_withReturns`: when a specification does not depend on its line ends, and
  what becomes of it when it does.
-/

namespace Promptbook.Builtin

open Json.Relaxed (withReturns IsSeparator InStep Lexer)

namespace SpecPlace

/-- Whether a place is in a quoted text behind a backslash. -/
def isHidden : SpecPlace → Bool
  | hidden _ => true
  | _ => false

/-- At `place`, the character `c` is a line feed in a quoted text. -/
def Breaks (place : SpecPlace) (c : Char) : Prop :=
  c = '\n' ∧ place.isText

/-- At `place`, the character `c` is a line feed in a quoted text that a backslash hides. -/
def Continues (place : SpecPlace) (c : Char) : Prop :=
  c = '\n' ∧ place.isHidden

/-- At `place`, the character `c` is a separator in a comment that goes on behind it. -/
def Separates (place : SpecPlace) (c : Char) : Prop :=
  place = lineComment ∧ IsSeparator c

instance : DecidableRel Breaks := fun _ _ => inferInstanceAs (Decidable (_ ∧ _))

instance : DecidableRel Continues := fun _ _ => inferInstanceAs (Decidable (_ ∧ _))

instance : DecidableRel Separates := fun place c =>
  inferInstanceAs (Decidable (place = lineComment ∧ (c = '\u2028' ∨ c = '\u2029')))

/-- The text `s`, which begins at `place`, has a character at some place such that `P` holds of
both. -/
def Meets (P : SpecPlace → Char → Prop) (place : SpecPlace) (s : List Char) : Prop :=
  ∃ before c behind, s = before ++ c :: behind ∧ P (place.after before) c

variable {P : SpecPlace → Char → Prop} {place : SpecPlace} {c : Char} {s : List Char}

@[simp] theorem not_meets_nil : ¬ Meets P place [] := by
  rintro ⟨before, c, behind, h, -⟩
  simp at h

@[simp] theorem meets_cons : Meets P place (c :: s) ↔ P place c ∨ Meets P (place.step c) s := by
  constructor
  · rintro ⟨before, d, behind, h, hP⟩
    cases before with
    | nil =>
      cases h
      exact .inl hP
    | cons e before =>
      obtain ⟨rfl, rfl⟩ := List.cons.inj h
      exact .inr ⟨before, d, behind, rfl, hP⟩
  · rintro (hP | ⟨before, d, behind, rfl, hP⟩)
    · exact ⟨[], c, s, rfl, hP⟩
    · exact ⟨c :: before, d, behind, rfl, hP⟩

instance Meets.decide [DecidableRel P] : (place : SpecPlace) → (s : List Char) →
    Decidable (Meets P place s)
  | _, [] => isFalse not_meets_nil
  | place, c :: s =>
    have := Meets.decide (place.step c) s
    decidable_of_iff _ meets_cons.symm

/-- What stands for the character `c` where no backslash hides a line feed: for one that is hidden
the letter of its escape, and otherwise `c`. -/
def respelled (place : SpecPlace) (c : Char) : Char :=
  if c = '\n' ∧ place.isHidden then 'n' else c

/-- The text in which no backslash hides a line feed. -/
def respelledFrom : SpecPlace → List Char → List Char
  | _, [] => []
  | place, c :: s => place.respelled c :: respelledFrom (place.step c) s

theorem respelled_of_ne (h : c ≠ '\n') : place.respelled c = c := by
  simp [respelled, h]

theorem respelled_ne_return (h : c ≠ '\r') : place.respelled c ≠ '\r' := by
  unfold respelled
  split
  · decide
  · exact h

/-- A character `c` leads where it leads when it is respelled. -/
theorem step_respelled (place : SpecPlace) (c : Char) :
    place.step (place.respelled c) = place.step c := by
  cases place with
  | hidden quote => rfl
  | _ => rw [respelled, if_neg fun h => Bool.false_ne_true h.2]

theorem not_separates_respelled (h : ¬ place.Separates c) :
    ¬ place.Separates (place.respelled c) := by
  rintro ⟨rfl, hc⟩
  rw [respelled, if_neg fun h => Bool.false_ne_true h.2] at hc
  exact h ⟨rfl, hc⟩

/-- Before a line feed a carriage return leads nowhere. -/
theorem step_return_newline (place : SpecPlace) :
    (place.step '\r').step '\n' = place.step '\n' := by
  cases place with
  | text quote =>
    rw [step_text_eq (by decide)]
    rcases quote.char_eq with h | h <;> rw [h] <;> decide
  | hidden quote => exact step_text_newline quote
  | _ => rfl

/-- A carriage return takes the lexer back into the quoted text, if a backslash has hidden it
there. -/
theorem isText_step_return (place : SpecPlace) :
    (place.step '\r').isText = (place.isText || place.isHidden) := by
  cases place with
  | text quote =>
    rw [step_text_eq (by decide)]
    · rfl
    · rcases quote.char_eq with h | h <;> rw [h] <;> decide
  | _ => rfl

/-- What is written for the end of a line, and then for the rest `s`. -/
theorem writtenFrom_return : place.writtenFrom ('\r' :: '\n' :: s) =
    '\r' :: ((place.step '\r').written '\n' ++ (place.step '\n').writtenFrom s) := by
  rw [writtenFrom_cons, writtenFrom_cons, written_of_ne (by decide), step_return_newline]
  rfl

theorem written_of_not_breaks (h : ¬ place.Breaks c) : place.written c = [c] :=
  if_neg h

/-- A text `s` stays as it is if no line feed is in a quoted text. -/
theorem writtenFrom_eq_self (h : ¬ Meets Breaks place s) : place.writtenFrom s = s := by
  induction s generalizing place with
  | nil => rfl
  | cons c s ih =>
    rw [meets_cons, not_or] at h
    rw [writtenFrom_cons, ih h.2, written_of_not_breaks h.1]
    rfl

/-- With carriage returns, `s` stays as it is if no backslash hides a line feed either. -/
theorem writtenFrom_withReturns (hbreaks : ¬ Meets Breaks place s)
    (hcontinues : ¬ Meets Continues place s) :
    place.writtenFrom (withReturns s) = withReturns s := by
  induction s generalizing place with
  | nil => rfl
  | cons c s ih =>
    rw [meets_cons, not_or] at hbreaks hcontinues
    by_cases hc : c = '\n'
    · subst hc
      have hplace : (place.step '\r').isText = false := by
        rw [isText_step_return]
        simpa [Breaks, Continues] using And.intro hbreaks.1 hcontinues.1
      rw [Json.Relaxed.withReturns_newline, writtenFrom_return, ih hbreaks.2 hcontinues.2,
        written_of_not_isText hplace]
      rfl
    · rw [Json.Relaxed.withReturns_cons hc, writtenFrom_cons, written_of_ne hc,
        ih hbreaks.2 hcontinues.2]
      rfl

/-- If no line feed of `s` is in a quoted text, nothing is written in the respelled text either. -/
theorem writtenFrom_respelledFrom (h : ¬ Meets Breaks place s) :
    place.writtenFrom (place.respelledFrom s) = place.respelledFrom s := by
  induction s generalizing place with
  | nil => rfl
  | cons c s ih =>
    rw [meets_cons, not_or] at h
    have hbreaks : ¬ place.Breaks (place.respelled c) := by
      rintro ⟨hc, htext⟩
      cases place with
      | text quote =>
        rw [respelled, if_neg fun h => Bool.false_ne_true h.2] at hc
        exact h.1 ⟨hc, htext⟩
      | _ => cases htext
    rw [respelledFrom, writtenFrom_cons, step_respelled, ih h.2, written_of_not_breaks hbreaks]
    rfl

end SpecPlace

end Promptbook.Builtin

namespace Promptbook.Json.Relaxed.InStep

open Builtin (Quote SpecPlace)
open Builtin.SpecPlace (Meets Breaks Continues Separates)

variable {number? : List Char → Option Value} {lexer next : Lexer} {place : SpecPlace} {c : Char}
  {s : List Char}

/-- A hidden carriage return with an escaped line feed behind it is as good as the escaped line
feed. -/
theorem outcome_hidden_return {quote : Quote} (h : InStep (.hidden quote) lexer.mode) :
    lexer.outcome number? ('\r' :: '\\' :: 'n' :: s) = lexer.outcome number? ('n' :: s) := by
  obtain ⟨mode, tokens⟩ := lexer
  cases h with
  | escape quote chars =>
    rw [Lexer.outcome_of_step ⟨.carriage quote.char chars, tokens⟩ rfl,
      Lexer.outcome_of_step ⟨.escape quote.char chars, tokens⟩ ?_]
    rcases quote.char_eq with h | h <;> rw [h] <;> rfl
  | trail => rw [Lexer.outcome_of_step_eq_none rfl, Lexer.outcome_of_step_eq_none rfl]

/-- A character `c` is written as it is respelled, with or without a carriage return, unless it ends
a line in a quoted text. -/
theorem outcome_written (h : InStep place lexer.mode) (hbreaks : ¬ Breaks place c) :
    lexer.outcome number? (place.writtenFrom (withReturns (c :: s))) =
      lexer.outcome number? (place.respelled c :: (place.step c).writtenFrom (withReturns s)) := by
  by_cases hc : c = '\n'
  · subst hc
    rw [withReturns_newline, SpecPlace.writtenFrom_return]
    -- Only where a backslash hides the carriage return, the line feed is not what it was.
    cases place with
    | text quote => exact absurd ⟨rfl, rfl⟩ hbreaks
    | hidden quote => exact h.outcome_hidden_return
    | _ => exact h.outcome_return
  · rw [withReturns_cons hc, SpecPlace.writtenFrom_cons, SpecPlace.written_of_ne hc,
      SpecPlace.respelled_of_ne hc]
    rfl

/-- Behind a character `c` that ends no comment early, the lexer is at the next place or finds
nothing. -/
theorem step_or_outcome (h : InStep place lexer.mode) (hc : c ≠ '\r')
    (hseparates : ¬ Separates place c) (hnext : lexer.step number? c = some next) :
    InStep (place.step c) next.mode ∨ ∀ s, next.outcome number? s = none := by
  cases h.step hc hnext with
  | inStep h => exact .inl h
  | foreign hdigits hmem hc => exact .inr fun _ => Lexer.outcome_of_not_isHex hdigits hmem hc
  | separated hplace hc => exact absurd ⟨hplace, hc⟩ hseparates

/-- If a line of `s` ends in a quoted text, the lexer finds nothing once there are carriage
returns. -/
theorem outcome_of_breaks (h : InStep place lexer.mode) (hs : '\r' ∉ s)
    (hseparates : ¬ Meets Separates place s) (hbreaks : Meets Breaks place s) :
    lexer.outcome number? (place.writtenFrom (withReturns s)) = none := by
  -- Up to the first such line the lexer goes from place to place. If it gets there, it stops.
  induction s generalizing place lexer with
  | nil => exact absurd hbreaks SpecPlace.not_meets_nil
  | cons c s ih =>
    obtain ⟨hc, hs⟩ := List.ne_and_not_mem_of_not_mem_cons hs
    rw [SpecPlace.meets_cons, not_or] at hseparates
    by_cases hhere : Breaks place c
    · -- The carriage return is left in front of the escape.
      obtain ⟨rfl, htext⟩ := hhere
      cases place with
      | text quote =>
        rw [withReturns_newline, SpecPlace.writtenFrom_return]
        exact h.outcome_of_text (.inl rfl)
      | _ => cases htext
    rw [SpecPlace.meets_cons, or_iff_right hhere] at hbreaks
    rw [h.outcome_written hhere, Lexer.outcome_cons, Option.bind_eq_none_iff]
    intro next hnext
    rcases h.step_or_outcome (SpecPlace.respelled_ne_return (Ne.symm hc))
      (SpecPlace.not_separates_respelled hseparates.1) hnext with hplace | hnone
    · rw [SpecPlace.step_respelled] at hplace
      exact ih hplace hs hseparates.2 hbreaks
    · exact hnone _

/-- If no line of `s` ends in a quoted text, the lexer finds what it finds where no backslash hides
a line feed. -/
theorem outcome_of_not_breaks (h : InStep place lexer.mode) (hs : '\r' ∉ s)
    (hseparates : ¬ Meets Separates place s) (hbreaks : ¬ Meets Breaks place s) :
    lexer.outcome number? (place.writtenFrom (withReturns s)) =
      lexer.outcome number? (place.respelledFrom s) := by
  induction s generalizing place lexer with
  | nil => rfl
  | cons c s ih =>
    obtain ⟨hc, hs⟩ := List.ne_and_not_mem_of_not_mem_cons hs
    rw [SpecPlace.meets_cons, not_or] at hseparates hbreaks
    rw [h.outcome_written hbreaks.1, SpecPlace.respelledFrom, Lexer.outcome_cons,
      Lexer.outcome_cons]
    refine Option.bind_congr fun next hnext => ?_
    rcases h.step_or_outcome (SpecPlace.respelled_ne_return (Ne.symm hc))
      (SpecPlace.not_separates_respelled hseparates.1) hnext with hplace | hnone
    · rw [SpecPlace.step_respelled] at hplace
      exact ih hplace hs hseparates.2 hbreaks.2
    · rw [hnone, hnone]

end Promptbook.Json.Relaxed.InStep

namespace Promptbook.Builtin.FieldSpec

open Json.Relaxed (withReturns tokens? tokens?_withReturns specifiedNumber? InStep)
open SpecPlace (Meets Breaks Continues Separates)

variable {key : String} {s t : List Char}

/-- The tokens that a specification is read from. -/
theorem specification?_escapeNewlines (s : List Char) :
    Json.Relaxed.specification? (escapeNewlines (String.ofList s)) =
      (tokens? specifiedNumber? (SpecPlace.code.writtenFrom s)).bind
        Json.Relaxed.dialect.document? := by
  rw [Json.Relaxed.specification?, toList_escapeNewlines, String.toList_ofList]

/-- Specifications with the same tokens say the same. -/
theorem ofArgument_congr
    (h : tokens? specifiedNumber? (SpecPlace.code.writtenFrom s) =
      tokens? specifiedNumber? (SpecPlace.code.writtenFrom t)) :
    ofArgument key (.string (String.ofList s)) = ofArgument key (.string (String.ofList t)) := by
  have hread : read? (String.ofList s) = read? (String.ofList t) := by
    rw [read?, read?, specification?_escapeNewlines, specification?_escapeNewlines, h]
  rw [ofArgument, ofArgument, hread]

/-- A text without tokens is no specification. -/
theorem ofArgument_of_tokens?_eq_none
    (h : tokens? specifiedNumber? (SpecPlace.code.writtenFrom s) = none) :
    ofArgument key (.string (String.ofList s)) =
      .error (.fieldSpec key "not an object literal of this form") := by
  have hread : read? (String.ofList s) = none := by
    rw [read?, specification?_escapeNewlines, h]
    rfl
  rw [ofArgument, hread]

/-- When the line ends of a specification `s` matter. It says the same with a carriage return in
front of every line feed, or is refused like before, if no line ends in a quoted text. If one does,
and no comment has a separator in it that ends it too early, then the specification is refused with
carriage returns when the end of a line there counts, whatever it said without them. When all of
them are hidden by backslashes, it says what it would say with line feeds that count in their
place. -/
theorem ofArgument_withReturns (key : String) (s : List Char) (hs : '\r' ∉ s) :
    (¬ Meets Breaks .code s → ¬ Meets Continues .code s →
        ofArgument key (.string (String.ofList (withReturns s))) =
          ofArgument key (.string (String.ofList s))) ∧
      (¬ Meets Separates .code s → Meets Breaks .code s →
        ofArgument key (.string (String.ofList (withReturns s))) =
          .error (.fieldSpec key "not an object literal of this form")) ∧
      (¬ Meets Separates .code s → ¬ Meets Breaks .code s →
        ofArgument key (.string (String.ofList (withReturns s))) =
          ofArgument key (.string (String.ofList (SpecPlace.code.respelledFrom s)))) := by
  have hstart : InStep .code (Json.Relaxed.Lexer.mk .between []).mode := .code trivial
  refine ⟨fun hbreaks hcontinues => ?_, fun hseparates hbreaks => ?_, fun hseparates hbreaks => ?_⟩
  · -- Nothing is written for either text, so that places do not matter, nor do separators.
    refine ofArgument_congr ?_
    rw [SpecPlace.writtenFrom_withReturns hbreaks hcontinues, SpecPlace.writtenFrom_eq_self hbreaks]
    exact tokens?_withReturns _ hs
  · exact ofArgument_of_tokens?_eq_none (hstart.outcome_of_breaks hs hseparates hbreaks)
  · refine ofArgument_congr ?_
    rw [SpecPlace.writtenFrom_respelledFrom hbreaks]
    exact hstart.outcome_of_not_breaks hs hseparates hbreaks

/-- Line ends between tokens do not matter. The end of a line in a label has the specification
refused, and behind a backslash it comes to stand in a default that has none. -/
theorem ofArgument_withReturns_three_ways :
    ofArgument "f" (.string "\x7b label: 'two', // lines\r\n type: 'text' \x7d") =
        ofArgument "f" (.string "\x7b label: 'two', // lines\n type: 'text' \x7d") ∧
      ofArgument "f" (.string "\x7b label: 'two\r\nlines' \x7d") =
        .error (.fieldSpec "f" "not an object literal of this form") ∧
      ofArgument "f" (.string "\x7b default: 'one \\\r\nline' \x7d") =
        ofArgument "f" (.string "\x7b default: 'one \\nline' \x7d") :=
  ⟨(ofArgument_withReturns "f" "\x7b label: 'two', // lines\n type: 'text' \x7d".toList
      (by decide +kernel)).1 (by decide +kernel) (by decide +kernel),
    (ofArgument_withReturns "f" "\x7b label: 'two\nlines' \x7d".toList (by decide +kernel)).2.1
      (by decide +kernel) (by decide +kernel),
    (ofArgument_withReturns "f" "\x7b default: 'one \\\nline' \x7d".toList (by decide +kernel)).2.2
      (by decide +kernel) (by decide +kernel)⟩

/-- What a specification says depends on its line ends: a label that spans lines is accepted only
without carriage returns, and a default with a hidden line end in it has a line feed only with
them. -/
theorem ofArgument_depends_on_line_ends :
    (ofArgument "f" (.string "\x7b label: 'two\nlines' \x7d")).toOption =
        some ⟨none, some "two\nlines", none, none⟩ ∧
      (ofArgument "f" (.string "\x7b label: 'two\r\nlines' \x7d")).toOption = none ∧
      (ofArgument "f" (.string "\x7b default: 'one \\\nline' \x7d")).toOption =
        some ⟨some (.string "one line"), none, none, none⟩ ∧
      (ofArgument "f" (.string "\x7b default: 'one \\\r\nline' \x7d")).toOption =
        some ⟨some (.string "one \nline"), none, none, none⟩ := by
  decide +kernel

end Promptbook.Builtin.FieldSpec
