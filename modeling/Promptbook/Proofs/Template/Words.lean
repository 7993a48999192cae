import Promptbook.Proofs.Directive.Readers
import Promptbook.Template.Element

/-!
# What the Readers of Words Take

Every reader of the template language takes a stretch from the front of a text and leaves what
follows it. Here it is said where the variables of an expression stand in the stretch: behind a
stretch in which every quote is closed, at a place where a name may start, and up to a place where
the name cannot go on. A hyphen behind a name is the one of a closing delimiter. No reader of words
gets past it, nor past a character that is foreign to words.

## Main definitions

* `EndsName`: a name cannot go on here.
* `Stuck`: no reader of words goes on here.
* `Balanced`: every quote in a text is closed.
* `Stands`: where a name stands that has been read.
* `Expression.roots`: the variables of an expression, those of its indexes among them.

## Main results

* `identifier?_eq_some`: what is read as a name.
* `readsValue_of_expression?`: what is read as an expression, and where its variables stand.
-/

namespace Promptbook.Template

mutual

/-- The variables of an expression, those of its indexes among them. -/
def Expression.roots : Expression → List String
  | .literal _ => []
  | .variable root indexes => root :: rootsOfAll indexes

/-- The variables of expressions. -/
def rootsOfAll : List Expression → List String
  | [] => []
  | e :: rest => e.roots ++ rootsOfAll rest

end

/-- The variable at the head of an expression. -/
def Expression.head? : Expression → Option String
  | .literal _ => none
  | .variable root _ => some root

/-- The character `c` continues a name, unless it is the hyphen of a closing delimiter. -/
def continuesName (c : Char) : Bool :=
  c.isAlphanum || c == '_' || c == '-'

/-- The character `c` starts a name, unless it is the hyphen of a closing delimiter. -/
def startsName (c : Char) : Bool :=
  c.isAlpha || c == '_' || c == '-'

/-- A name cannot go on with `s`: if a hyphen stands there, it closes an output or a tag. -/
def EndsName (s : List Char) : Prop :=
  ∀ c rest, s = c :: rest → continuesName c = true → c = '-' ∧ closesHere rest = true

theorem endsName_nil : EndsName [] := nofun

theorem continuesName_of_startsName {c : Char} (h : startsName c = true) :
    continuesName c = true := by
  unfold startsName at h
  unfold continuesName Char.isAlphanum
  grind

/-- Names are made of ASCII. -/
theorem toNat_lt_of_continuesName {c : Char} (h : continuesName c = true) : c.toNat < 128 := by
  unfold continuesName Char.isAlphanum Char.isAlpha Char.isUpper Char.isLower Char.isDigit at h
  simp only [Bool.or_eq_true, Bool.and_eq_true, decide_eq_true_eq, beq_iff_eq,
    UInt32.le_iff_toNat_le] at h
  rcases h with (((h | h) | h) | rfl) | rfl
  · exact Nat.lt_of_le_of_lt h.2 (by decide)
  · exact Nat.lt_of_le_of_lt h.2 (by decide)
  · exact Nat.lt_of_le_of_lt h.2 (by decide)
  · decide
  · decide

/-- The rest of a name is read up to where a name cannot go on. -/
theorem identifierRest_eq {s name rest : List Char} (h : identifierRest s = (name, rest)) :
    s = name ++ rest ∧ (∀ c ∈ name, continuesName c = true) ∧ EndsName rest := by
  induction s generalizing name with
  | nil =>
    cases h
    exact ⟨rfl, nofun, endsName_nil⟩
  | cons c s ih =>
    unfold identifierRest at h
    split at h
    · next hc =>
      obtain ⟨rfl, rfl⟩ := Prod.mk.inj h
      obtain ⟨hs, hname, hrest⟩ := ih rfl
      refine ⟨by rw [List.cons_append, ← hs], List.forall_mem_cons.2 ⟨?_, hname⟩, hrest⟩
      unfold continuesName
      grind
    · next hc =>
      -- The reader stops here, and only the hyphen of a closing delimiter might go on the name.
      cases h
      refine ⟨rfl, nofun, ?_⟩
      intro d rest heq hd
      obtain ⟨rfl, rfl⟩ := List.cons.inj heq
      unfold continuesName at hd
      grind

/-- A name is read as a letter, an underscore or a hyphen, and what continues it. -/
theorem identifier?_eq_some {s rest : List Char} {name : String}
    (h : identifier? s = some (name, rest)) :
    s = name.toList ++ rest ∧ (∃ c more, name.toList = c :: more ∧ startsName c = true) ∧
      (∀ c ∈ name.toList, continuesName c = true) ∧ EndsName rest := by
  cases s with
  | nil => cases h
  | cons c s =>
    simp only [identifier?] at h
    split at h
    · next hc =>
      obtain ⟨rfl, rfl⟩ := Prod.mk.inj (Option.some.inj h)
      obtain ⟨hs, hname, hrest⟩ := @identifierRest_eq s _ _ rfl
      have hstart : startsName c = true := by
        unfold startsName
        grind
      rw [String.toList_ofList]
      refine ⟨by rw [List.cons_append, ← hs], ⟨c, _, rfl, hstart⟩, ?_, hrest⟩
      exact List.forall_mem_cons.2 ⟨continuesName_of_startsName hstart, hname⟩
    · cases h

/-- Every quote in a text is closed. -/
inductive Balanced : List Char → Prop where
  /-- There is nothing to close. -/
  | nil : Balanced []
  /-- A character `c` that is no quote. -/
  | plain {c : Char} {s : List Char} (hc : ¬ Grammar.IsQuote c) (h : Balanced s) : Balanced (c :: s)
  /-- A `text` in quotes. -/
  | quoted {quote : Char} {text s : List Char} (hquote : Grammar.IsQuote quote)
      (htext : quote ∉ text) (h : Balanced s) : Balanced (quote :: (text ++ quote :: s))

theorem Balanced.append {s t : List Char} (hs : Balanced s) (ht : Balanced t) :
    Balanced (s ++ t) := by
  induction hs with
  | nil => exact ht
  | plain hc _ ih => exact .plain hc ih
  | quoted hquote htext _ ih =>
    rw [List.cons_append, List.append_assoc]
    exact .quoted hquote htext ih

theorem Balanced.of_cons {c : Char} {s : List Char} (h : Balanced (c :: s))
    (hc : ¬ Grammar.IsQuote c) : Balanced s := by
  cases h with
  | plain _ h => exact h
  | quoted hquote => exact absurd hquote hc

theorem balanced_of_forall {s : List Char} (h : ∀ c ∈ s, ¬ Grammar.IsQuote c) : Balanced s := by
  induction s with
  | nil => exact .nil
  | cons c s ih =>
    obtain ⟨hc, hs⟩ := List.forall_mem_cons.1 h
    exact .plain hc (ih hs)

theorem not_isQuote_of_continuesName {c : Char} (h : continuesName c = true) :
    ¬ Grammar.IsQuote c := by
  rintro (rfl | rfl) <;> cases h

theorem balanced_of_continuesName {s : List Char} (h : ∀ c ∈ s, continuesName c = true) :
    Balanced s :=
  balanced_of_forall fun c hc => not_isQuote_of_continuesName (h c hc)

theorem isGap_iff {c : Char} : isGap c = true ↔ c = ' ' ∨ c = '\n' ∨ c = '\r' := by
  simp only [isGap, Bool.or_eq_true, beq_iff_eq, or_assoc]

theorem not_isQuote_of_isGap {c : Char} (h : isGap c = true) : ¬ Grammar.IsQuote c := by
  rintro (rfl | rfl) <;> cases h

theorem isPlainSpace_of_isGap {c : Char} (h : isGap c = true) : Text.isPlainSpace c = true := by
  rcases isGap_iff.1 h with rfl | rfl | rfl <;> rfl

theorem not_continuesName_of_isGap {c : Char} (h : isGap c = true) : ¬ continuesName c = true := by
  rcases isGap_iff.1 h with rfl | rfl | rfl <;> decide

/-- A text `s` is the blanks at its start that are skipped, and what is left. -/
theorem exists_gap (s : List Char) :
    ∃ gap, (∀ c ∈ gap, isGap c = true) ∧ s = gap ++ skipGap s :=
  Text.exists_eq_append_dropWhile isGap s

theorem balanced_gap {gap : List Char} (h : ∀ c ∈ gap, isGap c = true) : Balanced gap :=
  balanced_of_forall fun c hc => not_isQuote_of_isGap (h c hc)

theorem after?_eq_some {text : String} {s rest : List Char} :
    after? text s = some rest ↔ s = text.toList ++ rest :=
  Text.restAfter?_eq_some

section Literals

variable {s rest : List Char} {operand : Operand}

theorem exists_word? {words : List (String × Operand)} (h : word? words s = some (operand, rest)) :
    ∃ word ∈ words.map Prod.fst, s = word.toList ++ rest := by
  obtain ⟨⟨word, operand'⟩, hmem, hfound⟩ := List.exists_of_findSome?_eq_some h
  obtain ⟨rest', hafter, heq⟩ := Option.map_eq_some_iff.1 hfound
  cases heq
  exact ⟨word, List.mem_map_of_mem hmem, after?_eq_some.1 hafter⟩

/-- Texts in quotes are the same in templates as in the arguments of directives. -/
theorem quotedLiteral?_eq (s : List Char) :
    quotedLiteral? s = (Grammar.quoted? s).map fun (text, rest) =>
      (.value (.string (String.ofList text)), rest) := by
  cases s with
  | nil => rfl
  | cons quote s =>
    simp only [quotedLiteral?, Grammar.quoted?]
    split
    · cases s.dropWhile (· != quote) <;> rfl
    · rfl

theorem exists_quotedLiteral? (h : quotedLiteral? s = some (operand, rest)) :
    ∃ quote text, Grammar.IsQuote quote ∧ quote ∉ text ∧ s = quote :: (text ++ quote :: rest) := by
  rw [quotedLiteral?_eq] at h
  obtain ⟨⟨text, rest'⟩, hquoted, heq⟩ := Option.map_eq_some_iff.1 h
  cases heq
  obtain ⟨quote, hquote, htext, rfl⟩ := Grammar.quoted?_eq_some.1 hquoted
  exact ⟨quote, text, hquote, htext, rfl⟩

/-- The character `c` may stand in a number. -/
def IsNumeral (c : Char) : Prop :=
  c = '-' ∨ c = '+' ∨ c = '.' ∨ c.isDigit = true

theorem not_isQuote_of_isNumeral {c : Char} (h : IsNumeral c) : ¬ Grammar.IsQuote c := by
  rintro (rfl | rfl) <;> simp [IsNumeral] at h

theorem exists_takeSign (s : List Char) :
    ∃ sign, (∀ c ∈ sign, IsNumeral c) ∧ s = sign ++ (Decimal.Numeral.takeSign s).2 := by
  unfold Decimal.Numeral.takeSign
  split
  · exact ⟨['-'], by simp [IsNumeral], rfl⟩
  · exact ⟨['+'], by simp [IsNumeral], rfl⟩
  · exact ⟨[], nofun, rfl⟩

theorem exists_digits (s : List Char) :
    ∃ digits, (∀ c ∈ digits, IsNumeral c) ∧ s = digits ++ s.dropWhile Char.isDigit := by
  obtain ⟨digits, hdigits, heq⟩ := Text.exists_eq_append_dropWhile Char.isDigit s
  exact ⟨digits, fun c hc => .inr (.inr (.inr (hdigits c hc))), heq⟩

/-- A number is made of a sign, digits, and a point and digits behind it. -/
theorem exists_numberLiteral? (h : numberLiteral? s = some (operand, rest)) :
    ∃ used, (∀ c ∈ used, IsNumeral c) ∧ s = used ++ rest := by
  obtain ⟨sign, hsign, hs⟩ := exists_takeSign s
  obtain ⟨whole, hwhole, hunsigned⟩ := exists_digits (Decimal.Numeral.takeSign s).2
  have hfirst : ∀ c ∈ sign ++ whole, IsNumeral c :=
    fun c hc => (List.mem_append.1 hc).elim (hsign c) (hwhole c)
  have hsplit : s = sign ++ whole ++ (Decimal.Numeral.takeSign s).2.dropWhile Char.isDigit := by
    rw [List.append_assoc, ← hunsigned]
    exact hs
  unfold numberLiteral? at h
  simp only at h
  split at h
  · cases h
  · split at h
    · next behind hpoint =>
      split at h
      · obtain ⟨-, heq⟩ := Option.ite_none_right_eq_some.1 h
        cases heq
        exact ⟨_, hfirst, hsplit⟩
      · -- The number goes on behind the point.
        cases h
        obtain ⟨fraction, hfraction, hbehind⟩ := exists_digits behind
        rw [hpoint] at hsplit
        refine ⟨sign ++ whole ++ '.' :: fraction, fun c hc => ?_, ?_⟩
        · rcases List.mem_append.1 hc with hc | hc
          · exact hfirst c hc
          · rcases List.mem_cons.1 hc with rfl | hc
            · exact .inr (.inr (.inl rfl))
            · exact hfraction c hc
        · rw [List.append_assoc, List.cons_append, ← hbehind]
          exact hsplit
    · obtain ⟨-, heq⟩ := Option.ite_none_right_eq_some.1 h
      cases heq
      exact ⟨_, hfirst, hsplit⟩

/-- The words that are literals are made of letters. -/
theorem isAlpha_of_mem_word {words : List (String × Operand)}
    (hwords : words = literalWords ∨ words = truthWords) :
    ∀ word ∈ words.map Prod.fst, word.toList.all Char.isAlpha = true := by
  rcases hwords with rfl | rfl <;> decide

/-- The quotes of a literal are closed. -/
theorem exists_literal? (h : literal? s = some (operand, rest)) :
    ∃ used, s = used ++ rest ∧ Balanced used := by
  have hword : ∀ {words : List (String × Operand)}, words = literalWords ∨ words = truthWords →
      word? words s = some (operand, rest) → ∃ used, s = used ++ rest ∧ Balanced used := by
    intro words hwords hfound
    obtain ⟨word, hmem, heq⟩ := exists_word? hfound
    refine ⟨word.toList, heq, balanced_of_continuesName fun c hc => ?_⟩
    have hletter := List.all_eq_true.1 (isAlpha_of_mem_word hwords word hmem) c hc
    unfold continuesName Char.isAlphanum
    simp [hletter]
  simp only [literal?, Option.orElse_eq_orElse, Option.orElse_eq_or, Option.or_eq_some_iff] at h
  rcases h with h | ⟨-, h | ⟨-, h | ⟨-, h⟩⟩⟩
  · exact hword (.inl rfl) h
  · obtain ⟨quote, text, hquote, htext, rfl⟩ := exists_quotedLiteral? h
    exact ⟨quote :: (text ++ [quote]), by simp, .quoted hquote htext .nil⟩
  · obtain ⟨used, hused, heq⟩ := exists_numberLiteral? h
    exact ⟨used, heq, balanced_of_forall fun c hc => not_isQuote_of_isNumeral (hused c hc)⟩
  · exact hword (.inr rfl) h

end Literals

/-- Whether a name may start behind `c`. -/
def isBreak (c : Char) : Bool :=
  !(Text.isWord c || c == '.' || c == '-')

/-- A name may start behind the text `s`. -/
def OpensName (s : List Char) : Prop :=
  ∀ c ∈ s.getLast?, isBreak c = true

theorem opensName_nil : OpensName [] := nofun

theorem opensName_concat {c : Char} (h : isBreak c = true) (s : List Char) :
    OpensName (s ++ [c]) := by
  intro d hd
  rw [List.getLast?_concat] at hd
  cases hd
  exact h

theorem OpensName.append_left {s : List Char} (h : OpensName s) (hne : s ≠ []) (t : List Char) :
    OpensName (t ++ s) := by
  intro c hc
  have hlast := List.getLast?_eq_some_getLast hne
  rw [List.getLast?_append, hlast, Option.some_or, ← hlast] at hc
  exact h c hc

theorem OpensName.of_cons {c : Char} {s : List Char} (h : OpensName (c :: s)) : OpensName s := by
  intro d hd
  refine h d ?_
  rw [List.getLast?_cons, hd]
  rfl

theorem isBreak_of_isGap {c : Char} (h : isGap c = true) : isBreak c = true := by
  rcases isGap_iff.1 h with rfl | rfl | rfl <;> decide

theorem opensName_gap {gap : List Char} (h : ∀ c ∈ gap, isGap c = true) : OpensName gap :=
  fun c hc => isBreak_of_isGap (h c (List.mem_of_getLast? hc))

/-- The text `name` is a name. -/
def IsName (name : String) : Prop :=
  (∃ c more, name.toList = c :: more ∧ startsName c = true) ∧
    ∀ c ∈ name.toList, continuesName c = true

/-- Whether `c` is foreign to words. -/
def isForeign (c : Char) : Bool :=
  c == '%' || 128 ≤ c.toNat

theorem not_isForeign_of_continuesName {c : Char} (h : continuesName c = true) :
    ¬ isForeign c = true := by
  have hlt := toNat_lt_of_continuesName h
  simp only [isForeign, Bool.or_eq_true, beq_iff_eq, decide_eq_true_eq]
  rintro (rfl | hle)
  · cases h
  · omega

/-- No reader of words goes on with `s`: it starts with a closing delimiter with a hyphen, or with a
character that is foreign to words. -/
def Stuck (s : List Char) : Prop :=
  ∃ c t, s = c :: t ∧ (c = '-' ∧ closesHere t = true ∨ isForeign c = true)

/-- Where readers are stuck, no character of words but a hyphen stands. -/
theorem Stuck.ne {c : Char} {t : List Char} (h : Stuck (c :: t)) {d : Char} (hd : d ≠ '-')
    (hword : isForeign d = false) : c ≠ d := by
  rintro rfl
  obtain ⟨c', t', heq, ⟨rfl, -⟩ | hforeign⟩ := h
  · exact hd (List.cons.inj heq).1
  · rw [(List.cons.inj heq).1, hforeign] at hword
    cases hword

theorem not_stuck_of_isGap {c : Char} (h : isGap c = true) (t : List Char) : ¬ Stuck (c :: t) := by
  intro hstuck
  rcases isGap_iff.1 h with rfl | rfl | rfl <;>
    exact absurd rfl (hstuck.ne (by decide) (by decide))

theorem Stuck.skipGap {s : List Char} (h : Stuck s) : skipGap s = s := by
  obtain ⟨c, t, rfl, -⟩ := id h
  refine List.dropWhile_cons_of_neg fun hgap => not_stuck_of_isGap hgap t h

/-- The `name` stands at the start of `s`, of which `rest` has been left. If no reader goes on
behind the name, nothing else has been read. -/
def Starts (name : String) (s rest : List Char) : Prop :=
  IsName name ∧ ∃ after, s = name.toList ++ after ∧ EndsName after ∧ rest <:+ after ∧
    (Stuck after → after = rest)

/-- The `name` stands somewhere in `s`, of which `rest` has been left. -/
def Stands (name : String) (s rest : List Char) : Prop :=
  ∃ before here, s = before ++ here ∧ Balanced before ∧ OpensName before ∧ Starts name here rest

/-- The `name` has no hyphen at its start. -/
def IsPlainName (name : String) : Prop :=
  name.toList.head? ≠ some '-'

instance (name : String) : Decidable (IsPlainName name) :=
  inferInstanceAs (Decidable (name.toList.head? ≠ some '-'))

section Stands

variable {name : String} {s mid rest : List Char}

theorem Starts.stands (h : Starts name s rest) : Stands name s rest :=
  ⟨[], s, rfl, .nil, opensName_nil, h⟩

/-- More may be read behind a `name`, if a reader goes on there. -/
theorem Starts.trans (h : Starts name s mid) (hrest : rest <:+ mid)
    (hstuck : Stuck mid → mid = rest) : Starts name s rest := by
  obtain ⟨hname, after, heq, hends, hmid, hafter⟩ := h
  refine ⟨hname, after, heq, hends, hrest.trans hmid, fun hstop => ?_⟩
  obtain rfl := hafter hstop
  exact hstuck hstop

theorem Stands.trans (h : Stands name s mid) (hrest : rest <:+ mid)
    (hstuck : Stuck mid → mid = rest) : Stands name s rest := by
  obtain ⟨before, here, heq, hbefore, hopens, hhere⟩ := h
  exact ⟨before, here, heq, hbefore, hopens, hhere.trans hrest hstuck⟩

/-- A `name` does not start where another one cannot go on. -/
theorem Starts.not_endsName (h : Starts name s rest) (hplain : IsPlainName name) :
    ¬ EndsName s := by
  intro hends
  obtain ⟨⟨⟨c, more, heq, hc⟩, -⟩, after, rfl, -⟩ := h
  rw [heq, List.cons_append] at hends
  obtain ⟨rfl, -⟩ := hends c _ rfl (continuesName_of_startsName hc)
  exact hplain (by rw [heq]; rfl)

/-- A `name` stands behind `p`, if it may start there. -/
theorem Stands.append_left (h : Stands name s rest) (hplain : IsPlainName name) {p : List Char}
    (hp : Balanced p) (hopens : OpensName p ∨ EndsName s) : Stands name (p ++ s) rest := by
  obtain ⟨before, here, rfl, hbefore, hopens', hhere⟩ := h
  refine ⟨p ++ before, here, (List.append_assoc _ _ _).symm, hp.append hbefore, ?_, hhere⟩
  -- What is put before matters only to a name at the very start.
  by_cases hne : before = []
  · subst hne
    rw [List.append_nil]
    exact hopens.resolve_right (hhere.not_endsName hplain)
  · exact hopens'.append_left hne p

end Stands

/-- An expression `e` has been read from `s`, up to `rest`: its quotes are closed, and its variables
stand in it. -/
structure ReadsValue (e : Expression) (s rest : List Char) : Prop where
  /-- The quotes in the expression are closed. -/
  balanced : ∃ used, s = used ++ rest ∧ Balanced used
  /-- The variable at the head of the expression stands at the start. -/
  head : ∀ name, e.head? = some name → Starts name s rest
  /-- Each variable of the expression stands somewhere in it. -/
  roots : ∀ name ∈ e.roots, IsPlainName name → Stands name s rest

/-- The indexes `es` have been read from `s`, up to `rest`. -/
structure ReadsIndexes (es : List Expression) (s rest : List Char) : Prop where
  /-- The quotes in the indexes are closed. -/
  balanced : ∃ used, s = used ++ rest ∧ Balanced used
  /-- Each variable of the indexes stands somewhere in them. -/
  roots : ∀ name ∈ rootsOfAll es, IsPlainName name → Stands name s rest

/-- The index `e` has been read from `s`, up to `rest`. -/
structure ReadsIndex (e : Expression) (s rest : List Char) : Prop where
  /-- The quotes in the index are closed, and a name behind it is another one. -/
  balanced : ∃ used, s = used ++ rest ∧ Balanced used ∧ (OpensName used ∨ EndsName rest)
  /-- Each variable of the index stands somewhere in it. -/
  roots : ∀ name ∈ e.roots, IsPlainName name → Stands name s rest

section Values

variable {fuel : Nat} {s rest : List Char} {e : Expression}

/-- No index starts where readers are stuck. -/
theorem indexes_of_stuck (h : Stuck s) (fuel : Nat) : indexes fuel s = ([], s) := by
  have hnone : ∀ fuel, index? fuel s = none := by
    obtain ⟨c, t, rfl, -⟩ := id h
    intro fuel
    cases fuel with
    | zero => rfl
    | succ fuel =>
      unfold index?
      split
      · next heq => exact absurd (List.cons.inj heq).1 (h.ne (by decide) (by decide))
      · next heq => exact absurd (List.cons.inj heq).1 (h.ne (by decide) (by decide))
      · rfl
  cases fuel with
  | zero => rfl
  | succ fuel =>
    unfold indexes
    rw [hnone]

/-- A literal has no variables. -/
theorem ReadsValue.of_literal {operand : Operand} (h : literal? s = some (operand, rest)) :
    ReadsValue (.literal operand) s rest where
  balanced := exists_literal? h
  head := nofun
  roots := nofun

/-- A variable is its `name` with the indexes `es` behind it. -/
theorem ReadsValue.of_variable {name : String} {es : List Expression} {behind : List Char}
    (hname : identifier? s = some (name, behind)) (hread : ReadsIndexes es behind rest)
    (hstuck : Stuck behind → behind = rest) :
    ReadsValue (.variable name es) s rest := by
  obtain ⟨rfl, hstart, hcontinues, hends⟩ := identifier?_eq_some hname
  obtain ⟨used, rfl, hused⟩ := hread.balanced
  have hbalanced := balanced_of_continuesName hcontinues
  have hhead : Starts name (name.toList ++ (used ++ rest)) rest :=
    ⟨⟨hstart, hcontinues⟩, _, rfl, hends, List.suffix_append _ _, hstuck⟩
  constructor
  case balanced => exact ⟨name.toList ++ used, by simp, hbalanced.append hused⟩
  case head =>
    rintro _ ⟨⟩
    exact hhead
  case roots =>
    intro root hroot hplain
    rcases List.mem_cons.1 hroot with rfl | hroot
    · exact hhead.stands
    · exact (hread.roots root hroot hplain).append_left hplain hbalanced (.inr hends)

/-- Indexes are the first one `e` and those behind it. -/
theorem ReadsIndexes.cons {es : List Expression} {mid : List Char} (hfirst : ReadsIndex e s mid)
    (hmore : ReadsIndexes es mid rest) (hstuck : Stuck mid → mid = rest) :
    ReadsIndexes (e :: es) s rest := by
  obtain ⟨used, rfl, hused, hopens⟩ := hfirst.balanced
  obtain ⟨used', hmid, hused'⟩ := hmore.balanced
  constructor
  case balanced => exact ⟨used ++ used', by rw [hmid, List.append_assoc], hused.append hused'⟩
  case roots =>
    intro name hname hplain
    rcases List.mem_append.1 hname with hname | hname
    · exact (hfirst.roots name hname hplain).trans ⟨used', hmid.symm⟩ hstuck
    · exact (hmore.roots name hname hplain).append_left hplain hused hopens

/-- A member is a point with a `name` behind it. -/
theorem ReadsIndex.of_member {name : String} (h : identifier? s = some (name, rest)) :
    ReadsIndex (.literal (.value (.string name))) ('.' :: s) rest := by
  obtain ⟨rfl, -, hcontinues, hends⟩ := identifier?_eq_some h
  constructor
  case balanced =>
    exact ⟨'.' :: name.toList, rfl, .plain (by simp [Grammar.IsQuote])
      (balanced_of_continuesName hcontinues), .inr hends⟩
  case roots =>
    intro name hname
    cases hname

/-- An index in brackets is a value with blanks around it. -/
theorem ReadsIndex.of_brackets {mid : List Char} (h : ReadsValue e (skipGap s) mid)
    (hclose : skipGap mid = ']' :: rest) : ReadsIndex e ('[' :: s) rest := by
  obtain ⟨gap, hgap, hs⟩ := exists_gap s
  obtain ⟨gap', hgap', hmid⟩ := exists_gap mid
  obtain ⟨used, hused, hbalanced⟩ := h.balanced
  have hopen : Balanced ('[' :: gap) := .plain (by simp [Grammar.IsQuote]) (balanced_gap hgap)
  have hopens : OpensName ('[' :: gap) := by
    by_cases hne : gap = []
    · subst hne
      exact opensName_concat (by decide) []
    · exact (opensName_gap hgap).append_left hne ['[']
  have hwhole : '[' :: s = '[' :: gap ++ skipGap s := by
    rw [List.cons_append, ← hs]
  rw [hclose] at hmid
  constructor
  case balanced =>
    refine ⟨'[' :: gap ++ used ++ gap' ++ [']'], ?_, ?_, .inl (opensName_concat (by decide) _)⟩
    · rw [hwhole, hused, hmid]
      simp
    · exact ((hopen.append hbalanced).append (balanced_gap hgap')).append
        (.plain (by simp [Grammar.IsQuote]) .nil)
  case roots =>
    intro name hname hplain
    rw [hwhole]
    have hstands := (h.roots name hname hplain).append_left hplain hopen (.inl hopens)
    refine hstands.trans ⟨gap' ++ [']'], by rw [hmid]; simp⟩ fun hstuck => ?_
    -- A bracket closes the index, so readers are not stuck behind the value.
    rw [hmid] at hstuck
    cases gap' with
    | nil => exact absurd rfl (hstuck.ne (by decide) (by decide))
    | cons c gap' => exact absurd hstuck (not_stuck_of_isGap (hgap' c List.mem_cons_self) _)

/-- What is read with some `fuel` as an expression, as indexes and as an index. -/
theorem exists_reads (fuel : Nat) :
    (∀ {s e rest}, value? fuel s = some (e, rest) → ReadsValue e s rest) ∧
      (∀ {s es rest}, indexes fuel s = (es, rest) → ReadsIndexes es s rest) ∧
      (∀ {s e rest}, index? fuel s = some (e, rest) → ReadsIndex e s rest) := by
  -- The three readers call one another with less fuel, so one induction is for all of them.
  induction fuel with
  | zero =>
    refine ⟨nofun, fun h => ?_, nofun⟩
    cases h
    exact ⟨⟨[], rfl, .nil⟩, nofun⟩
  | succ fuel ih =>
    obtain ⟨hvalue, hindexes, hindex⟩ := ih
    refine ⟨fun {s e rest} h => ?_, fun {s es rest} h => ?_, fun {s e rest} h => ?_⟩
    · -- An expression is a literal or a variable.
      unfold value? at h
      cases hliteral : literal? s with
      | some found =>
        rw [hliteral] at h
        cases h
        exact .of_literal hliteral
      | none =>
        rw [hliteral] at h
        cases hname : identifier? s with
        | none =>
          rw [hname] at h
          cases h
        | some found =>
          rw [hname] at h
          cases h
          refine .of_variable hname (hindexes rfl) fun hstuck => ?_
          rw [indexes_of_stuck hstuck]
    · -- Indexes are read as long as there are some.
      unfold indexes at h
      cases hfirst : index? fuel s with
      | none =>
        rw [hfirst] at h
        cases h
        exact ⟨⟨[], rfl, .nil⟩, nofun⟩
      | some found =>
        rw [hfirst] at h
        cases h
        refine .cons (hindex hfirst) (hindexes rfl) fun hstuck => ?_
        rw [indexes_of_stuck hstuck]
    · -- An index is a member, or a value in brackets.
      unfold index? at h
      split at h
      · next s =>
        obtain ⟨⟨name, behind⟩, hname, heq⟩ := Option.map_eq_some_iff.1 h
        cases heq
        exact .of_member hname
      · next s =>
        cases hfound : value? fuel (skipGap s) with
        | none =>
          rw [hfound] at h
          cases h
        | some found =>
          rw [hfound] at h
          simp only at h
          split at h
          · next hclose =>
            cases h
            exact .of_brackets (hvalue hfound) hclose
          · cases h
      · cases h

/-- What is read as an expression has the variables of the expression in it. -/
theorem readsValue_of_expression? (h : expression? s = some (e, rest)) : ReadsValue e s rest :=
  (exists_reads _).1 h

end Values

end Promptbook.Template
