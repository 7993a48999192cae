import Promptbook.Proofs.Template.Words
import Promptbook.Template.Tag

/-!
# Operands in Tags

The words of a tag follow one another with blanks between them, or without where the spelling leaves
no doubt. Between two operands of a tag stands a joint: a comparison, a conjunction or a comma. So
an operand that is a variable is not taken for a part of what comes before it.

## Main definitions

* `Operands`: words that are operands with joints between them.

## Main results

* `suffix_of_spelledWords`: words are read from the front of a text.
* `stands_of_operands`: where the variables of operands stand.
-/

namespace Promptbook.Template

section Suffixes

variable {s rest : List Char}

/-- A text `s` is the stretch that has been read of it and what is left. -/
theorem eq_take_append (h : rest <:+ s) : s = s.take (s.length - rest.length) ++ rest := by
  obtain ⟨used, rfl⟩ := h
  simp

theorem skipGap_suffix (s : List Char) : skipGap s <:+ s :=
  List.dropWhile_suffix _

theorem suffix_of_after? {text : String} (h : after? text s = some rest) : rest <:+ s :=
  ⟨text.toList, (after?_eq_some.1 h).symm⟩

theorem suffix_of_identifier? {name : String} (h : identifier? s = some (name, rest)) :
    rest <:+ s :=
  ⟨name.toList, (identifier?_eq_some h).1.symm⟩

theorem suffix_of_expression? {e : Expression} (h : expression? s = some (e, rest)) :
    rest <:+ s := by
  obtain ⟨used, hused, -⟩ := (readsValue_of_expression? h).balanced
  exact ⟨used, hused.symm⟩

theorem suffix_of_namedArgument? {argument : WrittenArgument}
    (h : namedArgument? s = some (argument, rest)) : rest <:+ s := by
  obtain ⟨⟨name, mid⟩, hname, h⟩ := Option.bind_eq_some_iff.1 h
  obtain ⟨mid', hcolon, h⟩ := Option.bind_eq_some_iff.1 h
  obtain ⟨⟨e, rest'⟩, hvalue, h⟩ := Option.bind_eq_some_iff.1 h
  cases h
  exact (suffix_of_expression? hvalue).trans <| (skipGap_suffix _).trans <|
    (suffix_of_after? hcolon).trans <| (skipGap_suffix _).trans (suffix_of_identifier? hname)

theorem suffix_of_writtenArgument? {argument : WrittenArgument}
    (h : writtenArgument? s = some (argument, rest)) : rest <:+ s := by
  simp only [writtenArgument?, Option.orElse_eq_orElse, Option.orElse_eq_or,
    Option.or_eq_some_iff] at h
  rcases h with h | ⟨-, h⟩
  · exact suffix_of_namedArgument? h
  · obtain ⟨⟨e, rest'⟩, hvalue, heq⟩ := Option.map_eq_some_iff.1 h
    cases heq
    exact suffix_of_expression? hvalue

/-- What is read behind a `sign` leaves the end of the text. -/
theorem suffix_of_behind {α : Type} {sign : String} {found : α}
    {read : List Char → Option (α × List Char)}
    (hread : ∀ {s rest}, read s = some (found, rest) → rest <:+ s)
    (h : ((after? sign (skipGap s)).bind fun rest => read (skipGap rest)) = some (found, rest)) :
    rest <:+ s := by
  obtain ⟨mid, hsign, h⟩ := Option.bind_eq_some_iff.1 h
  exact (hread h).trans <| (skipGap_suffix _).trans <|
    (suffix_of_after? hsign).trans (skipGap_suffix _)

theorem suffix_of_moreArguments {fuel : Nat} {arguments : List WrittenArgument}
    (h : moreArguments fuel s = (arguments, rest)) : rest <:+ s := by
  induction fuel generalizing s arguments with
  | zero =>
    cases h
    exact List.suffix_rfl
  | succ fuel ih =>
    unfold moreArguments at h
    split at h
    · cases h
      exact List.suffix_rfl
    · next hfirst =>
      cases h
      exact (ih rfl).trans (suffix_of_behind suffix_of_writtenArgument? hfirst)

theorem suffix_of_writtenArguments {arguments : List WrittenArgument}
    (h : writtenArguments s = (arguments, rest)) : rest <:+ s := by
  unfold writtenArguments at h
  split at h
  · cases h
    exact List.suffix_rfl
  · next hfirst =>
    cases h
    exact (suffix_of_moreArguments rfl).trans
      (suffix_of_behind suffix_of_writtenArgument? hfirst)

theorem suffix_of_writtenFilters {fuel : Nat} {filters : List WrittenFilter}
    (h : writtenFilters fuel s = (filters, rest)) : rest <:+ s := by
  induction fuel generalizing s filters with
  | zero =>
    cases h
    exact List.suffix_rfl
  | succ fuel ih =>
    unfold writtenFilters at h
    split at h
    · cases h
      exact List.suffix_rfl
    · next hfirst =>
      cases h
      exact (ih rfl).trans <| (suffix_of_writtenArguments rfl).trans
        (suffix_of_behind suffix_of_identifier? hfirst)

/-- If no filter is read, nothing is taken. -/
theorem eq_of_writtenFilters_nil {fuel : Nat} (h : writtenFilters fuel s = ([], rest)) :
    rest = s := by
  cases fuel with
  | zero => cases h; rfl
  | succ fuel =>
    unfold writtenFilters at h
    split at h
    · cases h
      rfl
    · cases h

/-- A `chain` is an expression and what its filters take. -/
theorem exists_of_writtenChain? {chain : WrittenChain} (h : writtenChain? s = some (chain, rest)) :
    ∃ mid, expression? s = some (chain.entry, mid) ∧
      writtenFilters mid.length mid = (chain.filters, rest) := by
  obtain ⟨⟨entry, mid⟩, hentry, heq⟩ := Option.map_eq_some_iff.1 h
  cases heq
  exact ⟨mid, hentry, rfl⟩

theorem suffix_of_writtenChain? {chain : WrittenChain}
    (h : writtenChain? s = some (chain, rest)) : rest <:+ s := by
  obtain ⟨mid, hentry, hfilters⟩ := exists_of_writtenChain? h
  exact (suffix_of_writtenFilters hfilters).trans (suffix_of_expression? hentry)

theorem suffix_of_range? {word : Word} (h : range? s = some (word, rest)) : rest <:+ s := by
  obtain ⟨r₁, hopen, h⟩ := Option.bind_eq_some_iff.1 h
  obtain ⟨⟨first, r₂⟩, hfirst, h⟩ := Option.bind_eq_some_iff.1 h
  obtain ⟨r₃, hpoints, h⟩ := Option.bind_eq_some_iff.1 h
  obtain ⟨⟨last, r₄⟩, hlast, h⟩ := Option.bind_eq_some_iff.1 h
  obtain ⟨r₅, hclose, h⟩ := Option.bind_eq_some_iff.1 h
  cases h
  exact (suffix_of_after? hclose).trans <| (skipGap_suffix _).trans <|
    (suffix_of_expression? hlast).trans <| (skipGap_suffix _).trans <|
    (suffix_of_after? hpoints).trans <| (skipGap_suffix _).trans <|
    (suffix_of_expression? hfirst).trans <| (skipGap_suffix _).trans (suffix_of_after? hopen)

end Suffixes

section SpelledWords

variable {s rest : List Char} {w : SpelledWord}

/-- A word `w` is a range, a chain or a sign, and its spelling is what has been read. -/
theorem exists_of_spelledWord? (h : spelledWord? s = some (w, rest)) :
    s = w.spelling.toList ++ rest ∧
      (range? s = some (w.word, rest) ∨
        (∃ chain, w.word = .chain chain ∧ writtenChain? s = some (chain, rest)) ∨
        (w.word = .sign ∧ ∃ sign ∈ signs, s = sign.toList ++ rest)) := by
  unfold spelledWord? at h
  simp only [Option.orElse_eq_orElse, Option.orElse_eq_or, Option.map_eq_some_iff,
    Option.or_eq_some_iff] at h
  obtain ⟨⟨word, rest'⟩, hfound, heq⟩ := h
  cases heq
  -- In the order of the reader. Each of the three leaves a suffix, so the spelling is what is in
  -- front of it.
  have hkinds : rest' <:+ s ∧ (range? s = some (word, rest') ∨
      (∃ chain, word = .chain chain ∧ writtenChain? s = some (chain, rest')) ∨
      (word = .sign ∧ ∃ sign ∈ signs, s = sign.toList ++ rest')) := by
    rcases hfound with hrange | ⟨-, ⟨⟨chain, r⟩, hchain, heq⟩ | ⟨-, hsign⟩⟩
    · exact ⟨suffix_of_range? hrange, .inl hrange⟩
    · cases heq
      exact ⟨suffix_of_writtenChain? hchain, .inr (.inl ⟨chain, rfl, hchain⟩)⟩
    · obtain ⟨sign, hmem, hsign⟩ := List.exists_of_findSome?_eq_some hsign
      obtain ⟨r, hafter, heq⟩ := Option.map_eq_some_iff.1 hsign
      cases heq
      exact ⟨suffix_of_after? hafter, .inr (.inr ⟨rfl, sign, hmem, after?_eq_some.1 hafter⟩)⟩
  refine ⟨?_, hkinds.2⟩
  rw [String.toList_ofList]
  exact eq_take_append hkinds.1

theorem suffix_of_spelledWord? (h : spelledWord? s = some (w, rest)) : rest <:+ s :=
  ⟨w.spelling.toList, (exists_of_spelledWord? h).1.symm⟩

/-- A word `w` without filters is read as its expression. -/
theorem expression?_of_spelledWord? (h : spelledWord? s = some (w, rest)) {e : Expression}
    (he : w.expression? = some e) : expression? s = some (e, rest) := by
  unfold SpelledWord.expression? at he
  split at he
  · next entry hword =>
    cases he
    rcases (exists_of_spelledWord? h).2 with hrange | ⟨chain, hchain, hread⟩ | ⟨hsign, -⟩
    · -- A range is no expression.
      rw [hword] at hrange
      obtain ⟨r₁, -, hrange⟩ := Option.bind_eq_some_iff.1 hrange
      obtain ⟨⟨first, r₂⟩, -, hrange⟩ := Option.bind_eq_some_iff.1 hrange
      obtain ⟨r₃, -, hrange⟩ := Option.bind_eq_some_iff.1 hrange
      obtain ⟨⟨last, r₄⟩, -, hrange⟩ := Option.bind_eq_some_iff.1 hrange
      obtain ⟨r₅, -, hrange⟩ := Option.bind_eq_some_iff.1 hrange
      cases hrange
    · rw [hword] at hchain
      cases hchain
      obtain ⟨mid, hentry, hfilters⟩ := exists_of_writtenChain? hread
      obtain rfl := eq_of_writtenFilters_nil hfilters
      exact hentry
    · rw [hword] at hsign
      cases hsign
  · cases he

/-- A fixed `text` does not stand where readers are stuck, unless it starts with a hyphen. -/
theorem after?_of_stuck (h : Stuck s) {text : String}
    (htext : text.toList.head?.any (fun d => d != '-' && !isForeign d) = true) :
    after? text s = none := by
  rw [Option.eq_none_iff_forall_ne_some]
  intro rest hafter
  rw [after?_eq_some] at hafter
  cases hcons : text.toList with
  | nil =>
    rw [hcons] at htext
    cases htext
  | cons d more =>
    rw [hafter, hcons] at h
    rw [hcons] at htext
    simp only [List.head?_cons, Option.any_some, Bool.and_eq_true, bne_iff_ne,
      Bool.not_eq_true'] at htext
    exact h.ne htext.1 htext.2 rfl

theorem word?_of_stuck (h : Stuck s) {words : List (String × Operand)}
    (hwords : ∀ word ∈ words.map Prod.fst,
      word.toList.head?.any (fun d => d != '-' && !isForeign d) = true) :
    word? words s = none := by
  refine List.findSome?_eq_none_iff.2 fun entry hentry => ?_
  simp only [Option.map_eq_none_iff]
  exact after?_of_stuck h (hwords _ (List.mem_map_of_mem hentry))

theorem quotedLiteral?_of_stuck (h : Stuck s) : quotedLiteral? s = none := by
  obtain ⟨c, t, rfl, -⟩ := id h
  rw [quotedLiteral?_eq, Grammar.quoted?_cons_of_not_isQuote, Option.map_none]
  rintro (rfl | rfl) <;> exact absurd rfl (h.ne (by decide) (by decide))

theorem numberLiteral?_of_stuck (h : Stuck s) : numberLiteral? s = none := by
  have hdigits : (Decimal.Numeral.takeSign s).2.takeWhile Char.isDigit = [] := by
    obtain ⟨c, t, rfl, ⟨rfl, ht⟩ | hforeign⟩ := id h
    · -- Behind the hyphen stands a brace or a percent sign.
      unfold closesHere at ht
      split at ht
      · rfl
      · rfl
      · cases ht
    · have hminus : c ≠ '-' := by
        rintro rfl
        exact absurd hforeign (by decide)
      have hplus : c ≠ '+' := h.ne (by decide) (by decide)
      have hdigit : c.isDigit = false := by
        rw [Bool.eq_false_iff]
        intro hdigit
        exact not_isForeign_of_continuesName (by simp [continuesName, Char.isAlphanum, hdigit])
          hforeign
      rw [Grammar.takeSign_cons hminus hplus]
      exact List.takeWhile_cons_of_neg (by rw [hdigit]; decide)
  unfold numberLiteral?
  simp [hdigits]

theorem literal?_of_stuck (h : Stuck s) : literal? s = none := by
  have hwords : word? literalWords s = none := word?_of_stuck h (by decide)
  have htruth : word? truthWords s = none := word?_of_stuck h (by decide)
  simp [literal?, hwords, htruth, quotedLiteral?_of_stuck h, numberLiteral?_of_stuck h]

theorem identifier?_of_stuck (h : Stuck s) : identifier? s = none := by
  rw [Option.eq_none_iff_forall_ne_some]
  rintro ⟨name, rest⟩ hname
  obtain ⟨c, t, rfl, ⟨rfl, ht⟩ | hforeign⟩ := h
  · simp [identifier?, ht] at hname
  · obtain ⟨heq, ⟨d, more, hcons, hd⟩, -⟩ := identifier?_eq_some hname
    rw [hcons] at heq
    obtain ⟨rfl, -⟩ := List.cons.inj heq
    exact not_isForeign_of_continuesName (continuesName_of_startsName hd) hforeign

theorem expression?_of_stuck (h : Stuck s) : expression? s = none := by
  unfold expression? fuelFor value?
  simp only [literal?_of_stuck h, identifier?_of_stuck h]

/-- No word starts where readers are stuck. -/
theorem spelledWord?_of_stuck (h : Stuck s) : spelledWord? s = none := by
  have hrange : range? s = none := by
    rw [range?, after?_of_stuck h (by decide)]
    rfl
  have hsigns : (signs.findSome? fun sign => (after? sign s).map fun rest => (Word.sign, rest)) =
      none := by
    have hall : ∀ sign ∈ signs,
        sign.toList.head?.any (fun d => d != '-' && !isForeign d) = true := by
      decide
    refine List.findSome?_eq_none_iff.2 fun sign hsign => ?_
    rw [after?_of_stuck h (hall sign hsign)]
    rfl
  simp [spelledWord?, writtenChain?, expression?_of_stuck h, hrange, hsigns]

/-- No filter starts where readers are stuck. -/
theorem writtenFilters_of_stuck (h : Stuck s) (fuel : Nat) : writtenFilters fuel s = ([], s) := by
  cases fuel with
  | zero => rfl
  | succ fuel =>
    unfold writtenFilters
    rw [h.skipGap, after?_of_stuck h (by decide)]
    rfl

/-- Where no literal stands, an expression is a variable. -/
theorem exists_variable_of_expression? {e : Expression} (h : expression? s = some (e, rest))
    (hliteral : literal? s = none) : ∃ name es, e = .variable name es := by
  unfold expression? fuelFor value? at h
  rw [hliteral] at h
  simp only at h
  split at h
  · cases h
  · cases h
    exact ⟨_, _, rfl⟩

/-- A word `w` of letters that is no literal is a name, and ends where a name cannot go on. -/
theorem endsName_of_letters (h : spelledWord? s = some (w, rest)) (hne : w.spelling.toList ≠ [])
    (hletters : ∀ c ∈ w.spelling.toList, c.isAlpha = true)
    (hliteral : ∀ t, literal? (w.spelling.toList ++ t) = none) : EndsName rest := by
  obtain ⟨hs, hrange | ⟨chain, -, hchain⟩ | ⟨-, sign, hsign, heq⟩⟩ := exists_of_spelledWord? h
  · -- A range starts with a parenthesis.
    obtain ⟨r, hopen, -⟩ := Option.bind_eq_some_iff.1 hrange
    obtain ⟨c, more, hcons⟩ := List.exists_cons_of_ne_nil hne
    rw [after?_eq_some.1 hopen, hcons] at hs
    obtain ⟨rfl, -⟩ := List.cons.inj hs
    exact absurd (hletters '(' (by rw [hcons]; exact List.mem_cons_self)) (by decide)
  · obtain ⟨mid, hentry, hfilters⟩ := exists_of_writtenChain? hchain
    obtain ⟨name, es, he⟩ := exists_variable_of_expression? hentry (hs ▸ hliteral rest)
    rw [he] at hentry
    obtain ⟨-, after, heq, hends, hmid, -⟩ := (readsValue_of_expression? hentry).head name rfl
    -- What is left of the word behind the name would go on with a letter.
    obtain ⟨between, hafter⟩ := (suffix_of_writtenFilters hfilters).trans hmid
    rw [← hafter, ← List.append_assoc, hs] at heq
    have hspelling := List.append_cancel_right heq
    cases between with
    | nil =>
      rw [← hafter] at hends
      exact hends
    | cons c between =>
      have hletter := hletters c (by rw [hspelling]; simp)
      have hcontinues : continuesName c = true := by
        unfold continuesName Char.isAlphanum
        simp [hletter]
      obtain ⟨rfl, -⟩ := hends c (between ++ rest) hafter.symm hcontinues
      exact absurd hletter (by decide)
  · -- No sign is made of letters.
    rw [hs] at heq
    have hspelling := List.append_cancel_right heq
    have hnone : ∀ sign ∈ signs, sign.toList.any (fun c => !c.isAlpha) = true := by decide
    obtain ⟨c, hc, hno⟩ := List.any_eq_true.1 (hnone sign hsign)
    rw [hletters c (hspelling ▸ hc)] at hno
    cases hno

/-- The signs that may stand between two operands. -/
def signJoints : List String :=
  ["==", "!=", "<>", "<", ">", "<=", ">=", ","]

/-- The words that may stand between two operands. -/
def wordJoints : List String :=
  ["contains", "and", "or"]

/-- No quote stands in a `joint`. -/
theorem balanced_joint {joint : String} (h : joint ∈ signJoints ∨ joint ∈ wordJoints) :
    Balanced joint.toList := by
  have hnone : ∀ joint ∈ signJoints ++ wordJoints,
      joint.toList.all (fun c => c != '"' && c != '\'') = true := by
    decide
  refine balanced_of_forall fun c hc => ?_
  have hquote := List.all_eq_true.1 (hnone joint (List.mem_append.2 h)) c hc
  simpa [Grammar.IsQuote, not_or] using hquote

/-- A name may start behind a sign. -/
theorem opensName_signJoint {joint : String} (h : joint ∈ signJoints) : OpensName joint.toList := by
  have hlast : ∀ joint ∈ signJoints, joint.toList.getLast?.all isBreak = true := by decide
  intro c hc
  have hall := hlast joint h
  rw [hc] at hall
  exact hall

/-- A word between two operands is a name, and ends where a name cannot go on. -/
theorem endsName_wordJoint (h : spelledWord? s = some (w, rest))
    (hjoint : w.spelling ∈ wordJoints) : EndsName rest := by
  have hletters : ∀ joint ∈ wordJoints,
      joint.toList ≠ [] ∧ joint.toList.all Char.isAlpha = true := by
    decide
  obtain ⟨hne, hall⟩ := hletters w.spelling hjoint
  refine endsName_of_letters h hne (List.all_eq_true.1 hall) fun t => ?_
  simp only [wordJoints, List.mem_cons, List.not_mem_nil, or_false] at hjoint
  rcases hjoint with heq | heq | heq <;> rw [heq] <;> rfl

/-- The words are the operands with joints between them. -/
inductive Operands : List SpelledWord → List Expression → Prop where
  /-- The last operand `e`. -/
  | last {w : SpelledWord} {e : Expression} (he : w.expression? = some e) : Operands [w] [e]
  /-- An operand `e`, and those behind the next `joint`. -/
  | more {w joint : SpelledWord} {rest : List SpelledWord} {e : Expression} {es : List Expression}
      (he : w.expression? = some e)
      (hjoint : joint.spelling ∈ signJoints ∨ joint.spelling ∈ wordJoints)
      (hrest : Operands rest es) : Operands (w :: joint :: rest) (e :: es)

theorem suffix_of_spelledWords {fuel : Nat} {words : List SpelledWord}
    (h : spelledWords fuel s = (words, rest)) : rest <:+ s := by
  induction fuel generalizing s words with
  | zero =>
    cases h
    exact List.suffix_rfl
  | succ fuel ih =>
    unfold spelledWords at h
    split at h
    · cases h
      exact List.suffix_rfl
    · next hfirst =>
      cases h
      exact (ih rfl).trans ((suffix_of_spelledWord? hfirst).trans (skipGap_suffix _))

/-- The words of a text are the first one `w` and those behind it. -/
theorem exists_of_spelledWords_cons {fuel : Nat} {words : List SpelledWord}
    (h : spelledWords fuel s = (w :: words, rest)) :
    ∃ fuel' mid, spelledWord? (skipGap s) = some (w, mid) ∧
      spelledWords fuel' mid = (words, rest) := by
  cases fuel with
  | zero => cases h
  | succ fuel =>
    unfold spelledWords at h
    split at h
    · cases h
    · next hfirst =>
      cases h
      exact ⟨fuel, _, hfirst, rfl⟩

/-- No words stand where readers are stuck. -/
theorem spelledWords_of_stuck (h : Stuck s) (fuel : Nat) : spelledWords fuel s = ([], s) := by
  cases fuel with
  | zero => rfl
  | succ fuel =>
    unfold spelledWords
    rw [h.skipGap, spelledWord?_of_stuck h]

/-- Without words nothing is read. -/
theorem eq_of_spelledWords_nil {fuel : Nat} (h : spelledWords fuel s = ([], rest)) : rest = s := by
  cases fuel with
  | zero =>
    cases h
    rfl
  | succ fuel =>
    unfold spelledWords at h
    split at h
    · cases h
      rfl
    · cases h

/-- The variables of an operand `e` stand in the text of its word, also if other words follow. -/
theorem stands_of_operand {mid : List Char} (h : spelledWord? (skipGap s) = some (w, mid))
    {e : Expression} (he : w.expression? = some e) {name : String} (hname : name ∈ e.roots)
    (hplain : IsPlainName name) (hrest : rest <:+ mid)
    (hstuck : Stuck mid → mid = rest) : Stands name s rest := by
  obtain ⟨gap, hgap, hs⟩ := exists_gap s
  have hstands :=
    (readsValue_of_expression? (expression?_of_spelledWord? h he)).roots name hname hplain
  rw [hs]
  exact (hstands.trans hrest hstuck).append_left hplain (balanced_gap hgap)
    (.inl (opensName_gap hgap))

/-- The variables of the operands `es` stand in the text of their words. -/
theorem stands_of_operands {fuel : Nat} {words : List SpelledWord} {es : List Expression}
    (h : spelledWords fuel s = (words, rest)) (hes : Operands words es) {name : String}
    (hname : name ∈ rootsOfAll es) (hplain : IsPlainName name) : Stands name s rest := by
  -- A variable stands in the first operand, or in those behind the first joint.
  induction hes generalizing fuel s with
  | @last w e he =>
    obtain ⟨fuel', mid, hfirst, hnone⟩ := exists_of_spelledWords_cons h
    obtain rfl := eq_of_spelledWords_nil hnone
    rw [rootsOfAll, rootsOfAll, List.append_nil] at hname
    exact stands_of_operand hfirst he hname hplain List.suffix_rfl fun _ => rfl
  | @more w joint words e es he hjoint hwords ih =>
    obtain ⟨fuel', mid, hfirst, hmore⟩ := exists_of_spelledWords_cons h
    rcases List.mem_append.1 hname with hname | hname
    · refine stands_of_operand hfirst he hname hplain (suffix_of_spelledWords hmore) ?_
      -- Other words follow, so readers are not stuck behind the operand.
      intro hstuck
      rw [spelledWords_of_stuck hstuck] at hmore
      cases hmore
    · obtain ⟨fuel'', behind, hsecond, hrest⟩ := exists_of_spelledWords_cons hmore
      obtain ⟨gap, hgap, hs⟩ := exists_gap s
      obtain ⟨gap', hgap', hmid⟩ := exists_gap mid
      obtain ⟨used, hused, hbalanced⟩ :=
        (readsValue_of_expression? (expression?_of_spelledWord? hfirst he)).balanced
      have hcut : s = gap ++ used ++ gap' ++ joint.spelling.toList ++ behind := by
        rw [hs, hused, hmid, (exists_of_spelledWord? hsecond).1]
        simp
      have hbefore : Balanced (gap ++ used ++ gap' ++ joint.spelling.toList) :=
        (((balanced_gap hgap).append hbalanced).append (balanced_gap hgap')).append
          (balanced_joint hjoint)
      rw [hcut]
      refine (ih hrest hname).append_left hplain hbefore ?_
      -- The joint keeps the name apart from the first operand.
      rcases hjoint with hsign | hword
      · have hne : joint.spelling.toList ≠ [] := by
          have hall : ∀ joint ∈ signJoints, joint.toList ≠ [] := by decide
          exact hall _ hsign
        exact .inl ((opensName_signJoint hsign).append_left hne _)
      · exact .inr (endsName_wordJoint hsecond hword)

end SpelledWords

end Promptbook.Template
