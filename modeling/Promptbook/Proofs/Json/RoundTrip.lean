import Promptbook.Json.Writer
import Promptbook.Proofs.Json.Grammar

/-!
# JSON Texts Read Back

Values that hold no numbers but whole ones of sixty-four bits can be written as compact JSON and
read back. The text is cut into the tokens of the value, and the tokens lead the reader to the
value; both follow the parts of the value.

## Main definitions

* `Value.IsExact`: values that texts spell exactly, with a bound on how deep they nest.
* `tokensOf`: the tokens of a value.
* `Lexes`: the lexer finds some tokens in a text, up to what ends it.
* `Reads`: the reader takes the tokens of a value for the value.

## Main results

* `numberValue?_toDigits`: the digits of a number are read as the number.
* `Lexer.feed_escapeChar`: a character is read back in quotes.
* `lexes_of_isExact`: the tokens of a value are found in its text.
* `reads_of_isExact`: the value is read from its tokens.
* `read?_compact`: a value is read from its text.
-/

namespace Promptbook

/-- Values that texts spell exactly, with arrays and objects at most `depth` deep: their numbers are
whole ones of sixty-four bits with or without a sign, and the members of their objects are in
ascending order of the names. -/
inductive Value.IsExact : (depth : Nat) → Value → Prop where
  | null {depth : Nat} : IsExact depth .null
  | bool {depth : Nat} (b : Bool) : IsExact depth (.bool b)
  | int {depth : Nat} {n : Int} (hleast : Whole.least ≤ n) (hgreatest : n ≤ Whole.greatestCount) :
      IsExact depth (.int n)
  | string {depth : Nat} (s : String) : IsExact depth (.string s)
  | array {depth : Nat} {items : List Value} (h : ∀ v ∈ items, IsExact depth v) :
      IsExact (depth + 1) (.array items)
  | object {depth : Nat} {fields : Fields Value} (hsorted : fields.Sorted)
      (h : ∀ entry ∈ fields, IsExact depth entry.2) : IsExact (depth + 1) (.object fields)

namespace Json

mutual

/-- The tokens of a value. -/
def tokensOf : Value → List Token
  | .null => [.word "null"]
  | .bool true => [.word "true"]
  | .bool false => [.word "false"]
  | .int n => [.number (.int n)]
  | .double x => [.number (.double x)]
  | .string s => [.text s]
  | .array items => .openArray :: itemTokens items ++ [.closeArray]
  | .object fields => .openObject :: memberTokens fields ++ [.closeObject]

/-- The tokens of items, with commas between them. -/
def itemTokens : List Value → List Token
  | [] => []
  | [v] => tokensOf v
  | v :: rest => tokensOf v ++ .comma :: itemTokens rest

/-- The tokens of members, with commas between them. -/
def memberTokens : List (String × Value) → List Token
  | [] => []
  | [(name, v)] => .text name :: .colon :: tokensOf v
  | (name, v) :: rest => .text name :: .colon :: tokensOf v ++ .comma :: memberTokens rest

end

/-! ## Numbers -/

/-- A number `n` other than zero is written without a zero in front. -/
theorem head?_toDigits_ne {n : Nat} (h : 0 < n) : (Nat.toDigits 10 n).head? ≠ some '0' := by
  have hdigit : ∀ m < 10, 0 < m → Nat.digitChar m ≠ '0' := by decide
  induction n using Nat.strongRecOn with
  | ind n ih =>
    by_cases hn : n < 10
    · rw [Nat.toDigits_of_lt_base hn]
      exact fun hzero => hdigit n hn h (Option.some.inj hzero)
    · -- The first digit is that of the number without its last one.
      rw [Nat.toDigits_of_base_le (by decide) (Nat.le_of_not_lt hn), List.head?_append]
      have hrest := ih (n / 10) (by omega) (by omega)
      cases hhead : (Nat.toDigits 10 (n / 10)).head? with
      | none => exact absurd (List.head?_eq_none_iff.1 hhead) Nat.toDigits_ne_nil
      | some c =>
        rw [hhead] at hrest
        exact hrest

/-- Digits alone have neither a fraction nor an exponent to be cut off. -/
theorem split_digits {s : List Char} (h : ∀ c ∈ s, c.isDigit = true) :
    Decimal.Numeral.split s = (⟨s, none, none⟩, []) := by
  have htake : s.takeWhile Char.isDigit = s := List.takeWhile_eq_self_iff.2 h
  have hdrop : s.dropWhile Char.isDigit = [] := List.dropWhile_eq_nil_iff.2 h
  unfold Decimal.Numeral.split
  rw [htake, hdrop]

/-- The digits of `n` have no superfluous zero in front. -/
theorem legal_toDigits (n : Nat) :
    ((Nat.toDigits 10 n).length == 1 || (Nat.toDigits 10 n).head? != some '0') = true := by
  cases n with
  | zero => rfl
  | succ n => rw [bne_iff_ne.2 (head?_toDigits_ne n.succ_pos), Bool.or_true]

/-- A whole number `n` in range is kept as such. -/
theorem wholeNumber?_of_range {n : Int} (hleast : Whole.least ≤ n)
    (hgreatest : n ≤ Whole.greatestCount) (x : Float) : wholeNumber? n x = some (.int n) := by
  rw [wholeNumber?, decide_eq_true hleast, decide_eq_true hgreatest]
  rfl

/-- The digits of `n` are read as the number. -/
theorem numberValue?_toDigits {n : Nat} (h : n ≤ Whole.greatestCount) :
    numberValue? (Nat.toDigits 10 n) = some (.int n) := by
  obtain ⟨hne, hdigits, hvalue⟩ := Grammar.spells_toDigits n
  have hlegal := legal_toDigits n
  generalize Nat.toDigits 10 n = s at hne hdigits hvalue hlegal
  have hsign : (s.head? == some '-') = false := by
    obtain ⟨c, rest, rfl⟩ := List.exists_cons_of_ne_nil hne
    rw [List.head?_cons, beq_eq_false_iff_ne]
    intro hminus
    cases hminus
    cases hdigits '-' List.mem_cons_self
  have hrange := wholeNumber?_of_range (n := n) (by unfold Whole.least; omega)
    (Int.ofNat_le.2 h)
  simp [numberValue?, hsign, split_digits hdigits, hne, hlegal, hvalue, hrange]

/-- The digits of `n` behind a minus are read as its opposite. -/
theorem numberValue?_minus {n : Nat} (hpos : 0 < n) (h : Whole.least ≤ -n) :
    numberValue? ('-' :: Nat.toDigits 10 n) = some (.int (-n)) := by
  obtain ⟨hne, hdigits, hvalue⟩ := Grammar.spells_toDigits n
  have hlegal := legal_toDigits n
  generalize Nat.toDigits 10 n = s at hne hdigits hvalue hlegal
  have hrange := wholeNumber?_of_range h (by unfold Whole.greatestCount; omega)
  -- Zero behind a minus would be a double.
  simp [numberValue?, split_digits hdigits, hne, hlegal, hvalue, hrange, hpos.ne']

/-! ## Tokens found in a text -/

/-- The text `s` can stand behind a number or a word: it is empty, or starts with punctuation. -/
def EndsToken (s : List Char) : Prop :=
  ∀ c ∈ s.head?, (punctuation? c).isSome = true

/-- Punctuation `c` ends what stands in front of it. -/
theorem endsToken_cons {c : Char} (hc : (punctuation? c).isSome = true) (s : List Char) :
    EndsToken (c :: s) := by
  intro d hd
  cases hd
  exact hc

/-- Punctuation `c` is neither a blank nor a letter, and has no place in a number. -/
theorem of_isSome_punctuation? {c : Char} (hc : (punctuation? c).isSome = true) :
    Text.isPlainSpace c = false ∧ isNumberChar c = false ∧ c.isAlpha = false := by
  unfold punctuation? at hc
  split at hc <;> first | decide | cases hc

namespace Lexer

variable {lexer : Lexer} {chars s rest : List Char} {tokens : List Token} {c : Char}

/-- The tokens that `lexer` has found once it comes to the end of `s`. -/
def outcome (lexer : Lexer) (s : List Char) : Option (List Token) :=
  (lexer.feed s).bind finish

theorem outcome_cons :
    lexer.outcome (c :: s) = (lexer.step c).bind fun next => next.outcome s := by
  unfold outcome
  rw [feed]
  cases lexer.step c <;> rfl

theorem outcome_append {next : Lexer} (h : lexer.feed s = some next) (rest : List Char) :
    lexer.outcome (s ++ rest) = next.outcome rest := by
  rw [outcome, feed_append, h, Option.bind_some, outcome]

/-- Punctuation `c` is a token. -/
theorem outcome_punctuation {token : Token} (h : punctuation? c = some token) :
    outcome ⟨.between, tokens⟩ (c :: s) = outcome ⟨.between, token :: tokens⟩ s := by
  have hspace := (of_isSome_punctuation? (by rw [h]; rfl)).1
  have hstep : step ⟨.between, tokens⟩ c = some ⟨.between, token :: tokens⟩ := by
    simp only [step, start, hspace, h]
    rfl
  rw [outcome_cons, hstep, Option.bind_some]

/-- A number ends before punctuation. -/
theorem outcome_number (h : EndsToken rest) :
    outcome ⟨.number chars, tokens⟩ rest = (numberValue? chars.reverse).bind fun v =>
      outcome ⟨.between, .number v :: tokens⟩ rest := by
  cases rest with
  | nil => cases hvalue : numberValue? chars.reverse <;> simp [outcome, feed, finish, hvalue]
  | cons c rest =>
    -- The character completes the number and is then read once more, between tokens.
    have hchar := (of_isSome_punctuation? (h c rfl)).2.1
    have hstep : step ⟨.number chars, tokens⟩ c =
        (numberValue? chars.reverse).bind fun v => start (.number v :: tokens) c := by
      simp only [step, hchar]
      rfl
    rw [outcome_cons, hstep]
    cases numberValue? chars.reverse with
    | none => rfl
    | some v => rw [Option.bind_some, Option.bind_some, outcome_cons]; rfl

/-- A word ends before punctuation. -/
theorem outcome_word (h : EndsToken rest) :
    outcome ⟨.word chars, tokens⟩ rest =
      outcome ⟨.between, .word (String.ofList chars.reverse) :: tokens⟩ rest := by
  cases rest with
  | nil => rfl
  | cons c rest =>
    have halpha := (of_isSome_punctuation? (h c rfl)).2.2
    have hstep : step ⟨.word chars, tokens⟩ c =
        start (.word (String.ofList chars.reverse) :: tokens) c := by
      simp only [step, halpha]
      rfl
    rw [outcome_cons, hstep, outcome_cons]
    rfl

/-- The characters of a number are collected. -/
theorem feed_number (h : ∀ c ∈ s, isNumberChar c = true) :
    feed ⟨.number chars, tokens⟩ s = some ⟨.number (s.reverse ++ chars), tokens⟩ := by
  induction s generalizing chars with
  | nil => rfl
  | cons c s ih =>
    obtain ⟨hc, hs⟩ := List.forall_mem_cons.1 h
    have hstep : step ⟨.number chars, tokens⟩ c = some ⟨.number (c :: chars), tokens⟩ := by
      simp only [step, hc, if_true]
    simp only [feed, hstep]
    rw [ih hs, List.reverse_cons, List.append_assoc, List.singleton_append]

/-- The digits of a control character `n` stand for it. -/
theorem hexValue?_control :
    ∀ n < 32, hexValue? ['0', '0', hexChar (n / 16), hexChar (n % 16)] = some n := by
  decide +kernel

/-- A character `c` is read back from its form in quotes. -/
theorem feed_escapeChar (c : Char) :
    feed ⟨.text chars, tokens⟩ (escapeChar c) = some ⟨.text (c :: chars), tokens⟩ := by
  have hsimple : ∀ e d : Char, e ≠ 'u' → escaped? e = some d →
      feed ⟨.text chars, tokens⟩ ['\\', e] = some ⟨.text (d :: chars), tokens⟩ := by
    intro e d he hescaped
    simp [feed, step, he, hescaped]
  unfold escapeChar
  split
  · rename_i h
    exact eq_of_beq h ▸ hsimple '"' '"' (by decide) rfl
  split
  · rename_i h
    exact eq_of_beq h ▸ hsimple '\\' '\\' (by decide) rfl
  split
  · rename_i h
    exact eq_of_beq h ▸ hsimple 'n' '\n' (by decide) rfl
  split
  · rename_i h
    exact eq_of_beq h ▸ hsimple 'r' '\r' (by decide) rfl
  split
  · rename_i h
    exact eq_of_beq h ▸ hsimple 't' '\t' (by decide) rfl
  split
  · rename_i h
    exact eq_of_beq h ▸ hsimple 'b' '\x08' (by decide) rfl
  split
  · rename_i h
    exact eq_of_beq h ▸ hsimple 'f' '\x0c' (by decide) rfl
  split
  · rename_i hcontrol
    -- A control character is no half of a pair.
    have hvalue := hexValue?_control c.toNat hcontrol
    have hlead : isLeadUnit c.toNat = false := by
      simp only [isLeadUnit, Bool.and_eq_false_iff, decide_eq_false_iff_not]
      omega
    have htrail : isTrailUnit c.toNat = false := by
      simp only [isTrailUnit, Bool.and_eq_false_iff, decide_eq_false_iff_not]
      omega
    simp [feed, step, hvalue, takeUnit, hlead, htrail, Char.ofNat_toNat]
  · rename_i hquote hslash _ _ _ _ _ hcontrol
    simp [feed, step, hquote, hslash, hcontrol]

/-- The characters of `s` are read back from their forms in quotes, one after the other. -/
theorem feed_flatMap_escapeChar (s chars : List Char) :
    feed ⟨.text chars, tokens⟩ (s.flatMap escapeChar) =
      some ⟨.text (s.reverse ++ chars), tokens⟩ := by
  induction s generalizing chars with
  | nil => rfl
  | cons c s ih =>
    rw [List.flatMap_cons, feed_append, feed_escapeChar, Option.bind_some, ih, List.reverse_cons,
      List.append_assoc, List.singleton_append]

/-- A text `x` is read back from its form in quotes. -/
theorem feed_quote (x : String) :
    feed ⟨.between, tokens⟩ (quote x) = some ⟨.between, .text x :: tokens⟩ := by
  have hopen : step ⟨.between, tokens⟩ '"' = some ⟨.text [], tokens⟩ := rfl
  rw [quote, List.cons_append]
  simp only [feed, hopen]
  rw [feed_append, feed_flatMap_escapeChar, Option.bind_some]
  simp [feed, step]

end Lexer

/-- The text `s` spells `tokens`, whatever has been read before, up to what ends a token. -/
def Lexes (s : List Char) (tokens : List Token) : Prop :=
  ∀ before rest, EndsToken rest →
    Lexer.outcome ⟨.between, before⟩ (s ++ rest) =
      Lexer.outcome ⟨.between, tokens.reverse ++ before⟩ rest

section Spelling

variable {s t : List Char} {first second : List Token} {c d : Char} {token last : Token}

/-- Two texts with punctuation `c` between them spell the tokens of both. -/
theorem Lexes.append (hs : Lexes s first) (hc : punctuation? c = some token)
    (ht : Lexes t second) : Lexes (s ++ c :: t) (first ++ token :: second) := by
  intro before rest hrest
  rw [List.append_assoc, List.cons_append, hs _ _ (endsToken_cons (by rw [hc]; rfl) _),
    Lexer.outcome_punctuation hc, ht _ _ hrest]
  simp

/-- Nothing spells nothing. -/
theorem lexes_nil : Lexes [] [] :=
  fun _ _ _ => rfl

/-- Brackets around a text are tokens around its own. -/
theorem Lexes.enclosed (hs : Lexes s first) (hc : punctuation? c = some token)
    (hd : punctuation? d = some last) :
    Lexes (c :: s ++ [d]) (token :: first ++ [last]) :=
  (lexes_nil.append hc hs).append hd lexes_nil

/-- A text `x` in quotes is one token. -/
theorem lexes_quote (x : String) : Lexes (quote x) [.text x] :=
  fun _ rest _ => Lexer.outcome_append (Lexer.feed_quote x) rest

/-- A digit or a minus `c` begins a number. -/
theorem Lexer.step_between_number (hc : (c.isDigit || c == '-') = true) (before : List Token) :
    Lexer.step ⟨.between, before⟩ c = some ⟨.number [c], before⟩ := by
  have hspace := isPlainSpace_eq_false (fun c => c.isDigit || c == '-') rfl hc
  have hmark : punctuation? c = none := by
    unfold punctuation?
    split <;> first | rfl | cases hc
  have hquote : (c == '"') = false := by
    rw [beq_eq_false_iff_ne]
    rintro rfl
    cases hc
  simp [Lexer.step, Lexer.start, hspace, hmark, hquote, hc]

/-- Digits that are read as `v`, with or without a minus in front, are one token. -/
theorem lexes_number {v : Value} (hc : (c.isDigit || c == '-') = true)
    (hs : ∀ d ∈ s, d.isDigit = true) (hvalue : numberValue? (c :: s) = some v) :
    Lexes (c :: s) [.number v] := by
  intro before rest hrest
  have hfeed : Lexer.feed ⟨.number [c], before⟩ s = some ⟨.number (s.reverse ++ [c]), before⟩ :=
    Lexer.feed_number fun d hd => by rw [isNumberChar, hs d hd]; rfl
  rw [List.cons_append, Lexer.outcome_cons, Lexer.step_between_number hc, Option.bind_some,
    Lexer.outcome_append hfeed, Lexer.outcome_number hrest]
  simp [hvalue]

/-- A whole number `n` in range is one token. -/
theorem lexes_int {n : Int} (hleast : Whole.least ≤ n) (hgreatest : n ≤ Whole.greatestCount) :
    Lexes (compactChars (.int n)) [.number (.int n)] := by
  cases n with
  | ofNat n =>
    have htext : compactChars (.int (.ofNat n)) = Nat.toDigits 10 n := Nat.toList_repr
    have hvalue := numberValue?_toDigits (Int.ofNat_le.1 hgreatest)
    obtain ⟨hne, hdigits, -⟩ := Grammar.spells_toDigits n
    obtain ⟨c, rest, hs⟩ := List.exists_cons_of_ne_nil hne
    rw [hs] at hdigits hvalue
    obtain ⟨hc, hrest⟩ := List.forall_mem_cons.1 hdigits
    rw [htext, hs]
    exact lexes_number (by rw [hc]; rfl) hrest hvalue
  | negSucc n =>
    have htext : compactChars (.int (.negSucc n)) = '-' :: Nat.toDigits 10 (n + 1) := by
      change ("-" ++ Nat.repr (n + 1)).toList = _
      rw [String.toList_append, Nat.toList_repr]
      rfl
    rw [htext]
    exact lexes_number rfl (Grammar.spells_toDigits _).2.1
      (numberValue?_minus n.succ_pos hleast)

/-- A word whose letters the lexer goes through is one token. -/
theorem lexes_word (chars : List Char)
    (h : ∀ before, Lexer.feed ⟨.between, before⟩ s = some ⟨.word chars, before⟩) :
    Lexes s [.word (String.ofList chars.reverse)] := by
  intro before rest hrest
  rw [Lexer.outcome_append (h before), Lexer.outcome_word hrest]
  rfl

/-- If each of `items` spells its tokens, all of them with commas between them spell theirs. -/
theorem lexes_items {items : List Value}
    (h : ∀ v ∈ items, Lexes (compactChars v) (tokensOf v)) :
    Lexes (compactItems items) (itemTokens items) := by
  induction items with
  | nil => exact lexes_nil
  | cons v rest ih =>
    obtain ⟨hv, hrest⟩ := List.forall_mem_cons.1 h
    cases rest with
    | nil => exact hv
    | cons w rest => exact hv.append rfl (ih hrest)

/-- If each value in `fields` spells its tokens, the members with commas between them spell
theirs. -/
theorem lexes_members {fields : List (String × Value)}
    (h : ∀ entry ∈ fields, Lexes (compactChars entry.2) (tokensOf entry.2)) :
    Lexes (compactMembers fields) (memberTokens fields) := by
  induction fields with
  | nil => exact lexes_nil
  | cons entry rest ih =>
    obtain ⟨hentry, hrest⟩ := List.forall_mem_cons.1 h
    have hmember := (lexes_quote entry.1).append (c := ':') rfl hentry
    cases rest with
    | nil => exact hmember
    | cons next rest => exact hmember.append rfl (ih hrest)

end Spelling

/-- The text of an exact value `v` spells its tokens. -/
theorem lexes_of_isExact {depth : Nat} {v : Value} (h : v.IsExact depth) :
    Lexes (compactChars v) (tokensOf v) := by
  induction h with
  | null => exact lexes_word "null".toList.reverse fun _ => rfl
  | bool b =>
    cases b with
    | true => exact lexes_word "true".toList.reverse fun _ => rfl
    | false => exact lexes_word "false".toList.reverse fun _ => rfl
  | int hleast hgreatest => exact lexes_int hleast hgreatest
  | string s => exact lexes_quote s
  | array _ ih => exact (lexes_items ih).enclosed rfl rfl
  | object _ _ ih => exact (lexes_members ih).enclosed rfl rfl

/-- The tokens of the text of an exact value `v` are those of the value. -/
theorem tokens?_compactChars {depth : Nat} {v : Value} (h : v.IsExact depth) :
    tokens? (compactChars v) = some (tokensOf v) := by
  have hspelled := lexes_of_isExact h [] [] (fun c hc => by cases hc)
  rw [List.append_nil, List.append_nil] at hspelled
  refine hspelled.trans ?_
  simp [Lexer.outcome, Lexer.feed, Lexer.finish]

/-! ## Values read from tokens -/

/-- What the reader makes of the tokens of a value. -/
def documentOf : Value → Document
  | .object fields => .members fields
  | v => .value v

/-- Nothing is lost of an exact value `v` when it is made from the document that the reader makes of
it. -/
theorem toValue_documentOf {depth : Nat} {v : Value} (h : v.IsExact depth) :
    (documentOf v).toValue = v := by
  cases h with
  | object hsorted => exact congrArg Value.object hsorted.collect_eq
  | _ => rfl

/-- The tokens of a value do not begin with a closing bracket. -/
theorem exists_tokensOf_eq (v : Value) :
    ∃ token rest, tokensOf v = token :: rest ∧ token ≠ .closeArray := by
  cases v with
  | bool b => cases b <;> exact ⟨_, _, rfl, nofun⟩
  | _ => exact ⟨_, _, rfl, nofun⟩

/-- The reader takes the tokens of `v` for the value, wherever no more is open than leaves room for
its `depth` under `limit`. -/
def Reads (limit depth : Nat) (v : Value) : Prop :=
  ∀ (stack : List Frame) (rest : List Token), stack.length + depth ≤ limit →
    Reading.feed (strict (some limit)) (.value stack) (tokensOf v ++ rest) =
      Reading.feed (strict (some limit)) (Reading.complete (documentOf v) stack) rest

section Reading

variable {limit depth : Nat} {stack : List Frame} {rest : List Token}

/-- In an array, `v` is read as the item that it is. -/
theorem Reads.item {v : Value} (h : Reads limit depth v) (hv : (documentOf v).toValue = v)
    (hdepth : stack.length + 1 + depth ≤ limit) (items : List Value) :
    Reading.feed (strict (some limit)) (.item items stack) (tokensOf v ++ rest) =
      Reading.feed (strict (some limit)) (.afterItem (v :: items) stack) rest := by
  have hvalue := h (.array items :: stack) rest hdepth
  obtain ⟨token, more, htokens, htoken⟩ := exists_tokensOf_eq v
  rw [Reading.complete, hv] at hvalue
  have hstep : Reading.step (strict (some limit)) (.item items stack) token =
      Reading.step (strict (some limit)) (.value (.array items :: stack)) token := by
    simp only [Reading.step, if_neg htoken]
  rw [← hvalue, htokens, List.cons_append]
  simp only [Reading.feed, hstep]

/-- The `items` are read up to the bracket that closes their array. -/
theorem feed_itemTokens {items read : List Value} (h : ∀ v ∈ items, Reads limit depth v)
    (hv : ∀ v ∈ items, (documentOf v).toValue = v) (hdepth : stack.length + 1 + depth ≤ limit)
    (hread : items ≠ [] ∨ read = []) :
    Reading.feed (strict (some limit)) (.item read stack)
        (itemTokens items ++ .closeArray :: rest) =
      Reading.feed (strict (some limit))
        (Reading.complete (.value (.array (read.reverse ++ items))) stack) rest := by
  induction items generalizing read with
  | nil =>
    obtain rfl := hread.resolve_left fun hne => hne rfl
    rfl
  | cons v items ih =>
    obtain ⟨hfirst, hrest⟩ := List.forall_mem_cons.1 h
    obtain ⟨hvfirst, hvrest⟩ := List.forall_mem_cons.1 hv
    cases items with
    | nil =>
      -- Behind the last item stands the bracket.
      rw [itemTokens, hfirst.item hvfirst hdepth]
      simp [Reading.feed, Reading.step]
    | cons w items =>
      -- Behind any other item stands a comma, and there is an item in front of what follows.
      have hitems := @ih (v :: read) hrest hvrest (.inl (List.cons_ne_nil _ _))
      rw [List.reverse_cons, List.append_assoc, List.singleton_append] at hitems
      have hcomma : itemTokens (v :: w :: items) =
          tokensOf v ++ .comma :: itemTokens (w :: items) := rfl
      rw [hcomma, List.append_assoc, hfirst.item hvfirst hdepth, List.cons_append, ← hitems]
      rfl

/-- The members in `fields` are read up to the bracket that closes their object. -/
theorem feed_memberTokens {fields read : List (String × Value)}
    (h : ∀ entry ∈ fields, Reads limit depth entry.2)
    (hv : ∀ entry ∈ fields, (documentOf entry.2).toValue = entry.2)
    (hdepth : stack.length + 1 + depth ≤ limit) (hread : fields ≠ [] ∨ read = []) :
    Reading.feed (strict (some limit)) (.member read stack)
        (memberTokens fields ++ .closeObject :: rest) =
      Reading.feed (strict (some limit))
        (Reading.complete (.members (read.reverse ++ fields)) stack) rest := by
  induction fields generalizing read with
  | nil =>
    obtain rfl := hread.resolve_left fun hne => hne rfl
    rfl
  | cons entry fields ih =>
    obtain ⟨name, v⟩ := entry
    obtain ⟨hfirst, hrest⟩ := List.forall_mem_cons.1 h
    obtain ⟨hvfirst, hvrest⟩ := List.forall_mem_cons.1 hv
    -- The name and the colon lead to the value.
    have hmember : ∀ more, Reading.feed (strict (some limit)) (.member read stack)
        (.text name :: .colon :: (tokensOf v ++ more)) =
        Reading.feed (strict (some limit)) (.afterMember ((name, v) :: read) stack) more := by
      intro more
      refine (hfirst (.object read name :: stack) more hdepth).trans ?_
      rw [Reading.complete, hvfirst]
    cases fields with
    | nil =>
      rw [memberTokens, List.cons_append, List.cons_append, hmember]
      simp [Reading.feed, Reading.step]
    | cons next fields =>
      have hmembers := @ih ((name, v) :: read) hrest hvrest (.inl (List.cons_ne_nil _ _))
      rw [List.reverse_cons, List.append_assoc, List.singleton_append] at hmembers
      have hnext :=
        hmember (.comma :: (memberTokens (next :: fields) ++ .closeObject :: rest))
      rw [← hmembers]
      refine Eq.trans ?_ hnext
      simp [memberTokens]

end Reading

/-- An exact value `v` is read from its tokens. -/
theorem reads_of_isExact {limit depth : Nat} {v : Value} (h : v.IsExact depth) :
    Reads limit depth v := by
  -- On the exact value; a list or an object opens one level and leaves one less for what is in it.
  induction h with
  | null => exact fun _ _ _ => rfl
  | bool b => cases b <;> exact fun _ _ _ => rfl
  | int => exact fun _ _ _ => rfl
  | string => exact fun _ _ _ => rfl
  | @array depth items h ih =>
    intro stack rest hdepth
    have hopen : Reading.mayOpen (strict (some limit)) stack = true :=
      decide_eq_true (show stack.length < limit by omega)
    have hinner : stack.length + 1 + depth ≤ limit := by omega
    have hvalue : ∀ v ∈ items, (documentOf v).toValue = v := fun v hv =>
      toValue_documentOf (h v hv)
    refine Eq.trans ?_ (feed_itemTokens ih hvalue hinner (.inr rfl))
    simp [tokensOf, Reading.feed, Reading.step, Reading.begin, hopen]
  | @object depth fields hsorted h ih =>
    intro stack rest hdepth
    have hopen : Reading.mayOpen (strict (some limit)) stack = true :=
      decide_eq_true (show stack.length < limit by omega)
    have hinner : stack.length + 1 + depth ≤ limit := by omega
    have hvalue : ∀ entry ∈ fields, (documentOf entry.2).toValue = entry.2 := fun entry hentry =>
      toValue_documentOf (h entry hentry)
    refine Eq.trans ?_ (feed_memberTokens ih hvalue hinner (.inr rfl))
    simp [tokensOf, Reading.feed, Reading.step, Reading.begin, hopen]

/-- An exact value `v` that is not too deep is read from its text. -/
theorem read?_compact {v : Value} (h : v.IsExact maxDepth) : read? (compact v) = some v := by
  have hreads : Reads maxDepth maxDepth v := reads_of_isExact h
  have hread := hreads [] [] (Nat.le_of_eq (Nat.zero_add _))
  rw [List.append_nil] at hread
  rw [read?, compact, String.toList_ofList, tokens?_compactChars h, Option.bind_some,
    Dialect.document?, hread]
  exact congrArg some (toValue_documentOf h)

end Json

end Promptbook
