import Promptbook.Proofs.Directive.Readers

/-!
# Written Arguments

All the ways in which arguments may be written, and that reading gives them back from each. A
written form is a relation between an argument and a text, since one argument has many: two quotes,
two signs of assignment, blanks of any kind and number, two spellings of a step of a path.

## Main definitions

* `Grammar.StepWritten`, `Grammar.StepsWritten`, `Grammar.SourceWritten`, `Grammar.ItemWritten`,
  `Grammar.ItemsWritten`: the written forms of steps, values, items and sequences of items.
* `ArgumentItem.Written`: the written forms of the arguments of a directive.
* `ArgumentItem.Writable`: the items that have a written form.

## Main results

* `Grammar.steps_append`, `Grammar.value?_append`, `Grammar.item?_append`: a written form is read up
  to what ends it.
* `Grammar.items_append`: a written sequence of items is read in whole.
* `ArgumentItem.parseAll_written`: written arguments are read back, and every list of writable items
  can be written.
-/

namespace Promptbook

open Text (Stops)

namespace Grammar

/-- A stretch of blanks, which may be empty. -/
def IsBlank (s : List Char) : Prop :=
  ∀ c ∈ s, Text.isPlainSpace c = true

/-- The `digits` spell the number `n`; zeros in front do not matter. -/
def Spells (digits : List Char) (n : Nat) : Prop :=
  digits ≠ [] ∧ (∀ c ∈ digits, c.isDigit = true) ∧ Decimal.digitsValue digits = n

/-- The written forms of a step of a path. -/
inductive StepWritten : PathStep → List Char → Prop where
  /-- A member whose `name` is a key stands behind a point. -/
  | dottedKey {name : List Char} (hname : IsKey name) :
      StepWritten (.key (String.ofList name)) ('.' :: name)
  /-- Any member may stand in brackets, in quotes that its `name` does not contain. -/
  | quotedKey {name : List Char} {quote : Char} (hquote : IsQuote quote) (hname : quote ∉ name) :
      StepWritten (.key (String.ofList name)) ('[' :: quote :: (name ++ [quote, ']']))
  /-- An index `n` stands behind a point. -/
  | dottedIndex {digits : List Char} {n : Nat} (hdigits : Spells digits n)
      (hn : n ≤ Whole.greatestCount) : StepWritten (.index n) ('.' :: digits)
  /-- An index `n` may also stand in brackets. -/
  | bracketedIndex {digits : List Char} {n : Nat} (hdigits : Spells digits n)
      (hn : n ≤ Whole.greatestCount) : StepWritten (.index n) ('[' :: (digits ++ [']']))

/-- The written forms of the steps of a path, one behind the other. -/
inductive StepsWritten : List PathStep → List Char → Prop where
  /-- No steps are written as nothing. -/
  | none : StepsWritten [] []
  /-- The first `step` stands in front of the others. -/
  | more {step : PathStep} {rest : List PathStep} {s t : List Char} (hstep : StepWritten step s)
      (hrest : StepsWritten rest t) : StepsWritten (step :: rest) (s ++ t)

/-- The words that stand for values when they are not quoted. -/
def IsValueWord (root : List Char) : Prop :=
  root ∈ ["true".toList, "false".toList, "nil".toList, "null".toList]

/-- The written forms of a value. -/
inductive SourceWritten : ArgumentSource → List Char → Prop where
  /-- A `text` stands in quotes that it does not contain. -/
  | quoted {text : List Char} {quote : Char} (hquote : IsQuote quote) (htext : quote ∉ text) :
      SourceWritten (.literal (.string (String.ofList text))) (quote :: (text ++ [quote]))
  /-- A whole number `n` is written with digits. -/
  | unsigned {digits : List Char} {n : Nat} (hdigits : Spells digits n)
      (hfits : Whole.fits n = true) : SourceWritten (.literal (.int n)) digits
  /-- A plus may stand before the digits. -/
  | plus {digits : List Char} {n : Nat} (hdigits : Spells digits n)
      (hfits : Whole.fits n = true) : SourceWritten (.literal (.int n)) ('+' :: digits)
  /-- A minus before the digits turns `n` into its opposite. -/
  | minus {digits : List Char} {n : Nat} (hdigits : Spells digits n)
      (hfits : Whole.fits (-n) = true) : SourceWritten (.literal (.int (-n))) ('-' :: digits)
  /-- The word for the true value. -/
  | holds : SourceWritten (.literal (.bool true)) "true".toList
  /-- The word for the false value. -/
  | fails : SourceWritten (.literal (.bool false)) "false".toList
  /-- One word for the absent value. -/
  | nil : SourceWritten (.literal .null) "nil".toList
  /-- The other word for the absent value. -/
  | null : SourceWritten (.literal .null) "null".toList
  /-- A path is written as its `root` with its `steps` behind it. The words for values are no
  paths. -/
  | path {root s : List Char} {steps : List PathStep} (hroot : IsKey root)
      (hsteps : StepsWritten steps s) (hword : steps = [] → ¬ IsValueWord root) :
      SourceWritten (.path ⟨String.ofList root, steps⟩) (root ++ s)

/-- The written forms of an item. -/
inductive ItemWritten : ArgumentItem → List Char → Prop where
  /-- A bare `key` has no value. -/
  | bare {key : List Char} (hkey : IsKey key) : ItemWritten ⟨String.ofList key, .absent⟩ key
  /-- A `key`, a `sign` with blanks around it, and a value. -/
  | assigned {key before after s : List Char} {sign : Char} {source : ArgumentSource}
      (hkey : IsKey key) (hbefore : IsBlank before) (hsign : sign = '=' ∨ sign = ':')
      (hafter : IsBlank after) (hsource : SourceWritten source s) :
      ItemWritten ⟨String.ofList key, source⟩ (key ++ before ++ sign :: (after ++ s))

/-- What may stand between two items. -/
inductive SeparatorWritten : List Char → Prop where
  /-- Blanks, at least one. -/
  | blank {s : List Char} (hs : IsBlank s) (hne : s ≠ []) : SeparatorWritten s
  /-- A comma with blanks around it. -/
  | comma {before after : List Char} (hbefore : IsBlank before) (hafter : IsBlank after) :
      SeparatorWritten (before ++ ',' :: after)

/-- What may stand behind the last item. -/
inductive TrailWritten : List Char → Prop where
  /-- Blanks. -/
  | blank {s : List Char} (hs : IsBlank s) : TrailWritten s
  /-- A comma with blanks around it. -/
  | comma {before after : List Char} (hbefore : IsBlank before) (hafter : IsBlank after) :
      TrailWritten (before ++ ',' :: after)

/-- The written forms of a sequence of items. -/
inductive ItemsWritten : List ArgumentItem → List Char → Prop where
  /-- No items are written as nothing. -/
  | none : ItemsWritten [] []
  /-- A single `item`. -/
  | one {item : ArgumentItem} {s : List Char} (hitem : ItemWritten item s) :
      ItemsWritten [item] s
  /-- An `item`, something `between`, and at least one more item. -/
  | more {item next : ArgumentItem} {rest : List ArgumentItem} {s between t : List Char}
      (hitem : ItemWritten item s) (hbetween : SeparatorWritten between)
      (hrest : ItemsWritten (next :: rest) t) :
      ItemsWritten (item :: next :: rest) (s ++ (between ++ t))

section Characters

/-- Every digit may stand inside of a key. -/
theorem continuesKey_of_isDigit {c : Char} (h : c.isDigit = true) : continuesKey c = true := by
  simp [continuesKey, Text.isAlphanumeric, Text.isNumeric, h]

/-- No digit starts a key. -/
theorem startsKey_of_isDigit {c : Char} (h : c.isDigit = true) : startsKey c = false := by
  obtain ⟨hlow, hhigh⟩ := Char.isDigit_iff_toNat.1 h
  have hall : ∀ n, n < 58 → 48 ≤ n → startsKey (Char.ofNat n) = false := by decide
  have hc := hall c.toNat (Nat.lt_succ_of_le hhigh) hlow
  rwa [Char.ofNat_toNat] at hc

/-- No quote starts a key. -/
theorem not_isQuote_of_startsKey {c : Char} (h : startsKey c = true) : ¬ IsQuote c := by
  rintro (rfl | rfl) <;> exact absurd h (by decide)

/-- If `s` does not go on with a key, it does not go on with digits. -/
theorem stops_isDigit {s : List Char} (h : Stops continuesKey s) : Stops Char.isDigit s := by
  intro c hc
  rw [Bool.eq_false_iff]
  intro hdigit
  have hforeign := h c hc
  rw [continuesKey_of_isDigit hdigit] at hforeign
  cases hforeign

end Characters

section Values

variable {s t : List Char}

/-- Nothing that could go on with a value stands at the start of `s`: the text is at its end, or it
goes on with a blank or a comma. -/
def EndsValue (s : List Char) : Prop :=
  ∀ c ∈ s.head?, Text.isPlainSpace c = true ∨ c = ','

/-- What ends a value is foreign to keys. -/
theorem EndsValue.stops (h : EndsValue s) : Stops continuesKey s := by
  intro c hc
  rcases h c hc with hblank | rfl
  · exact continuesKey_of_isPlainSpace hblank
  · decide

/-- What ends a value starts neither with a point nor with a bracket. -/
theorem EndsValue.ne (h : EndsValue s) {c : Char} (hc : c = '.' ∨ c = '[') (rest : List Char) :
    s ≠ c :: rest := by
  rintro rfl
  rcases h c rfl with hblank | hcomma
  · rcases hc with rfl | rfl <;> exact absurd hblank (by decide)
  · rcases hc with rfl | rfl <;> exact absurd hcomma (by decide)

/-- The `digits` of a written number are read as far as they go. -/
theorem digits?_append {digits : List Char} {n : Nat} (h : Spells digits n)
    (ht : Stops Char.isDigit t) : digits? (digits ++ t) = some (digits, t) :=
  digits?_eq_some.2 ⟨h.1, h.2.1, rfl, ht⟩

/-- A written index `n` is read. -/
theorem index?_append {digits : List Char} {n : Nat} (h : Spells digits n)
    (hn : n ≤ Whole.greatestCount) (ht : Stops Char.isDigit t) :
    index? (digits ++ t) = some (.index n, t) := by
  have hvalue : Decimal.digitsValue digits = n := h.2.2
  simp [index?, digits?_append h ht, hvalue, hn]

/-- If `s` does not go on with digits, there is no index. -/
theorem index?_eq_none (h : Stops Char.isDigit s) : index? s = none := by
  simp [index?, digits?_eq_none.2 h]

/-- A key does not go on with digits. -/
theorem IsKey.stops_isDigit {name : List Char} (h : IsKey name) (t : List Char) :
    Stops Char.isDigit (name ++ t) := by
  obtain ⟨c, rest, rfl, hc, -⟩ := h
  rw [List.cons_append, Text.stops_cons, Bool.eq_false_iff]
  intro hdigit
  rw [startsKey_of_isDigit hdigit] at hc
  cases hc

/-- A written `step` is read, if what follows it is foreign to keys. -/
theorem step?_append {step : PathStep} (h : StepWritten step s) (ht : Stops continuesKey t) :
    step? (s ++ t) = some (step, t) := by
  cases h with
  | @dottedKey name hname =>
    have hkey : key? (name ++ t) = some (name, t) := key?_eq_some.2 ⟨hname, rfl, ht⟩
    simp [step?, dotted?, index?_eq_none (hname.stops_isDigit t), hkey]
  | @quotedKey name quote hquote hname =>
    have hquoted : quoted? (quote :: (name ++ quote :: ']' :: t)) = some (name, ']' :: t) :=
      quoted?_eq_some.2 ⟨quote, hquote, hname, rfl⟩
    have hindex : index? (quote :: (name ++ quote :: ']' :: t)) = none := by
      refine index?_eq_none (Text.stops_cons.2 ?_)
      rcases hquote with rfl | rfl <;> decide
    simp [step?, bracketed?, hindex, hquoted]
  | @dottedIndex digits n hdigits hn =>
    have hindex := index?_append hdigits hn (stops_isDigit ht)
    simp [step?, dotted?, hindex]
  | @bracketedIndex digits n hdigits hn =>
    have hbracket : Stops Char.isDigit (']' :: t) := Text.stops_cons.2 (by decide)
    have hindex := index?_append hdigits hn hbracket
    simp [step?, bracketed?, hindex]

/-- If neither a point nor a bracket stands at the start of `s`, there is no step. -/
theorem step?_eq_none (h : ∀ c, c = '.' ∨ c = '[' → ∀ rest, s ≠ c :: rest) : step? s = none := by
  unfold step?
  split
  · exact absurd rfl (h '.' (.inl rfl) _)
  · exact absurd rfl (h '[' (.inr rfl) _)
  · rfl

/-- If no step is read, no more of them are. -/
theorem steps_of_none (h : step? s = none) : steps s = ([], s) := by
  rw [steps]
  split
  · rfl
  · rename_i hfound
    rw [h] at hfound
    cases hfound

/-- A `step` is read in front of the others. -/
theorem steps_of_some {step : PathStep} {rest : List Char} (h : step? s = some (step, rest)) :
    steps s = (step :: (steps rest).1, (steps rest).2) := by
  rw [steps]
  split
  · rename_i hfound
    rw [h] at hfound
    cases hfound
  · rename_i hfound
    rw [h] at hfound
    cases hfound
    rfl

/-- Steps start with a point or a bracket, so they are foreign to keys. -/
theorem StepsWritten.stops {path : List PathStep} (h : StepsWritten path s)
    (ht : Stops continuesKey t) : Stops continuesKey (s ++ t) := by
  cases h with
  | none => exact ht
  | more hstep hrest =>
    cases hstep <;> exact Text.stops_cons.2 (by decide)

/-- The written steps of `path` are read up to what ends the value. -/
theorem steps_append {path : List PathStep} (h : StepsWritten path s) (ht : EndsValue t) :
    steps (s ++ t) = (path, t) := by
  induction h with
  | none => exact steps_of_none (step?_eq_none fun c hc => ht.ne hc)
  | @more step rest s s' hstep hrest ih =>
    have hfirst := step?_append hstep (hrest.stops ht.stops)
    rw [List.append_assoc, steps_of_some hfirst, ih]

/-- Where a value ends there is no fraction. -/
theorem fraction_of_endsValue (h : EndsValue s) : fraction s = (none, s) := by
  unfold fraction
  split
  · exact absurd rfl (h.ne (.inl rfl) _)
  · rfl

/-- A number behind its sign is read up to what ends the value. -/
theorem number?_of_takeSign {digits : List Char} {n : Nat} {negative : Bool}
    (hsign : Decimal.Numeral.takeSign s = (negative, digits ++ t)) (hdigits : Spells digits n)
    (ht : EndsValue t) {signed : Int} (hsigned : (if negative then -(n : Int) else n) = signed)
    (hfits : Whole.fits signed = true) : number? s = some (.int signed, t) := by
  have hread := digits?_append hdigits (stops_isDigit ht.stops)
  have hend : t.head?.any continuesKey = false := by
    cases t with
    | nil => rfl
    | cons c t => exact Text.stops_cons.1 ht.stops
  have hvalue : Decimal.digitsValue digits = n := hdigits.2.2
  have hnumber : numberValue? negative digits none = some (.int signed) := by
    simp [numberValue?, hvalue, hsigned, hfits]
  simp [number?, hsign, hread, fraction_of_endsValue ht, hend, hnumber]

/-- A key is no number. -/
theorem number?_of_isKey {name : List Char} (h : IsKey name) (t : List Char) :
    number? (name ++ t) = none := by
  have hdigits := digits?_eq_none.2 (h.stops_isDigit t)
  have hsign : Decimal.Numeral.takeSign (name ++ t) = (false, name ++ t) := by
    obtain ⟨c, rest, rfl, hc, -⟩ := h
    refine takeSign_cons ?_ ?_
    · rintro rfl
      exact absurd hc (by decide)
    · rintro rfl
      exact absurd hc (by decide)
  simp [number?, hsign, hdigits]

/-- A word `root` with the steps of `path` behind it is read as what it stands for. -/
theorem value?_of_isKey {root : List Char} {path : List PathStep} (hroot : IsKey root)
    (hsteps : StepsWritten path s) (ht : EndsValue t) :
    value? (root ++ s ++ t) = some (ofPath ⟨String.ofList root, path⟩, t) := by
  have hquoted : quoted? (root ++ s ++ t) = none := by
    obtain ⟨c, rest, rfl, hc, -⟩ := hroot
    exact quoted?_cons_of_not_isQuote (not_isQuote_of_startsKey hc)
  have hkey : key? (root ++ (s ++ t)) = some (root, s ++ t) :=
    key?_eq_some.2 ⟨hroot, rfl, hsteps.stops ht.stops⟩
  rw [List.append_assoc] at hquoted ⊢
  simp [value?, hquoted, number?_of_isKey hroot, path?, hkey, steps_append hsteps ht]

/-- A word that is no value stands for a path, and so does every word with steps behind it. -/
theorem ofPath_of_not_isValueWord {root : List Char} {path : List PathStep}
    (h : path = [] → ¬ IsValueWord root) :
    ofPath ⟨String.ofList root, path⟩ = .path ⟨String.ofList root, path⟩ := by
  unfold ofPath
  cases path with
  | cons step path => rfl
  | nil =>
    have hroot := h rfl
    -- The four words that stand for values are ruled out one by one.
    have hword : ∀ word, word ∈ ["true", "false", "nil", "null"] → String.ofList root ≠ word := by
      rintro word hword rfl
      refine hroot ?_
      simpa [IsValueWord, ← String.toList_inj] using hword
    simp only [List.isEmpty_nil, if_true]
    split
    · rename_i heq
      exact absurd heq (hword _ (by decide))
    · rename_i heq
      exact absurd heq (hword _ (by decide))
    · rename_i heq
      exact absurd heq (hword _ (by decide))
    · rename_i heq
      exact absurd heq (hword _ (by decide))
    · rfl

/-- A written value is read up to what ends it. -/
theorem value?_append {source : ArgumentSource} (h : SourceWritten source s) (ht : EndsValue t) :
    value? (s ++ t) = some (source, t) := by
  cases h with
  | @quoted text quote hquote htext =>
    have hquoted : quoted? (quote :: (text ++ quote :: t)) = some (text, t) :=
      quoted?_eq_some.2 ⟨quote, hquote, htext, rfl⟩
    simp [value?, hquoted]
  | @unsigned _ n hdigits hfits =>
    obtain ⟨d, digits, rfl⟩ := List.exists_cons_of_ne_nil hdigits.1
    have hd : d.isDigit = true := hdigits.2.1 d List.mem_cons_self
    -- A digit is neither a sign nor a quote.
    have hsign : Decimal.Numeral.takeSign (d :: digits ++ t) = (false, d :: digits ++ t) := by
      refine takeSign_cons ?_ ?_
      · rintro rfl
        exact absurd hd (by decide)
      · rintro rfl
        exact absurd hd (by decide)
    have hquoted : quoted? (d :: digits ++ t) = none := by
      refine quoted?_cons_of_not_isQuote ?_
      rintro (rfl | rfl) <;> exact absurd hd (by decide)
    have hnumber : number? (d :: digits ++ t) = some (.int n, t) :=
      number?_of_takeSign hsign hdigits ht rfl hfits
    simp only [value?, hquoted, hnumber]
  | @plus digits n hdigits hfits =>
    have hnumber : number? ('+' :: (digits ++ t)) = some (.int n, t) :=
      number?_of_takeSign rfl hdigits ht rfl hfits
    have hquoted : quoted? ('+' :: (digits ++ t)) = none := rfl
    simp [value?, hquoted, hnumber]
  | @minus digits n hdigits hfits =>
    have hnumber : number? ('-' :: (digits ++ t)) = some (.int (-n), t) :=
      number?_of_takeSign rfl hdigits ht rfl hfits
    have hquoted : quoted? ('-' :: (digits ++ t)) = none := rfl
    simp [value?, hquoted, hnumber]
  | holds =>
    exact value?_of_isKey ⟨'t', "rue".toList, rfl, by decide, List.all_eq_true.1 rfl⟩ .none ht
  | fails =>
    exact value?_of_isKey ⟨'f', "alse".toList, rfl, by decide, List.all_eq_true.1 rfl⟩ .none ht
  | nil =>
    exact value?_of_isKey ⟨'n', "il".toList, rfl, by decide, List.all_eq_true.1 rfl⟩ .none ht
  | null =>
    exact value?_of_isKey ⟨'n', "ull".toList, rfl, by decide, List.all_eq_true.1 rfl⟩ .none ht
  | path hroot hsteps hword =>
    rw [value?_of_isKey hroot hsteps ht, ofPath_of_not_isValueWord hword]

end Values

section Items

variable {s t : List Char}

/-- No blank stands at the start of a `key`. -/
theorem IsKey.stops_isPlainSpace {key : List Char} (h : IsKey key) (t : List Char) :
    Stops Text.isPlainSpace (key ++ t) := by
  obtain ⟨c, rest, rfl, hc, -⟩ := h
  exact Text.stops_cons.2 (isPlainSpace_of_startsKey hc)

/-- No blank stands at the start of a written value. -/
theorem SourceWritten.stops {source : ArgumentSource} (h : SourceWritten source s)
    (t : List Char) : Stops Text.isPlainSpace (s ++ t) := by
  cases h with
  | @quoted text quote hquote htext =>
    rcases hquote with rfl | rfl <;> exact Text.stops_cons.2 (by decide)
  | @unsigned _ n hdigits hfits =>
    obtain ⟨d, digits, rfl⟩ := List.exists_cons_of_ne_nil hdigits.1
    have hd : d.isDigit = true := hdigits.2.1 d List.mem_cons_self
    refine Text.stops_cons.2 (Bool.eq_false_iff.2 fun hblank => ?_)
    have hforeign := continuesKey_of_isPlainSpace hblank
    rw [continuesKey_of_isDigit hd] at hforeign
    cases hforeign
  | plus => exact Text.stops_cons.2 (by decide)
  | minus => exact Text.stops_cons.2 (by decide)
  | holds => exact Text.stops_cons.2 (by decide)
  | fails => exact Text.stops_cons.2 (by decide)
  | nil => exact Text.stops_cons.2 (by decide)
  | null => exact Text.stops_cons.2 (by decide)
  | @path root s steps hroot _ _ =>
    rw [List.append_assoc]
    exact hroot.stops_isPlainSpace (s ++ t)

/-- What may stand behind an item: what ends a value, and no sign of an assignment behind blanks. -/
structure EndsItem (s : List Char) : Prop where
  /-- The text `s` ends a value. -/
  endsValue : EndsValue s
  /-- The text `s` assigns nothing. -/
  assigned : assigned? s = none

/-- A text in which no sign of an assignment follows the blanks assigns nothing. -/
theorem assigned?_eq_none (h : ∀ c ∈ (dropBlank s).head?, c ≠ '=' ∧ c ≠ ':') :
    assigned? s = none := by
  unfold assigned?
  split
  · rename_i c rest hdropped
    rw [hdropped] at h
    obtain ⟨hequal, hcolon⟩ := h c rfl
    simp [hequal, hcolon]
  · rfl

/-- A written `item` is read up to what ends it. -/
theorem item?_append {item : ArgumentItem} (h : ItemWritten item s) (ht : EndsItem t) :
    item? (s ++ t) = some (item, t) := by
  cases h with
  | bare hkey =>
    have hread : key? (s ++ t) = some (s, t) :=
      key?_eq_some.2 ⟨hkey, rfl, ht.endsValue.stops⟩
    simp [item?, hread, ht.assigned]
  | @assigned key before after value sign source hkey hbefore hsign hafter hsource =>
    -- Blanks and signs are foreign to keys, so the key ends where it should.
    have hsigned : Stops continuesKey (sign :: (after ++ (value ++ t))) := by
      rcases hsign with rfl | rfl <;> exact Text.stops_cons.2 (by decide)
    have hstops : Stops continuesKey (before ++ sign :: (after ++ (value ++ t))) := by
      cases before with
      | nil => exact hsigned
      | cons c before =>
        exact Text.stops_cons.2 (continuesKey_of_isPlainSpace (hbefore c List.mem_cons_self))
    have hread : key? (key ++ (before ++ sign :: (after ++ (value ++ t)))) =
        some (key, before ++ sign :: (after ++ (value ++ t))) :=
      key?_eq_some.2 ⟨hkey, rfl, hstops⟩
    have hnonblank : Stops Text.isPlainSpace (sign :: (after ++ (value ++ t))) := by
      rcases hsign with rfl | rfl <;> exact Text.stops_cons.2 (by decide)
    have htest : (sign == '=' || sign == ':') = true := by
      rcases hsign with rfl | rfl <;> rfl
    have hassigned : assigned? (before ++ sign :: (after ++ (value ++ t))) = some (source, t) := by
      simp only [assigned?, dropBlank_append hbefore hnonblank, htest, if_true,
        dropBlank_append hafter (hsource.stops t)]
      exact value?_append hsource ht.endsValue
    have hassoc : key ++ before ++ sign :: (after ++ value) ++ t =
        key ++ (before ++ sign :: (after ++ (value ++ t))) := by simp
    rw [hassoc]
    simp only [item?, hread, Option.map_some, hassigned]

/-- A written item starts with its key. -/
theorem ItemWritten.exists_key {item : ArgumentItem} (h : ItemWritten item s) :
    ∃ key rest, IsKey key ∧ s = key ++ rest := by
  cases h with
  | bare hkey => exact ⟨s, [], hkey, (List.append_nil s).symm⟩
  | assigned hkey _ _ _ _ => exact ⟨_, _, hkey, List.append_assoc _ _ _⟩

/-- A written sequence of items starts with a key. -/
theorem ItemsWritten.exists_key {item : ArgumentItem} {rest : List ArgumentItem}
    (h : ItemsWritten (item :: rest) s) : ∃ key rest, IsKey key ∧ s = key ++ rest := by
  cases h with
  | one hitem => exact hitem.exists_key
  | @more _ next rest first between t hitem _ _ =>
    obtain ⟨key, behind, hkey, rfl⟩ := hitem.exists_key
    exact ⟨key, behind ++ (between ++ t), hkey, List.append_assoc _ _ _⟩

/-- Behind blanks alone nothing is left. -/
theorem dropBlank_of_isBlank (h : IsBlank s) : dropBlank s = [] := by
  have hdropped := dropBlank_append h (Text.stops_nil _)
  rwa [List.append_nil] at hdropped

/-- The blanks `before` a comma are dropped, and nothing else. -/
theorem dropBlank_comma {before : List Char} (h : IsBlank before) (rest : List Char) :
    dropBlank (before ++ ',' :: rest) = ',' :: rest :=
  dropBlank_append h (Text.stops_cons.2 (by decide))

/-- Blanks, at least one, end a value. -/
theorem endsValue_of_isBlank (hs : IsBlank s) (hne : s ≠ []) (t : List Char) :
    EndsValue (s ++ t) := by
  obtain ⟨c, rest, rfl⟩ := List.exists_cons_of_ne_nil hne
  rintro d ⟨⟩
  exact .inl (hs c List.mem_cons_self)

/-- A comma ends a value, whatever blanks stand `before` it. -/
theorem endsValue_comma {before : List Char} (h : IsBlank before) (rest : List Char) :
    EndsValue (before ++ ',' :: rest) := by
  cases before with
  | nil =>
    rintro d ⟨⟩
    exact .inr rfl
  | cons c before => exact endsValue_of_isBlank h (by simp) _

/-- Where a comma comes next nothing is assigned. -/
theorem assigned?_comma {before : List Char} (h : IsBlank before) (rest : List Char) :
    assigned? (before ++ ',' :: rest) = none := by
  refine assigned?_eq_none ?_
  rw [dropBlank_comma h]
  rintro c ⟨⟩
  decide

/-- What stands `between` two items ends the first one. -/
theorem SeparatorWritten.endsItem {between key : List Char} (h : SeparatorWritten between)
    (hkey : IsKey key) (rest : List Char) : EndsItem (between ++ (key ++ rest)) := by
  cases h with
  | blank hs hne =>
    refine ⟨endsValue_of_isBlank hs hne _, assigned?_eq_none ?_⟩
    rw [dropBlank_append hs (hkey.stops_isPlainSpace rest)]
    -- What follows the blanks is a key, and no sign starts one.
    obtain ⟨c, more, rfl, hc, -⟩ := hkey
    rintro d ⟨⟩
    constructor
    · rintro rfl
      exact absurd hc (by decide)
    · rintro rfl
      exact absurd hc (by decide)
  | comma hbefore hafter =>
    rw [List.append_assoc, List.cons_append]
    exact ⟨endsValue_comma hbefore _, assigned?_comma hbefore _⟩

/-- What stands behind the last item ends it. -/
theorem TrailWritten.endsItem (h : TrailWritten s) : EndsItem s := by
  cases h with
  | blank hs =>
    constructor
    · cases s with
      | nil => nofun
      | cons c s =>
        rintro d ⟨⟩
        exact .inl (hs c List.mem_cons_self)
    · refine assigned?_eq_none ?_
      rw [dropBlank_of_isBlank hs]
      nofun
  | comma hbefore hafter => exact ⟨endsValue_comma hbefore _, assigned?_comma hbefore _⟩

/-- What is written `between` two items is read as a separator, up to the `key` of the second
one. -/
theorem separator?_append {between key : List Char} (h : SeparatorWritten between)
    (hkey : IsKey key) (rest : List Char) :
    separator? (between ++ (key ++ rest)) = some (key ++ rest) := by
  have hstops := hkey.stops_isPlainSpace rest
  -- Blanks are a separator only if they shorten the text, a comma always.
  cases h with
  | blank hs hne =>
    have hshorter : (key ++ rest).length < (between ++ (key ++ rest)).length := by
      have := List.length_pos_iff.2 hne
      simp only [List.length_append]
      omega
    have hcomma : ∀ tail, key ++ rest ≠ ',' :: tail := by
      obtain ⟨c, more, rfl, hc, -⟩ := hkey
      rintro tail htail
      obtain ⟨rfl, -⟩ := List.cons.inj htail
      exact absurd hc (by decide)
    unfold separator?
    rw [dropBlank_append hs hstops]
    split
    · rename_i heq
      exact absurd heq (hcomma _)
    · rw [if_pos hshorter]
  | @comma before after hbefore hafter =>
    rw [List.append_assoc, List.cons_append]
    simp only [separator?, dropBlank_comma hbefore, dropBlank_append hafter hstops]

/-- What is written behind the last item is no separator, or one with nothing behind it. -/
theorem separator?_of_trailWritten (h : TrailWritten s) :
    separator? s = none ∨ separator? s = some [] := by
  cases h with
  | blank hs =>
    unfold separator?
    rw [dropBlank_of_isBlank hs]
    simp only
    split
    · exact .inr rfl
    · exact .inl rfl
  | @comma before after hbefore hafter =>
    right
    simp only [separator?, dropBlank_comma hbefore, dropBlank_of_isBlank hafter]

/-- No more items are read where no separator stands, or no item behind it. -/
theorem moreItems_of_none
    (h : separator? s = none ∨ ∃ rest, separator? s = some rest ∧ item? rest = none) :
    moreItems s = ([], s) := by
  rw [moreItems]
  split
  · rfl
  · rename_i hfound
    rcases h with hnone | ⟨rest, hseparator, hitem⟩
    · rw [hnone] at hfound
      cases hfound
    · rw [hseparator] at hfound
      cases hfound
      split
      · rfl
      · rename_i hfound
        rw [hitem] at hfound
        cases hfound

/-- No more items are read behind the last one. -/
theorem moreItems_of_trailWritten (h : TrailWritten s) : moreItems s = ([], s) := by
  refine moreItems_of_none ?_
  rcases separator?_of_trailWritten h with hnone | hsome
  · exact .inl hnone
  · exact .inr ⟨[], hsome, rfl⟩

/-- An `item` behind a separator is read in front of those that follow it. -/
theorem moreItems_of_some {item : ArgumentItem} {behind rest : List Char}
    (hseparator : separator? s = some behind) (hitem : item? behind = some (item, rest)) :
    moreItems s = (item :: (moreItems rest).1, (moreItems rest).2) := by
  rw [moreItems]
  split
  · rename_i hfound
    rw [hseparator] at hfound
    cases hfound
  · rename_i hfound
    rw [hseparator] at hfound
    cases hfound
    split
    · rename_i hnone
      rw [hitem] at hnone
      cases hnone
    · rename_i hsome
      rw [hitem] at hsome
      cases hsome
      rfl

/-- A written sequence of items is read item by item, up to what stands behind it. -/
theorem exists_item?_append {first : ArgumentItem} {rest : List ArgumentItem}
    (h : ItemsWritten (first :: rest) s) (ht : TrailWritten t) :
    ∃ behind, item? (s ++ t) = some (first, behind) ∧ moreItems behind = (rest, t) := by
  induction rest generalizing first s with
  | nil =>
    cases h with
    | one hitem => exact ⟨t, item?_append hitem ht.endsItem, moreItems_of_trailWritten ht⟩
  | cons next rest ih =>
    cases h with
    | @more _ _ _ s between s' hitem hbetween hrest =>
      obtain ⟨behind, hnext, hmore⟩ := ih hrest
      -- What follows the first item is a separator with a key behind it.
      obtain ⟨key, tail, hkey, rfl⟩ := hrest.exists_key
      rw [List.append_assoc] at hnext
      refine ⟨between ++ (key ++ (tail ++ t)), ?_, ?_⟩
      · have hassoc : s ++ (between ++ (key ++ tail)) ++ t =
            s ++ (between ++ (key ++ (tail ++ t))) := by simp
        rw [hassoc]
        exact item?_append hitem (hbetween.endsItem hkey (tail ++ t))
      · rw [moreItems_of_some (separator?_append hbetween hkey (tail ++ t)) hnext, hmore]

/-- A written sequence of items is read as a whole. -/
theorem items_append {found : List ArgumentItem} (h : ItemsWritten found s) (ht : TrailWritten t)
    (hfirst : found = [] → item? t = none) : items (s ++ t) = (found, t) := by
  cases found with
  | nil =>
    cases h
    simp [items, hfirst rfl]
  | cons first rest =>
    obtain ⟨behind, hitem, hmore⟩ := exists_item?_append h ht
    simp [items, hitem, hmore]

/-- Nothing is left of what may stand behind the last item, once its comma and its blanks are
dropped. -/
theorem dropBlank_dropTrailingComma (h : TrailWritten s) :
    dropBlank (dropTrailingComma s) = [] := by
  cases h with
  | blank hs =>
    unfold dropTrailingComma
    rw [dropBlank_of_isBlank hs]
    exact dropBlank_of_isBlank hs
  | comma hbefore hafter =>
    unfold dropTrailingComma
    rw [dropBlank_comma hbefore]
    exact dropBlank_of_isBlank hafter

end Items

end Grammar

namespace ArgumentItem

open Grammar (IsBlank IsKey IsQuote ItemsWritten TrailWritten)

/-- The written forms of the arguments of a directive: a sequence of `items`, with blanks before it,
and blanks and at most one comma behind it. -/
def Written (items : List ArgumentItem) (text : String) : Prop :=
  ∃ leading sequence trail, IsBlank leading ∧ ItemsWritten items sequence ∧ TrailWritten trail ∧
    text.toList = leading ++ (sequence ++ trail)

end ArgumentItem

/-- One of the quotes does not occur in `s`. -/
def Quotable (s : String) : Prop :=
  ∃ quote, Grammar.IsQuote quote ∧ quote ∉ s.toList

/-- The steps that have a written form: members whose names can be quoted, and indexes that fit a
word. -/
def PathStep.Writable : PathStep → Prop
  | .key name => Quotable name
  | .index n => n ≤ Whole.greatestCount

/-- The values that have a written form: texts that can be quoted, whole numbers that fit a word,
truth values, the absent value, paths that are no word for a value, and no value at all. -/
def ArgumentSource.Writable : ArgumentSource → Prop
  | .absent => True
  | .literal .null => True
  | .literal (.bool _) => True
  | .literal (.int n) => Whole.fits n = true
  | .literal (.string s) => Quotable s
  | .literal (.double _) | .literal (.array _) | .literal (.object _) => False
  | .path p => Grammar.IsKey p.root.toList ∧ (∀ step ∈ p.steps, step.Writable) ∧
      (p.steps = [] → ¬ Grammar.IsValueWord p.root.toList)

/-- The items that have a written form. -/
structure ArgumentItem.Writable (item : ArgumentItem) : Prop where
  /-- The key of `item` has the form of one. -/
  key : Grammar.IsKey item.key.toList
  /-- The value of `item` can be written. -/
  source : item.source.Writable

namespace Grammar

section Writable

variable {s : List Char}

/-- Every number `n` is spelled by its decimal digits. -/
theorem spells_toDigits (n : Nat) : Spells (Nat.toDigits 10 n) n := by
  refine ⟨Nat.toDigits_ne_nil, fun c hc => ?_, ?_⟩
  · exact Nat.isDigit_of_mem_toDigits (by decide) (by decide) hc
  · have hvalue : Decimal.digitsValue (Nat.toDigits 10 n) =
        Nat.ofDigitChars 10 (Nat.toDigits 10 n) 0 := rfl
    rw [hvalue, Nat.ofDigitChars_toDigits (by decide) (by decide)]

/-- A `key` contains no quotes. -/
theorem IsKey.quotable {key : List Char} (h : IsKey key) : Quotable (String.ofList key) := by
  refine ⟨'"', .inl rfl, fun hmem => ?_⟩
  rw [String.toList_ofList] at hmem
  exact absurd (h.continuesKey hmem) (by decide)

/-- Only writable steps are written. -/
theorem StepWritten.writable {step : PathStep} (h : StepWritten step s) : step.Writable := by
  cases h with
  | dottedKey hname => exact hname.quotable
  | @quotedKey name quote hquote hname =>
    exact ⟨quote, hquote, by rwa [String.toList_ofList]⟩
  | dottedIndex _ hn => exact hn
  | bracketedIndex _ hn => exact hn

/-- Every writable `step` can be written: a member in brackets, an index behind a point. -/
theorem exists_stepWritten {step : PathStep} (h : step.Writable) : ∃ s, StepWritten step s := by
  cases step with
  | key name =>
    obtain ⟨quote, hquote, hname⟩ := h
    have hwritten := StepWritten.quotedKey hquote hname
    rw [String.ofList_toList] at hwritten
    exact ⟨_, hwritten⟩
  | index n => exact ⟨_, .dottedIndex (spells_toDigits n) h⟩

/-- All steps of a `path` that is written are writable. -/
theorem StepsWritten.writable {path : List PathStep} (h : StepsWritten path s) :
    ∀ step ∈ path, step.Writable := by
  induction h with
  | none => nofun
  | more hstep _ ih => exact List.forall_mem_cons.2 ⟨hstep.writable, ih⟩

/-- If all steps of `path` are writable, they can be written one behind the other. -/
theorem exists_stepsWritten {path : List PathStep} (h : ∀ step ∈ path, step.Writable) :
    ∃ s, StepsWritten path s := by
  induction path with
  | nil => exact ⟨[], .none⟩
  | cons step path ih =>
    obtain ⟨hstep, hpath⟩ := List.forall_mem_cons.1 h
    obtain ⟨first, hfirst⟩ := exists_stepWritten hstep
    obtain ⟨rest, hrest⟩ := ih hpath
    exact ⟨first ++ rest, .more hfirst hrest⟩

/-- Only writable values are written. -/
theorem SourceWritten.writable {source : ArgumentSource} (h : SourceWritten source s) :
    source.Writable := by
  cases h with
  | @quoted text quote hquote htext => exact ⟨quote, hquote, by rwa [String.toList_ofList]⟩
  | unsigned _ hfits => exact hfits
  | plus _ hfits => exact hfits
  | minus _ hfits => exact hfits
  | path hroot hsteps hword =>
    refine ⟨?_, hsteps.writable, fun hempty => ?_⟩
    · rwa [String.toList_ofList]
    · rw [String.toList_ofList]
      exact hword hempty
  | _ => trivial

/-- Every writable value can be written, unless there is none. -/
theorem exists_sourceWritten {source : ArgumentSource} (h : source.Writable)
    (hsource : source ≠ .absent) : ∃ s, SourceWritten source s := by
  match source, h with
  | .absent, _ => exact absurd rfl hsource
  | .literal .null, _ => exact ⟨_, .null⟩
  | .literal (.bool true), _ => exact ⟨_, .holds⟩
  | .literal (.bool false), _ => exact ⟨_, .fails⟩
  | .literal (.int (.ofNat n)), hfits => exact ⟨_, .unsigned (spells_toDigits n) hfits⟩
  | .literal (.int (.negSucc n)), hfits => exact ⟨_, .minus (spells_toDigits (n + 1)) hfits⟩
  | .literal (.string s), ⟨quote, hquote, htext⟩ =>
    have hwritten := SourceWritten.quoted hquote htext
    rw [String.ofList_toList] at hwritten
    exact ⟨_, hwritten⟩
  | .path ⟨root, path⟩, ⟨hroot, hpath, hword⟩ =>
    obtain ⟨rest, hrest⟩ := exists_stepsWritten hpath
    have hwritten := SourceWritten.path hroot hrest hword
    rw [String.ofList_toList] at hwritten
    exact ⟨_, hwritten⟩

/-- Only writable items are written. -/
theorem ItemWritten.writable {item : ArgumentItem} (h : ItemWritten item s) : item.Writable := by
  cases h with
  | bare hkey => exact ⟨by rwa [String.toList_ofList], trivial⟩
  | assigned hkey _ _ _ hsource => exact ⟨by rwa [String.toList_ofList], hsource.writable⟩

/-- Every writable `item` can be written. -/
theorem exists_itemWritten {item : ArgumentItem} (h : item.Writable) :
    ∃ s, ItemWritten item s := by
  obtain ⟨key, source⟩ := item
  obtain ⟨hkey, hsource⟩ := h
  by_cases habsent : source = .absent
  · subst habsent
    have hwritten := ItemWritten.bare hkey
    rw [String.ofList_toList] at hwritten
    exact ⟨_, hwritten⟩
  · obtain ⟨value, hvalue⟩ := exists_sourceWritten hsource habsent
    have hnone : IsBlank [] := nofun
    have hwritten := ItemWritten.assigned hkey hnone (.inl rfl) hnone hvalue
    rw [String.ofList_toList] at hwritten
    exact ⟨_, hwritten⟩

/-- All `items` of a sequence that is written are writable. -/
theorem ItemsWritten.writable {items : List ArgumentItem} (h : ItemsWritten items s) :
    ∀ item ∈ items, item.Writable := by
  induction h with
  | none => nofun
  | one hitem => exact List.forall_mem_singleton.2 hitem.writable
  | more hitem _ _ ih => exact List.forall_mem_cons.2 ⟨hitem.writable, ih⟩

/-- If all `items` are writable, they can be written in a sequence, with spaces between them. -/
theorem exists_itemsWritten {items : List ArgumentItem} (h : ∀ item ∈ items, item.Writable) :
    ∃ s, ItemsWritten items s := by
  induction items with
  | nil => exact ⟨[], .none⟩
  | cons item items ih =>
    obtain ⟨hitem, hitems⟩ := List.forall_mem_cons.1 h
    obtain ⟨first, hfirst⟩ := exists_itemWritten hitem
    cases items with
    | nil => exact ⟨first, .one hfirst⟩
    | cons next items =>
      obtain ⟨rest, hrest⟩ := ih hitems
      have hspace : IsBlank [' '] := List.forall_mem_singleton.2 (by decide)
      exact ⟨_, .more hfirst (.blank hspace (by simp)) hrest⟩

end Writable

/-- The `leading` blanks of a sequence of items are dropped, and if there is no item, what is left
of the `trail` may still stand behind one. -/
theorem exists_dropBlank_eq {leading sequence trail : List Char} {found : List ArgumentItem}
    (hleading : IsBlank leading) (hsequence : ItemsWritten found sequence)
    (htrail : TrailWritten trail) :
    ∃ trail', TrailWritten trail' ∧ (found = [] → item? trail' = none) ∧
      dropBlank (leading ++ (sequence ++ trail)) = sequence ++ trail' := by
  cases found with
  | cons first rest =>
    obtain ⟨key, behind, hkey, rfl⟩ := hsequence.exists_key
    refine ⟨trail, htrail, nofun, ?_⟩
    rw [List.append_assoc]
    exact dropBlank_append hleading (hkey.stops_isPlainSpace (behind ++ trail))
  -- Without items the trail follows the leading blanks, and its blanks are dropped with them.
  | nil =>
    cases hsequence
    cases htrail with
    | blank hs =>
      have hall : IsBlank (leading ++ trail) := fun c hc =>
        (List.mem_append.1 hc).elim (hleading c) (hs c)
      exact ⟨[], .blank nofun, fun _ => rfl, dropBlank_of_isBlank hall⟩
    | @comma before after hbefore hafter =>
      have hall : IsBlank (leading ++ before) := fun c hc =>
        (List.mem_append.1 hc).elim (hleading c) (hbefore c)
      have hcomma := dropBlank_comma hall after
      rw [List.append_assoc] at hcomma
      have htrail' : TrailWritten ([] ++ ',' :: after) := .comma nofun hafter
      exact ⟨',' :: after, htrail', fun _ => rfl, hcomma⟩

end Grammar

namespace ArgumentItem

/-- Written arguments are read back as the same `items` in the same order, in whatever form they are
written. Exactly the lists of writable items have a written form. -/
theorem parseAll_written (items : List ArgumentItem) :
    ((∃ text, Written items text) ↔ ∀ item ∈ items, item.Writable) ∧
      ∀ text, Written items text → parseAll text = .ok items := by
  refine ⟨⟨?_, fun h => ?_⟩, ?_⟩
  · rintro ⟨text, leading, sequence, trail, -, hsequence, -, -⟩
    exact hsequence.writable
  · obtain ⟨sequence, hsequence⟩ := Grammar.exists_itemsWritten h
    refine ⟨String.ofList sequence, [], sequence, [], nofun, hsequence, .blank nofun, ?_⟩
    rw [String.toList_ofList, List.append_nil]
    rfl
  · rintro text ⟨leading, sequence, trail, hleading, hsequence, htrail, htext⟩
    obtain ⟨trail', htrail', hnone, hdropped⟩ :=
      Grammar.exists_dropBlank_eq hleading hsequence htrail
    -- The items are read up to what stands behind them, and there nothing is left.
    have hitems := Grammar.items_append hsequence htrail' hnone
    have harguments : Grammar.arguments text.toList = .ok items := by
      simp only [Grammar.arguments, htext, hdropped, hitems,
        Grammar.dropBlank_dropTrailingComma htrail']
    rw [parseAll, harguments]
    rfl

/-- A bare key in front of a key with a value, a sign behind blanks, and quotes in quotes. -/
example :
    parseAll " draft count =-3,who:user[\"it's\"].0\n\tsay='a, \"b\"' , " =
      .ok [⟨"draft", .absent⟩, ⟨"count", .literal (.int (-3))⟩,
        ⟨"who", .path ⟨"user", [.key "it's", .index 0]⟩⟩,
        ⟨"say", .literal (.string "a, \"b\"")⟩] := by
  decide +kernel

end ArgumentItem

end Promptbook
