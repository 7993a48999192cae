import Promptbook.Proofs.Template.Spelling

/-!
# What the Scan for Variables Finds

The scan looks at the text of a template alone. It finds a variable wherever an output, a loop or a
condition opens in which the name of the variable stands apart from what is around it.

## Main results

* `mem_conditionRoots`: a name in a condition is found, whatever is quoted before it.
* `mem_rootsHere_of_opens`: a variable is found where it opens an output, a loop or a condition.
* `mem_roots_of_opens`: the scan of a whole text finds it.
-/

namespace Promptbook.Roots

open Template (IsName IsPlainName IsGap IsHyphen EndsPlainly Balanced OpensName Opens isBreak isGap
  isGap_iff)
open Text (Stops)

section Characters

variable {c : Char}

theorem continuesName_of_template (h : Template.continuesName c = true) :
    continuesName c = true := by
  simp only [Template.continuesName, Bool.or_eq_true, beq_iff_eq] at h
  unfold continuesName
  rcases h with (h | rfl) | rfl
  · rw [Text.isWord_of_isAlphanum h, Bool.true_or]
  · decide
  · decide

theorem startsName_of_template (h : Template.startsName c = true) (hc : c ≠ '-') :
    startsName c = true := by
  simpa [Template.startsName, startsName, hc] using h

/-- An ASCII character that may not go on with a name of a template is no word character. -/
theorem continuesName_of_ascii (h : Template.continuesName c = false) (hc : c.toNat < 128) :
    continuesName c = false := by
  simp only [Template.continuesName, Char.isAlphanum, Bool.or_eq_false_iff] at h
  obtain ⟨⟨⟨hletter, hdigit⟩, hunderscore⟩, hhyphen⟩ := h
  have hword : Text.isWord c = false := by
    have hle : ¬ 128 ≤ c.toNat := by omega
    simp [Text.isWord, Text.isLetter, Text.isMark, hletter, hdigit, hunderscore, hle]
  rw [continuesName, hword, hhyphen, Bool.false_or]

theorem stops_of_endsPlainly {s : List Char} (h : EndsPlainly s) : Stops continuesName s :=
  fun c hc => continuesName_of_ascii (h c hc).1 (h c hc).2

theorem isSpace_of_isGap (h : isGap c = true) : Text.isSpace c = true :=
  Text.isSpace_of_isPlainSpace (Template.isPlainSpace_of_isGap h)

/-- What starts a name is a letter or an underscore, by its number. -/
theorem toNat_of_startsName (h : startsName c = true) :
    (65 ≤ c.toNat ∧ c.toNat ≤ 90) ∨ (97 ≤ c.toNat ∧ c.toNat ≤ 122) ∨ c.toNat = 95 := by
  unfold startsName Char.isAlpha Char.isUpper Char.isLower at h
  simp only [Bool.or_eq_true, Bool.and_eq_true, decide_eq_true_eq, beq_iff_eq,
    UInt32.le_iff_toNat_le] at h
  rcases h with (h | h) | rfl
  · exact .inl h
  · exact .inr (.inl h)
  · exact .inr (.inr rfl)

/-- White space does not start a name. -/
theorem isSpace_of_startsName (h : startsName c = true) : Text.isSpace c = false := by
  have hrange := toNat_of_startsName h
  rw [Bool.eq_false_iff]
  simp only [Text.isSpace, ne_eq, Bool.or_eq_true, Bool.and_eq_true, decide_eq_true_eq, beq_iff_eq]
  omega

/-- No digit starts a name. -/
theorem isDigit_of_startsName (h : startsName c = true) : c.isDigit = false := by
  have hrange := toNat_of_startsName h
  rw [Bool.eq_false_iff]
  intro hdigit
  simp only [Char.isDigit, Bool.and_eq_true, decide_eq_true_eq, UInt32.le_iff_toNat_le] at hdigit
  have hle : c.toNat ≤ 57 := hdigit.2
  omega

end Characters

section Names

variable {name : String} {s t : List Char}

/-- A `name` without a hyphen at its start is made of a character that starts names and of
characters that go on with them. -/
theorem exists_cons_of_isName (hname : IsName name) (hplain : IsPlainName name) :
    ∃ c more, name.toList = c :: more ∧ startsName c = true ∧
      ∀ d ∈ more, continuesName d = true := by
  obtain ⟨⟨c, more, heq, hc⟩, hall⟩ := hname
  have hne : c ≠ '-' := by
    rintro rfl
    exact hplain (by rw [heq]; rfl)
  refine ⟨c, more, heq, startsName_of_template hc hne, fun d hd => ?_⟩
  exact continuesName_of_template (hall d (heq ▸ List.mem_cons_of_mem c hd))

/-- A `name` is read up to where it ends. -/
theorem name?_append (hname : IsName name) (hplain : IsPlainName name)
    (ht : Stops continuesName t) :
    name? (name.toList ++ t) = some (name, t) := by
  obtain ⟨c, more, heq, hc, hmore⟩ := exists_cons_of_isName hname hplain
  rw [heq, List.cons_append, name?, if_pos hc, Text.takeWhile_append_of_stops hmore ht,
    Text.dropWhile_append_of_stops hmore ht, ← heq, String.ofList_toList]

/-- A `name` that stands where one may start is among the names of the text. -/
theorem mem_namesFrom_append (hname : IsName name) (hplain : IsPlainName name)
    (ht : Stops continuesName t) : name ∈ namesFrom true (name.toList ++ t) := by
  obtain ⟨c, more, heq, hc, hmore⟩ := exists_cons_of_isName hname hplain
  rw [heq, List.cons_append, namesFrom, if_pos (by simpa using hc),
    Text.takeWhile_append_of_stops hmore ht, ← heq, String.ofList_toList]
  exact List.mem_cons_self

/-- Behind `c`, a name may start exactly if `c` is a break. -/
theorem exists_namesFrom_cons (fresh : Bool) (c : Char) (s : List Char) :
    ∃ names, namesFrom fresh (c :: s) = names ++ namesFrom (isBreak c) s := by
  rw [namesFrom]
  split
  · next hstart =>
    have hc : startsName c = true := (Bool.and_eq_true_iff.1 hstart).2
    have hbreak : isBreak c = false := by
      simp only [startsName, Bool.or_eq_true, beq_iff_eq] at hc
      rcases hc with hc | rfl
      · simp [isBreak, Text.isWord_of_isAlphanum (c := c) (by simp [Char.isAlphanum, hc])]
      · decide
    rw [hbreak]
    exact ⟨[_], rfl⟩
  · exact ⟨[], rfl⟩

/-- A `name` that is found in `t` is found in `s ++ t`, if one may start behind `s`. -/
theorem mem_namesFrom_of_opensName {fresh : Bool} (hopens : OpensName s)
    (hfresh : s = [] → fresh = true) (h : name ∈ namesFrom true t) :
    name ∈ namesFrom fresh (s ++ t) := by
  -- Whatever is found on the way, a name may start behind the last character of `s`.
  induction s generalizing fresh with
  | nil =>
    rw [hfresh rfl]
    exact h
  | cons c s ih =>
    obtain ⟨names, heq⟩ := exists_namesFrom_cons fresh c (s ++ t)
    rw [List.cons_append, heq]
    refine List.mem_append_right names (ih (OpensName.of_cons hopens) ?_)
    rintro rfl
    exact hopens c rfl

end Names

section Quotes

variable {s t : List Char}

theorem withoutQuoted_cons {c : Char} (hc : ¬ Grammar.IsQuote c) (s : List Char) :
    withoutQuoted (c :: s) = c :: withoutQuoted s := by
  rw [withoutQuoted]
  split
  · next h =>
    rw [Grammar.quoted?_cons_of_not_isQuote hc] at h
    cases h
  · rfl

theorem withoutQuoted_quoted {quote : Char} {text : List Char} (hquote : Grammar.IsQuote quote)
    (htext : quote ∉ text) (s : List Char) :
    withoutQuoted (quote :: (text ++ quote :: s)) = ' ' :: withoutQuoted s := by
  have hread : Grammar.quoted? (quote :: (text ++ quote :: s)) = some (text, s) :=
    Grammar.quoted?_eq_some.2 ⟨quote, hquote, htext, rfl⟩
  rw [withoutQuoted]
  split
  · next h =>
    rw [hread] at h
    cases h
    rfl
  · next h =>
    rw [hread] at h
    cases h

theorem withoutQuoted_append (h : ∀ c ∈ s, ¬ Grammar.IsQuote c) (t : List Char) :
    withoutQuoted (s ++ t) = s ++ withoutQuoted t := by
  induction s with
  | nil => rfl
  | cons c s ih =>
    obtain ⟨hc, hs⟩ := List.forall_mem_cons.1 h
    rw [List.cons_append, withoutQuoted_cons hc, ih hs, List.cons_append]

/-- If every quote in `s` is closed, quoted texts are left out of `s` and of `t` on their own, and
what is left of `s` ends like `s` or with a blank. -/
theorem exists_withoutQuoted_append (h : Balanced s) (t : List Char) :
    ∃ s', withoutQuoted (s ++ t) = s' ++ withoutQuoted t ∧
      (s'.getLast? = s.getLast? ∨ s'.getLast? = some ' ') := by
  induction h with
  | nil => exact ⟨[], rfl, .inl rfl⟩
  | @plain c s hc _ ih =>
    obtain ⟨s', heq, hlast⟩ := ih
    refine ⟨c :: s', by rw [List.cons_append, withoutQuoted_cons hc, heq, List.cons_append], ?_⟩
    rw [List.getLast?_cons, List.getLast?_cons]
    rcases hlast with hlast | hlast <;> rw [hlast]
    · exact .inl rfl
    · exact .inr rfl
  | @quoted quote text s hquote htext _ ih =>
    -- The quoted text leaves a blank, behind which a name may start as behind its quote.
    obtain ⟨s', heq, hlast⟩ := ih
    refine ⟨' ' :: s', ?_, ?_⟩
    · rw [List.cons_append, List.append_assoc, List.cons_append, withoutQuoted_quoted hquote htext,
        heq, List.cons_append]
    · have hwhole : quote :: (text ++ quote :: s) = (quote :: (text ++ [quote])) ++ s := by simp
      rw [hwhole, List.getLast?_append, List.getLast?_cons]
      rcases hlast with hlast | hlast <;> rw [hlast]
      · cases s.getLast? with
        | none => exact .inr rfl
        | some d => exact .inl rfl
      · exact .inr rfl

/-- If `s` does not go on with a name, neither does what is left of it without quoted texts. -/
theorem stops_withoutQuoted (h : Stops continuesName s) :
    Stops continuesName (withoutQuoted s) := by
  rw [withoutQuoted]
  split
  · exact Text.stops_cons.2 (by decide)
  · cases s with
    | nil => exact Text.stops_nil _
    | cons c s => exact Text.stops_cons.2 (Text.stops_cons.1 h)

end Quotes

/-- A `name` in a condition is found, whatever is quoted `before` it. -/
theorem mem_conditionRoots {name : String} {before after : List Char} (hname : IsName name)
    (hplain : IsPlainName name) (hword : name ∉ operatorWords) (hbefore : Balanced before)
    (hopens : OpensName before) (hafter : EndsPlainly after) :
    name ∈ conditionRoots (before ++ (name.toList ++ after)) := by
  have hquotes : ∀ c ∈ name.toList, ¬ Grammar.IsQuote c := fun c hc =>
    Template.not_isQuote_of_continuesName (hname.2 c hc)
  obtain ⟨before', heq, hlast⟩ := exists_withoutQuoted_append hbefore (name.toList ++ after)
  have hopens' : OpensName before' := by
    intro c hc
    rcases hlast with hlast | hlast
    · exact hopens c (hlast ▸ hc)
    · rw [hlast] at hc
      cases hc
      decide
  refine List.mem_filter.2 ⟨?_, by simpa using hword⟩
  rw [heq, withoutQuoted_append hquotes]
  exact mem_namesFrom_of_opensName hopens' (fun _ => rfl)
    (mem_namesFrom_append hname hplain (stops_withoutQuoted (stops_of_endsPlainly hafter)))

section Openings

variable {s t hyphen gap : List Char} {name : String}

/-- The `gap` before a text that starts without white space is dropped. -/
theorem dropSpace_append (hgap : IsGap gap) (ht : Stops Text.isSpace t) :
    Text.dropSpace (gap ++ t) = t :=
  Text.dropWhile_append_of_stops (fun c hc => isSpace_of_isGap (hgap c hc)) ht

/-- The text `t` starts with a character that starts names. -/
def OpensWithName (t : List Char) : Prop :=
  ∃ c more, t = c :: more ∧ startsName c = true

theorem OpensWithName.stops (h : OpensWithName t) : Stops Text.isSpace t := by
  obtain ⟨c, more, rfl, hc⟩ := h
  exact Text.stops_cons.2 (isSpace_of_startsName hc)

theorem opensWithName_append (hname : IsName name) (hplain : IsPlainName name) (t : List Char) :
    OpensWithName (name.toList ++ t) := by
  obtain ⟨c, more, heq, hc, -⟩ := exists_cons_of_isName hname hplain
  exact ⟨c, more ++ t, by rw [heq, List.cons_append], hc⟩

/-- Behind an opening delimiter with its `hyphen` and a `gap`, the scan goes on with `t`. -/
theorem inside_append (hhyphen : IsHyphen hyphen) (hgap : IsGap gap) (ht : OpensWithName t) :
    inside (hyphen ++ (gap ++ t)) = t := by
  rcases hhyphen with rfl | rfl
  · have hfirst : ∀ rest, gap ++ t ≠ '-' :: rest := by
      intro rest heq
      cases gap with
      | nil =>
        obtain ⟨c, more, rfl, hc⟩ := ht
        obtain ⟨rfl, -⟩ := List.cons.inj heq
        cases hc
      | cons c gap =>
        obtain ⟨rfl, -⟩ := List.cons.inj heq
        exact absurd (hgap '-' List.mem_cons_self) (by decide)
    rw [List.nil_append]
    unfold inside
    split
    · next rest heq => exact absurd heq (hfirst rest)
    · exact dropSpace_append hgap ht.stops
  · exact dropSpace_append hgap ht.stops

theorem afterSpace?_append (hgap : IsGap gap) (hne : gap ≠ []) (ht : OpensWithName t) :
    afterSpace? (gap ++ t) = some t := by
  obtain ⟨c, gap, rfl⟩ := List.exists_cons_of_ne_nil hne
  obtain ⟨hc, hgap⟩ := List.forall_mem_cons.1 hgap
  rw [List.cons_append, afterSpace?, if_pos (isSpace_of_isGap hc), dropSpace_append hgap ht.stops]

theorem after?_append (word : String) (t : List Char) :
    after? word (word.toList ++ t) = some t := by
  rw [after?, if_pos (by simp), ← String.length_toList]
  exact congrArg some List.drop_left

/-- The `name` at the head of an output is found. -/
theorem outputRoot?_append {after : List Char} (hname : IsName name) (hplain : IsPlainName name)
    (hhyphen : IsHyphen hyphen) (hgap : IsGap gap) (hafter : EndsPlainly after) :
    outputRoot? ('\x7b' :: '\x7b' :: (hyphen ++ (gap ++ (name.toList ++ after)))) = some name := by
  rw [outputRoot?, inside_append hhyphen hgap (opensWithName_append hname hplain after),
    name?_append hname hplain (stops_of_endsPlainly hafter)]
  rfl

/-- A `gap` is foreign to names, so a name ends where there is one. -/
theorem stops_gap (hgap : IsGap gap) (hne : gap ≠ []) (t : List Char) :
    Stops continuesName (gap ++ t) := by
  obtain ⟨c, gap, rfl⟩ := List.exists_cons_of_ne_nil hne
  refine Text.stops_cons.2 ?_
  have hc := hgap c List.mem_cons_self
  rcases isGap_iff.1 hc with rfl | rfl | rfl <;> decide

/-- The `name` of the source of a loop is found. -/
theorem loopRoot?_append {gap₁ gap₂ gap₃ after : List Char} {target : String}
    (hname : IsName name ∧ IsPlainName name) (hhyphen : IsHyphen hyphen) (hgap : IsGap gap)
    (htarget : IsName target ∧ IsPlainName target) (hgap₁ : IsGap gap₁ ∧ gap₁ ≠ [])
    (hgap₂ : IsGap gap₂ ∧ gap₂ ≠ []) (hgap₃ : IsGap gap₃ ∧ gap₃ ≠ []) (hafter : EndsPlainly after) :
    loopRoot? ('\x7b' :: '%' :: (hyphen ++ (gap ++ ("for".toList ++ (gap₁ ++ (target.toList ++
      (gap₂ ++ ("in".toList ++ (gap₃ ++ (name.toList ++ after)))))))))) = some name := by
  have hfor (t : List Char) : OpensWithName ("for".toList ++ t) := ⟨'f', _, rfl, by decide⟩
  have hin (t : List Char) : OpensWithName ("in".toList ++ t) := ⟨'i', _, rfl, by decide⟩
  simp only [loopRoot?, tagContent?, Option.bind_eq_bind, Option.bind_some,
    inside_append hhyphen hgap (hfor _), after?_append,
    afterSpace?_append hgap₁.1 hgap₁.2 (opensWithName_append htarget.1 htarget.2 _),
    name?_append htarget.1 htarget.2 (stops_gap hgap₂.1 hgap₂.2 _),
    afterSpace?_append hgap₂.1 hgap₂.2 (hin _),
    afterSpace?_append hgap₃.1 hgap₃.2 (opensWithName_append hname.1 hname.2 _),
    name?_append hname.1 hname.2 (stops_of_endsPlainly hafter)]
  rfl

/-- The `name` of a tag with a condition is found, since none of these names starts another one. -/
theorem findSome?_conditionTags (hname : name ∈ conditionTags) (t : List Char) :
    conditionTags.findSome? (fun tag => after? tag (name.toList ++ t)) = some t := by
  simp only [conditionTags, List.mem_cons, List.not_mem_nil, or_false] at hname
  rcases hname with rfl | rfl | rfl | rfl | rfl <;> rfl

/-- A text `s` without percent signs ends at the next one. -/
theorem takeWhile_percent (hs : '%' ∉ s) (t : List Char) :
    (s ++ '%' :: t).takeWhile (· != '%') = s ∧ (s ++ '%' :: t).dropWhile (· != '%') = '%' :: t := by
  have hplain : ∀ c ∈ s, (c != '%') = true := by
    intro c hc
    rw [bne_iff_ne]
    rintro rfl
    exact hs hc
  have hstop : Stops (· != '%') ('%' :: t) := Text.stops_cons.2 (by decide)
  exact ⟨Text.takeWhile_append_of_stops hplain hstop, Text.dropWhile_append_of_stops hplain hstop⟩

/-- The text of a condition without percent signs is found. -/
theorem conditionText?_append {condition : List Char} {blank : Char} (hhyphen : IsHyphen hyphen)
    (hgap : IsGap gap) (hname : name ∈ conditionTags) (hblank : isGap blank = true)
    (hpercent : '%' ∉ condition) (rest : List Char) :
    conditionText? ('\x7b' :: '%' :: (hyphen ++ (gap ++ (name.toList ++
      (blank :: (condition ++ '%' :: '\x7d' :: rest)))))) = some condition := by
  have hopens (t : List Char) : OpensWithName (name.toList ++ t) := by
    simp only [conditionTags, List.mem_cons, List.not_mem_nil, or_false] at hname
    rcases hname with rfl | rfl | rfl | rfl | rfl <;> exact ⟨_, _, rfl, by decide⟩
  simp only [conditionText?, tagContent?, Option.bind_eq_bind, Option.bind_some,
    inside_append hhyphen hgap (hopens _), findSome?_conditionTags hname,
    takeWhile_percent hpercent, isSpace_of_isGap hblank, if_true]

end Openings

/-- A variable `root` is found where it opens an output, a loop or a condition. -/
theorem mem_rootsHere_of_opens {root : String} {s : List Char} (h : Opens root s) :
    root ∈ rootsHere s := by
  unfold rootsHere
  cases h with
  | output hroot hhyphen hgap hafter =>
    rw [outputRoot?_append hroot.1 hroot.2 hhyphen hgap hafter]
    simp
  | loop hroot hhyphen hgap htarget hgap₁ hgap₂ hgap₃ hafter =>
    rw [loopRoot?_append hroot hhyphen hgap htarget hgap₁ hgap₂ hgap₃ hafter]
    simp
  | @condition hyphen gap before after rest name blank hroot hhyphen hgap hname hblank hbefore
      hopens hafter hpercent hword =>
    have hfound := conditionText?_append hhyphen hgap hname hblank hpercent rest
    have hmem := mem_conditionRoots hroot.1 hroot.2 hword hbefore hopens hafter
    simp only [List.append_assoc] at hfound
    rw [hfound]
    exact List.mem_append_right _ hmem

/-- The scan of a whole text finds every variable `root` that opens an output, a loop or a condition
in it. -/
theorem mem_roots_of_opens {root : String} {s t : List Char} (h : Opens root t) (ht : t <:+ s) :
    root ∈ roots s := by
  obtain ⟨u, rfl⟩ := ht
  -- The scan tries all places of the text, one after another.
  induction u with
  | nil =>
    cases t with
    | nil => cases h
    | cons c t => exact List.mem_append_left _ (mem_rootsHere_of_opens h)
  | cons c u ih => exact List.mem_append_right _ ih

end Promptbook.Roots
