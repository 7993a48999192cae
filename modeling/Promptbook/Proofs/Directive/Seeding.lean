import Promptbook.Proofs.Directive.Extraction
import Promptbook.Proofs.Directive.InPlace
import Promptbook.Proofs.Directive.Scan
import Promptbook.Proofs.Directive.Written

/-!
# Variables that Are Not Defined

A template may read variables that the caller does not define. Before a body is rendered, its text
is scanned for variables, and those that are not defined are bound to absent values. The scan sees
the body, but what is read is its template, which has placeholders for the directives and is the
same elsewhere. So every variable is bound that the text shows plainly where the template reads it.

## Main definitions

* `Alike`: a text and a template that differ in directives and their placeholders.
* `bodyElements`: the elements of the template of a body.

## Main results

* `Roots.value?_globals`: what the scan finds is bound.
* `opens_of_alike`: what opens with a variable in the template opens with it in the body.
* `value?_globals_of_shows`: a variable that the template reads where the text shows it is bound.
-/

namespace Promptbook

open Template (IsName IsPlainName IsGap IsHyphen EndsPlainly Balanced OpensName Opens isGap
  isGap_iff)
open Text (Stops)

section Placeholders

variable {markup : Markup} {index : Nat} {s t : List Char}

/-- The number `n` of a placeholder is written in digits, at least one. -/
theorem spells_numeral (n : Nat) : Grammar.Spells (numeral n) n := by
  have heq : numeral n = Nat.toDigits 10 n := by
    simp [numeral]
  rw [heq]
  exact Grammar.spells_toDigits n

theorem placeholder_eq (markup : Markup) (index : Nat) :
    ∃ lead, (lead = [' '] ∨ lead = ['-', ' ']) ∧ markup.placeholder index = '\x7b' :: '%' ::
      (lead ++ (markup.name ++ ' ' :: (numeral index ++ ' ' :: markup.closing))) := by
  unfold Markup.placeholder Markup.opening
  split
  · exact ⟨['-', ' '], .inr rfl, by simp⟩
  · exact ⟨[' '], .inl rfl, by simp⟩

/-- The text `markup.placeholder index` starts with `{%` and a character `c` other than `}`. Behind
its first character, `{` does not occur in it. -/
theorem exists_placeholder_eq (hname : Grammar.IsKey markup.name) (index : Nat) :
    ∃ c rest, markup.placeholder index = '\x7b' :: '%' :: c :: rest ∧ c ≠ '\x7d' ∧
      '\x7b' ∉ '%' :: c :: rest := by
  have hnone : '\x7b' ∉ markup.name ++ ' ' :: (numeral index ++ ' ' :: markup.closing) := by
    have hkey : '\x7b' ∉ markup.name := fun hmem => absurd (hname.continuesKey hmem) (by decide)
    have hdigit : '\x7b' ∉ numeral index := fun hmem =>
      absurd ((spells_numeral index).2.1 _ hmem) (by decide)
    have hclosing : '\x7b' ∉ markup.closing := by
      unfold Markup.closing
      split <;> decide
    simp [hkey, hdigit, hclosing]
  obtain ⟨lead, rfl | rfl, heq⟩ := placeholder_eq markup index
  · exact ⟨' ', _, heq, by decide, by simpa using hnone⟩
  · exact ⟨'-', _, heq, by decide, by simpa using hnone⟩

/-- A blank or a hyphen, as it stands between a delimiter and a name. -/
def isLead (c : Char) : Bool :=
  isGap c || c == '-'

theorem isLead_of_mem {hyphen gap : List Char} (hhyphen : IsHyphen hyphen) (hgap : IsGap gap)
    {c : Char} (hc : c ∈ hyphen ++ gap) : isLead c = true := by
  unfold isLead
  rcases List.mem_append.1 hc with hc | hc
  · rcases hhyphen with rfl | rfl
    · cases hc
    · rw [List.mem_singleton.1 hc]
      rfl
  · rw [hgap c hc, Bool.true_or]

theorem isLead_of_startsKey {c : Char} (h : Grammar.startsKey c = true) : isLead c = false := by
  rw [Bool.eq_false_iff]
  intro hlead
  simp only [isLead, Bool.or_eq_true, beq_iff_eq, isGap_iff] at hlead
  rcases hlead with (rfl | rfl | rfl) | rfl <;> exact absurd h (by decide)

theorem continuesKey_of_isGap {c : Char} (h : isGap c = true) : Grammar.continuesKey c = false :=
  Grammar.continuesKey_of_isPlainSpace (Template.isPlainSpace_of_isGap h)

/-- If `markup.placeholder index ++ t` starts with `{%`, a `hyphen`, a `gap`, a `word` and a
`blank`, the text `behind` them starts with the digits of `index`. -/
theorem eq_of_placeholder (hname : Grammar.IsKey markup.name) {hyphen gap word behind : List Char}
    {blank : Char} (hhyphen : IsHyphen hyphen) (hgap : IsGap gap) (hword : Grammar.IsKey word)
    (hblank : isGap blank = true)
    (h : '\x7b' :: '%' :: (hyphen ++ (gap ++ (word ++ blank :: behind))) =
      markup.placeholder index ++ t) : behind = numeral index ++ ' ' :: (markup.closing ++ t) := by
  have hfirst {key rest : List Char} (hkey : Grammar.IsKey key) : Stops isLead (key ++ rest) := by
    obtain ⟨c, more, rfl, hc, -⟩ := hkey
    exact Text.stops_cons.2 (isLead_of_startsKey hc)
  obtain ⟨lead, hlead, heq⟩ := placeholder_eq markup index
  have hblanks : ∀ c ∈ lead, isLead c = true := by
    rcases hlead with rfl | rfl <;> exact List.all_eq_true.1 rfl
  rw [heq] at h
  simp only [List.cons_append, List.append_assoc, List.cons.injEq, true_and] at h
  -- Both names start where the blanks and hyphens end, and end with the blank behind them.
  have hnames := congrArg (List.dropWhile isLead) h
  rw [← List.append_assoc hyphen, Text.dropWhile_append_of_stops
    (fun c hc => isLead_of_mem hhyphen hgap hc) (hfirst hword),
    Text.dropWhile_append_of_stops hblanks (hfirst hname)] at hnames
  have hbehind := congrArg (List.dropWhile Grammar.continuesKey) hnames
  rw [Text.dropWhile_append_of_stops (fun c hc => hword.continuesKey hc)
      (Text.stops_cons.2 (continuesKey_of_isGap hblank)),
    Text.dropWhile_append_of_stops (fun c hc => hname.continuesKey hc)
      (Text.stops_cons.2 (by decide))] at hbehind
  exact (List.cons.inj hbehind).2

end Placeholders

/-- A text and a template are alike if the template is the text with a placeholder
`markup.placeholder index` for each directive. -/
inductive Alike : List Char → List Char → Prop where
  /-- Both are the text `s`. -/
  | same (s : List Char) : Alike s s
  /-- Both start with the character `c`. -/
  | keep {s t : List Char} (c : Char) (h : Alike s t) : Alike (c :: s) (c :: t)
  /-- The text starts with a directive `tag`, and the template with its placeholder. -/
  | directive {s t tag : List Char} {markup : Markup} (htag : tag.head? = some '\x7b')
      (hname : Grammar.IsKey markup.name) (index : Nat) (h : Alike s t) :
      Alike (tag ++ s) (markup.placeholder index ++ t)

namespace Alike

variable {s t : List Char}

theorem append_left (h : Alike s t) (kept : List Char) : Alike (kept ++ s) (kept ++ t) := by
  induction kept with
  | nil => exact h
  | cons c kept ih => exact .keep c ih

theorem head?_eq (h : Alike s t) : s.head? = t.head? := by
  cases h with
  | same => rfl
  | keep => rfl
  | @directive s t tag markup htag hname index h =>
    obtain ⟨c, rest, heq, -⟩ := exists_placeholder_eq hname index
    obtain ⟨more, rfl⟩ := List.head?_eq_some_iff.1 htag
    rw [heq]
    rfl

/-- If the template starts with `c`, the text `s` does so too, or a placeholder starts there. -/
theorem exists_of_cons {c : Char} (h : Alike s (c :: t)) :
    (∃ s', s = c :: s' ∧ Alike s' t) ∨
      ∃ markup : Markup, ∃ index t',
        Grammar.IsKey markup.name ∧ c :: t = markup.placeholder index ++ t' := by
  generalize heq : c :: t = whole at h
  cases h with
  | same =>
    subst heq
    exact .inl ⟨t, rfl, .same t⟩
  | keep d h =>
    cases heq
    exact .inl ⟨_, rfl, h⟩
  | @directive s t' tag markup htag hname index h => exact .inr ⟨markup, index, t', hname, rfl⟩

/-- If the template starts with `c` and `c` is not `{`, the text `s` starts with `c` too. -/
theorem exists_of_ne {c : Char} (h : Alike s (c :: t)) (hc : c ≠ '\x7b') :
    ∃ s', s = c :: s' ∧ Alike s' t := by
  refine h.exists_of_cons.resolve_right ?_
  rintro ⟨markup, index, t', hname, heq⟩
  obtain ⟨d, rest, hplaceholder, -⟩ := exists_placeholder_eq hname index
  rw [hplaceholder] at heq
  exact hc (List.cons.inj heq).1

/-- If the template starts with `kept` and no placeholder starts in there, the text `s` starts with
`kept` too. -/
theorem exists_of_append {kept : List Char} (h : Alike s (kept ++ t)) (hpercent : '%' ∉ kept)
    (hlast : kept.getLast? = some '\x7b' → ∀ c rest, t = '%' :: c :: rest → c = '\x7d') :
    ∃ s', s = kept ++ s' ∧ Alike s' t := by
  induction kept generalizing s with
  | nil => exact ⟨s, rfl, h⟩
  | cons c kept ih =>
    rcases exists_of_cons h with ⟨s', rfl, h'⟩ | ⟨markup, index, t', hname, heq⟩
    · have hpercent' : '%' ∉ kept := fun hmem => hpercent (List.mem_cons_of_mem c hmem)
      obtain ⟨s'', rfl, h''⟩ := ih h' hpercent' fun hlast' => by
        refine hlast ?_
        rw [List.getLast?_cons, hlast']
        rfl
      exact ⟨s'', rfl, h''⟩
    · -- The percent sign of the placeholder would be kept, or close a tag behind the stretch.
      obtain ⟨d, rest, hplaceholder, hd, -⟩ := exists_placeholder_eq hname index
      rw [hplaceholder] at heq
      obtain ⟨hbrace, hbehind⟩ := List.cons.inj heq
      cases kept with
      | nil => exact absurd (hlast (congrArg some hbrace) d _ hbehind) hd
      | cons c' kept =>
        obtain ⟨rfl, -⟩ := List.cons.inj hbehind
        exact absurd (List.mem_cons_of_mem _ List.mem_cons_self) hpercent

/-- What follows an opening brace of the template follows one of the text, too. -/
theorem exists_suffix {u : List Char} (h : Alike s t) (hu : '\x7b' :: u <:+ t) :
    ∃ v, v <:+ s ∧ Alike v ('\x7b' :: u) := by
  induction h with
  | same s => exact ⟨_, hu, .same _⟩
  | @keep s t c h ih =>
    rcases List.suffix_cons_iff.1 hu with heq | hu
    · exact ⟨c :: s, List.suffix_rfl, heq ▸ .keep c h⟩
    · obtain ⟨v, hv, hva⟩ := ih hu
      exact ⟨v, hv.trans (List.suffix_cons c s), hva⟩
  | @directive s t tag markup htag hname index h ih =>
    have hrest (hu : '\x7b' :: u <:+ t) : ∃ v, v <:+ tag ++ s ∧ Alike v ('\x7b' :: u) := by
      obtain ⟨v, hv, hva⟩ := ih hu
      exact ⟨v, hv.trans (List.suffix_append tag s), hva⟩
    rcases List.suffix_or_suffix_of_suffix hu (List.suffix_append _ t) with hsuffix | ⟨w, hw⟩
    · exact hrest hsuffix
    · -- The placeholder has no other opening brace than its first character.
      obtain ⟨x, hx⟩ := hu
      rw [← hw, ← List.append_assoc] at hx
      have hxw := List.append_cancel_right hx
      cases w with
      | nil => exact hrest ⟨[], hw.symm⟩
      | cons c w =>
        obtain ⟨rfl, -⟩ := List.cons.inj hw
        obtain ⟨d, rest, hplaceholder, -, hnone⟩ := exists_placeholder_eq hname index
        cases x with
        | nil =>
          rw [List.nil_append] at hxw
          rw [← hw, hxw]
          exact ⟨tag ++ s, List.suffix_rfl, .directive htag hname index h⟩
        | cons c x =>
          rw [hplaceholder] at hxw
          obtain ⟨-, hxw⟩ := List.cons.inj hxw
          exact absurd (hxw ▸ List.mem_append_right x List.mem_cons_self) hnone

end Alike

section Openings

variable {root : String} {markup : Markup} {index : Nat} {s t : List Char}

/-- The name of a tag with a condition is a key. -/
theorem isKey_of_mem_conditionTags {name : String} (h : name ∈ Roots.conditionTags) :
    Grammar.IsKey name.toList := by
  simp only [Roots.conditionTags, List.mem_cons, List.not_mem_nil, or_false] at h
  rcases h with rfl | rfl | rfl | rfl | rfl <;>
    exact ⟨_, _, rfl, by decide, List.all_eq_true.1 rfl⟩

/-- A placeholder is not taken for a loop: the variable of that loop would start with a digit. -/
theorem loop_ne_placeholder (hname : Grammar.IsKey markup.name) {hyphen gap gap' rest : List Char}
    {target : String} (hhyphen : IsHyphen hyphen) (hgap : IsGap gap)
    (hgap' : IsGap gap' ∧ gap' ≠ []) (htarget : IsName target ∧ IsPlainName target) :
    '\x7b' :: '%' :: (hyphen ++ (gap ++ ("for".toList ++ (gap' ++ (target.toList ++ rest))))) ≠
      markup.placeholder index ++ t := by
  intro heq
  obtain ⟨digit, digits, hdigits⟩ := List.exists_cons_of_ne_nil (spells_numeral index).1
  have hdigit : digit.isDigit = true :=
    (spells_numeral index).2.1 digit (hdigits ▸ List.mem_cons_self)
  have hfor : Grammar.IsKey "for".toList :=
    ⟨'f', _, rfl, by decide, List.all_eq_true.1 rfl⟩
  obtain ⟨blank, gap', rfl⟩ := List.exists_cons_of_ne_nil hgap'.2
  have hbehind := eq_of_placeholder hname hhyphen hgap hfor (hgap'.1 blank List.mem_cons_self) heq
  -- Behind the name and one blank, the loop has its variable or another blank, but the placeholder
  -- has a digit.
  rw [hdigits] at hbehind
  cases gap' with
  | nil =>
    obtain ⟨c, more, hcons, hc, -⟩ := Roots.exists_cons_of_isName htarget.1 htarget.2
    rw [hcons] at hbehind
    obtain ⟨rfl, -⟩ := List.cons.inj hbehind
    rw [Roots.isDigit_of_startsName hc] at hdigit
    cases hdigit
  | cons c gap' =>
    have hc := hgap'.1 c (List.mem_cons_of_mem _ List.mem_cons_self)
    obtain ⟨rfl, -⟩ := List.cons.inj hbehind
    rcases isGap_iff.1 hc with rfl | rfl | rfl <;> exact absurd hdigit (by decide)

/-- From its number up to its closing `%}`, the text `markup.placeholder index` has only digits,
blanks and hyphens. -/
theorem exists_numeral_closing (markup : Markup) (index : Nat) :
    ∃ content, numeral index ++ ' ' :: markup.closing = content ++ ['%', '\x7d'] ∧
      ∀ c ∈ content, c.isDigit = true ∨ c = ' ' ∨ c = '-' := by
  -- Before its percent sign, the closing delimiter has at most a hyphen.
  obtain ⟨hyphen, hhyphen, hclosing⟩ : ∃ hyphen, IsHyphen hyphen ∧
      markup.closing = hyphen ++ ['%', '\x7d'] := by
    unfold Markup.closing
    split
    · exact ⟨['-'], .inr rfl, rfl⟩
    · exact ⟨[], .inl rfl, rfl⟩
  refine ⟨numeral index ++ ' ' :: hyphen, by simp [hclosing], fun c hc => ?_⟩
  rcases List.mem_append.1 hc with hc | hc
  · exact .inl ((spells_numeral index).2.1 c hc)
  · rcases List.mem_cons.1 hc with rfl | hc
    · exact .inr (.inl rfl)
    · rcases hhyphen with rfl | rfl
      · cases hc
      · exact .inr (.inr (List.mem_singleton.1 hc))

/-- A placeholder is not taken for a condition with `root` in it: there is no name in front of its
percent sign. -/
theorem condition_ne_placeholder (hname : Grammar.IsKey markup.name)
    {hyphen gap before after rest : List Char} {name : String} {blank : Char}
    (hroot : IsName root ∧ IsPlainName root) (hhyphen : IsHyphen hyphen) (hgap : IsGap gap)
    (htag : name ∈ Roots.conditionTags) (hblank : isGap blank = true)
    (hpercent : '%' ∉ before ++ (root.toList ++ after)) :
    '\x7b' :: '%' :: (hyphen ++ (gap ++ (name.toList ++ (blank :: (before ++ (root.toList ++
      (after ++ '%' :: '\x7d' :: rest))))))) ≠ markup.placeholder index ++ t := by
  intro heq
  have hbehind := eq_of_placeholder hname hhyphen hgap (isKey_of_mem_conditionTags htag) hblank heq
  obtain ⟨content, hclosing, hallowed⟩ := exists_numeral_closing markup index
  have hnone : '%' ∉ content := fun hmem => by
    rcases hallowed _ hmem with h | h | h <;> cases h
  have hsame : (before ++ (root.toList ++ after)) ++ '%' :: '\x7d' :: rest =
      content ++ '%' :: '\x7d' :: t := by
    have hwhole : numeral index ++ ' ' :: (markup.closing ++ t) =
        content ++ '%' :: '\x7d' :: t := by
      rw [← List.cons_append, ← List.append_assoc, hclosing, List.append_assoc]
      rfl
    rw [← hwhole, ← hbehind]
    simp
  -- Neither side has an earlier percent sign, so what stands before the first one is the same.
  have hcontent : before ++ (root.toList ++ after) = content := by
    calc before ++ (root.toList ++ after)
      _ = (before ++ (root.toList ++ after) ++ '%' :: '\x7d' :: rest).takeWhile (· != '%') :=
        (Roots.takeWhile_percent hpercent ('\x7d' :: rest)).1.symm
      _ = (content ++ '%' :: '\x7d' :: t).takeWhile (· != '%') := by rw [hsame]
      _ = content := (Roots.takeWhile_percent hnone ('\x7d' :: t)).1
  -- The first letter of the variable would be one of the characters of the placeholder.
  obtain ⟨c, more, hcons, hc, -⟩ := Roots.exists_cons_of_isName hroot.1 hroot.2
  have hmem : c ∈ content := by
    rw [← hcontent, hcons]
    simp
  rcases hallowed c hmem with h | rfl | rfl
  · rw [Roots.isDigit_of_startsName hc] at h
    cases h
  · exact absurd hc (by decide)
  · exact absurd hc (by decide)

/-- No placeholder opens an output, a loop or a condition with `root` in it. -/
theorem not_opens_placeholder (hname : Grammar.IsKey markup.name) :
    ¬ Opens root (markup.placeholder index ++ t) := by
  intro h
  generalize hwhole : markup.placeholder index ++ t = whole at h
  cases h with
  | output =>
    obtain ⟨c, rest, heq, -⟩ := exists_placeholder_eq hname index
    rw [heq] at hwhole
    cases (List.cons.inj (List.cons.inj hwhole).2).1
  | loop hroot hhyphen hgap htarget hgap₁ =>
    exact loop_ne_placeholder hname hhyphen hgap hgap₁ htarget hwhole.symm
  | condition hroot hhyphen hgap htag hblank hbefore hopens hafter hpercent =>
    exact condition_ne_placeholder hname hroot hhyphen hgap htag hblank hpercent hwhole.symm

/-- If the template starts with `{%` and no placeholder starts there, the text `s` starts with `{%`
too. -/
theorem Alike.exists_of_tag (h : Alike s ('\x7b' :: '%' :: t))
    (hplaceholder : ∀ markup : Markup, ∀ index t', Grammar.IsKey markup.name →
      '\x7b' :: '%' :: t ≠ markup.placeholder index ++ t') :
    ∃ s', s = '\x7b' :: '%' :: s' ∧ Alike s' t := by
  rcases h.exists_of_cons with ⟨s', rfl, h'⟩ | ⟨markup, index, t', hname, heq⟩
  · obtain ⟨s'', rfl, h''⟩ := h'.exists_of_ne (by decide)
    exact ⟨s'', rfl, h''⟩
  · exact absurd heq (hplaceholder markup index t' hname)

theorem Alike.endsPlainly (h : Alike s t) (ht : EndsPlainly t) : EndsPlainly s :=
  fun c hc => ht c (h.head?_eq ▸ hc)

theorem percent_not_mem_hyphen {hyphen : List Char} (h : IsHyphen hyphen) : '%' ∉ hyphen := by
  rcases h with rfl | rfl <;> decide

theorem percent_not_mem_gap {gap : List Char} (h : IsGap gap) : '%' ∉ gap :=
  fun hmem => absurd (h _ hmem) (by decide)

theorem percent_not_mem_name {name : String} (h : IsName name) : '%' ∉ name.toList :=
  fun hmem => absurd (h.2 _ hmem) (by decide)

/-- No name ends with a brace. -/
theorem getLast?_append_name {name : String} (h : IsName name) (s : List Char) :
    (s ++ name.toList).getLast? ≠ some '\x7b' := by
  intro hlast
  obtain ⟨⟨c, more, hcons, -⟩, hall⟩ := h
  have hne : name.toList ≠ [] := by
    rw [hcons]
    exact List.cons_ne_nil c more
  rw [List.getLast?_append_of_ne_nil _ hne] at hlast
  exact absurd (hall _ (List.mem_of_getLast? hlast)) (by decide)

/-- If an output, a loop or a condition with `root` opens in the template, it opens in the text as
well. -/
theorem opens_of_alike (h : Opens root t) (halike : Alike s t) : Opens root s := by
  have hplaceholder : ∀ markup : Markup, ∀ index t', Grammar.IsKey markup.name →
      t ≠ markup.placeholder index ++ t' := by
    rintro markup index t' hname rfl
    exact not_opens_placeholder hname h
  cases h with
  | @output hyphen gap after hroot hhyphen hgap hafter =>
    have hkept : '\x7b' :: '\x7b' :: (hyphen ++ (gap ++ (root.toList ++ after))) =
        ('\x7b' :: '\x7b' :: (hyphen ++ gap) ++ root.toList) ++ after := by simp
    rw [hkept] at halike
    obtain ⟨s', rfl, h⟩ := halike.exists_of_append
      (by simp [percent_not_mem_hyphen hhyphen, percent_not_mem_gap hgap,
        percent_not_mem_name hroot.1])
      fun hlast => absurd hlast (getLast?_append_name hroot.1 _)
    have hs : '\x7b' :: '\x7b' :: (hyphen ++ gap) ++ root.toList ++ s' =
        '\x7b' :: '\x7b' :: (hyphen ++ (gap ++ (root.toList ++ s'))) := by simp
    rw [hs]
    exact .output hroot hhyphen hgap (h.endsPlainly hafter)
  | @loop hyphen gap gap₁ gap₂ gap₃ after target hroot hhyphen hgap htarget hgap₁ hgap₂ hgap₃
      hafter =>
    obtain ⟨s', rfl, h⟩ := halike.exists_of_tag hplaceholder
    have hkept (after : List Char) : hyphen ++ (gap ++ ("for".toList ++ (gap₁ ++ (target.toList ++
        (gap₂ ++ ("in".toList ++ (gap₃ ++ (root.toList ++ after)))))))) =
          (hyphen ++ gap ++ "for".toList ++ gap₁ ++ target.toList ++ gap₂ ++ "in".toList ++ gap₃ ++
            root.toList) ++ after := by simp
    rw [hkept] at h
    obtain ⟨s'', rfl, h'⟩ := h.exists_of_append
      (by simp [percent_not_mem_hyphen hhyphen, percent_not_mem_gap hgap,
        percent_not_mem_gap hgap₁.1, percent_not_mem_gap hgap₂.1, percent_not_mem_gap hgap₃.1,
        percent_not_mem_name htarget.1, percent_not_mem_name hroot.1])
      fun hlast => absurd hlast (getLast?_append_name hroot.1 _)
    rw [← hkept]
    exact .loop hroot hhyphen hgap htarget hgap₁ hgap₂ hgap₃ (h'.endsPlainly hafter)
  | @condition hyphen gap before after rest name blank hroot hhyphen hgap htag hblank hbefore hopens
      hafter hpercent hword =>
    obtain ⟨s', rfl, h⟩ := halike.exists_of_tag hplaceholder
    have hkept (rest : List Char) : hyphen ++ (gap ++ (name.toList ++ (blank :: (before ++
        (root.toList ++ (after ++ rest)))))) =
          (hyphen ++ gap ++ name.toList ++ blank :: (before ++ (root.toList ++ after))) ++
            rest := by
      simp
    rw [hkept] at h
    have hblank' : '%' ≠ blank := by
      rintro rfl
      exact absurd hblank (by decide)
    have hkey : '%' ∉ name.toList := fun hmem =>
      absurd ((isKey_of_mem_conditionTags htag).continuesKey hmem) (by decide)
    simp only [List.mem_append, not_or] at hpercent
    obtain ⟨s'', rfl, h'⟩ := h.exists_of_append
      (by simp [percent_not_mem_hyphen hhyphen, percent_not_mem_gap hgap, hkey, hblank', hpercent])
      fun _ c rest' heq => (List.cons.inj (List.cons.inj heq).2).1.symm
    -- The closing delimiter is kept as well.
    obtain ⟨s₁, rfl, h₁⟩ := h'.exists_of_ne (by decide)
    obtain ⟨s₂, rfl, h₂⟩ := h₁.exists_of_ne (by decide)
    rw [← hkept]
    exact .condition hroot hhyphen hgap htag hblank hbefore hopens hafter (by simp [hpercent]) hword

end Openings

/-- The text `s` of a body and the template that is extracted from it are alike. -/
theorem Rewrites.alike {isDirective : String → Bool} {index : Nat} {s last : List Char}
    {extraction : Extraction} {parts : List Part}
    (h : Rewrites isDirective index s extraction parts last) : Alike s extraction.template := by
  have hparts (parts : List Part) (index : Nat)
      (htags : ∀ part ∈ parts, part.IsDirective isDirective) :
      Alike ((parts.flatMap fun part => part.kept ++ part.tag) ++ last)
        (((parts.zipIdx index).flatMap fun p => p.1.kept ++ p.1.markup.placeholder p.2) ++
          last) := by
    -- Part by part: what is kept is the same in both, and the placeholder stands for the tag.
    induction parts generalizing index with
    | nil => exact .same last
    | cons part parts ih =>
      obtain ⟨hpart, hparts⟩ := List.forall_mem_cons.1 htags
      obtain ⟨blanks, -, hwritten⟩ := hpart.written
      have htag : part.tag.head? = some '\x7b' := by
        rw [hwritten]
        unfold Markup.opening
        split <;> rfl
      have hname := (Markup.read?_eq_some.1 hpart.read).1
      simp only [List.flatMap_cons, List.zipIdx_cons, List.append_assoc]
      refine Alike.append_left ?_ part.kept
      have hrest := ih (index + 1) hparts
      exact .directive htag hname index hrest
  rw [h.source, h.template]
  exact hparts parts index h.tags

namespace Roots

/-- Every variable `root` that the scan finds in `source` has a value: that of the input, or an
absent one. -/
theorem value?_globals (inputs : Variables) {source root : String}
    (h : root ∈ roots source.toList) :
    (globals inputs source).value? root = some ((inputs.value? root).getD .null) := by
  have hfold (names : List String) (all : Variables) :
      (names.foldl (fun all name => if all.has name then all else all.put name .null) all).value?
          root =
        if root ∈ names then some ((all.value? root).getD .null) else all.value? root := by
    -- A name that is bound already keeps its value, whether it is met again or not.
    induction names generalizing all with
    | nil => rfl
    | cons name names ih =>
      have hstep : (if all.has name then all else all.put name .null).value? root =
          if name = root then some ((all.value? root).getD .null) else all.value? root := by
        by_cases hhas : all.has name = true
        · rw [if_pos hhas]
          split
          · next heq =>
            subst heq
            obtain ⟨v, hv⟩ := Option.isSome_iff_exists.1 hhas
            rw [hv]
            rfl
          · rfl
        · rw [if_neg hhas, Fields.value?_put]
          split
          · next heq =>
            subst heq
            rw [Option.not_isSome_iff_eq_none.1 hhas]
            rfl
          · rfl
      rw [List.foldl_cons, ih, hstep]
      by_cases heq : name = root
      · simp [heq]
      · simp [heq, Ne.symm heq]
  rw [globals, hfold, if_pos h]

end Roots

/-- The elements of the template that is extracted from `body`. -/
def bodyElements {ω : Type} (registry : Registry ω) (body : String) :
    List Template.SpelledElement :=
  match extract registry.has body with
  | .ok extraction => Template.elements extraction.template
  | .error _ => []

/-- The tags of directives stand for calls, which read no variables in a place that counts. -/
theorem readNothing_hostTags (occurrences : Array Occurrence) :
    (hostTags occurrences).ReadNothing := by
  intro name read words node hread hnode
  unfold hostTags at hread
  split at hread
  · cases hread
    dsimp only at hnode
    split at hnode
    · split at hnode
      · cases hnode
        rfl
      · cases hnode
    · cases hnode
  · cases hread

section Results

variable {ω : Type} {registry : Registry ω} {inputs : Variables} {body : String}
  {prepared : Prepared ω}

/-- A variable `root` that an element `e` of the template shows is found by the scan of `body`. -/
theorem mem_roots_of_shows {e : Template.SpelledElement} (he : e ∈ bodyElements registry body)
    {root : String} (hroot : root ∈ e.element.reads) (hshows : e.Shows root) :
    root ∈ Roots.roots body.toList := by
  unfold bodyElements at he
  split at he
  · next extraction hextract =>
    obtain ⟨parts, last, h⟩ := exists_rewrites_of_extract hextract
    obtain ⟨t, ht, hopens⟩ := Template.exists_opens_of_shows he hroot hshows
    obtain ⟨u, rfl⟩ := hopens.exists_cons
    obtain ⟨v, hv, halike⟩ := h.alike.exists_suffix ht
    exact Roots.mem_roots_of_opens (opens_of_alike hopens halike) hv
  · cases he

/-- What `body` reads at the heads of outputs, in conditions and in the sources of loops, the
elements of its template read. A variable that the text of such an element shows is bound: to the
value that the caller gives, or to an absent value. So no such variable is unknown, whatever the
loops and the state of the rendering are. -/
theorem value?_globals_of_shows {ω : Type} (registry : Registry ω) (inputs : Variables)
    (body : String) (prepared : Prepared ω)
    (hprepare : prepare registry inputs body = .ok prepared) :
    (∀ root ∈ Template.nodesRead prepared.nodes,
      ∃ e ∈ bodyElements registry body, root ∈ e.element.reads) ∧
    ∀ e ∈ bodyElements registry body, ∀ root ∈ e.element.reads, e.Shows root →
      prepared.globals.value? root = some ((inputs.value? root).getD .null) ∧
        ∀ (σ : Type) (frames : Template.Frames) (machine : Template.Machine σ),
          (Template.lookup prepared.globals frames machine root).isSome = true := by
  obtain ⟨extraction, hextract, -, hread, hglobals⟩ := Prepared.exists_of_prepare hprepare
  refine ⟨fun root hroot => ?_, fun e he root hroot hshows => ?_⟩
  · -- What the nodes read is read by the elements that they were made of.
    obtain ⟨e, he, hreads⟩ :=
      Template.exists_reads_of_readTemplate (readNothing_hostTags _) hread hroot
    rw [String.toList_ofList] at he
    refine ⟨e, ?_, hreads⟩
    rw [bodyElements, hextract]
    exact he
  · have hvalue := Roots.value?_globals inputs (mem_roots_of_shows he hroot hshows)
    rw [← hglobals] at hvalue
    refine ⟨hvalue, fun σ frames machine => ?_⟩
    -- Loops and assignments may hide the variable, but do not take it away.
    unfold Template.lookup
    rw [hvalue]
    cases frames.lookup root with
    | some operand => rfl
    | none => cases machine.assigned.value? root <;> rfl

end Results

/-- A directive that does nothing. -/
def noting : Registry Unit :=
  [("note", ⟨false, fun call => return call.answer none⟩)]

/-- A body that shows its variables, in front of a directive and behind it. -/
def shownBody : String :=
  "{{- topic -}}{% note %}{% if 1 == tone %}{% endif %}"

/-- What the caller gives to `shownBody`. -/
def shownInputs : Variables :=
  [("tone", .string "dry")]

/-- All variables of `shownBody` are shown, so each is bound, to the value of the caller or to an
absent one. -/
theorem value?_globals_shown :
    (bodyElements noting shownBody).flatMap (fun e => e.element.reads) = ["topic", "tone"] ∧
    (∀ e ∈ bodyElements noting shownBody, ∀ root ∈ e.element.reads, e.Shows root) ∧
    ∃ prepared, prepare noting shownInputs shownBody = .ok prepared ∧
      ∀ e ∈ bodyElements noting shownBody, ∀ root ∈ e.element.reads,
        prepared.globals.value? root = some ((shownInputs.value? root).getD .null) := by
  have hshown : ∀ e ∈ bodyElements noting shownBody, ∀ root ∈ e.element.reads, e.Shows root := by
    decide +kernel
  have hok : (prepare noting shownInputs shownBody).isOk = true := by
    decide +kernel
  obtain ⟨prepared, hprepare⟩ := exists_of_isOk hok
  refine ⟨by decide +kernel, hshown, prepared, hprepare, fun e he root hroot => ?_⟩
  have hbound := (value?_globals_of_shows noting shownInputs shownBody prepared hprepare).2
  exact (hbound e he root hroot (hshown e he root hroot)).1

/-- Bodies whose text hides a variable: by a hyphen behind it or before it, by a percent sign in the
condition, by a missing blank, by its likeness to an operator, or in the source of a loop. -/
def hidingBodies : List String := [
  "[{{ topic-}} ]", "{% if topic-%}{% endif %}", "{{ -topic }}",
  "\x7b% if topic == '100%' %\x7dall\x7b% else %\x7dsome\x7b% endif %\x7d",
  "\x7b% if'a' == topic %\x7d\x7b% endif %\x7d",
  "{% if or %}{% endif %}", "{% for i in (1..topic) %}{% endfor %}",
  "{% for -i in topic %}{% endfor %}"]

/-- Every one of `hidingBodies` reads a variable that is not bound, and the first one cannot be
rendered for that reason. -/
theorem value?_globals_hidden :
    (∀ body ∈ hidingBodies, ∃ prepared root, prepare noting [] body = .ok prepared ∧
      root ∈ Template.nodesRead prepared.nodes ∧ prepared.globals.value? root = none) ∧
    (render noting "greeting" [] "[\x7b\x7b topic-\x7d\x7d ]" ()).1.result =
      .error (faultError (.unknownVariable "topic")) := by
  have hhidden : hidingBodies.all (fun body =>
      match prepare noting [] body with
      | .ok prepared => (Template.nodesRead prepared.nodes).any fun root =>
          (prepared.globals.value? root).isNone
      | .error _ => false) = true := by
    decide +kernel
  refine ⟨fun body hbody => ?_, by decide +kernel⟩
  have hone := List.all_eq_true.1 hhidden body hbody
  cases hprepare : prepare noting [] body with
  | error e =>
    rw [hprepare] at hone
    cases hone
  | ok prepared =>
    rw [hprepare] at hone
    obtain ⟨root, hroot, hnone⟩ := List.any_eq_true.1 hone
    exact ⟨prepared, root, rfl, hroot, Option.isNone_iff_eq_none.1 hnone⟩

end Promptbook
