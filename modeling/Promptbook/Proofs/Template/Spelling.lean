import Mathlib.Data.List.DropRight
import Promptbook.Directive.Roots
import Promptbook.Proofs.Template.Reads

/-!
# Where Variables Stand in the Text of a Template

An element of a template is read from a place in its text. Here it is said what stands at this place
if the element reads a variable, and when the text shows the variable plainly: the name is not
confused with the delimiters, the words or the percent signs around it.

## Main definitions

* `Opens`: an output, a loop or a condition with a variable starts a text.
* `SpelledElement.Shows`: the text of an element shows a variable that it reads.

## Main results

* `exists_opens_of_shows`: a variable that an element shows stands in the text of the template.
-/

namespace Promptbook.Template

/-- The text `s` is a hyphen that a delimiter may have, or nothing. -/
def IsHyphen (s : List Char) : Prop :=
  s = [] ∨ s = ['-']

/-- The text `s` consists of blanks as they stand between words. -/
def IsGap (s : List Char) : Prop :=
  ∀ c ∈ s, isGap c = true

section Delimiters

variable {s rest : List Char} {delimiter : String}

/-- An opening `delimiter` is read with its hyphen, and with blanks before it. What follows does not
start with a hyphen unless there is one already. -/
theorem exists_opening? (hdelimiter : ∀ t, skipGap (delimiter.toList ++ t) = delimiter.toList ++ t)
    (h : opening? delimiter s = some rest) :
    ∃ gap hyphen, IsGap gap ∧ IsHyphen hyphen ∧
      s = gap ++ (delimiter.toList ++ (hyphen ++ rest)) ∧
        (hyphen = [] → rest.head? ≠ some '-') := by
  obtain ⟨gap, hgap, hs⟩ := exists_gap s
  unfold opening? at h
  -- With the hyphen, blanks before the delimiter are dropped; without it there are none to drop.
  split at h
  · next hafter =>
    cases h
    refine ⟨gap, ['-'], hgap, .inr rfl, ?_, nofun⟩
    rw [after?_eq_some, String.toList_append] at hafter
    rw [hafter] at hs
    simpa using hs
  · next hnone =>
    obtain rfl := after?_eq_some.1 h
    refine ⟨[], [], nofun, .inl rfl, rfl, fun _ hhead => ?_⟩
    obtain ⟨rest', rfl⟩ := List.head?_eq_some_iff.1 hhead
    rw [hdelimiter] at hnone
    have hafter : after? (delimiter ++ "-") (delimiter.toList ++ '-' :: rest') = some rest' := by
      rw [after?_eq_some, String.toList_append, List.append_assoc]
      rfl
    rw [hafter] at hnone
    cases hnone

/-- A closing `delimiter` is read with its hyphen, and with blanks behind it. -/
theorem exists_closing? (h : closing? delimiter s = some rest) :
    ∃ hyphen gap, IsHyphen hyphen ∧ IsGap gap ∧
      s = hyphen ++ (delimiter.toList ++ (gap ++ rest)) := by
  unfold closing? at h
  split at h
  · next behind hafter =>
    cases h
    obtain ⟨gap, hgap, hbehind⟩ := exists_gap behind
    refine ⟨['-'], gap, .inr rfl, hgap, ?_⟩
    rw [after?_eq_some, String.toList_append] at hafter
    rw [← hbehind, hafter]
    rfl
  · exact ⟨[], [], .inl rfl, nofun, after?_eq_some.1 h⟩

end Delimiters

section Elements

variable {s rest : List Char} {e : Element}

/-- An output is an opening delimiter, a chain and a closing delimiter. -/
theorem exists_of_output? (h : output? s = some (e, rest)) :
    ∃ written gap hyphen gap' inside mid, e = .output written ∧ IsGap gap ∧ IsHyphen hyphen ∧
      IsGap gap' ∧ s = gap ++ (outputOpening.toList ++ (hyphen ++ (gap' ++ inside))) ∧
        writtenChain? inside = some (written, mid) ∧
          closing? outputClosing (skipGap mid) = some rest := by
  obtain ⟨behind, hopening, h⟩ := Option.bind_eq_some_iff.1 h
  obtain ⟨⟨written, mid⟩, hchain, h⟩ := Option.bind_eq_some_iff.1 h
  obtain ⟨rest', hclosing, h⟩ := Option.bind_eq_some_iff.1 h
  cases h
  obtain ⟨gap, hyphen, hgap, hhyphen, hs, -⟩ := exists_opening? (fun _ => rfl) hopening
  obtain ⟨gap', hgap', hbehind⟩ := exists_gap behind
  rw [hbehind] at hs
  exact ⟨written, gap, hyphen, gap', _, mid, rfl, hgap, hhyphen, hgap', hs, hchain, hclosing⟩

/-- A tag is an opening delimiter, a name, words and a closing delimiter. -/
theorem exists_of_tag? (h : tag? s = some (e, rest)) :
    ∃ name words gap hyphen gap' inside behind mid, e = .tag name words ∧ IsGap gap ∧
      IsHyphen hyphen ∧ IsGap gap' ∧
        s = gap ++ (tagOpening.toList ++ (hyphen ++ (gap' ++ inside))) ∧
          identifier? inside = some (name, behind) ∧
            spelledWords behind.length behind = (words, mid) ∧
              closing? tagClosing (skipGap mid) = some rest ∧
                (hyphen = [] → (gap' ++ inside).head? ≠ some '-') := by
  obtain ⟨inside, hopening, h⟩ := Option.bind_eq_some_iff.1 h
  obtain ⟨⟨name, behind⟩, hname, h⟩ := Option.bind_eq_some_iff.1 h
  obtain ⟨rest', hclosing, h⟩ := Option.bind_eq_some_iff.1 h
  cases h
  obtain ⟨gap, hyphen, hgap, hhyphen, hs, hapart⟩ := exists_opening? (fun _ => rfl) hopening
  obtain ⟨gap', hgap', hinside⟩ := exists_gap inside
  rw [hinside] at hs hapart
  exact ⟨name, _, gap, hyphen, gap', _, behind, _, rfl, hgap, hhyphen, hgap', hs, hname, rfl,
    hclosing, hapart⟩

theorem suffix_of_closing? {delimiter : String} (h : closing? delimiter s = some rest) :
    rest <:+ s := by
  obtain ⟨hyphen, gap, -, -, rfl⟩ := exists_closing? h
  exact ⟨hyphen ++ (delimiter.toList ++ gap), by simp⟩

theorem suffix_of_output? (h : output? s = some (e, rest)) : rest <:+ s := by
  obtain ⟨written, gap, hyphen, gap', inside, mid, -, -, -, -, rfl, hchain, hclosing⟩ :=
    exists_of_output? h
  have hinside : rest <:+ inside := (suffix_of_closing? hclosing).trans <|
    (skipGap_suffix mid).trans (suffix_of_writtenChain? hchain)
  exact hinside.trans ⟨gap ++ (outputOpening.toList ++ (hyphen ++ gap')), by simp⟩

theorem suffix_of_tag? (h : tag? s = some (e, rest)) : rest <:+ s := by
  obtain ⟨name, words, gap, hyphen, gap', inside, behind, mid, -, -, -, -, rfl, hname, hwords,
    hclosing, -⟩ := exists_of_tag? h
  have hinside : rest <:+ inside := (suffix_of_closing? hclosing).trans <|
    (skipGap_suffix mid).trans <|
      (suffix_of_spelledWords hwords).trans (suffix_of_identifier? hname)
  exact hinside.trans ⟨gap ++ (tagOpening.toList ++ (hyphen ++ gap')), by simp⟩

theorem plainText_append (s : List Char) : (plainText s).1 ++ (plainText s).2 = s := by
  induction s with
  | nil => rfl
  | cons c s ih =>
    unfold plainText
    split
    · rfl
    · exact congrArg (c :: ·) ih

/-- A text is the spelling of its first element, and what follows the element. -/
theorem element_append (c : Char) (t : List Char) :
    (element c t).1.spelling ++ (element c t).2 = c :: t := by
  unfold element
  split
  · next e rest h =>
    simp only [Option.orElse_eq_orElse, Option.orElse_eq_or, Option.or_eq_some_iff] at h
    exact (eq_take_append (h.elim suffix_of_output? fun h => suffix_of_tag? h.2)).symm
  · split
    · rfl
    · next text rest _ h =>
      have hwhole := plainText_append (c :: t)
      rw [h] at hwhole
      exact hwhole

/-- What follows the first element of a text is the end of the text. -/
theorem element_suffix (c : Char) (t : List Char) : (element c t).2 <:+ c :: t :=
  ⟨_, element_append c t⟩

/-- An element `e` that is neither a text nor invalid is read as an output or as a tag. -/
theorem read_of_element {c : Char} {t : List Char} (h : (element c t).1.element = e)
    (htext : e ≠ .text) (hinvalid : e ≠ .invalid) :
    output? (c :: t) = some (e, (element c t).2) ∨ tag? (c :: t) = some (e, (element c t).2) := by
  unfold element at h ⊢
  split at h
  · next e' rest hfound =>
    obtain rfl : e' = e := h
    simp only [Option.orElse_eq_orElse, Option.orElse_eq_or, Option.or_eq_some_iff] at hfound
    exact hfound.imp id And.right
  · split at h
    · exact absurd h.symm hinvalid
    · exact absurd h.symm htext

/-- An element that is an output is read as one. -/
theorem output?_of_element {c : Char} {t : List Char} {written : WrittenChain}
    (h : (element c t).1.element = .output written) :
    output? (c :: t) = some (.output written, (element c t).2) := by
  refine (read_of_element h nofun nofun).resolve_right fun htag => ?_
  obtain ⟨name, words, -, -, -, -, -, -, heq, -⟩ := exists_of_tag? htag
  cases heq

/-- An element that is a tag is read as one. -/
theorem tag?_of_element {c : Char} {t : List Char} {name : String} {words : List SpelledWord}
    (h : (element c t).1.element = .tag name words) :
    tag? (c :: t) = some (.tag name words, (element c t).2) := by
  refine (read_of_element h nofun nofun).resolve_left fun houtput => ?_
  obtain ⟨written, -, -, -, -, -, heq, -⟩ := exists_of_output? houtput
  cases heq

theorem exists_suffix_of_mem_elementsWith {fuel : Nat} {e : SpelledElement}
    (h : e ∈ elementsWith fuel s) : ∃ c t, c :: t <:+ s ∧ (element c t).1 = e := by
  induction fuel generalizing s with
  | zero => cases h
  | succ fuel ih =>
    cases s with
    | nil => cases h
    | cons c t =>
      rcases List.mem_cons.1 h with rfl | h
      · exact ⟨c, t, List.suffix_rfl, rfl⟩
      · obtain ⟨c', t', hsuffix, he⟩ := ih h
        exact ⟨c', t', hsuffix.trans (element_suffix c t), he⟩

/-- Every element `e` of a text is read from a place in it. -/
theorem exists_suffix_of_mem_elements {e : SpelledElement} (h : e ∈ elements s) :
    ∃ c t, c :: t <:+ s ∧ (element c t).1 = e :=
  exists_suffix_of_mem_elementsWith h

end Elements

/-- The text `s` does not start with a character that might go on with a name in any alphabet. -/
def EndsPlainly (s : List Char) : Prop :=
  ∀ c ∈ s.head?, continuesName c = false ∧ c.toNat < 128

theorem EndsPlainly.of_append {s t : List Char} (h : EndsPlainly (s ++ t)) : EndsPlainly s := by
  intro c hc
  obtain ⟨s', rfl⟩ := List.head?_eq_some_iff.1 hc
  exact h c rfl

/-- An output, a loop or a condition with the variable `root` starts a text, and `root` stands apart
from what is around it. -/
inductive Opens (root : String) : List Char → Prop where
  /-- The variable is the head of an output. -/
  | output {hyphen gap after : List Char} (hroot : IsName root ∧ IsPlainName root)
      (hhyphen : IsHyphen hyphen) (hgap : IsGap gap) (hafter : EndsPlainly after) :
      Opens root ('\x7b' :: '\x7b' :: (hyphen ++ (gap ++ (root.toList ++ after))))
  /-- A loop goes through the variable. -/
  | loop {hyphen gap gap₁ gap₂ gap₃ after : List Char} {target : String}
      (hroot : IsName root ∧ IsPlainName root) (hhyphen : IsHyphen hyphen) (hgap : IsGap gap)
      (htarget : IsName target ∧ IsPlainName target)
      (hgap₁ : IsGap gap₁ ∧ gap₁ ≠ []) (hgap₂ : IsGap gap₂ ∧ gap₂ ≠ [])
      (hgap₃ : IsGap gap₃ ∧ gap₃ ≠ []) (hafter : EndsPlainly after) :
      Opens root ('\x7b' :: '%' :: (hyphen ++ (gap ++ ("for".toList ++ (gap₁ ++ (target.toList ++
        (gap₂ ++ ("in".toList ++ (gap₃ ++ (root.toList ++ after))))))))))
  /-- The variable stands in a condition, which has no percent sign. -/
  | condition {hyphen gap before after rest : List Char} {name : String} {blank : Char}
      (hroot : IsName root ∧ IsPlainName root) (hhyphen : IsHyphen hyphen) (hgap : IsGap gap)
      (hname : name ∈ Roots.conditionTags)
      (hblank : isGap blank = true) (hbefore : Balanced before) (hopens : OpensName before)
      (hafter : EndsPlainly after) (hpercent : '%' ∉ before ++ (root.toList ++ after))
      (hword : root ∉ Roots.operatorWords) :
      Opens root ('\x7b' :: '%' :: (hyphen ++ (gap ++ (name.toList ++ (blank :: (before ++
        (root.toList ++ (after ++ '%' :: '\x7d' :: rest))))))))

theorem Opens.exists_cons {root : String} {s : List Char} (h : Opens root s) :
    ∃ t, s = '\x7b' :: t := by
  cases h <;> exact ⟨_, rfl⟩

/-- Whether a loop goes through the items of `root` or of a part of it. -/
def LoopHead.goesThrough (head : LoopHead) (root : String) : Bool :=
  match head.source with
  | .items (.variable name _) => name == root
  | _ => false

theorem LoopHead.exists_of_goesThrough {head : LoopHead} {root : String}
    (h : head.goesThrough root = true) :
    ∃ indexes, head.source = .items (.variable root indexes) := by
  unfold LoopHead.goesThrough at h
  split at h
  · next name indexes hsource =>
    rw [beq_iff_eq] at h
    subst h
    exact ⟨indexes, hsource⟩
  · cases h

namespace SpelledElement

/-- The text of `e` without the blanks that its closing delimiter takes away. -/
def trimmed (e : SpelledElement) : List Char :=
  e.spelling.rdropWhile isGap

/-- Whether a blank stands directly behind the name of a tag `e`, which is made of the first letters
of its text. -/
def blankBehind (e : SpelledElement) (name : String) : Bool :=
  ((e.spelling.dropWhile fun c => !c.isAlpha).drop name.length).head?.any isGap

/-- The name `root` stands apart from delimiters in the text of `e`: it does not start with a
hyphen, and the element does not end with it right before the hyphen of its closing delimiter. -/
structure ShowsName (e : SpelledElement) (root : String) : Prop where
  /-- The name does not start with a hyphen. -/
  plain : IsPlainName root
  /-- The hyphen of a closing delimiter does not seem to go on with the name. -/
  apart : ∀ closing ∈ [outputClosing, tagClosing],
    ¬ (root.toList ++ '-' :: closing.toList) <:+ e.trimmed

instance (e : SpelledElement) (root : String) : Decidable (e.ShowsName root) :=
  decidable_of_iff (IsPlainName root ∧ ∀ closing ∈ [outputClosing, tagClosing],
      ¬ (root.toList ++ '-' :: closing.toList) <:+ e.trimmed)
    ⟨fun h => ⟨h.1, h.2⟩, fun h => ⟨h.plain, h.apart⟩⟩

/-- Whether `root` is read where it can be seen in `e`. A loop goes through it, and the variable of
the loop does not start with a hyphen; or it stands in a condition behind a blank, the text holds no
percent signs but those of the delimiters, and the name is not spelled like an operator. -/
def showsPlace (e : SpelledElement) (root : String) : Bool :=
  match e.element with
  | .tag "for" words => (loopHead? false words).any fun head =>
      decide (IsPlainName head.name) && head.goesThrough root
  | .tag name _ => e.spelling.count '%' == 2 && e.blankBehind name &&
      !Roots.operatorWords.contains root
  | _ => true

/-- The text of `e` shows the variable `root` that the element reads: the name stands apart from
delimiters, and the variable is read where it can be seen. -/
def Shows (e : SpelledElement) (root : String) : Prop :=
  e.ShowsName root ∧ e.showsPlace root = true

instance (e : SpelledElement) (root : String) : Decidable (e.Shows root) :=
  inferInstanceAs (Decidable (e.ShowsName root ∧ e.showsPlace root = true))

end SpelledElement

section Shown

variable {e : SpelledElement} {root : String} {s after mid rest : List Char}

/-- The blanks behind a `closing` delimiter are what is left out of the text of `e`. -/
theorem trimmed_eq {before gap : List Char} {closing : String}
    (hclosing : closing ∈ [outputClosing, tagClosing]) (hgap : IsGap gap)
    (hspelling : e.spelling = before ++ (closing.toList ++ gap)) :
    e.trimmed = before ++ closing.toList := by
  have hlast : Text.Stops isGap (before ++ closing.toList).reverse := by
    rw [List.reverse_append]
    simp only [List.mem_cons, List.not_mem_nil, or_false] at hclosing
    rcases hclosing with rfl | rfl <;> exact Text.stops_cons.2 (by decide)
  have hreverse : e.spelling.reverse = gap.reverse ++ (before ++ closing.toList).reverse := by
    rw [hspelling, ← List.append_assoc, List.reverse_append]
  rw [SpelledElement.trimmed, List.rdropWhile, hreverse,
    Text.dropWhile_append_of_stops (fun c hc => hgap c (List.mem_reverse.1 hc)) hlast,
    List.reverse_reverse]

/-- What follows the name `root` in an element that shows it is not confused with the name. -/
theorem endsPlainly_of_showsName (hshows : e.ShowsName root) {closing : String}
    (hclosing : closing ∈ [outputClosing, tagClosing])
    (hwhole : root.toList ++ after <:+ e.spelling ++ rest) (hends : EndsName after)
    (hstuck : Stuck after → after = mid)
    (hclosed : closing? closing (skipGap mid) = some rest) : EndsPlainly after := by
  obtain ⟨before, hwhole⟩ := hwhole
  -- Where readers are stuck there is the closing delimiter, without a hyphen.
  have hclose {c : Char} {t : List Char} (hafter : after = c :: t) (hstuck' : Stuck after) :
      c = '%' ∨ c = '\x7d' := by
    obtain rfl := hstuck hstuck'
    rw [hstuck'.skipGap] at hclosed
    obtain ⟨hyphen, gap, hhyphen, hgap, heq⟩ := exists_closing? hclosed
    rcases hhyphen with rfl | rfl
    · rw [hafter] at heq
      simp only [List.mem_cons, List.not_mem_nil, or_false] at hclosing
      rcases hclosing with rfl | rfl
      · exact .inr (List.cons.inj heq).1
      · exact .inl (List.cons.inj heq).1
    · -- Otherwise the element would end with the name before the hyphen.
      have hspelling : e.spelling =
          (before ++ root.toList ++ ['-']) ++ (closing.toList ++ gap) := by
        have hrest : e.spelling ++ rest =
            (before ++ root.toList ++ ['-']) ++ (closing.toList ++ gap) ++ rest := by
          rw [← hwhole, heq]
          simp
        exact List.append_cancel_right hrest
      refine absurd ⟨before, ?_⟩ (hshows.apart closing hclosing)
      rw [trimmed_eq hclosing hgap hspelling]
      simp
  intro c hc
  obtain ⟨t, hafter⟩ := List.head?_eq_some_iff.1 hc
  by_cases hcontinues : continuesName c = true
  · obtain ⟨rfl, ht⟩ := hends c t hafter hcontinues
    rcases hclose hafter ⟨'-', t, hafter, .inl ⟨rfl, ht⟩⟩ with heq | heq <;> cases heq
  · refine ⟨Bool.eq_false_iff.2 hcontinues, ?_⟩
    by_contra hforeign
    have hstuck' : Stuck after :=
      ⟨c, t, hafter, .inr (by simp only [isForeign, Bool.or_eq_true, decide_eq_true_eq]; omega)⟩
    rcases hclose hafter hstuck' with rfl | rfl
    · exact hforeign (by decide)
    · exact hforeign (by decide)

/-- The head `root` of an output that shows it opens at the start of the output. -/
theorem exists_opens_of_output {c : Char} {t : List Char} {written : WrittenChain}
    (houtput : output? (c :: t) = some (.output written, rest))
    (hwhole : c :: t = e.spelling ++ rest) (hroot : written.entry.head? = some root)
    (hshows : e.ShowsName root) : ∃ t', t' <:+ c :: t ∧ Opens root t' := by
  obtain ⟨written', gap, hyphen, gap', inside, mid, heq, hgap, hhyphen, hgap', hs, hchain,
    hclosing⟩ := exists_of_output? houtput
  cases heq
  obtain ⟨mid', hentry, hfilters⟩ := exists_of_writtenChain? hchain
  have hstarts := ((readsValue_of_expression? hentry).head root hroot).trans
    (suffix_of_writtenFilters hfilters) fun hstuck => by
      rw [writtenFilters_of_stuck hstuck] at hfilters
      exact (Prod.mk.inj hfilters).2
  obtain ⟨hname, after, hinside, hends, -, hstuck⟩ := hstarts
  rw [hinside] at hs
  refine ⟨_, ⟨gap, hs.symm⟩, .output ⟨hname, hshows.plain⟩ hhyphen hgap' ?_⟩
  refine endsPlainly_of_showsName hshows (by simp)
    ⟨gap ++ (outputOpening.toList ++ (hyphen ++ gap')), ?_⟩ hends hstuck hclosing
  rw [← hwhole, hs]
  simp

/-- Parameters of a loop change neither its variable nor its source. -/
theorem loopParameters?_eq_some {table : Bool} {head head' : LoopHead} {words : List SpelledWord}
    (h : loopParameters? table head words = some head') :
    head'.name = head.name ∧ head'.source = head.source := by
  revert h
  fun_induction loopParameters? table head words with
  | case1 =>
    rintro ⟨⟩
    exact ⟨rfl, rfl⟩
  | case2 _ _ _ _ _ _ ih => exact ih
  | case5 _ _ _ _ _ _ _ _ _ _ ih => exact ih
  | case6 _ _ _ _ _ _ _ _ _ _ _ ih => exact ih
  | case7 _ _ _ _ _ _ _ _ _ _ _ _ ih => exact ih
  | case9 _ _ _ _ _ ih => exact ih
  | case3 | case4 | case8 | case10 => exact fun h => by cases h

/-- The head of a loop names the variable of the loop and, behind the word `in`, its source. -/
theorem loopHead?_eq_some {table : Bool} {words : List SpelledWord} {head : LoopHead}
    (h : loopHead? table words = some head) :
    ∃ target inWord source more, words = target :: inWord :: source :: more ∧
      target.name? = some head.name ∧ inWord.spelling = "in" ∧
        source.source? = some head.source := by
  unfold loopHead? at h
  split at h
  · next target inWord source more =>
    obtain ⟨name, hname, h⟩ := Option.bind_eq_some_iff.1 h
    split at h
    · cases h
    · next hin =>
      obtain ⟨through, hsource, h⟩ := Option.bind_eq_some_iff.1 h
      obtain ⟨hname', hsource'⟩ := loopParameters?_eq_some h
      rw [hname', hsource']
      exact ⟨target, inWord, source, more, rfl, hname, by simpa using hin, hsource⟩
  · cases h

/-- If no index is read, nothing is taken. -/
theorem eq_of_indexes_nil {fuel : Nat} (h : indexes fuel s = ([], rest)) : rest = s := by
  cases fuel with
  | zero =>
    cases h
    rfl
  | succ fuel =>
    unfold indexes at h
    split at h
    · cases h
      rfl
    · cases h

/-- A variable without indexes is a name and nothing else. -/
theorem identifier?_of_expression? {name : String}
    (h : expression? s = some (.variable name [], rest)) : identifier? s = some (name, rest) := by
  unfold expression? fuelFor value? at h
  split at h
  · cases h
  · split at h
    · cases h
    · next root behind hname =>
      dsimp only at h
      obtain ⟨hvariable, hrest⟩ := Prod.mk.inj (Option.some.inj h)
      obtain ⟨rfl, hindexes⟩ := Expression.variable.inj hvariable
      rw [hname, eq_of_indexes_nil (Prod.ext hindexes hrest)]

theorem expression?_of_name? {w : SpelledWord} {name : String} (h : w.name? = some name) :
    w.expression? = some (.variable name []) := by
  unfold SpelledWord.name? at h
  split at h
  · next heq =>
    cases h
    exact heq
  · cases h

theorem expression?_of_source? {w : SpelledWord} {e : Expression}
    (h : w.source? = some (.items e)) : w.expression? = some e := by
  simp only [SpelledWord.source?, Option.orElse_eq_orElse, Option.orElse_eq_or,
    Option.or_eq_some_iff] at h
  rcases h with h | ⟨-, h⟩
  · obtain ⟨e', he', heq⟩ := Option.map_eq_some_iff.1 h
    cases heq
    exact he'
  · obtain ⟨range, -, heq⟩ := Option.map_eq_some_iff.1 h
    cases heq

/-- Another name does not follow a name without a blank between them. -/
theorem ne_nil_of_endsName {gap : List Char} {name : String} (hends : EndsName s)
    (hs : s = gap ++ skipGap s) (hstarts : Starts name (skipGap s) rest)
    (hplain : IsPlainName name) : gap ≠ [] := by
  rintro rfl
  rw [List.nil_append] at hs
  exact hstarts.not_endsName hplain (hs ▸ hends)

/-- The source `root` of a loop that shows it stands behind the variable of the loop and the word
`in`. -/
theorem exists_opens_of_loop {c : Char} {t : List Char} {words : List SpelledWord} {head : LoopHead}
    {es : List Expression} (htag : tag? (c :: t) = some (.tag "for" words, rest))
    (hwhole : c :: t = e.spelling ++ rest) (hhead : loopHead? false words = some head)
    (hplain : IsPlainName head.name) (hsource : head.source = .items (.variable root es))
    (hshows : e.ShowsName root) : ∃ t', t' <:+ c :: t ∧ Opens root t' := by
  obtain ⟨name, words', gap, hyphen, gap', inside, behind, mid, heq, hgap, hhyphen, hgap', hs,
    hname, hwords, hclosing, -⟩ := exists_of_tag? htag
  cases heq
  obtain ⟨target, inWord, source, more, rfl, htarget, hin, hfrom⟩ := loopHead?_eq_some hhead
  obtain ⟨fuel, m₁, hfirst, hwords⟩ := exists_of_spelledWords_cons hwords
  obtain ⟨fuel, m₂, hsecond, hwords⟩ := exists_of_spelledWords_cons hwords
  obtain ⟨fuel, m₃, hthird, hwords⟩ := exists_of_spelledWords_cons hwords
  obtain ⟨gap₁, hgap₁, hbehind⟩ := exists_gap behind
  obtain ⟨gap₂, hgap₂, hm₁⟩ := exists_gap m₁
  obtain ⟨gap₃, hgap₃, hm₂⟩ := exists_gap m₂
  -- The variable of the loop.
  have htarget' := identifier?_of_expression?
    (expression?_of_spelledWord? hfirst (expression?_of_name? htarget))
  obtain ⟨hfor, -, -, hends⟩ := identifier?_eq_some hname
  obtain ⟨hskip₁, hstart, hcontinues, hends₁⟩ := identifier?_eq_some htarget'
  have hstarts₁ : Starts head.name (skipGap behind) m₁ :=
    ⟨⟨hstart, hcontinues⟩, m₁, hskip₁, hends₁, List.suffix_rfl, fun _ => rfl⟩
  -- The word behind it.
  have hskip₂ : skipGap m₁ = "in".toList ++ m₂ := by
    rw [(exists_of_spelledWord? hsecond).1, hin]
  have hends₂ : EndsName m₂ := by
    refine endsName_of_letters hsecond ?_ ?_ ?_ <;> rw [hin]
    · decide
    · exact List.all_eq_true.1 rfl
    · exact fun t => rfl
  -- The source.
  have hstarts₃ : Starts root (skipGap m₂) mid := by
    have hvalue := readsValue_of_expression? <| expression?_of_spelledWord? hthird <|
      expression?_of_source? (hsource ▸ hfrom)
    refine (hvalue.head root rfl).trans (suffix_of_spelledWords hwords) fun hstuck => ?_
    rw [spelledWords_of_stuck hstuck] at hwords
    exact (Prod.mk.inj hwords).2
  obtain ⟨hrootName, after, hskip₃, hends₃, -, hstuck⟩ := id hstarts₃
  have hne₁ : gap₁ ≠ [] := ne_nil_of_endsName hends hbehind hstarts₁ hplain
  have hne₃ : gap₃ ≠ [] := ne_nil_of_endsName hends₂ hm₂ hstarts₃ hshows.plain
  have hne₂ : gap₂ ≠ [] := by
    rintro rfl
    rw [hskip₂, List.nil_append] at hm₁
    exact absurd (hends₁ 'i' _ hm₁ (by decide)).1 (by decide)
  rw [hskip₃] at hm₂
  rw [hskip₂, hm₂] at hm₁
  rw [hskip₁, hm₁] at hbehind
  rw [hfor, hbehind] at hs
  refine ⟨_, ⟨gap, hs.symm⟩, .loop ⟨hrootName, hshows.plain⟩ hhyphen hgap'
    ⟨hstarts₁.1, hplain⟩ ⟨hgap₁, hne₁⟩ ⟨hgap₂, hne₂⟩ ⟨hgap₃, hne₃⟩ ?_⟩
  refine endsPlainly_of_showsName hshows (by simp)
    ⟨gap ++ (tagOpening.toList ++ (hyphen ++ (gap' ++ ("for".toList ++ (gap₁ ++
      (head.name.toList ++ (gap₂ ++ ("in".toList ++ gap₃)))))))), ?_⟩ hends₃ hstuck hclosing
  rw [← hwhole, hs]
  simp

/-- A variable `root` that a tag other than a loop reads is one of the operands of a condition. -/
theorem exists_operands_of_mem_tagReads {name : String} {words : List SpelledWord}
    (hroot : root ∈ tagReads name words) (hname : name ≠ "for") :
    name ∈ Roots.conditionTags ∧ ∃ es, Operands words es ∧ root ∈ rootsOfAll es := by
  have hsome {α : Type} {o : Option α} {f : α → List String} (h : root ∈ (o.map f).getD []) :
      ∃ a, o = some a ∧ root ∈ f a := by
    cases o with
    | none => cases h
    | some a => exact ⟨a, rfl, h⟩
  -- `if`, `elsif` and `unless` read the variables of their condition.
  have hcondition (h : root ∈ ((condition? words).map Condition.roots).getD []) :
      ∃ es, Operands words es ∧ root ∈ rootsOfAll es := by
    obtain ⟨c, hc, hmem⟩ := hsome h
    obtain ⟨es, hes, hroots⟩ := exists_operands_of_condition? hc
    exact ⟨es, hes, hroots ▸ hmem⟩
  -- The cases are those of `tagReads`; `for` is left out by `hname`.
  unfold tagReads at hroot
  split at hroot
  · exact ⟨by decide, hcondition hroot⟩
  · exact ⟨by decide, hcondition hroot⟩
  · exact ⟨by decide, hcondition hroot⟩
  · split at hroot
    · next subject =>
      obtain ⟨e, he, hmem⟩ := hsome hroot
      exact ⟨by decide, [e], .last he, by simpa [rootsOfAll] using hmem⟩
    · cases hroot
  · obtain ⟨es, hes, hmem⟩ := hsome hroot
    exact ⟨by decide, es, operands_of_armValues? hes, hmem⟩
  · exact absurd rfl hname
  · cases hroot

/-- No letter stands in an opening delimiter or in the blanks around it. -/
theorem isAlpha_of_mem_opening {gap hyphen gap' : List Char} (hgap : IsGap gap)
    (hhyphen : IsHyphen hyphen) (hgap' : IsGap gap') {c : Char}
    (hc : c ∈ gap ++ (tagOpening.toList ++ (hyphen ++ gap'))) : c.isAlpha = false := by
  have hblank {c : Char} (h : isGap c = true) : c.isAlpha = false := by
    rcases isGap_iff.1 h with rfl | rfl | rfl <;> decide
  have hopening : ∀ c ∈ tagOpening.toList ++ ['-'], (!c.isAlpha) = true :=
    List.all_eq_true.1 rfl
  simp only [Bool.not_eq_true'] at hopening
  simp only [List.mem_append] at hc
  rcases hc with hc | hc | hc | hc
  · exact hblank (hgap c hc)
  · exact hopening c (List.mem_append_left _ hc)
  · rcases hhyphen with rfl | rfl
    · cases hc
    · exact hopening c (List.mem_append_right _ hc)
  · exact hblank (hgap' c hc)

/-- Behind the `name` of a tag stands the blank that the text shows. -/
theorem exists_cons_of_blankBehind {name : String} {opening : List Char}
    (hname : name ∈ Roots.conditionTags) (hopening : ∀ c ∈ opening, c.isAlpha = false)
    (hspelling : e.spelling = opening ++ (name.toList ++ s)) (hblank : e.blankBehind name = true) :
    ∃ blank more, s = blank :: more ∧ isGap blank = true := by
  -- What comes before the first letter is the opening, as names of tags start with one.
  have hletter : Text.Stops (fun c => !c.isAlpha) (name.toList ++ s) := by
    have hall : ∀ name ∈ Roots.conditionTags, name.toList.head?.any Char.isAlpha = true := by
      decide
    have hfirst := hall name hname
    cases hcons : name.toList with
    | nil =>
      rw [hcons] at hfirst
      cases hfirst
    | cons c more =>
      rw [hcons, List.head?_cons, Option.any_some] at hfirst
      rw [List.cons_append, Text.stops_cons, hfirst]
      rfl
  have hdrop : (name.toList ++ s).drop name.length = s := by
    rw [← String.length_toList]
    exact List.drop_left
  rw [SpelledElement.blankBehind, hspelling,
    Text.dropWhile_append_of_stops (fun c hc => by rw [hopening c hc]; rfl) hletter,
    hdrop] at hblank
  cases s with
  | nil => cases hblank
  | cons blank more => exact ⟨blank, more, rfl, hblank⟩

/-- What is left of a tag goes on up to its closing delimiter. -/
theorem exists_tail_of_closing? {more : List Char} (hmore : more ++ mid = after)
    (hclosing : closing? tagClosing (skipGap mid) = some rest) :
    ∃ tail gap, IsGap gap ∧ after = tail ++ '%' :: '\x7d' :: (gap ++ rest) := by
  obtain ⟨gap, -, hmid⟩ := exists_gap mid
  obtain ⟨hyphen, gap', -, hgap', hclosed⟩ := exists_closing? hclosing
  refine ⟨more ++ (gap ++ hyphen), gap', hgap', ?_⟩
  rw [← hmore, hmid, hclosed]
  simp [tagClosing]

/-- A variable `root` that a condition shows stands behind a blank, and before the only other
percent sign. -/
theorem exists_opens_of_condition {c : Char} {t : List Char} {name : String}
    {words : List SpelledWord} {es : List Expression}
    (htag : tag? (c :: t) = some (.tag name words, rest)) (hwhole : c :: t = e.spelling ++ rest)
    (hname : name ∈ Roots.conditionTags) (hes : Operands words es) (hroot : root ∈ rootsOfAll es)
    (hshows : e.ShowsName root) (hcount : e.spelling.count '%' = 2)
    (hblank : e.blankBehind name = true) (hword : root ∉ Roots.operatorWords) :
    ∃ t', t' <:+ c :: t ∧ Opens root t' := by
  obtain ⟨name', words', gap, hyphen, gap', inside, behind, mid, heq, hgap, hhyphen, hgap', hs,
    hinside, hwords, hclosing, -⟩ := exists_of_tag? htag
  cases heq
  obtain ⟨rfl, -⟩ := identifier?_eq_some hinside
  obtain ⟨before, here, rfl, hbefore, hopens, hrootName, after, rfl, hends, ⟨more, hmore⟩,
      hstuck⟩ :=
    stands_of_operands hwords hes hroot hshows.plain
  have hplain : EndsPlainly after := by
    refine endsPlainly_of_showsName hshows (by simp)
      ⟨gap ++ (tagOpening.toList ++ (hyphen ++ (gap' ++ (name.toList ++ before)))), ?_⟩ hends hstuck
      hclosing
    rw [← hwhole, hs]
    simp
  obtain ⟨tail, gap₃, hgap₃, hafter⟩ := exists_tail_of_closing? hmore hclosing
  have hspelling : e.spelling = (gap ++ (tagOpening.toList ++ (hyphen ++ gap'))) ++
      (name.toList ++ (before ++ (root.toList ++ (tail ++ '%' :: '\x7d' :: gap₃)))) := by
    have hrest : e.spelling ++ rest = (gap ++ (tagOpening.toList ++ (hyphen ++ gap'))) ++
        (name.toList ++ (before ++ (root.toList ++ (tail ++ '%' :: '\x7d' :: gap₃)))) ++ rest := by
      rw [← hwhole, hs, hafter]
      simp
    exact List.append_cancel_right hrest
  have hopening := fun c hc => isAlpha_of_mem_opening (c := c) hgap hhyphen hgap' hc
  obtain ⟨blank, more', hcons, hblank'⟩ :=
    exists_cons_of_blankBehind hname hopening hspelling hblank
  -- A name does not start with a blank, so the blank is part of what stands before it.
  obtain ⟨before', rfl⟩ : ∃ before', before = blank :: before' := by
    cases before with
    | nil =>
      obtain ⟨first, letters, hletters, hfirst⟩ := hrootName.1
      rw [hletters] at hcons
      obtain ⟨rfl, -⟩ := List.cons.inj hcons
      exact absurd (continuesName_of_startsName hfirst) (not_continuesName_of_isGap hblank')
    | cons first before' =>
      obtain ⟨rfl, -⟩ := List.cons.inj hcons
      exact ⟨before', rfl⟩
  have hpercent : '%' ∉ before' ++ (root.toList ++ tail) := by
    have hnone : (before' ++ (root.toList ++ tail)).count '%' = 0 := by
      rw [hspelling] at hcount
      simp [tagOpening, List.count_append, List.count_cons] at hcount ⊢
      omega
    exact List.count_eq_zero.1 hnone
  have htailPlain : EndsPlainly tail := EndsPlainly.of_append (hafter ▸ hplain)
  rw [hafter] at hs
  exact ⟨_, ⟨gap, hs.symm⟩, .condition ⟨hrootName, hshows.plain⟩ hhyphen hgap' hname hblank'
    (hbefore.of_cons (not_isQuote_of_isGap hblank')) (OpensName.of_cons hopens) htailPlain hpercent
    hword⟩

/-- A variable `root` that an element shows opens an output, a loop or a condition somewhere in the
text of the template. -/
theorem exists_opens_of_shows (he : e ∈ elements s) (hroot : root ∈ e.element.reads)
    (hshows : e.Shows root) : ∃ t, t <:+ s ∧ Opens root t := by
  obtain ⟨c, t, hsuffix, rfl⟩ := exists_suffix_of_mem_elements he
  -- An element is cut off from a suffix of the text, so the place may be looked for in there.
  suffices h : ∃ t', t' <:+ c :: t ∧ Opens root t' by
    obtain ⟨t', ht', hopens⟩ := h
    exact ⟨t', ht'.trans hsuffix, hopens⟩
  obtain ⟨hname, hkind⟩ := hshows
  have hwhole := (element_append c t).symm
  cases helement : (element c t).1.element with
  | text =>
    rw [helement] at hroot
    cases hroot
  | invalid =>
    rw [helement] at hroot
    cases hroot
  | output written =>
    rw [helement] at hroot
    have houtput := output?_of_element helement
    exact exists_opens_of_output houtput hwhole (Option.mem_toList.1 hroot) hname
  | tag name words =>
    rw [helement] at hroot
    have htag := tag?_of_element helement
    unfold SpelledElement.showsPlace at hkind
    rw [helement] at hkind
    -- A loop shows the variable it goes through; every other tag shows one of its operands.
    by_cases hfor : name = "for"
    · subst hfor
      obtain ⟨head, hhead, hplace⟩ := (Option.any_eq_true _ _).1 hkind
      simp only [Bool.and_eq_true, decide_eq_true_eq] at hplace
      obtain ⟨es, hsource⟩ := LoopHead.exists_of_goesThrough hplace.2
      exact exists_opens_of_loop htag hwhole hhead hplace.1 hsource hname
    · obtain ⟨hcondition, es, hes, hmem⟩ := exists_operands_of_mem_tagReads hroot hfor
      split at hkind
      · next heq => exact absurd (Element.tag.inj heq).1 hfor
      · next heq =>
        obtain ⟨rfl, -⟩ := Element.tag.inj heq
        simp only [Bool.and_eq_true, beq_iff_eq, Bool.not_eq_true', List.contains_eq_mem,
          decide_eq_false_iff_not] at hkind
        obtain ⟨⟨hcount, hblank⟩, hword⟩ := hkind
        exact exists_opens_of_condition htag hwhole hcondition hes hmem hname hcount hblank hword
      · next hother => exact absurd rfl (hother name words)

end Shown

end Promptbook.Template
