import Promptbook.Directive.Extraction
import Promptbook.Proofs.Template.Spelling
import Promptbook.Template.Reader

/-!
# Places of Elements

The elements of a template partition its text. Here it is said what stands at the place of an
element: a text opens nothing, an output and a tag have their delimiters around them, and the name
of a tag ends before a character of ASCII. The places that count for directives are those outside of
raw blocks and comments.

## Main definitions

* `spell`: the text of elements.
* `outside`: the places outside of raw blocks and comments, each with the elements behind it.

## Main results

* `exists_of_elementsWith_append`: elements are cut where their text is cut.
* `not_opens_of_text`: nowhere in a text an output or a tag opens.
* `tagAt_of_element`: what stands at the place of a tag.
-/

namespace Promptbook.Template

/-- The text of the elements `es`. -/
def spell (es : List SpelledElement) : List Char :=
  es.flatMap SpelledElement.spelling

namespace SpelledElement

/-- The name of the tag that `e` is, if it is one. -/
def tagName? (e : SpelledElement) : Option String :=
  match e.element with
  | .tag name _ => some name
  | _ => none

/-- Whether `e` can be read. -/
def isValid (e : SpelledElement) : Bool :=
  match e.element with
  | .invalid => false
  | _ => true

/-- Whether `e` is the tag `name` without words. -/
def isTag (e : SpelledElement) (name : String) : Bool :=
  match e.element with
  | .tag name' [] => name' == name
  | _ => false

/-- The raw block or comment that `e` starts, if it is a tag that does. -/
def block? (e : SpelledElement) : Option String :=
  e.tagName?.filter fun name => isVerbatim name.toList

/-- The text of an output or a tag `e` behind its first brace. -/
def inner (e : SpelledElement) : List Char :=
  (e.spelling.dropWhile isGap).tail

end SpelledElement

/-- The place of an element. -/
structure Place where
  /-- The element. -/
  here : SpelledElement
  /-- The elements behind it. -/
  behind : List SpelledElement

/-- The places outside of raw blocks and comments, if the elements start inside of `block` or
outside of all. A block goes on up to its first end tag, or to the end of the template. -/
def outside : (block : Option String) → List SpelledElement → List Place
  | _, [] => []
  | none, e :: es => ⟨e, es⟩ :: outside e.block? es
  | some block, e :: es => outside (if e.isTag (endOf block) then none else some block) es

section Shapes

variable {c : Char} {t : List Char} {name : String} {words : List SpelledWord}

/-- What stands behind the opening delimiter of an output or a tag ends with a brace, and with the
blanks that the closing delimiter takes away. -/
theorem exists_body {spelling front inside mid rest : List Char} {closing : String}
    (hwhole : spelling ++ rest = front ++ inside) (hmid : skipGap mid <:+ inside)
    (hclosing : closing? closing (skipGap mid) = some rest)
    (hbrace : ∃ sign, closing.toList = [sign, '\x7d']) :
    ∃ body gap, IsGap gap ∧ spelling = front ++ (body ++ '\x7d' :: gap) := by
  obtain ⟨sign, hsign⟩ := hbrace
  obtain ⟨before, rfl⟩ := hmid
  obtain ⟨hyphen, gap, -, hgap, heq⟩ := exists_closing? hclosing
  refine ⟨before ++ (hyphen ++ [sign]), gap, hgap, ?_⟩
  rw [heq, hsign] at hwhole
  refine List.append_cancel_right (hwhole.trans ?_)
  simp

/-- An output is a text between double braces, with blanks before and behind it. -/
theorem exists_spelling_of_output {written : WrittenChain}
    (h : (element c t).1.element = .output written) :
    ∃ gap body gap', IsGap gap ∧ IsGap gap' ∧
      (element c t).1.spelling = gap ++ '\x7b' :: '\x7b' :: (body ++ '\x7d' :: gap') := by
  obtain ⟨written', gap, hyphen, gap₁, inside, mid, -, hgap, -, -, hs, hchain, hclosing⟩ :=
    exists_of_output? (output?_of_element h)
  have hwhole : (element c t).1.spelling ++ (element c t).2 =
      (gap ++ '\x7b' :: '\x7b' :: (hyphen ++ gap₁)) ++ inside := by
    rw [element_append, hs]
    simp [outputOpening]
  obtain ⟨body, gap', hgap', hspelling⟩ := exists_body hwhole
    ((skipGap_suffix mid).trans (suffix_of_writtenChain? hchain)) hclosing ⟨_, rfl⟩
  refine ⟨gap, hyphen ++ gap₁ ++ body, gap', hgap, hgap', ?_⟩
  rw [hspelling]
  simp

/-- The tag `name` opens where a brace stands in front of `s`. -/
structure TagAt (name : String) (s : List Char) : Prop where
  /-- The name stands behind the delimiter and blanks. If the delimiter has no hyphen, none follows
  it. -/
  opens : ∃ hyphen gap behind, IsHyphen hyphen ∧ IsGap gap ∧ IsName name ∧
    s = '%' :: (hyphen ++ (gap ++ (name.toList ++ behind))) ∧
      (hyphen = [] → (gap ++ name.toList).head? ≠ some '-') ∧
        -- The name ends there, and does so in every alphabet.
        EndsName behind ∧ ∀ d ∈ behind.head?, d.toNat < 128

/-- What stands behind the name of a tag, words or the closing delimiter, begins with an ASCII
character. -/
theorem toNat_lt_of_head? {behind mid rest : List Char}
    (hwords : spelledWords behind.length behind = (words, mid))
    (hclosing : closing? tagClosing (skipGap mid) = some rest) :
    ∀ d ∈ behind.head?, d.toNat < 128 := by
  intro d hd
  obtain ⟨behind', rfl⟩ := List.head?_eq_some_iff.1 hd
  by_contra hge
  have hforeign : isForeign d = true := by
    simp only [isForeign, Bool.or_eq_true, decide_eq_true_eq]
    exact .inr (by omega)
  -- No word starts with another character, nor does the delimiter.
  have hstuck : Stuck (d :: behind') := ⟨d, behind', rfl, .inr hforeign⟩
  rw [spelledWords_of_stuck hstuck] at hwords
  cases hwords
  rw [hstuck.skipGap] at hclosing
  obtain ⟨hyphen, gap, hhyphen, -, heq⟩ := exists_closing? hclosing
  rcases hhyphen with rfl | rfl
  · obtain ⟨rfl, -⟩ := List.cons.inj heq
    exact hge (by decide)
  · obtain ⟨rfl, -⟩ := List.cons.inj heq
    exact hge (by decide)

/-- A tag is a text between braces, with blanks before and behind it, and its name stands where it
opens. -/
theorem tagAt_of_element (h : (element c t).1.element = .tag name words) :
    ∃ gap body gap', IsGap gap ∧ IsGap gap' ∧
      (element c t).1.spelling = gap ++ '\x7b' :: '%' :: (body ++ '\x7d' :: gap') ∧
        TagAt name ('%' :: (body ++ '\x7d' :: gap') ++ (element c t).2) := by
  obtain ⟨name', words', gap, hyphen, gap₁, inside, behind, mid, heq, hgap, hhyphen, hgap₁, hs,
    hname, hwords, hclosing, hapart⟩ := exists_of_tag? (tag?_of_element h)
  cases heq
  have hwhole : (element c t).1.spelling ++ (element c t).2 =
      (gap ++ '\x7b' :: '%' :: (hyphen ++ gap₁)) ++ inside := by
    rw [element_append, hs]
    simp [tagOpening]
  obtain ⟨body, gap', hgap', hspelling⟩ := exists_body hwhole ((skipGap_suffix mid).trans <|
    (suffix_of_spelledWords hwords).trans (suffix_of_identifier? hname)) hclosing ⟨_, rfl⟩
  refine ⟨gap, hyphen ++ gap₁ ++ body, gap', hgap, hgap', by rw [hspelling]; simp, ?_⟩
  obtain ⟨rfl, hstart, hcontinues, hends⟩ := identifier?_eq_some hname
  refine ⟨hyphen, gap₁, behind, hhyphen, hgap₁, ⟨hstart, hcontinues⟩, ?_, fun hnone hhead => ?_,
    hends, toNat_lt_of_head? hwords hclosing⟩
  · rw [hspelling] at hwhole
    -- Both spellings of the element start with the same blanks and brace.
    have hcut : gap ++ '\x7b' :: ('%' :: (hyphen ++ gap₁ ++ body ++ '\x7d' :: gap') ++
        (element c t).2) =
          gap ++ '\x7b' :: ('%' :: (hyphen ++ (gap₁ ++ (name.toList ++ behind)))) := by
      simpa using hwhole
    exact (List.cons.inj (List.append_cancel_left hcut)).2
  · obtain ⟨more, hmore⟩ := List.head?_eq_some_iff.1 hhead
    refine hapart hnone ?_
    rw [← List.append_assoc, hmore]
    rfl

/-- The text `tag` is the tag `name` without words. -/
def IsWordless (name : String) (tag : List Char) : Prop :=
  ∃ hyphen gap gap' hyphen', IsHyphen hyphen ∧ IsGap gap ∧ IsGap gap' ∧ IsHyphen hyphen' ∧
    tag = '\x7b' :: '%' :: (hyphen ++ (gap ++ (name.toList ++ (gap' ++ (hyphen' ++
      tagClosing.toList)))))

/-- The tag `name` without words has only blanks before and behind it. -/
theorem exists_wordless_of_isTag (h : (element c t).1.isTag name = true) :
    ∃ gap tag gap', IsGap gap ∧ IsGap gap' ∧ (element c t).1.spelling = gap ++ (tag ++ gap') ∧
      IsWordless name tag := by
  unfold SpelledElement.isTag at h
  split at h
  · next name' helement =>
    obtain rfl := eq_of_beq h
    obtain ⟨name, words, gap, hyphen, gap₁, inside, behind, mid, heq, hgap, hhyphen, hgap₁, hs,
      hname, hwords, hclosing, -⟩ := exists_of_tag? (tag?_of_element helement)
    cases heq
    obtain rfl := eq_of_spelledWords_nil hwords
    obtain ⟨gap₂, hgap₂, hbehind⟩ := exists_gap mid
    obtain ⟨hyphen', gap₃, hhyphen', hgap₃, hclose⟩ := exists_closing? hclosing
    obtain ⟨rfl, -⟩ := identifier?_eq_some hname
    refine ⟨gap, _, gap₃, hgap, hgap₃, ?_,
      hyphen, gap₁, gap₂, hyphen', hhyphen, hgap₁, hgap₂, hhyphen', rfl⟩
    have hwhole := element_append c t
    rw [hs, hbehind, hclose] at hwhole
    refine List.append_cancel_right (hwhole.trans ?_)
    simp [tagOpening]
  · cases h

/-- The text of an element without the blanks behind it ends with the tag. -/
theorem IsWordless.trimmed_eq {e : SpelledElement} {gap tag gap' : List Char}
    (h : IsWordless name tag) (hgap' : IsGap gap') (hspelling : e.spelling = gap ++ (tag ++ gap')) :
    e.trimmed = gap ++ tag := by
  obtain ⟨hyphen, gap₁, gap₂, hyphen', -, -, -, -, rfl⟩ := h
  have hcut : e.spelling = (gap ++ '\x7b' :: '%' :: (hyphen ++ (gap₁ ++ (name.toList ++ (gap₂ ++
      hyphen'))))) ++ (tagClosing.toList ++ gap') := by
    rw [hspelling]
    simp
  rw [Template.trimmed_eq (by simp) hgap' hcut]
  simp

/-- Nowhere in a plain text an output or a tag opens. -/
theorem not_opens_of_plainText {s before after : List Char} {d : Char}
    (h : (plainText s).1 = before ++ d :: after) :
    opens (d :: after ++ (plainText s).2) = false := by
  -- A text is taken one character at a time as long as nothing opens.
  induction s generalizing before with
  | nil => simp [plainText] at h
  | cons c s ih =>
    unfold plainText at h ⊢
    split at h
    · simp at h
    · next hopens =>
      rw [if_neg hopens]
      cases before with
      | nil =>
        obtain ⟨rfl, rfl⟩ := List.cons.inj h
        dsimp only
        rw [List.cons_append, plainText_append, Bool.eq_false_iff]
        exact hopens
      | cons e before => exact ih (List.cons.inj h).2

/-- What is read as an output or as a tag is neither a plain text nor an invalid element. -/
theorem ne_of_found {s rest : List Char} {e : Element}
    (h : (output? s <|> tag? s) = some (e, rest)) : e ≠ .text ∧ e ≠ .invalid := by
  simp only [Option.orElse_eq_orElse, Option.orElse_eq_or, Option.or_eq_some_iff] at h
  rcases h with houtput | ⟨-, htag⟩
  · obtain ⟨written, -, -, -, -, -, rfl, -⟩ := exists_of_output? houtput
    exact ⟨nofun, nofun⟩
  · obtain ⟨name, words, -, -, -, -, -, -, rfl, -⟩ := exists_of_tag? htag
    exact ⟨nofun, nofun⟩

/-- A plain text goes on up to where something opens. -/
theorem element_of_text (h : (element c t).1.element = .text) :
    element c t = (⟨.text, (plainText (c :: t)).1⟩, (plainText (c :: t)).2) ∧
      (plainText (c :: t)).1 ≠ [] := by
  unfold element at h ⊢
  split at h
  · next hfound => exact absurd h (ne_of_found hfound).1
  · split at h
    · cases h
    · next text rest hne hplain =>
      rw [hplain]
      exact ⟨rfl, hne⟩

/-- Nowhere in an element that is a plain text an output or a tag opens. -/
theorem not_opens_of_text (h : (element c t).1.element = .text) {before after : List Char}
    {d : Char} (hspelling : (element c t).1.spelling = before ++ d :: after) :
    opens (d :: after ++ (element c t).2) = false := by
  rw [(element_of_text h).1] at hspelling ⊢
  exact not_opens_of_plainText hspelling

/-- Every element takes something. -/
theorem spelling_ne_nil (c : Char) (t : List Char) : (element c t).1.spelling ≠ [] := by
  cases h : (element c t).1.element with
  | text =>
    rw [(element_of_text h).1]
    exact (element_of_text h).2
  | output written =>
    obtain ⟨gap, body, gap', -, -, hspelling⟩ := exists_spelling_of_output h
    rw [hspelling]
    simp
  | tag name words =>
    obtain ⟨gap, body, gap', -, -, hspelling, -⟩ := tagAt_of_element h
    rw [hspelling]
    simp
  | invalid =>
    unfold element at h ⊢
    split at h
    · next hfound => exact absurd h (ne_of_found hfound).2
    · split at h
      · exact List.cons_ne_nil _ _
      · cases h

theorem length_element_lt (c : Char) (t : List Char) :
    (element c t).2.length < (c :: t).length := by
  have hpositive := List.length_pos_iff.2 (spelling_ne_nil c t)
  rw [← element_append c t, List.length_append]
  omega

end Shapes

section Partition

variable {fuel : Nat} {s : List Char} {e : SpelledElement} {es before after : List SpelledElement}

/-- The first element `e` stands at the start of the text, and the others behind it. -/
theorem exists_of_elementsWith_cons (h : elementsWith fuel s = e :: es) (hfuel : s.length ≤ fuel) :
    ∃ c t fuel', s = c :: t ∧ (element c t).1 = e ∧ (element c t).2.length ≤ fuel' ∧
      elementsWith fuel' (element c t).2 = es := by
  cases fuel with
  | zero => cases h
  | succ fuel =>
    cases s with
    | nil => cases h
    | cons c t =>
      obtain ⟨rfl, rfl⟩ := List.cons.inj h
      refine ⟨c, t, fuel, rfl, rfl, ?_, rfl⟩
      exact Nat.le_of_lt_succ (Nat.lt_of_lt_of_le (length_element_lt c t) hfuel)

/-- Only the empty text has no elements. -/
theorem eq_nil_of_elementsWith (h : elementsWith fuel s = []) (hfuel : s.length ≤ fuel) :
    s = [] := by
  cases s with
  | nil => rfl
  | cons c t =>
    cases fuel with
    | zero => cases hfuel
    | succ fuel => cases h

/-- Elements are cut where their text is cut. -/
theorem exists_of_elementsWith_append (h : elementsWith fuel s = before ++ after)
    (hfuel : s.length ≤ fuel) :
    ∃ fuel' rest, rest.length ≤ fuel' ∧ elementsWith fuel' rest = after ∧
      s = spell before ++ rest := by
  induction before generalizing fuel s with
  | nil => exact ⟨fuel, s, hfuel, h, rfl⟩
  | cons e before ih =>
    obtain ⟨c, t, fuel', rfl, rfl, hfuel', hmore⟩ := exists_of_elementsWith_cons h hfuel
    obtain ⟨fuel'', rest, hfuel'', hafter, hspell⟩ := ih hmore hfuel'
    refine ⟨fuel'', rest, hfuel'', hafter, ?_⟩
    rw [← element_append c t, hspell, ← List.append_assoc]
    rfl

end Partition

section Blocks

/-- The elements among `es` that a block hides which starts before them: those up to its first end
tag. -/
def hiddenBy (block : String) (es : List SpelledElement) : List SpelledElement :=
  es.takeWhile fun e => !e.isTag (endOf block)

/-- A `block` hides all of `es`, or those before its end tag. -/
theorem hiddenBy_cases (block : String) (es : List SpelledElement) :
    (es = hiddenBy block es ∧ outside (some block) es = []) ∨
      ∃ e more, es = hiddenBy block es ++ e :: more ∧ e.isTag (endOf block) = true ∧
        outside (some block) es = outside none more := by
  unfold hiddenBy
  induction es with
  | nil => exact .inl ⟨rfl, rfl⟩
  | cons e es ih =>
    rw [outside]
    cases hends : e.isTag (endOf block) with
    | true =>
      rw [List.takeWhile_cons_of_neg (by simp [hends])]
      exact .inr ⟨e, es, rfl, hends, rfl⟩
    | false =>
      rw [List.takeWhile_cons_of_pos (by simp [hends])]
      rcases ih with ⟨hall, hnone⟩ | ⟨e', more, hcut, hends', houtside⟩
      · exact .inl ⟨congrArg (e :: ·) hall, hnone⟩
      · exact .inr ⟨e', more, congrArg (e :: ·) hcut, hends', houtside⟩

end Blocks

end Promptbook.Template
