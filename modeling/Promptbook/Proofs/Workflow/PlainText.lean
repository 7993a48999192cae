import Mathlib.Algebra.Group.Int.Defs
import Mathlib.Data.List.Infix
import Promptbook.Proofs.Directive.Extraction
import Promptbook.Proofs.Template.Spelling
import Promptbook.Workflow.Plan

/-!
# Plain Bodies

A body in which neither an output nor a tag opens is its own rendering, whatever directives there
are. Its inputs are made variables of the template all the same, although it reads none of them, and
a whole number among them may be too large for that.

## Main definitions

* `Template.IsUnmarked`: a text in which nothing opens.
* `Value.Mentions`: a whole number stands somewhere in a value.

## Main results

* `Template.fits_iff`: the values that can be variables of templates.
* `prepare_of_isUnmarked`: what becomes of a text in which nothing opens.
* `renderBody_of_isUnmarked`: a body in which nothing opens is rendered as it is, unless an input is
  too large.
-/

namespace Promptbook

/-- The whole number `n` stands somewhere in a value. -/
inductive Value.Mentions (n : Int) : Value → Prop where
  /-- The number is the value. -/
  | whole : Mentions n (.int n)
  /-- The number stands in an item `v`. -/
  | item {v : Value} {items : List Value} (hmem : v ∈ items) (h : Mentions n v) :
    Mentions n (.array items)
  /-- The number stands in the member `name`. -/
  | member {name : String} {v : Value} {fields : List (String × Value)} (hmem : (name, v) ∈ fields)
    (h : Mentions n v) : Mentions n (.object fields)

/-- A whole number `n` fits a word with a sign exactly if it is at least `-2 ^ 63` and less than
`2 ^ 63`. -/
theorem Whole.fits_iff {n : Int} : fits n = true ↔ -2 ^ 63 ≤ n ∧ n < 2 ^ 63 := by
  rw [fits, Bool.and_eq_true, decide_eq_true_iff, decide_eq_true_iff, least, greatest]
  omega

namespace Template

mutual

/-- A value can be a variable of templates exactly if every whole number in it fits. -/
theorem fits_iff : (v : Value) →
    (fits v = true ↔ ∀ n, v.Mentions n → Whole.fits n = true)
  | .int n => by
    constructor
    · rintro h _ ⟨⟩
      exact h
    · exact fun h => h n .whole
  | .array items => by
    rw [fits, itemsFit_iff items]
    constructor
    · intro h n hn
      cases hn with | item hmem hv =>
      exact h _ hmem n hv
    · exact fun h v hmem n hv => h n (.item hmem hv)
  | .object fields => by
    rw [fits, membersFit_iff fields]
    constructor
    · intro h n hn
      cases hn with | member hmem hv =>
      exact h _ hmem n hv
    · exact fun h field hmem n hv => h n (.member hmem hv)
  | .null | .bool _ | .double _ | .string _ => ⟨fun _ _ => nofun, fun _ => rfl⟩

/-- Items can be variables of templates exactly if all of them can. -/
theorem itemsFit_iff : (items : List Value) →
    (itemsFit items = true ↔ ∀ v ∈ items, ∀ n, v.Mentions n → Whole.fits n = true)
  | [] => ⟨fun _ => nofun, fun _ => rfl⟩
  | v :: items => by
    rw [itemsFit, Bool.and_eq_true, fits_iff v, itemsFit_iff items, List.forall_mem_cons]

/-- Members can be variables of templates exactly if all of them can. -/
theorem membersFit_iff : (fields : List (String × Value)) →
    (membersFit fields = true ↔
      ∀ field ∈ fields, ∀ n, field.2.Mentions n → Whole.fits n = true)
  | [] => ⟨fun _ => nofun, fun _ => rfl⟩
  | (_, v) :: fields => by
    rw [membersFit, Bool.and_eq_true, fits_iff v, membersFit_iff fields, List.forall_mem_cons]

end

/-- Neither an output nor a tag opens in the text `s`. -/
structure IsUnmarked (s : List Char) : Prop where
  /-- No output opens. -/
  output : ¬ outputOpening.toList <:+: s
  /-- No tag opens. -/
  tag : ¬ tagOpening.toList <:+: s

instance (s : List Char) : Decidable (IsUnmarked s) :=
  decidable_of_iff (¬ outputOpening.toList <:+: s ∧ ¬ tagOpening.toList <:+: s)
    ⟨fun h => ⟨h.1, h.2⟩, fun h => ⟨h.output, h.tag⟩⟩

section Reading

variable {s t : List Char} {c : Char}

/-- Where nothing opens in `t`, nothing opens in an end `s` of it. -/
theorem IsUnmarked.of_suffix (h : IsUnmarked t) (hs : s <:+ t) : IsUnmarked s :=
  ⟨fun hwithin => h.output (hwithin.trans hs.isInfix),
    fun hwithin => h.tag (hwithin.trans hs.isInfix)⟩

/-- No opening `delimiter` is read where none stands. -/
theorem opening?_eq_none {delimiter : String}
    (hdelimiter : ∀ t, skipGap (delimiter.toList ++ t) = delimiter.toList ++ t)
    (h : ¬ delimiter.toList <:+: s) : opening? delimiter s = none := by
  rw [Option.eq_none_iff_forall_ne_some]
  intro rest hopening
  obtain ⟨gap, hyphen, -, -, hs, -⟩ := exists_opening? hdelimiter hopening
  exact h ⟨gap, hyphen ++ rest, by rw [hs, List.append_assoc]⟩

theorem IsUnmarked.opening?_output (h : IsUnmarked s) : opening? outputOpening s = none :=
  opening?_eq_none (fun _ => rfl) h.output

theorem IsUnmarked.opening?_tag (h : IsUnmarked s) : opening? tagOpening s = none :=
  opening?_eq_none (fun _ => rfl) h.tag

/-- A text `s` in which nothing opens is taken as a whole. -/
theorem plainText_of_isUnmarked (h : IsUnmarked s) : plainText s = (s, []) := by
  induction s with
  | nil => rfl
  | cons c s ih =>
    have hopens : opens (c :: s) = false := by
      rw [opens, h.opening?_tag, h.opening?_output]
      rfl
    rw [plainText, hopens, ih (h.of_suffix (List.suffix_cons c s))]
    rfl

theorem element_of_isUnmarked (h : IsUnmarked (c :: s)) :
    element c s = (⟨.text, c :: s⟩, []) := by
  have houtput : output? (c :: s) = none := by
    rw [output?, h.opening?_output]
    rfl
  have htag : tag? (c :: s) = none := by
    rw [tag?, h.opening?_tag]
    rfl
  rw [element, houtput, htag, plainText_of_isUnmarked h]
  rfl

/-- A text in which nothing opens is the only element of its template, if it is not empty. -/
theorem elements_of_isUnmarked (h : IsUnmarked (c :: s)) :
    elements (c :: s) = [⟨.text, c :: s⟩] := by
  rw [elements, List.length_cons, elementsWith, element_of_isUnmarked h]
  cases s <;> rfl

/-- A template in which nothing opens renders as it is. -/
theorem readTemplate_of_isUnmarked (host : HostTags) {source : String}
    (h : IsUnmarked source.toList) :
    ∃ nodes, readTemplate host source = .ok nodes ∧
      ∀ {ε σ : Type} (setting : Setting ε σ) (frames : Frames) (state : σ),
        renderNodes setting frames nodes (.start state) =
          .ok () { Machine.start state with out := source } := by
  cases hsource : source.toList with
  | nil =>
    obtain rfl : source = "" := String.toList_eq_nil_iff.1 hsource
    exact ⟨[], rfl, fun _ _ _ => rfl⟩
  | cons c s =>
    rw [hsource] at h
    refine ⟨[.text source], ?_, fun setting frames state => ?_⟩
    · rw [readTemplate, hsource, elements_of_isUnmarked h, ← hsource]
      show Except.ok [Node.text (String.ofList source.toList)] = _
      rw [String.ofList_toList]
    · show EStateM.Result.ok () { Machine.start state with out := "" ++ source } = _
      rw [String.empty_append]

end Reading

end Template

open Template (IsUnmarked tagOpening)

/-- No directive is met in a text `s` in which nothing opens. -/
theorem scans_of_isUnmarked (isDirective : String → Bool) {s : List Char} (h : IsUnmarked s) :
    Scans isDirective s [] := by
  induction s with
  | nil => exact .finished
  | cons c s ih =>
    refine .plain (isPlain_of_ne fun t heq => h.tag ?_) (ih (h.of_suffix (List.suffix_cons c s)))
    exact ⟨[], t, heq.symm⟩

variable {ω : Type} (registry : Registry ω) {body : String}

/-- Nothing is extracted from a `body` in which nothing opens, so that only its inputs can keep it
from being rendered. -/
theorem prepare_of_isUnmarked (h : IsUnmarked body.toList) (inputs : Variables) :
    ∃ nodes,
      (prepare registry inputs body =
        if Template.fits (.object inputs) then .ok ⟨#[], nodes, Roots.globals inputs body⟩
        else .error (faultError .numberTooLarge)) ∧
      ∀ (setting : Template.Setting Interruption (Pass ω)) (state : Pass ω),
        Template.renderNodes setting [] nodes (.start state) =
          .ok () { Template.Machine.start state with out := body } := by
  have hextract : extract registry.has body = .ok ⟨body.toList, []⟩ :=
    extractFrom_of_scans_nil (scans_of_isUnmarked _ h) 0
  obtain ⟨nodes, hread, hrender⟩ :=
    Template.readTemplate_of_isUnmarked (hostTags #[]) h
  refine ⟨nodes, ?_, fun setting => hrender setting []⟩
  unfold prepare
  rw [hextract]
  simp only [Except.mapError, bind, Except.bind, List.filterMap_nil, List.map_nil,
    String.ofList_toList]
  rw [hread]
  rfl

/-- A `body` in which nothing opens is rendered as it is or not at all. -/
theorem render_of_isUnmarked (h : IsUnmarked body.toList) (step : String) (inputs : Variables)
    (world : ω) :
    render registry step inputs body world =
      (⟨[], if Template.fits (.object inputs) then .ok body
        else .error (faultError .numberTooLarge)⟩, world) := by
  obtain ⟨nodes, hprepare, hrender⟩ := prepare_of_isUnmarked registry h inputs
  unfold render
  rw [hprepare]
  cases Template.fits (.object inputs) with
  | false => rfl
  | true =>
    simp only [if_true]
    -- No directive is called, so that the first pass is the last.
    rw [Prepared.renderWith, Prepared.pass, hrender]
    rfl

/-- A `body` in which nothing opens is its own prompt but for the white space around it, whatever
the directives, the step and the inputs are. It writes nothing, calls nothing and fails only because
of an input: if a whole number in one of them does not fit a word with a sign. -/
theorem renderBody_of_isUnmarked (name : String) (instruction : Instruction) (body : String)
    (h : IsUnmarked body.toList) (inputs : Variables) (world : ω) :
    ((∀ n, (Value.object inputs).Mentions n → -2 ^ 63 ≤ n ∧ n < 2 ^ 63) →
        renderBody registry name instruction body inputs world =
          (⟨Text.trim body, [], none⟩, world)) ∧
      (∀ n, (Value.object inputs).Mentions n → ¬ (-2 ^ 63 ≤ n ∧ n < 2 ^ 63) →
        renderBody registry name instruction body inputs world =
          (⟨"", [], some (stepError instruction name (faultError .numberTooLarge))⟩, world)) := by
  -- The whole body is one text, so only the conversion of the inputs can fail.
  have hrender : renderBody registry name instruction body inputs world =
      (.ofRendering name instruction ⟨[], if Template.fits (.object inputs) then .ok body
        else .error (faultError .numberTooLarge)⟩, world) := by
    simp only [renderBody, bind, StateT.bind, render_of_isUnmarked registry h]
    rfl
  rw [hrender]
  constructor
  · intro hfits
    rw [if_pos ((Template.fits_iff _).2 fun n hn => Whole.fits_iff.2 (hfits n hn))]
    rfl
  · intro n hn hlarge
    rw [if_neg fun hfits => hlarge (Whole.fits_iff.1 ((Template.fits_iff _).1 hfits n hn))]
    rfl

/-- Braces that open nothing are plain text, and only the number that is too large matters. -/
theorem renderBody_of_isUnmarked_braces :
    IsUnmarked " a \x7d \x7bb\x7d% ".toList ∧
      renderBody (Registry.builtins (none : Option (Retriever Unit))) "greeting" .prompt
          " a \x7d \x7bb\x7d% " [("n", .array [.int (2 ^ 63 - 1)])] () =
        (⟨"a \x7d \x7bb\x7d%", [], none⟩, ()) ∧
      renderBody (Registry.builtins (none : Option (Retriever Unit))) "greeting" .prompt
          " a \x7d \x7bb\x7d% " [("n", .array [.int (2 ^ 63)])] () =
        (⟨"", [], some "In PROMPT, greeting: Render failed: liquid: Number too large"⟩, ()) := by
  have hunmarked : IsUnmarked " a \x7d \x7bb\x7d% ".toList := by decide +kernel
  have hrender := renderBody_of_isUnmarked (Registry.builtins (none : Option (Retriever Unit)))
    "greeting" .prompt " a \x7d \x7bb\x7d% " hunmarked
  refine ⟨hunmarked, (hrender [("n", .array [.int (2 ^ 63 - 1)])] ()).1 fun n hn => ?_, ?_⟩
  · cases hn with | member hmem hn =>
    cases List.mem_singleton.1 hmem
    cases hn with | item hmem hn =>
    cases List.mem_singleton.1 hmem
    cases hn
    decide
  · exact (hrender [("n", .array [.int (2 ^ 63)])] ()).2 (2 ^ 63)
      (.member List.mem_cons_self (.item List.mem_cons_self .whole)) (by decide)

/-- An input keeps a body from being rendered that does not read it. -/
theorem renderBody_unread_input :
    IsUnmarked "Hi".toList ∧
      (renderBody (Registry.builtins (none : Option (Retriever Unit))) "greeting" .prompt "Hi"
        [("n", .int (2 ^ 64 - 1))] ()).1 ≠ ⟨"Hi", [], none⟩ := by
  decide +kernel

end Promptbook
