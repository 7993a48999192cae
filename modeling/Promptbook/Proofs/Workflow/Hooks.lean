import Promptbook.Proofs.Directive.Continuation
import Promptbook.Workflow.Plan

/-!
# What Becomes of the Hooks

Whether a body calls a hook is decided by a search through its text, before the directives are
extracted. The search and the extraction do not agree on every body: a call in a raw block or a
comment, or one in another letter case, is found by the search only, and so is one that stands right
before the hyphen of its tag. And the call that is written behind a body is not extracted if the
body leaves a block open.

Apart from that the hooks are called as they should be. What is extracted then are the directives of
the body, between the calls that were written around it.

## Main definitions

* `Hook.isInserted`: a call of the hook is written around a body.
* `Hook.Kept`: how often the hooks are called.

## Main results

* `Hook.scans_leading`, `Hook.scans_trailing`: the scan of the new text meets the tags of the body
  and of the calls around it.
* `Hook.kept_of_extract`: the hooks that a body calls or does not seem to call are kept, if it
  leaves no block open.
* `Hook.loses_of_mention_or_open_block`: other hooks can be lost.
-/

namespace Promptbook

open Grammar (Barrier IsKey IsQuote)

variable {ω : Type} {isDirective : String → Bool} {body : String}

namespace Hook

/-- A call of `hook` is written around `body`: the caller defines the hook, and the body does not
seem to call it. -/
def isInserted (hook : Hook) (options : Options ω) (body : String) : Bool :=
  options.immediate.has hook.name && !hook.isCalled body.toList

/-- The tag of a call of `hook`. -/
def tag (hook : Hook) : Markup :=
  ⟨false, hook.name.toList, [' '], false⟩

/-- The names `own` of the directives of `body` with those of the calls that are written around
it. -/
def withCalls (options : Options ω) (body : String) (own : List String) : List String :=
  (if leading.isInserted options body then [leading.name] else []) ++ own ++
    if trailing.isInserted options body then [trailing.name] else []

/-- In a `body` whose directives have the names `own`, these are the `names` of the directives after
the hooks have been written around it. -/
structure Kept (options : Options ω) (body : String) (own names : List String) : Prop where
  /-- The calls that are written around the body come before and after its own directives. -/
  around : names = withCalls options body own
  /-- A hook that the caller defines is called, unless the body only seems to call it. -/
  called : ∀ hook ∈ [leading, trailing], options.immediate.has hook.name = true →
    (hook.name ∈ names ↔ (hook.isCalled body.toList = true → hook.name ∈ own))
  /-- A hook that the caller defines is called once if the body neither calls it nor seems to. -/
  once : ∀ hook ∈ [leading, trailing], options.immediate.has hook.name = true →
    hook.isCalled body.toList = false → hook.name ∉ own → names.count hook.name = 1

section Calls

variable {hook : Hook} {options : Options ω}

/-- The names of the hooks can be read in tags, and they are not those of blocks. -/
theorem isKey_name (h : hook ∈ [leading, trailing]) :
    IsKey hook.name.toList ∧ isVerbatim hook.name.toList = false := by
  rcases List.mem_pair.1 h with rfl | rfl
  · exact ⟨⟨'i', "nputMock".toList, by decide, by decide, List.all_eq_true.1 rfl⟩, by decide⟩
  · exact ⟨⟨'m', "ock".toList, by decide, by decide, List.all_eq_true.1 rfl⟩, by decide⟩

/-- A call is the tag of its hook. -/
theorem toList_call (hook : Hook) :
    hook.call.toList = '\x7b' :: '%' :: ' ' :: (hook.name.toList ++ [' ', '%', '\x7d']) := by
  simp [call]

/-- The scan meets the tag of a call. -/
theorem scans_call (h : hook ∈ [leading, trailing]) (hdirective : isDirective hook.name = true)
    {rest : List Char} {tags : List Markup} (hrest : Scans isDirective rest tags) :
    Scans isDirective (hook.call.toList ++ rest) (hook.tag :: tags) := by
  obtain ⟨hkey, hverbatim⟩ := isKey_name h
  have hcontent : Markup.content? (' ' :: ('%' :: '\x7d' :: rest)) = some ([' '], false, rest) := by
    have hclosing := Markup.content?_closingText false rest
    rw [Markup.content?_cons rfl rfl]
    exact congrArg (Option.map _) hclosing
  have hread : Markup.read? (hook.call.toList ++ rest) = some (hook.tag, rest) := by
    refine Markup.read?_eq_some.2 ⟨hkey, [' '], _, by simp [Text.isPlainSpace], ?_, ?_, hcontent⟩
    · rw [toList_call]
      simp [tag, Markup.opening]
    · exact Text.stops_cons.2 (by decide)
  refine .directive hread hverbatim ?_ hrest
  rw [tag, String.ofList_toList]
  exact hdirective

/-- No quote stands in a call. -/
theorem barrier_call (h : hook ∈ [leading, trailing]) : Barrier hook.call.toList := by
  refine ⟨⟨_, hook.toList_call⟩, ?_⟩
  rcases List.mem_pair.1 h with rfl | rfl <;> simp [toList_call, IsQuote, leading, trailing]

/-- A line break is passed by. -/
theorem scans_break {s : List Char} {tags : List Markup} (h : Scans isDirective s tags) :
    Scans isDirective ('\n' :: s) tags :=
  .plain (isPlain_of_ne fun t heq => absurd (List.cons.inj heq).1 (by decide)) h

/-- The call that is written before `body` is not taken for one of the other hook. -/
theorem isInserted_trailing_append (options : Options ω) (body : String) :
    trailing.isInserted options (leading.call ++ "\n" ++ body) =
      trailing.isInserted options body := by
  have hcalled : trailing.isCalled (leading.call.toList ++ '\n' :: body.toList) =
      trailing.isCalled body.toList := rfl
  have htext : (leading.call ++ "\n" ++ body).toList =
      leading.call.toList ++ '\n' :: body.toList := by simp
  rw [isInserted, htext, hcalled, isInserted]

/-- The new text: what is written before `body`, the body, and what is written behind it. -/
theorem toList_insertCalls (options : Options ω) (body : String) :
    (insertCalls options.immediate.has body).toList =
      (if leading.isInserted options body then leading.call.toList ++ ['\n'] else []) ++
        (body.toList ++
          if trailing.isInserted options body then '\n' :: trailing.call.toList else []) := by
  -- The second call depends on a search through the text that has the first one already.
  have hinsert : ∀ wrapped, wrapped =
      (if leading.isInserted options body then leading.call ++ "\n" ++ body else body) →
        insertCalls options.immediate.has body =
          if trailing.isInserted options wrapped then wrapped ++ "\n" ++ trailing.call
          else wrapped := by
    rintro _ rfl
    rfl
  cases hleading : leading.isInserted options body with
  | true =>
    rw [hinsert (leading.call ++ "\n" ++ body) (by rw [hleading, if_pos rfl]),
      isInserted_trailing_append]
    cases trailing.isInserted options body <;> simp
  | false =>
    rw [hinsert body (by rw [hleading, if_neg Bool.false_ne_true])]
    cases trailing.isInserted options body <;> simp

/-- What is written before a text adds its tag in front of the `tags` of the text. -/
theorem scans_leading (options : Options ω) (body : String) {s : List Char} {tags : List Markup}
    (h : Scans (Registry.ofOptions options).has s tags) :
    Scans (Registry.ofOptions options).has
      ((if leading.isInserted options body then leading.call.toList ++ ['\n'] else []) ++ s)
      ((if leading.isInserted options body then [leading.tag] else []) ++ tags) := by
  cases hinserted : leading.isInserted options body with
  | false => exact h
  | true =>
    have hdirective := Registry.has_ofOptions (Bool.and_eq_true_iff.1 hinserted).1
    have hcall := scans_call (.head _) hdirective (scans_break h)
    simpa using hcall

/-- What is written behind a text that leaves no block open adds its tag behind the `tags` of the
text, if none of these is malformed. -/
theorem scans_trailing (options : Options ω) (body : String) {s : List Char} {tags : List Markup}
    (h : Scans (Registry.ofOptions options).has s tags)
    (hclosed : trailing.isInserted options body = true →
      ¬ LeavesOpen (Registry.ofOptions options).has s)
    (hwell : ∀ all, Scans (Registry.ofOptions options).has (s ++
      if trailing.isInserted options body then '\n' :: trailing.call.toList else []) all →
        ∀ tag ∈ all, tag.malformed? = none) :
    Scans (Registry.ofOptions options).has
      (s ++ if trailing.isInserted options body then '\n' :: trailing.call.toList else [])
      (tags ++ if trailing.isInserted options body then [trailing.tag] else []) := by
  cases hinserted : trailing.isInserted options body with
  | false => simpa using h
  | true =>
    have hmem : trailing ∈ [leading, trailing] := .tail _ (.head _)
    have hdirective := Registry.has_ofOptions (Bool.and_eq_true_iff.1 hinserted).1
    have hline := scans_break (scans_call hmem hdirective .finished)
    rw [List.append_nil] at hline
    rw [hinserted] at hwell
    exact h.append_line (barrier_call hmem) hline (hclosed hinserted) hwell

/-- A `hook` is called as often as the body calls it, and once more if a call is written around the
body. -/
theorem count_withCalls (own : List String) (hhook : hook ∈ [leading, trailing]) :
    (withCalls options body own).count hook.name =
      own.count hook.name + if hook.isInserted options body then 1 else 0 := by
  have hother : (leading.name == trailing.name) = false := by decide
  have hother' : (trailing.name == leading.name) = false := by decide
  rw [withCalls, List.count_append, List.count_append]
  rcases List.mem_pair.1 hhook with rfl | rfl
  · cases leading.isInserted options body <;> cases trailing.isInserted options body <;>
      simp [List.count_cons, hother', Nat.add_comm]
  · cases leading.isInserted options body <;> cases trailing.isInserted options body <;>
      simp [List.count_cons, hother]

/-- With calls around the directives of `body` the hooks are kept. -/
theorem kept_withCalls (options : Options ω) (body : String) (own : List String) :
    Kept options body own (withCalls options body own) where
  around := rfl
  called hook hhook hdefined := by
    rw [← List.count_pos_iff, count_withCalls own hhook, isInserted, hdefined,
      ← List.count_pos_iff]
    cases hook.isCalled body.toList <;> simp
  once hook hhook hdefined hcalled hown := by
    rw [count_withCalls own hhook, isInserted, hdefined, hcalled, List.count_eq_zero.2 hown]
    rfl

end Calls

/-- If `body` leaves no block open, the directives of the new text are those of the body between the
calls around it. So every hook that the caller defines is called, unless the body only seems to call
it, and it is called once if the body does not call it. -/
theorem kept_of_extract (options : Options ω) (body : String) {extraction : Extraction}
    (hclosed : trailing.isInserted options body = true →
      ¬ LeavesOpen (Registry.ofOptions options).has body.toList)
    (hextract : extract (Registry.ofOptions options).has
      (insertCalls options.immediate.has body) = .ok extraction) :
    ∃ original, extract (Registry.ofOptions options).has body = .ok original ∧
      Kept options body (original.occurrences.map Occurrence.name)
        (extraction.occurrences.map Occurrence.name) := by
  have htext := toList_insertCalls options body
  have hwell : ∀ all, Scans (Registry.ofOptions options).has (body.toList ++
      if trailing.isInserted options body then '\n' :: trailing.call.toList else []) all →
        ∀ tag ∈ all, tag.malformed? = none := by
    intro all hall tag htag
    have hwhole := scans_leading options body hall
    rw [← htext] at hwhole
    exact (exists_extract_iff hwhole).1 ⟨extraction, hextract⟩ tag (List.mem_append_right _ htag)
  -- The scan of the new text is put together from inside: the body, what is behind it, what is
  -- before it. Its tags are known to be well formed, so those of the body are too.
  obtain ⟨tags, hscans⟩ := exists_scans (Registry.ofOptions options).has body.toList
  have hbehind := scans_trailing options body hscans hclosed hwell
  have hwhole := scans_leading options body hbehind
  rw [← htext] at hwhole
  obtain ⟨original, horiginal⟩ := (exists_extract_iff hscans).2 fun tag htag =>
    hwell _ hbehind tag (List.mem_append_left _ htag)
  have haround : extraction.occurrences.map Occurrence.name =
      withCalls options body (original.occurrences.map Occurrence.name) := by
    rw [map_name_of_extract hwhole hextract, map_name_of_extract hscans horiginal, withCalls]
    cases leading.isInserted options body <;> cases trailing.isInserted options body <;>
      simp [tag]
  refine ⟨original, horiginal, ?_⟩
  rw [haround]
  exact kept_withCalls options body _

/-- Options with both hooks, which do nothing. -/
def hooked : Options Unit :=
  ⟨[], [(leading.name, fun call => return call.answer none),
    (trailing.name, fun call => return call.answer none)], none⟩

/-- A body that calls one hook itself and has a tag that is only named like the other one. -/
def introducedBody : String :=
  "{%- inputMock -%}\nWrite.{% mockery %}"

/-- In `introducedBody` both hooks are called once. -/
theorem kept_of_extract_introduced :
    (trailing.isInserted hooked introducedBody = true →
        ¬ LeavesOpen (Registry.ofOptions hooked).has introducedBody.toList) ∧
      ∃ extraction original, extract (Registry.ofOptions hooked).has
          (insertCalls hooked.immediate.has introducedBody) = .ok extraction ∧
        extract (Registry.ofOptions hooked).has introducedBody = .ok original ∧
        Kept hooked introducedBody (original.occurrences.map Occurrence.name)
          (extraction.occurrences.map Occurrence.name) ∧
        extraction.occurrences.map Occurrence.name = [leading.name, trailing.name] := by
  have hclosed : ¬ LeavesOpen (Registry.ofOptions hooked).has introducedBody.toList := by
    refine not_leavesOpen_of_unnamed fun name hverbatim => ?_
    rcases eq_of_isVerbatim hverbatim with rfl | rfl <;> decide +kernel
  have hextract : extract (Registry.ofOptions hooked).has
      (insertCalls hooked.immediate.has introducedBody) =
        .ok ⟨"{%- inputMock 0 -%}\nWrite.{% mockery %}\n{% mock 1 %}".toList,
          [⟨"inputMock", []⟩, ⟨"mock", []⟩]⟩ := by
    decide +kernel
  obtain ⟨original, horiginal, hkept⟩ :=
    kept_of_extract hooked introducedBody (fun _ => hclosed) hextract
  exact ⟨fun _ => hclosed, _, original, hextract, horiginal, hkept, rfl⟩

/-- The `hook` is lost in `body`: the caller defines it, but it is not among the directives that are
extracted. -/
def Loses (hook : Hook) (body : String) : Prop :=
  ∃ extraction ∈ (extract (Registry.ofOptions hooked).has
      (insertCalls hooked.immediate.has body)).toOption,
    hook.name ∉ extraction.occurrences.map Occurrence.name

instance (hook : Hook) (body : String) : Decidable (hook.Loses body) :=
  inferInstanceAs (Decidable (∃ _ ∈ Except.toOption _, _))

/-- A hook is lost if it is only named in a raw block or a comment, with the hyphen of the tag right
behind its name, or in another letter case. The one behind the body is lost if a block is left open
or its tag is unfinished. -/
theorem loses_of_mention_or_open_block :
    trailing.Loses "{% raw %}{% mock %}{% endraw %}" ∧
      leading.Loses "{% comment %}{% inputMock %}{% endcomment %}Write." ∧
      trailing.Loses "{% mock-%}" ∧
      leading.Loses "{% INPUTMOCK %}" ∧
      trailing.Loses "Write.{% comment %}Draft" ∧
      trailing.Loses "Write.\x7b% raw" := by
  decide +kernel

end Hook

end Promptbook
