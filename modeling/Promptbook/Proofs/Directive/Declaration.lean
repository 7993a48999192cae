import Promptbook.Directive.Builtin.Field
import Promptbook.Proofs.Directive.InPlace
import Promptbook.Proofs.Directive.Received

/-!
# What a Declaration of Fields Leaves

The arguments of a declaration are gone through one after the other. Each of them writes an output
and an entry among the recorded fields, and none disturbs what another one has written, for their
names differ. The positions of the fields are counted from the position that the declaration starts
with. At the end it is set back, so within a rendering every declaration starts from the front.

## Main definitions

* `FieldSpec.Gives`: the value of a field, case by case.
* `FieldSpec.Proposes`, `FieldSpec.HasKind`: the default and the kind that are recorded.
* `FieldSpec.Describes`: the entry of a field among the recorded fields.
* `Builtin.Establishes`: what outputs become when fields are declared one after the other.

## Main results

* `Builtin.declareAll_establishes`: going through arguments that all specify fields.
* `Prepared.fieldIndex_of_asks`: wherever a rendering comes to a declaration, it starts from the
  front.
* `Builtin.field_establishes`: what a declaration of fields leaves, and that in every rendering it
  starts from the front.
-/

namespace Promptbook

open Template (Dialogue Ending Question)

variable {ω : Type}

namespace Builtin

namespace FieldSpec

/-- The field of `spec` has this `value` if the `input` under its name is as given. -/
structure Gives (spec : FieldSpec) (input : Option Value) (value : Value) : Prop where
  /-- An input that is not null is the value. -/
  given : ∀ v, input = some v → v ≠ .null → value = v
  /-- If there is none, the value is the declared default, unless this is null. -/
  declared : (∀ v, input = some v → v = .null) →
    ∀ v, spec.default = some v → v ≠ .null → value = v
  /-- Without both the value is the empty text. -/
  empty : (∀ v, input = some v → v = .null) → (∀ v, spec.default = some v → v = .null) →
    value = .string ""

/-- For a field of `spec`, this `value` is recorded as its default. -/
structure Proposes (spec : FieldSpec) (value : Value) : Prop where
  /-- A default that counts as true gives way to the first option. -/
  chosen : ∀ first rest, spec.options = some (first :: rest) →
    (spec.default.getD (.string "")).isTruthy = true → value = .string first.text
  /-- Without options the default stays. -/
  free : spec.options.getD [] = [] → value = spec.default.getD (.string "")
  /-- A default that does not count as true stays too. -/
  idle : (spec.default.getD (.string "")).isTruthy = false →
    value = spec.default.getD (.string "")

/-- A default of this value is a number other than zero. -/
def Counts : Value → Prop
  | .int n => n ≠ 0
  | .double x => (x != 0) = true
  | _ => False

/-- A default of this value is a text of several lines. -/
def Spans : Value → Prop
  | .string text => '\n' ∈ text.toList
  | _ => False

/-- For a field of `spec`, this `kind` of input is recorded. -/
structure HasKind (spec : FieldSpec) (kind : String) : Prop where
  /-- A declared kind is the one that is recorded. -/
  declared : ∀ name, spec.kind = some name → kind = name
  /-- If none is declared but there are options, one of them is selected. -/
  select : spec.kind = none → spec.options.getD [] ≠ [] → kind = "select"
  /-- Otherwise a number other than zero as default asks for a number. -/
  number : spec.kind = none → spec.options.getD [] = [] →
    ∀ v, spec.default = some v → Counts v → kind = "number"
  /-- A text of several lines as default asks for such a text. -/
  textarea : spec.kind = none → spec.options.getD [] = [] →
    ∀ v, spec.default = some v → Spans v → kind = "textarea"
  /-- Everything else asks for a text. -/
  text : spec.kind = none → spec.options.getD [] = [] →
    (∀ v, spec.default = some v → ¬ Counts v ∧ ¬ Spans v) → kind = "text"

/-- What `entry` says of the field `key` with the position `order` is what `spec` specifies. -/
def Describes (spec : FieldSpec) (key : String) (order : Nat) (entry : Value) : Prop :=
  ∃ default kind, spec.Proposes default ∧ spec.HasKind kind ∧
    entry = .object [
      ("default", default),
      ("key", .string key),
      ("label", .string (spec.label.getD key)),
      ("options", .array ((spec.options.getD []).map fun option => .string option.text)),
      ("order", .int order),
      ("type", .string kind)]

/-- The value of a field is the one that its specification gives for the `input`. -/
theorem gives_value (spec : FieldSpec) (input : Option Value) :
    spec.Gives input (spec.value input) := by
  have hnull : ∀ {found : Option Value}, (∀ v, found = some v → v = .null) →
      found.bind Value.nonNull? = none := by
    intro found hfound
    cases found with
    | none => rfl
    | some v => rw [hfound v rfl]; rfl
  constructor
  case given =>
    intro v hinput hne
    rw [value, hinput, Option.bind_some, Value.nonNull?_of_ne hne]
    rfl
  case declared =>
    intro hinput v hdefault hne
    rw [value, hnull hinput, hdefault, Option.bind_some, Value.nonNull?_of_ne hne]
    rfl
  case empty =>
    intro hinput hdefault
    rw [value, hnull hinput, hnull hdefault]
    rfl

/-- The recorded default is the one that `spec` proposes. -/
theorem proposes_recordedDefault (spec : FieldSpec) : spec.Proposes spec.recordedDefault := by
  constructor
  case chosen =>
    intro first rest hoptions htruthy
    simp only [recordedDefault, htruthy, choices, hoptions, Option.getD_some, List.map_cons,
      List.head?_cons]
  case free =>
    intro hoptions
    simp only [recordedDefault, choices, hoptions, List.map_nil, List.head?_nil]
    split
    · next heq => cases heq
    · rfl
  case idle =>
    intro htruthy
    simp only [recordedDefault, htruthy]

/-- Where `options` are missing or empty, there is nothing to select from. -/
theorem not_any_of_getD_nil {options : Option (List Value)} (h : options.getD [] = []) :
    ¬ options.any (!·.isEmpty) = true := by
  cases options with
  | none => exact Bool.false_ne_true
  | some items =>
    rw [Option.getD_some] at h
    rw [h]
    exact Bool.false_ne_true

/-- The recorded kind is the declared one, or else the one that fits options and default. -/
theorem hasKind_getD (spec : FieldSpec) : spec.HasKind (spec.kind.getD spec.detectedKind) := by
  constructor
  case declared =>
    intro name hkind
    rw [hkind, Option.getD_some]
  -- Options that are not empty win over the default.
  case select =>
    intro hkind hoptions
    cases h : spec.options with
    | none => rw [h] at hoptions; exact absurd rfl hoptions
    | some items =>
      cases items with
      | nil => rw [h] at hoptions; exact absurd rfl hoptions
      | cons first rest => rw [hkind, Option.getD_none, detectedKind, h]; rfl
  case number =>
    intro hkind hoptions v hdefault hcounts
    rw [hkind, Option.getD_none, detectedKind, if_neg (not_any_of_getD_nil hoptions), hdefault]
    cases v with
    | int n => exact if_pos (bne_iff_ne.2 hcounts)
    | double x => exact if_pos hcounts
    | null | bool | string | array | object => exact hcounts.elim
  -- Nothing else fits: the default is none of what the two cases before take.
  case textarea =>
    intro hkind hoptions v hdefault hspans
    rw [hkind, Option.getD_none, detectedKind, if_neg (not_any_of_getD_nil hoptions), hdefault]
    cases v with
    | string s => exact if_pos (List.contains_iff_mem.2 hspans)
    | null | bool | int | double | array | object => exact hspans.elim
  case text =>
    intro hkind hoptions hneither
    rw [hkind, Option.getD_none, detectedKind, if_neg (not_any_of_getD_nil hoptions)]
    cases hdefault : spec.default with
    | none => rfl
    | some v =>
      obtain ⟨hcounts, hspans⟩ := hneither v hdefault
      cases v with
      | int n => exact if_neg fun h => hcounts (bne_iff_ne.1 h)
      | double x => exact if_neg hcounts
      | string s => exact if_neg fun h => hspans (List.contains_iff_mem.1 h)
      | null | bool | array | object => rfl

/-- The record of a field describes it. -/
theorem describes_record (spec : FieldSpec) (key : String) (order : Nat) :
    spec.Describes key order (spec.record key order) := by
  refine ⟨_, _, spec.proposes_recordedDefault, spec.hasKind_getD, ?_⟩
  rw [record, choices, List.map_map]
  rfl

end FieldSpec

section Declare

variable {inputs outputs : Variables} {key : String} {spec : FieldSpec} {order : Nat}

/-- After its declaration, the field `key` has its value. -/
theorem value?_declare_self (hkey : key ≠ Reserved.promptFields) :
    (declare inputs outputs key spec order).value? key = some (spec.value (inputs.value? key)) := by
  rw [declare, Fields.value?_put, if_neg hkey.symm, Fields.value?_put, if_pos rfl]

/-- Other outputs than the field `key` and the recorded fields stay. -/
theorem value?_declare_of_ne {name : String} (hkey : name ≠ key)
    (hname : name ≠ Reserved.promptFields) :
    (declare inputs outputs key spec order).value? name = outputs.value? name := by
  rw [declare, Fields.value?_put, if_neg hname.symm, Fields.value?_put, if_neg hkey.symm]

/-- After a declaration the recorded fields are an object: the one from before with an entry for
`key`. -/
theorem value?_declare_promptFields (hkey : key ≠ Reserved.promptFields) :
    (declare inputs outputs key spec order).value? Reserved.promptFields =
      some (.object ((recordedFields outputs).put key (spec.record key order))) := by
  have hkept : recordedFields (outputs.put key (spec.value (inputs.value? key))) =
      recordedFields outputs := by
    rw [recordedFields, Fields.value?_put, if_neg hkey, recordedFields]
  rw [declare, Fields.value?_put, if_pos rfl, hkept]

theorem recordedFields_declare (hkey : key ≠ Reserved.promptFields) :
    recordedFields (declare inputs outputs key spec order) =
      (recordedFields outputs).put key (spec.record key order) := by
  rw [recordedFields, value?_declare_promptFields hkey]

end Declare

/-- What outputs become from `before` to `after` when the fields of `arguments` with the
specifications `specs` are declared one after the other, the first one at the position `order`. -/
structure Establishes (inputs before : Variables) (order : Nat) (arguments : Arguments)
    (specs : List FieldSpec) (after : Variables) : Prop where
  /-- Every field has the value that its specification gives for the input under its name. -/
  value : ∀ (j : Nat) key argument (spec : FieldSpec),
    arguments[j]? = some (key, argument) → specs[j]? = some spec →
    ∃ v, after.value? key = some v ∧ spec.Gives (inputs.value? key) v
  /-- Every field has an entry among the recorded fields, with its position. -/
  recorded : ∀ (j : Nat) key argument (spec : FieldSpec),
    arguments[j]? = some (key, argument) → specs[j]? = some spec →
    ∃ entry, (recordedFields after).value? key = some entry ∧ spec.Describes key (order + j) entry
  /-- Every output that is neither a field of the arguments nor the recorded fields stays. -/
  others : ∀ name, name ∉ arguments.map Prod.fst → name ≠ Reserved.promptFields →
    after.value? name = before.value? name
  /-- Every other entry of the recorded fields stays. If the output was no object, there is none. -/
  otherEntries : ∀ name, name ∉ arguments.map Prod.fst →
    (recordedFields after).value? name = (recordedFields before).value? name
  /-- The recorded fields are an object, whatever the output was before. -/
  object : arguments ≠ [] →
    after.value? Reserved.promptFields = some (.object (recordedFields after))
  /-- Without arguments nothing changes. -/
  nothing : arguments = [] → after = before

/-- Declaring the field `key` in front of others establishes all of them. The others do not disturb
it, for they have other names. -/
theorem Establishes.cons {inputs before after : Variables} {order : Nat} {key : String}
    {argument : Value} {rest : Arguments} {spec : FieldSpec} {specs : List FieldSpec}
    (hkey : key ≠ Reserved.promptFields) (hfresh : key ∉ rest.map Prod.fst)
    (h : Establishes inputs (declare inputs before key spec order) (order + 1) rest specs after) :
    Establishes inputs before order ((key, argument) :: rest) (spec :: specs) after := by
  -- The later fields are declared behind this one. As they have other names, `others` and
  -- `otherEntries` carry what is said of `key` over to `after`.
  constructor
  case value =>
    intro j name argument' spec' hargument hspec
    cases j with
    | zero =>
      cases hargument
      cases hspec
      refine ⟨_, ?_, spec.gives_value _⟩
      rw [h.others key hfresh hkey, value?_declare_self hkey]
    | succ j => exact h.value j name argument' spec' hargument hspec
  case recorded =>
    intro j name argument' spec' hargument hspec
    cases j with
    | zero =>
      cases hargument
      cases hspec
      refine ⟨_, ?_, spec.describes_record _ _⟩
      rw [h.otherEntries key hfresh, recordedFields_declare hkey, Fields.value?_put, if_pos rfl,
        Nat.add_zero]
    | succ j =>
      rw [← Nat.succ_add_eq_add_succ]
      exact h.recorded j name argument' spec' hargument hspec
  case others =>
    intro name hname hreserved
    obtain ⟨hne, hrest⟩ := List.ne_and_not_mem_of_not_mem_cons hname
    rw [h.others name hrest hreserved, value?_declare_of_ne hne hreserved]
  case otherEntries =>
    intro name hname
    obtain ⟨hne, hrest⟩ := List.ne_and_not_mem_of_not_mem_cons hname
    rw [h.otherEntries name hrest, recordedFields_declare hkey, Fields.value?_put,
      if_neg (Ne.symm hne)]
  case object =>
    intro _
    cases rest with
    | nil =>
      rw [h.nothing rfl, value?_declare_promptFields hkey, recordedFields_declare hkey]
    | cons entry rest => exact h.object (List.cons_ne_nil _ _)
  case nothing => exact nofun

/-- Going through `arguments` that all specify fields establishes these and sets the position
back. -/
theorem declareAll_establishes (inputs before : Variables) (order : Nat) {arguments : Arguments}
    {specs : List FieldSpec}
    (hspecs : List.Forall₂ (fun argument spec =>
      FieldSpec.ofArgument argument.1 argument.2 = .ok spec) arguments specs)
    (hdistinct : (arguments.map Prod.fst).Nodup)
    (hreserved : Reserved.promptFields ∉ arguments.map Prod.fst) :
    ∃ after, declareAll inputs before order arguments = ⟨after, 0, .ok none⟩ ∧
      Establishes inputs before order arguments specs after := by
  induction hspecs generalizing before order with
  | nil => exact ⟨before, rfl, nofun, nofun, fun _ _ _ => rfl, fun _ _ => rfl, nofun, fun _ => rfl⟩
  | @cons entry spec rest specs hspec _ ih =>
    obtain ⟨key, argument⟩ := entry
    obtain ⟨hfresh, hdistinct⟩ := List.nodup_cons.1 hdistinct
    obtain ⟨hkey, hreserved⟩ := List.ne_and_not_mem_of_not_mem_cons hreserved
    obtain ⟨after, hafter, hestablishes⟩ :=
      ih (declare inputs before key spec order) (order + 1) hdistinct hreserved
    refine ⟨after, ?_, hestablishes.cons hkey.symm hfresh⟩
    rw [declareAll, hspec]
    exact hafter

/-- A declaration that comes back has set the position of the next field back. -/
theorem fieldIndex_declareAll {inputs outputs : Variables} {order : Nat} {arguments : Arguments}
    {text : Option String}
    (h : (declareAll inputs outputs order arguments).result = .ok text) :
    (declareAll inputs outputs order arguments).fieldIndex = 0 := by
  induction arguments generalizing outputs order with
  | nil => rfl
  | cons entry rest ih =>
    obtain ⟨key, v⟩ := entry
    unfold declareAll at h ⊢
    cases hspec : FieldSpec.ofArgument key v with
    | error e =>
      rw [hspec] at h
      cases h
    | ok spec =>
      rw [hspec] at h
      exact ih h

end Builtin

/-- In the state `pass`, every declaration of fields starts from the front. -/
def Prepared.Restarts (prepared : Prepared ω) (pass : Pass ω) : Prop :=
  ∀ (id : Nat) (o : Occurrence), prepared.directives[id]? = some (o, Builtin.field) →
    pass.fieldIndexes.getD id 0 = 0

namespace Prepared

variable {prepared : Prepared ω} {step : String} {inputs : Variables} {answers : Answers}

/-- A call that comes back leaves a state in which declarations start from the front, if it has met
one. -/
theorem restarts_of_invoke {id : Nat} {scope : Path → Option Value} {pass after : Pass ω}
    {answer : Option String × Variables} (hpass : prepared.Restarts pass)
    (hcall : (Pass.invoke prepared step inputs answers id scope).run pass = .ok answer after) :
    prepared.Restarts after := by
  intro other o hother
  have hinvokes := Pass.invokes prepared step inputs answers id scope pass
  rw [hcall] at hinvokes
  cases hinvokes with
  | nothing hnone => exact hpass other o hother
  | ran hsome himmediate hreply htext =>
    simp only [Pass.received, Std.HashMap.getD_insert, beq_iff_eq]
    split
    · next heq =>
      -- The call was one of the declaration itself, which has come back.
      subst heq
      cases hsome.symm.trans hother
      cases hreply
      exact Builtin.fieldIndex_declareAll htext
    · exact hpass other o hother
  | replayed hsome hawaited hkept harguments =>
    simp only [Pass.answered, Std.HashMap.getD_insert, beq_iff_eq]
    split
    · next heq =>
      -- A declaration is not awaited, so no reply of it is ever kept.
      subst heq
      cases hsome.symm.trans hother
      cases hawaited
    · exact hpass other o hother

/-- Wherever a rendering comes to a declaration of fields, this starts from the front. -/
theorem fieldIndex_of_asks {world : ω} {question : Question (Pass ω)}
    (hasks : prepared.Asks step inputs answers world question) {o : Occurrence}
    (hsome : prepared.directives[question.id]? = some (o, Builtin.field)) :
    question.host.fieldIndexes.getD question.id 0 = 0 := by
  obtain ⟨rounds, answers', start, -, hquestion⟩ := hasks
  obtain ⟨d, hd⟩ := prepared.exists_dialogue
  rw [hd.questions_eq] at hquestion
  have hrestarts := Dialogue.host_of_mem_questions prepared.Restarts
    (fun _ _ _ _ _ hbefore hcall => restarts_of_invoke hbefore hcall)
    (fun _ _ _ => Std.HashMap.getD_empty) question hquestion
  exact hrestarts _ o hsome

end Prepared

namespace Builtin

/-- A `call` of the directive that declares fields whose arguments all specify fields, under
distinct names, establishes these fields, in order from the position that it starts with, and sets
the position back. So every such call that a rendering makes starts from the front. -/
theorem field_establishes (call : Call) (world : ω) (specs : List FieldSpec)
    (hspecs : List.Forall₂ (fun argument spec =>
      FieldSpec.ofArgument argument.1 argument.2 = .ok spec) call.arguments specs)
    (hdistinct : (call.arguments.map Prod.fst).Nodup)
    (hreserved : Reserved.promptFields ∉ call.arguments.map Prod.fst) :
    (∃ after, (field : Directive ω).run call world = (⟨after, 0, .ok none⟩, world) ∧
      Establishes call.context.inputs call.context.outputs call.fieldIndex call.arguments specs
        after) ∧
    ∀ (registry : Registry ω) (step : String) (inputs : Variables) (body : String) (start : ω),
      ∀ entry ∈ callsMade registry step inputs body start,
        Fields.value? registry entry.call.name = some field →
        entry.call.fieldIndex = 0 := by
  constructor
  · obtain ⟨after, hafter, hestablishes⟩ :=
      declareAll_establishes call.context.inputs call.context.outputs call.fieldIndex hspecs
        hdistinct hreserved
    refine ⟨after, ?_, hestablishes⟩
    rw [← hafter]
    rfl
  · intro registry step inputs body start entry hentry hfield
    obtain ⟨prepared, question, o, directive, hprepare, hasks, hsome, rfl, -⟩ :=
      receivesPaths_of_mem_callsMade registry step inputs body start entry hentry
    -- The directive of the call is the one that is registered under its name.
    have hdirective := Prepared.directive_of_prepare hprepare hsome
    cases hdirective.symm.trans hfield
    exact Prepared.fieldIndex_of_asks hasks hsome

/-- A declaration of `topic` and `size`, where the recorded fields have been overwritten with a text
and two fields have been counted before. -/
def declaringCall : Call where
  name := "field"
  context := ⟨"PROMPT", [("size", .int 3)], [(Reserved.promptFields, .string "none")]⟩
  arguments := [
    ("topic", .string "\x7b default: 'first\nsecond', label: 'Topic' \x7d"),
    ("size", .string "\x7b default: 's', options: ['s', 'm'] \x7d")]
  fieldIndex := 2

/-- The specifications of `topic` and `size`. -/
def declaredSpecs : List FieldSpec :=
  [⟨some (.string "first\nsecond"), some "Topic", none, none⟩,
    ⟨some (.string "s"), none, some [.string "s", .string "m"], none⟩]

/-- The field `topic` gets the position 2, and `size`, which is an input, the position 3. -/
theorem field_establishes_declaringCall :
    ∃ after, (field : Directive Unit).run declaringCall () =
        (⟨after, 0, .ok none⟩, ()) ∧
      Establishes [("size", .int 3)] [(Reserved.promptFields, .string "none")] 2
        declaringCall.arguments declaredSpecs after := by
  have hspecs : List.Forall₂ (fun argument spec =>
      FieldSpec.ofArgument argument.1 argument.2 = .ok spec) declaringCall.arguments
        declaredSpecs :=
    .cons (by decide +kernel) (.cons (by decide +kernel) .nil)
  exact (field_establishes (ω := Unit) declaringCall () declaredSpecs hspecs (by decide)
    (by decide)).1

end Builtin

end Promptbook
