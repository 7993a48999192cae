import Promptbook.Directive.Grammar

/-!
# References in Arguments

An argument whose text is a single reference in double braces stands for the value of a variable.
-/

namespace Promptbook

/-- The text between double braces, if `text` begins and ends with them. It is not empty, and a line
feed may stand only in the white space at its ends. -/
def referenced? (text : String) : Option String :=
  match text.toList with
  | '\x7b' :: '\x7b' :: s =>
    match s.reverse with
    | '\x7d' :: '\x7d' :: backwards =>
      let inner := backwards.reverse
      let core := Text.trimSpace inner
      if core.isEmpty then if inner.any (· != '\n') then some "" else none
      else if core.contains '\n' then none
      else some (String.ofList core)
    | _ => none
  | _ => none

/-- The value that `v` stands for in `scope`. A reference stands for the value of the path between
its braces, or for the empty text if there is no path between them or it leads to nothing or to
null. Every other value stands for itself. -/
def Value.dereference (scope : String → Option Value) (v : Value) : Value :=
  match v with
  | .string text =>
    match referenced? text with
    | none => v
    | some inner =>
      (((Path.parse? inner).bind fun path => path.find? scope).bind Value.nonNull?).getD
        (.string "")
  | _ => v

/-- The arguments with every reference replaced by the value that it stands for; `outputs` hide
`inputs` of the same name. -/
def Arguments.resolve (arguments : Arguments) (outputs inputs : Variables) : Arguments :=
  Arguments.collect (arguments.map fun entry =>
    (entry.1, entry.2.dereference (layered outputs inputs)))

/-- Resolving replaces the value of every argument `key` by what it stands for. -/
theorem Arguments.value?_resolve {arguments : Arguments} (h : (arguments.map Prod.fst).Nodup)
    (outputs inputs : Variables) (key : String) :
    (arguments.resolve outputs inputs).value? key =
      (arguments.value? key).map (Value.dereference (layered outputs inputs)) := by
  have hnames : ((arguments.map fun entry =>
      (entry.1, entry.2.dereference (layered outputs inputs))).map Prod.fst) =
        arguments.map Prod.fst := by
    rw [List.map_map]
    rfl
  rw [resolve, collect_of_nodup (hnames ▸ h), value?_mapValues]

/-- A value `v` that is no reference stands for itself. -/
theorem Value.dereference_of_not_referenced (scope : String → Option Value) {v : Value}
    (h : ∀ text, v = .string text → referenced? text = none) : v.dereference scope = v := by
  unfold dereference
  split
  · next text => rw [h text rfl]
  · rfl

/-- A `text` that is a reference stands for the value of the path that it names. -/
theorem Value.dereference_of_referenced (scope : String → Option Value) {text inner : String}
    (h : referenced? text = some inner) :
    (Value.string text).dereference scope =
      (((Path.parse? inner).bind fun path => path.find? scope).bind Value.nonNull?).getD
        (.string "") := by
  unfold dereference
  simp only [h]

end Promptbook
