import Promptbook.Command.Assignment
import Promptbook.Proofs.Json.RoundTrip
import Promptbook.Proofs.Text.Trimming

/-!
# Assignments Read Back

An assignment is cut at its first equality sign. What stands behind it is a value if it is a JSON
text that can be read, else a text. So a value that is written as JSON comes back as the same value,
and a text comes back as it is unless it happens to be a JSON text.

## Main results

* `Assignment.read_append`: where an assignment is cut.
* `Assignment.value_text`, `Assignment.value_of_not_isText`: what stands behind the sign.
* `Assignment.read_written`: both together.
-/

namespace Promptbook.Assignment

variable {name : String}

/-- A `name` that is not blank and has no equality sign is the name of an assignment, whatever
`text` stands behind the sign. -/
theorem read_append (hname : Text.isBlank name.toList = false) (hsplit : '=' ∉ name.toList)
    (text : String) : read (name ++ "=" ++ text) = .ok (Text.trim name, value text) := by
  have hbreak : Text.breakAt? ['='] (name ++ "=" ++ text).toList =
      some (name.toList, text.toList) := by
    refine Text.breakAt?_singleton.2 ⟨?_, hsplit⟩
    simp
  have htrim : (Text.trimSpace name.toList).isEmpty = false := by
    rw [List.isEmpty_eq_false_iff]
    intro hnil
    -- Otherwise the name would be the white space around nothing.
    obtain ⟨a, b, ha, hb, hs⟩ := Text.exists_eq_append_trimSpace_append name.toList
    rw [hnil, List.nil_append] at hs
    rw [hs, Text.isBlank, List.all_append, ← Text.isBlank, ← Text.isBlank, ha, hb] at hname
    cases hname
  rw [read, hbreak]
  simp only [htrim, String.ofList_toList]
  rfl

/-- An exact value `v` that is neither absent nor a text is read back from its text. -/
theorem value_text {v : Value} (h : v.IsExact Json.maxDepth) (hnull : v ≠ .null)
    (hstring : ∀ s, v ≠ .string s) : value v.text = v := by
  have htext : v.text = Json.compact v := by
    cases v with
    | null => exact absurd rfl hnull
    | string s => exact absurd rfl (hstring s)
    | _ => rfl
  rw [value, htext, Json.read?_compact h, Option.getD_some]

/-- A text `s` that is no JSON text stands for itself. -/
theorem value_of_not_isText {s : String} (h : ¬ Json.IsText s.toList) : value s = .string s := by
  have hread : Json.read? s = none :=
    Option.eq_none_iff_forall_ne_some.2 fun _ hread => h (Json.isText_of_read? hread)
  rw [value, hread, Option.getD_none]

/-- Under a `name` that is not blank and has no equality sign, a value that is neither absent nor a
text is read back from its text if its numbers are whole ones of sixty-four bits and it nests at
most 127 deep, and a text that is no JSON text is read back as it is. The name is trimmed. -/
theorem read_written (hname : Text.isBlank name.toList = false) (hsplit : '=' ∉ name.toList) :
    (∀ v : Value, v.IsExact 127 → v ≠ .null → (∀ s, v ≠ .string s) →
      read (name ++ "=" ++ v.text) = .ok (Text.trim name, v)) ∧
    ∀ s : String, ¬ Json.IsText s.toList →
      read (name ++ "=" ++ s) = .ok (Text.trim name, .string s) := by
  constructor
  · intro v hv hnull hstring
    rw [read_append hname hsplit, value_text hv hnull hstring]
  · intro s hs
    rw [read_append hname hsplit, value_of_not_isText hs]

/-- The least number, quotes and equality signs are read back, and so is a text with white space and
an equality sign. -/
theorem read_written_mixed :
    let v : Value := .array [.int (-9223372036854775808), .object [("a=b", .string "\"\n=")]]
    Text.isBlank " x ".toList = false ∧ '=' ∉ " x ".toList ∧ v.IsExact 127 ∧
      read (" x " ++ "=" ++ v.text) = .ok (Text.trim " x ", v) ∧
      ¬ Json.IsText " a=b ".toList ∧
      read (" x " ++ "=" ++ " a=b ") = .ok (Text.trim " x ", .string " a=b ") := by
  intro v
  have hname : Text.isBlank " x ".toList = false := by decide
  have hsplit : '=' ∉ " x ".toList := by decide
  have hv : v.IsExact 127 := by
    have hobject : (Value.object [("a=b", .string "\"\n=")]).IsExact 126 :=
      .object (List.pairwise_singleton _ _) (List.forall_mem_singleton.2 (.string _))
    exact .array (List.forall_mem_cons.2
      ⟨.int (by decide) (by decide), List.forall_mem_singleton.2 hobject⟩)
  have hs : ¬ Json.IsText " a=b ".toList := fun h => by
    obtain ⟨c, hc, hbegins⟩ := h.begins
    cases hc
    cases hbegins
  obtain ⟨hvalue, htext⟩ := read_written hname hsplit
  exact ⟨hname, hsplit, hv, hvalue v hv nofun nofun, hs, htext _ hs⟩

end Promptbook.Assignment
