import Promptbook.Workflow.Marker

/-!
# Segments

A workflow is written as text with marker lines between its sections. Segmentation splits it into
the marker lines and the bodies between them; each body belongs to the marker before it.
-/

namespace Promptbook

/-- A part of a workflow's text. -/
inductive Segment where
  /-- A marker line that says `m`. -/
  | marker (m : Marker)
  /-- The `text` between two marker lines, with what the marker before it says if there is one. -/
  | body (instruction : Option Instruction) (label : String) (text : String)
  deriving DecidableEq, Inhabited

namespace Segment

/-- Whether a segment is a marker line. -/
def isMarker : Segment → Bool
  | marker _ => true
  | body .. => false

/-- The `lines` as a text, with a line break after each. -/
def joinLines (lines : List (List Char)) : List Char :=
  lines.flatMap (· ++ ['\n'])

/-- The body that `lines` make up behind the marker `active`. -/
def ofLines (active : Option Marker) (lines : List (List Char)) : Segment :=
  body (active.map Marker.instruction) ((active.map Marker.label).getD "")
    (String.ofList (Text.dropSpaceRight (joinLines lines)))

/-- Split lines into segments behind the marker `active`, where `pending` are the lines since that
marker, last first. Before a marker every line counts; at the end only a body with text in it
does. -/
def split (active : Option Marker) (pending : List (List Char)) :
    List (List Char) → List Segment
  | [] => if pending.all Text.isBlank then [] else [ofLines active pending.reverse]
  | line :: rest =>
    match Marker.read? line with
    | some m =>
      (if pending.isEmpty then [] else [ofLines active pending.reverse])
        ++ marker m :: split (some m) [] rest
    | none => split active (line :: pending) rest

/-- The segments of the text `source`. A text without segments is a single body. -/
def ofSource (source : String) : List Segment :=
  match split none [] (Text.lines source.toList) with
  | [] => [body none "" source]
  | segments => segments

/-- A segment as a value. -/
def toValue : Segment → Value
  | marker m =>
    .object [("instruction", m.instruction.toValue), ("kind", .string "marker"),
      ("label", .string m.label)]
  | body instruction label text =>
    .object [("instruction", (instruction.map Instruction.toValue).getD .null),
      ("kind", .string "body"), ("label", .string label), ("text", .string text)]

/-- The segment that a value describes. -/
def ofValue? (v : Value) : Option Segment := do
  match ← v.alternative? "kind" with
  | ("marker", record) =>
    match ← record.members? ["instruction", "label"] with
    | [some instruction, some label] =>
      return marker ⟨← Instruction.ofValue? instruction, ← label.string?⟩
    | _ => none
  | ("body", record) =>
    match ← record.members? ["instruction", "label", "text"] with
    | [instruction, some label, some text] =>
      return body (← Value.orAbsent? Instruction.ofValue? instruction) (← label.string?)
        (← text.string?)
    | _ => none
  | _ => none

end Segment

end Promptbook
