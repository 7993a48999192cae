import Promptbook.Json.Writer
import Promptbook.Run.Journey
import Promptbook.Text.Search
import Promptbook.Workflow.Plan

/-!
# Reports

How plans and runs are shown as text.
-/

namespace Promptbook

/-- Something that a command does to the outside. -/
inductive Emission where
  /-- It shows a text. -/
  | out (text : String)
  /-- It shows a text that is a warning. -/
  | err (text : String)
  /-- It waits for some milliseconds. -/
  | pause (milliseconds : Nat)
  deriving DecidableEq, Inhabited

namespace Emission

/-- Show a line. -/
def line (text : String) : Emission :=
  out (text ++ "\n")

/-- Show a line that is a warning. -/
def warning (text : String) : Emission :=
  err (text ++ "\n")

/-- The text that is shown. -/
def shown (emissions : List Emission) : String :=
  String.join (emissions.map fun e => match e with
    | out text => text
    | _ => "")

/-- The warnings that are shown. -/
def warned (emissions : List Emission) : String :=
  String.join (emissions.map fun e => match e with
    | err text => text
    | _ => "")

end Emission

namespace Report

/-- A line without the carriage return at its end. -/
def withoutReturn (line : List Char) : List Char :=
  match line.reverse with
  | '\r' :: rest => rest.reverse
  | _ => line

/-- The lines of a text; a line break at its end starts no line. -/
def lines (text : String) : List String :=
  let all := Text.lines text.toList
  let ended := all.dropLast.map withoutReturn
  let last := all.getLast?.getD []
  (if last.isEmpty then ended else ended ++ [last]).map String.ofList

/-- The name of a step, or a text in its place. -/
def nameOf (step : Step) : String :=
  if step.name.isEmpty then "(unnamed)" else step.name

/-- A step with its number. -/
def step (number : Nat) (s : Step) : List Emission :=
  .line (toString number ++ ". " ++ s.instruction.name ++ " " ++ nameOf s)
    :: (lines s.prompt).map (fun line => .line ("   | " ++ line))
    ++ (s.error.map fun error => Emission.line ("   ! " ++ error)).toList

/-- The outputs of a plan. -/
def outputs (output : Variables) : List Emission :=
  if output.isEmpty then []
  else [.line "", .line "Output variables:"]
    ++ output.map fun entry => .line ("  " ++ entry.1 ++ " = " ++ Json.compact entry.2)

/-- A plan as text. -/
def plan (p : Plan) : List Emission :=
  (p.steps.zipIdx 1).flatMap (fun (s, number) => step number s) ++ outputs p.output

/-- The warnings of a plan. -/
def warnings (p : Plan) : List Emission :=
  p.errors.map fun error => .warning ("warning: " ++ error)

/-- An event of a run. -/
def event (delivery : Delivery) : Event → List Emission
  | .stepBefore step => [.line ("\n[PROMPT " ++ step ++ "]")]
  | .stepAfter step none => [.line ("\n[AFTER " ++ step ++ "]")]
  | .stepAfter _ (some _) => []
  | .stepResultStream token => [.out token]
  | .stepResultChunk result _ =>
    match delivery with
    | .stream => [.line ""]
    | .blocking => [.line result.text]
  | .stepError error step => [.warning ("error in step '" ++ step ++ "': " ++ error)]
  | .workflowDone _ (some error) => [.warning ("workflow not run: " ++ error)]
  | .workflowDone _ none => []

/-- A signal of a run. -/
def signal (delivery : Delivery) : Signal → List Emission
  | .event e => event delivery e
  | .pause milliseconds => [.pause milliseconds]
  | .request .. => []

/-- A run, with the state at its end. -/
def run (delivery : Delivery) (r : RunRecord) : List Emission :=
  r.signals.flatMap (signal delivery)
    ++ [.line "", .line "Final state:", .line (Json.indented (.object r.state))]

end Report

end Promptbook
