/-!
# Reserved Variables

The names through which directives and the running of a workflow communicate.
-/

namespace Promptbook.Reserved

/-- The name of the step to jump to. -/
def goto : String := "CONTROL_FLOW_GOTO"

/-- Whether the workflow ends. -/
def done : String := "CONTROL_FLOW_DONE"

/-- The generated text, or the text to use in its place. -/
def result : String := "CONTROL_FLOW_RESULT"

/-- The declared fields. -/
def promptFields : String := "PROMPT_FIELDS"

/-- The model of a step. -/
def model : String := "model"

/-- The temperature of a step. -/
def temperature : String := "temperature"

/-- The text of the last generation. -/
def lastText : String := "prev_generation_text"

/-- The number of characters of the last generation. -/
def lastLength : String := "prev_generation_chars"

/-- The duration of the last generation, in milliseconds. -/
def lastDuration : String := "prev_generation_time_ms"

end Promptbook.Reserved
