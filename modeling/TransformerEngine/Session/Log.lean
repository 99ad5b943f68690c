import TransformerEngine.Text.Blank
import TransformerEngine.Text.Lowercase

/-!
# Logging

How a session's log would be written. Logging is asked for by naming a filter, in the
variable of this library or in the general one; without a filter nothing is installed.
-/

namespace TransformerEngine

/-- The version of the engine. -/
def engineVersion : String := "0.1.0"

/-- The form of a log. -/
inductive LogFormat where
  /-- One line an event. -/
  | text
  /-- Events indented under the spans that they lie in. -/
  | tree
  /-- One JSON object an event. -/
  | json
deriving DecidableEq, Repr

namespace LogFormat

/-- The form as it is written. -/
def name : LogFormat → String
  | text => "text"
  | tree => "tree"
  | json => "json"

/-- The form that a setting asks for, whatever its case; an unknown one means text. -/
def ofSetting (setting : String) : LogFormat :=
  let word := Text.lowercase (Text.trim setting)
  if word = "tree" then tree else if word = "json" then json else text

end LogFormat

/-- The variables that govern logging. -/
structure LogVariables where
  /-- The filter meant for this library. -/
  filter : Option String := none
  /-- The filter meant for every program. -/
  generalFilter : Option String := none
  /-- The form of the log. -/
  format : Option String := none

/-- Whether a log is asked for. -/
def LogVariables.requestsLog (settings : LogVariables) : Bool :=
  settings.filter.isSome || settings.generalFilter.isSome

/-- The form of the log. -/
def LogVariables.logFormat (settings : LogVariables) : LogFormat :=
  .ofSetting (settings.format.getD "")

end TransformerEngine
