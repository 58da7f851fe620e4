import ParamRules.Report.Payload
import ParamRules.Response.Basic

/-!
# Settings

The settings of a response are a surfacing mode and a status.  They come from a JSON
document or from two variables of the environment; what is missing keeps its default.
A document must be well formed, whereas a variable that cannot be read is ignored, with
an event.
-/

namespace ParamRules

/-- The settings of a response. -/
structure Settings where
  surfacing : SurfacingMode := .first
  status : ResponseStatus := .unprocessable
deriving DecidableEq

namespace Settings

/-- The settings as an object. -/
def toJson (settings : Settings) : Json :=
  .object [("surfacing", .string settings.surfacing.name),
    ("status", .string settings.status.symbol)]

/-- Reads a choice that may be missing. -/
def choiceOr? {α : Type} (default : α) (ofName? : String → Option α) :
    List Json.Concrete → Option α
  | [] => some default
  | [value] => choiceOf? ofName? value
  | _ => none

/-- The values given for a key. -/
def valuesOf (key : String) (entries : List (Option String × Json.Concrete)) :
    List Json.Concrete :=
  entries.filterMap fun (k, v) => if k = some key then some v else none

/-- Reads settings: an object in which each known key stands at most once and other keys
do not matter, or a list of at most both values. -/
def ofConcrete? : Json.Concrete → Option Settings
  | .object entries =>
      if entries.all fun (key, _) => key.isSome then do
        let surfacing ← choiceOr? .first SurfacingMode.ofName? (valuesOf "surfacing" entries)
        let status ← choiceOr? .unprocessable ResponseStatus.ofName? (valuesOf "status" entries)
        return { surfacing, status }
      else
        none
  | .array items =>
      if items.length ≤ 2 then do
        let surfacing ← choiceOr? .first SurfacingMode.ofName? (items.take 1)
        let status ← choiceOr? .unprocessable ResponseStatus.ofName? (items.drop 1)
        return { surfacing, status }
      else
        none
  | _ => none

/-- Reads settings from JSON text. -/
def ofString (text : String) : Except ReadError Settings :=
  match (Json.Concrete.ofString? text).bind ofConcrete? with
  | some settings => .ok settings
  | none => .error .malformed

/-- The variable that selects the surfacing mode. -/
def surfacingVariable : String := "PARAMGUARD_SURFACING"

/-- The variable that selects the status. -/
def statusVariable : String := "PARAMGUARD_STATUS"

/-- Reads a variable, or keeps the default with an event if it cannot be read. -/
def readVariable {α : Type} (read : String → Except ReadError α) (default : α)
    (variableName : String) (value : Option String) : α × List Event :=
  match value with
  | none => (default, [])
  | some text =>
      match read text with
      | .ok choice => (choice, [])
      | .error e => (default, [.settingIgnored e variableName])

/-- The settings of an environment, with the events of what is ignored. -/
def ofEnvironment (environment : String → Option String) : Settings × List Event :=
  let (surfacing, events) :=
    readVariable SurfacingMode.ofSetting .first surfacingVariable (environment surfacingVariable)
  let (status, events') :=
    readVariable ResponseStatus.ofSetting .unprocessable statusVariable (environment statusVariable)
  (⟨surfacing, status⟩, events ++ events')

end Settings

/-- The response that a payload calls for, as the settings say. -/
def Schema.response? (schema : Schema) (settings : Settings) (payload : Json) :
    Option Response :=
  (schema.verdict payload).response? settings.surfacing settings.status

/-- The response that the parameters in a container call for, as the settings say. -/
def Schema.responseTo? (schema : Schema) (settings : Settings) (payload : Payload) :
    Option Response :=
  (schema.verdictOf payload).response? settings.surfacing settings.status

theorem Schema.responseTo?_value (schema : Schema) (settings : Settings) (v : Json) :
    schema.responseTo? settings (.value v) = schema.response? settings v := rfl

end ParamRules
