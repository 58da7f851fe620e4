import ParamRules.ReadError
import ParamRules.Report.Location

/-!
# Events

What is noted on the way besides the results: entries of a description that are left
out, settings that are ignored, how a payload fared.  An event has a level, a message
and named details, and is written on one line.
-/

namespace ParamRules

/-- How much an event matters. -/
inductive Level where
  | error
  | warn
  | info
  | debug
  | trace
deriving DecidableEq

namespace Level

/-- The name of a level in a line. -/
def name : Level → String
  | .error => "ERROR"
  | .warn => "WARN"
  | .info => "INFO"
  | .debug => "DEBUG"
  | .trace => "TRACE"

/-- The place of a level, from the gravest to the least. -/
def rank : Level → Nat
  | .error => 1
  | .warn => 2
  | .info => 3
  | .debug => 4
  | .trace => 5

end Level

/-- Something noted on the way. -/
inductive Event where
  /-- A description is neither a list nor an object. -/
  | notADescription (kind : String)
  /-- An entry has content that cannot be read. -/
  | entryDropped (position : Nat) (error : ReadError)
  /-- An entry is not an object. -/
  | entryNotObject
  /-- An entry names no field. -/
  | entryWithoutField
  /-- An entry names no type. -/
  | entryWithoutType (field : String)
  /-- There is nothing to hold the payload against. -/
  | noRules
  /-- The payload is not an object. -/
  | payloadNotObject
  /-- A rule without a field name was met. -/
  | ruleWithoutField (container : Location)
  /-- A payload has been held against all rules. -/
  | checkFinished (fields issues : Nat)
  /-- A setting has a value that cannot be read. -/
  | settingIgnored (error : ReadError) (variableName : String)
  /-- Rules were read from a file. -/
  | rulesLoaded (path : String) (fields : Nat)
  /-- A payload was rejected. -/
  | payloadRejected (errors : Nat) (status : String)
deriving DecidableEq

/-- A detail of an event; names that come from outside may be written in quotes. -/
inductive Detail where
  | plain (text : String)
  | name (text : String)

namespace Event

/-- The level of an event. -/
def level : Event → Level
  | .notADescription _ => .debug
  | .entryDropped _ _ => .warn
  | .entryNotObject => .trace
  | .entryWithoutField => .trace
  | .entryWithoutType _ => .trace
  | .noRules => .debug
  | .payloadNotObject => .debug
  | .ruleWithoutField _ => .trace
  | .checkFinished _ _ => .debug
  | .settingIgnored _ _ => .warn
  | .rulesLoaded _ _ => .debug
  | .payloadRejected _ _ => .info

/-- The message of an event. -/
def message : Event → String
  | .notADescription _ => "rule description is not a list or map"
  | .entryDropped _ _ => "dropping rule entry"
  | .entryNotObject => "skipping non-object rule entry"
  | .entryWithoutField => "skipping rule entry without field"
  | .entryWithoutType _ => "skipping rule entry without type"
  | .noRules => "no rules to validate against"
  | .payloadNotObject => "payload is not a keyed container; treating every field as missing"
  | .ruleWithoutField _ => "skipping rule without field"
  | .checkFinished _ _ => "validation finished"
  | .settingIgnored _ _ => "ignoring invalid setting"
  | .rulesLoaded _ _ => "loaded rules"
  | .payloadRejected _ _ => "payload rejected"

/-- The details of an event, by name. -/
def details : Event → List (String × Detail)
  | .notADescription kind => [("kind", .name kind)]
  | .entryDropped position error =>
      [("position", .plain (Nat.repr position)), ("error", .plain error.message)]
  | .entryNotObject => []
  | .entryWithoutField => []
  | .entryWithoutType field => [("field", .name field)]
  | .noRules => []
  | .payloadNotObject => []
  | .ruleWithoutField container => [("path", .plain container.text)]
  | .checkFinished fields issues =>
      [("fields", .plain (Nat.repr fields)), ("issues", .plain (Nat.repr issues))]
  | .settingIgnored error variableName =>
      [("error", .plain error.message), ("var", .name variableName)]
  | .rulesLoaded path fields => [("path", .plain path), ("fields", .plain (Nat.repr fields))]
  | .payloadRejected errors status =>
      [("errors", .plain (Nat.repr errors)), ("status", .plain status)]

/-- The line of an event; `writeName` writes the names that come from outside. -/
def line (writeName : String → String) (event : Event) : String :=
  event.details.foldl
    (fun text (name, detail) =>
      let written := match detail with
        | .plain s => s
        | .name s => writeName s
      text ++ " " ++ name ++ "=" ++ written)
    (event.level.name ++ " " ++ event.message)

end Event

end ParamRules
