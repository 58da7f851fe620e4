import ParamRules.Report.Location
import ParamRules.Schema.Constraints

/-!
# Violations and issues

A violation is a constraint that a value does not satisfy.  An issue reports it: the
place of the value, the kind of the violation, and a message, which is the one of the
constraint's group or else the usual one for the violation.
-/

namespace ParamRules

/-- The kind of an issue. -/
inductive Issue.Kind where
  | missing
  | wrongType
  | outOfRange
  | badFormat
  | blank
deriving DecidableEq, Repr

namespace Issue.Kind

/-- Every kind of issue. -/
def all : List Issue.Kind :=
  [.missing, .wrongType, .outOfRange, .badFormat, .blank]

/-- The code of a kind. -/
def code : Issue.Kind → String
  | .missing => "missing_required"
  | .wrongType => "type_mismatch"
  | .outOfRange => "out_of_range"
  | .badFormat => "format_mismatch"
  | .blank => "blank_disallowed"

/-- The kind with a code. -/
def ofCode? (code : String) : Option Issue.Kind :=
  all.find? fun kind => kind.code == code

theorem ofCode?_code (kind : Issue.Kind) : ofCode? kind.code = some kind := by
  cases kind <;> decide

end Issue.Kind

/-- What is wrong at a place. -/
structure Issue where
  /-- The text of the location of the value. -/
  place : String
  kind : Issue.Kind
  message : String
deriving DecidableEq

namespace Issue

/-- The text of an issue. -/
def text (issue : Issue) : String :=
  "[" ++ issue.place ++ "] " ++ issue.kind.code ++ ": " ++ issue.message

/-- The issue as an object. -/
def toJson (issue : Issue) : Json :=
  .object [("path", .string issue.place), ("kind", .string issue.kind.code),
    ("message", .string issue.message)]

end Issue

/-- A way in which a value does not satisfy a constraint. -/
inductive Violation where
  /-- The value is absent. -/
  | missing
  /-- The value does not have this type. -/
  | wrongType (expected : FieldType)
  /-- The quantity of the value is below this limit. -/
  | belowMin (min : Quantity)
  /-- The quantity of the value is above this limit. -/
  | aboveMax (max : Quantity)
  /-- The text does not match the pattern. -/
  | badFormat
  /-- The text is blank. -/
  | blank
deriving DecidableEq

/-- What is violated by a quantity beyond a limit. -/
def Limit.violation : Limit → Quantity → Violation
  | .min, bound => .belowMin bound
  | .max, bound => .aboveMax bound

namespace Violation

/-- The kind of issue that reports a violation. -/
def kind : Violation → Issue.Kind
  | .missing => .missing
  | .wrongType _ => .wrongType
  | .belowMin _ => .outOfRange
  | .aboveMax _ => .outOfRange
  | .badFormat => .badFormat
  | .blank => .blank

/-- What a violation says about the value. -/
def predicate : Violation → String
  | .missing => "is required"
  | .wrongType expected => "must be of type " ++ expected.name
  | .belowMin min => "must be at least " ++ min.text
  | .aboveMax max => "must be at most " ++ max.text
  | .badFormat => "format is invalid"
  | .blank => "cannot be blank"

/-- The usual message for a violation at a place. -/
def usualMessage (violation : Violation) (place : String) : String :=
  "Parameter " ++ place ++ " " ++ violation.predicate

end Violation

/-- The issue that reports a violation of a group at a place. -/
def Constraints.issue (group : Constraints) (place : String) (violation : Violation) :
    Issue :=
  ⟨place, violation.kind, group.message.getD (violation.usualMessage place)⟩

end ParamRules
