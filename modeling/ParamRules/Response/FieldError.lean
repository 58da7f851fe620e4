import ParamRules.Response.Status
import ParamRules.Report.Violation

/-!
# Field errors

An error is what a caller is shown of one problem: a field, a status, a message and
further information.  It has two forms as JSON: a body for a response, which also has
the number of the status and always has the information, and a plain form, which leaves
absent information out.
-/

namespace ParamRules

/-- What a caller is shown of one problem. -/
structure FieldError where
  field : String := "base"
  status : ResponseStatus := .unprocessable
  message : String := "Something went wrong"
  /-- Further information; it may be there and be `null`. -/
  info : Option Json := none

namespace FieldError

/-- The error for an issue, which carries the kind of the issue. -/
def ofIssue (issue : Issue) (status : ResponseStatus) : FieldError :=
  { field := issue.place, status, message := issue.message,
    info := some (.object [("kind", .string issue.kind.code)]) }

/-- The form of an error in the body of a response. -/
def body (error : FieldError) : Json :=
  .object [("field", .string error.field), ("status", .string error.status.symbol),
    ("code", .ofNat error.status.code), ("message", .string error.message),
    ("additional_info", error.info.getD .null)]

/-- The plain form. -/
def toJson (error : FieldError) : Json :=
  .object <|
    [("field", .string error.field), ("status", .string error.status.symbol),
      ("message", .string error.message)] ++
    (error.info.map fun info => ("additional_info", info)).toList

/-- The text of an error is its message. -/
def text (error : FieldError) : String :=
  error.message

end FieldError

/-- Errors in the order in which they were found. -/
structure ErrorList where
  errors : List FieldError := []

namespace ErrorList

/-- Adds an error at the end. -/
def add (list : ErrorList) (error : FieldError) : ErrorList :=
  ⟨list.errors ++ [error]⟩

/-- How many errors there are. -/
def size (list : ErrorList) : Nat :=
  list.errors.length

/-- There are no errors. -/
def isEmpty (list : ErrorList) : Bool :=
  list.errors.isEmpty

/-- The first error. -/
def first? (list : ErrorList) : Option FieldError :=
  list.errors.head?

/-- The fields of the errors, in order. -/
def fields (list : ErrorList) : List String :=
  list.errors.map (·.field)

/-- The same errors, last first. -/
def reverse (list : ErrorList) : ErrorList :=
  ⟨list.errors.reverse⟩

/-- The forms of the errors in the body of a response. -/
def body (list : ErrorList) : Json :=
  .array (list.errors.map (·.body))

/-- The plain forms of the errors. -/
def toJson (list : ErrorList) : Json :=
  .array (list.errors.map (·.toJson))

/-- A heading with the number of errors, then a numbered line for each. -/
def text (list : ErrorList) : String :=
  let heading := "Validation failed with " ++ Nat.repr list.size ++ " error(s):\n"
  let lines := list.errors.zipIdx.map fun (error, i) =>
    "  " ++ Nat.repr (i + 1) ++ ". [" ++ error.field ++ "] " ++ error.text ++ "\n"
  heading ++ String.join lines

end ErrorList

end ParamRules
