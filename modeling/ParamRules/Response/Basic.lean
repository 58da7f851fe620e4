import ParamRules.Response.FieldError
import ParamRules.Report.Verdict

/-!
# Responses

A verdict with issues calls for a response, which holds the error for the first issue or
the errors for all of them.  A verdict without issues calls for none, whether there were
rules or not.
-/

namespace ParamRules

/-- The response to a rejected payload. -/
inductive Response where
  | one (error : FieldError)
  | many (errors : ErrorList)

namespace Response

/-- The errors of a response. -/
def errors : Response → List FieldError
  | .one error => [error]
  | .many list => list.errors

/-- The status of a response: that of its first error. -/
def status : Response → ResponseStatus
  | .one error => error.status
  | .many list => (list.first?.map (·.status)).getD .unprocessable

/-- The body of a response. -/
def body : Response → Json
  | .one error => error.body
  | .many list => .object [("errors", list.body)]

/-- The text of a response. -/
def text : Response → String
  | .one error => error.text
  | .many list => list.text

end Response

namespace Verdict

/-- The errors for the issues of a verdict, each with the given status. -/
def errors (verdict : Verdict) (status : ResponseStatus) : List FieldError :=
  verdict.issues.map fun issue => .ofIssue issue status

/-- The response to a verdict with issues, which shows as many of them as told. -/
def response? (verdict : Verdict) (mode : SurfacingMode) (status : ResponseStatus) :
    Option Response :=
  match mode, verdict.errors status with
  | _, [] => none
  | .first, error :: _ => some (.one error)
  | .all, error :: rest => some (.many ⟨error :: rest⟩)

/-- The error for the first issue, with the usual status. -/
def firstError? (verdict : Verdict) : Option FieldError :=
  match verdict.response? .first .unprocessable with
  | none => none
  | some (.one error) => some error
  | some (.many list) => list.first?

/-- The errors for all issues, with the usual status, if there are any. -/
def allErrors? (verdict : Verdict) : Option ErrorList :=
  match verdict.response? .all .unprocessable with
  | none => none
  | some (.one error) => some ⟨[error]⟩
  | some (.many list) => some list

end Verdict

end ParamRules
