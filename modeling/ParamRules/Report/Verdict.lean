import ParamRules.Event
import ParamRules.Report.Visit

/-!
# Verdicts

The verdict of a schema on a payload lists all issues in the order of the visits.  A
schema without rules passes no verdict of that kind: the payload stays unchecked.  A
payload that is not an object is judged as if every field were absent.
-/

namespace ParamRules

/-- What a schema says of a payload. -/
inductive Verdict where
  /-- There were no rules to hold the payload against. -/
  | unchecked
  /-- The payload was held against rules, with these issues. -/
  | checked (issues : List Issue)
deriving DecidableEq

namespace Verdict

/-- The issues of a verdict. -/
def issues : Verdict → List Issue
  | .unchecked => []
  | .checked issues => issues

/-- There were no rules. -/
def isUnchecked : Verdict → Bool
  | .unchecked => true
  | .checked _ => false

/-- The payload was held against rules and has no issues. -/
def isValid : Verdict → Bool
  | .unchecked => false
  | .checked issues => issues.isEmpty

/-- There are issues. -/
def hasIssues (verdict : Verdict) : Bool :=
  !verdict.issues.isEmpty

/-- The first issue. -/
def firstIssue? (verdict : Verdict) : Option Issue :=
  verdict.issues.head?

end Verdict

namespace Schema

/-- The visits of a schema in a payload, given by its fields if it is an object. -/
def visits (schema : Schema) (container : Option Json.Fields) : List Visit :=
  FieldRule.visitsOfAll .root container schema.rules

/-- The issues of a payload. -/
def issues (schema : Schema) (payload : Json) : List Issue :=
  (schema.visits payload.fields?).flatMap Visit.issues

/-- The verdict on a payload. -/
def verdict (schema : Schema) (payload : Json) : Verdict :=
  if schema.isEmpty then .unchecked else .checked (schema.issues payload)

/-- The events of reaching the verdict on a payload. -/
def verdictEvents (schema : Schema) (payload : Json) : List Event :=
  if schema.isEmpty then
    [.noRules]
  else
    let container := payload.fields?
    (if container.isNone then [Event.payloadNotObject] else []) ++
      (schema.visits container).filterMap (fun visit =>
        if visit.rule.isInert then some (.ruleWithoutField visit.base) else none) ++
      [.checkFinished schema.size (schema.issues payload).length]

end Schema

end ParamRules
