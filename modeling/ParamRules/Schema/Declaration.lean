import ParamRules.Schema.Basic

/-!
# Declarations

Rules can be declared one after the other instead of described.  Each level of nesting
is a scope of its own: it begins empty, and a field declared again in it replaces the
earlier declaration as a whole.
-/

namespace ParamRules

/-- A declaration of a rule. -/
inductive Declaration where
  /-- A field with one group of constraints and the declarations for its own fields. -/
  | field (name : String) (type : FieldType) (group : Constraints)
      (nested : List Declaration)
  /-- A finished rule. -/
  | finished (rule : FieldRule)

namespace Declaration

mutual

/-- The rule that a declaration declares. -/
def toRule : Declaration → FieldRule
  | .field name type group nested =>
      { field := name, type, groups := [group], nested := (declareAll nested .empty).rules }
  | .finished rule => rule

/-- Makes a row of declarations, in order, in a scope. -/
def declareAll : List Declaration → Schema → Schema
  | [], scope => scope
  | declaration :: rest, scope => declareAll rest (scope.insert declaration.toRule)

end

end Declaration

/-- The schema that a row of declarations declares. -/
def Schema.ofDeclarations (declarations : List Declaration) : Schema :=
  Declaration.declareAll declarations .empty

end ParamRules
