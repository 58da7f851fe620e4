import Mathlib.Data.List.Forall2
import ParamRules.Proofs.Report.Order
import ParamRules.Response.Settings

/-!
# Ways to a response

A verdict becomes a response in either mode, through the settings of a check, or as the
bare first error or all errors.  All of these ways show the same errors: one for each issue
in the order of the report, or the first of them.
-/

namespace ParamRules

/-- The error tells of an issue, with a status. -/
structure FieldError.Shows (error : FieldError) (status : ResponseStatus) (issue : Issue) :
    Prop where
  field_eq : error.field = issue.place
  message_eq : error.message = issue.message
  status_eq : error.status = status
  info_eq : error.info = some (.object [("kind", .string issue.kind.code)])

/-- The response that a row of issues calls for in a mode, if it calls for any. -/
inductive SurfacingMode.Surfaces (status : ResponseStatus) :
    SurfacingMode → List Issue → Option Response → Prop
  | nothing (mode : SurfacingMode) : Surfaces status mode [] none
  | first {error : FieldError} {issue : Issue} {rest : List Issue}
      (hfirst : error.Shows status issue) :
      Surfaces status .first (issue :: rest) (some (.one error))
  | all {errors : List FieldError} {issues : List Issue} (hissues : issues ≠ [])
      (herrors : List.Forall₂ (fun error issue => error.Shows status issue) errors issues) :
      Surfaces status .all issues (some (.many ⟨errors⟩))

/-! ## Errors -/

theorem FieldError.shows_iff {error : FieldError} {status : ResponseStatus} {issue : Issue} :
    error.Shows status issue ↔ error = .ofIssue issue status := by
  constructor
  · rintro ⟨hfield, hmessage, hstatus, hinfo⟩
    cases error
    cases hfield
    cases hmessage
    cases hstatus
    cases hinfo
    rfl
  · rintro rfl
    exact ⟨rfl, rfl, rfl, rfl⟩

theorem FieldError.forall₂_shows_iff
    {errors : List FieldError} {status : ResponseStatus} {issues : List Issue} :
    List.Forall₂ (fun error issue => error.Shows status issue) errors issues ↔
      errors = issues.map fun issue => .ofIssue issue status := by
  have hmap := List.forall₂_map_right_iff (R := Eq) (l := errors) (u := issues)
    (f := fun issue => FieldError.ofIssue issue status)
  rw [List.forall₂_eq_eq_eq] at hmap
  simp only [shows_iff]
  exact hmap.symm

namespace Verdict

variable {verdict : Verdict} {mode : SurfacingMode} {status : ResponseStatus}

/-! ## Both modes -/

theorem response?_all (verdict : Verdict) (status : ResponseStatus) :
    verdict.response? .all status =
      if verdict.issues = [] then none else some (.many ⟨verdict.errors status⟩) := by
  unfold response? errors
  cases verdict.issues <;> rfl

theorem issues_eq_nil_iff :
    verdict.issues = [] ↔ verdict = .unchecked ∨ verdict = .checked [] := by
  cases verdict <;> simp [issues]

theorem response?_eq_none_iff : verdict.response? mode status = none ↔ verdict.issues = [] := by
  cases mode with
  | first => simp [response?_first, firstIssue?]
  | all => simp [response?_all]

/-- The response is the only one that the issues call for. -/
theorem surfaces_iff {response? : Option Response} :
    mode.Surfaces status verdict.issues response? ↔
      response? = verdict.response? mode status := by
  constructor
  · intro h
    generalize hissues : verdict.issues = issues at h
    cases h with
    | nothing => exact (response?_eq_none_iff.mpr hissues).symm
    | first hfirst =>
        rw [response?_first, firstIssue?, hissues, FieldError.shows_iff.mp hfirst]
        rfl
    | all hne herrors =>
        rw [response?_all, hissues, if_neg hne, errors, hissues,
          FieldError.forall₂_shows_iff.mp herrors]
  · rintro rfl
    cases mode with
    | first =>
        rw [response?_first, firstIssue?]
        cases verdict.issues with
        | nil => exact .nothing .first
        | cons issue rest => exact .first (FieldError.shows_iff.mpr rfl)
    | all =>
        rw [response?_all]
        by_cases hissues : verdict.issues = []
        · rw [if_pos hissues, hissues]
          exact .nothing .all
        · rw [if_neg hissues]
          exact .all hissues (FieldError.forall₂_shows_iff.mpr rfl)

/-- The first mode shows the first of the errors that the other mode shows. -/
theorem response?_first_eq_bind (verdict : Verdict) (status : ResponseStatus) :
    verdict.response? .first status =
      (verdict.response? .all status).bind fun response => response.errors.head?.map .one := by
  rw [response?_first, response?_all, firstIssue?, errors]
  cases verdict.issues <;> rfl

/-- A response has errors, and its status is the given one. -/
theorem errors_ne_nil_and_status_eq
    {response : Response} (h : verdict.response? mode status = some response) :
    response.errors ≠ [] ∧ response.status = status := by
  have hsurfaces := surfaces_iff.mpr h.symm
  generalize verdict.issues = issues at hsurfaces
  cases hsurfaces with
  | first hfirst => exact ⟨List.cons_ne_nil _ _, hfirst.status_eq⟩
  | all hne herrors =>
      cases herrors with
      | nil => exact absurd rfl hne
      | cons hfirst => exact ⟨List.cons_ne_nil _ _, hfirst.status_eq⟩

/-! ## The bare errors -/

theorem response?_first_ne_many (verdict : Verdict) (status : ResponseStatus)
    (list : ErrorList) : verdict.response? .first status ≠ some (.many list) := by
  intro h
  have hsurfaces := surfaces_iff.mpr h.symm
  generalize verdict.issues = issues at hsurfaces
  cases hsurfaces

theorem response?_all_ne_one (verdict : Verdict) (status : ResponseStatus)
    (error : FieldError) : verdict.response? .all status ≠ some (.one error) := by
  intro h
  have hsurfaces := surfaces_iff.mpr h.symm
  generalize verdict.issues = issues at hsurfaces
  cases hsurfaces

theorem map_one_firstError? (verdict : Verdict) :
    verdict.firstError?.map Response.one = verdict.response? .first .unprocessable := by
  rw [firstError?]
  split
  · next hnone => exact hnone.symm
  · next error hone => exact hone.symm
  · next list hmany => exact absurd hmany (verdict.response?_first_ne_many _ list)

theorem map_many_allErrors? (verdict : Verdict) :
    verdict.allErrors?.map Response.many = verdict.response? .all .unprocessable := by
  rw [allErrors?]
  split
  · next hnone => exact hnone.symm
  · next error hone => exact absurd hone (verdict.response?_all_ne_one _ error)
  · next list hmany => exact hmany.symm

/-- The responses of a verdict agree with its issues and with each other. -/
structure RoutesAgree (verdict : Verdict) (mode : SurfacingMode) (status : ResponseStatus) :
    Prop where
  surfaces_iff : ∀ response?, mode.Surfaces status verdict.issues response? ↔
    response? = verdict.response? mode status
  eq_none_iff : verdict.response? mode status = none ↔
    verdict = .unchecked ∨ verdict = .checked []
  first_eq_bind : verdict.response? .first status =
    (verdict.response? .all status).bind fun response => response.errors.head?.map .one
  errors_and_status : ∀ response, verdict.response? mode status = some response →
    response.errors ≠ [] ∧ response.status = status
  first_ne_many : ∀ list, verdict.response? .first status ≠ some (.many list)
  all_ne_one : ∀ error, verdict.response? .all status ≠ some (.one error)
  firstError?_eq : verdict.firstError?.map .one = verdict.response? .first .unprocessable
  allErrors?_eq : verdict.allErrors?.map .many = verdict.response? .all .unprocessable

theorem routesAgree (verdict : Verdict) (mode : SurfacingMode) (status : ResponseStatus) :
    verdict.RoutesAgree mode status where
  surfaces_iff := fun _ => verdict.surfaces_iff
  eq_none_iff := response?_eq_none_iff.trans issues_eq_nil_iff
  first_eq_bind := verdict.response?_first_eq_bind status
  errors_and_status := fun _ => errors_ne_nil_and_status_eq
  first_ne_many := verdict.response?_first_ne_many status
  all_ne_one := verdict.response?_all_ne_one status
  firstError?_eq := verdict.map_one_firstError?
  allErrors?_eq := verdict.map_many_allErrors?

end Verdict

/-- Under any schema or none, in any mode and with any status, the response to a payload
shows the issues as the mode says, a check comes to the same response, and so do the bare
errors. -/
theorem Payload.responses_agree_with_report
    (payload : Payload) (schema? : Option Schema) (mode : SurfacingMode)
    (status : ResponseStatus) :
    (payload.verdictUnder schema?).RoutesAgree mode status ∧
      ∀ schema, schema? = some schema →
        schema.responseTo? ⟨mode, status⟩ payload =
          (payload.verdictUnder schema?).response? mode status := by
  refine ⟨Verdict.routesAgree _ mode status, ?_⟩
  rintro schema rfl
  rfl

/-- A name, which is required, and an age of at least 18. -/
def nameAndAge : Schema where
  rules :=
    [{ field := "name", type := .text, groups := [{ required := true }] },
      { field := "age", type := .wholeNumber, groups := [{ min := some (.whole 18) }] }]
  nodup_fields := by decide

/-- Only an age is given, and it is too low. -/
def lowAge : Payload :=
  .value (.object [("age", .ofNat 5)])

theorem lowAge_responses_agree :
    (lowAge.verdictUnder (some nameAndAge)).RoutesAgree .all .conflict ∧
      nameAndAge.responseTo? ⟨.all, .conflict⟩ lowAge =
        (lowAge.verdictUnder (some nameAndAge)).response? .all .conflict ∧
      (nameAndAge.responseTo? ⟨.all, .conflict⟩ lowAge).map
        (fun response => response.errors.map fun error => (error.field, error.status)) =
        some [("name", .conflict), ("age", .conflict)] :=
  ⟨(lowAge.responses_agree_with_report (some nameAndAge) .all .conflict).1,
    (lowAge.responses_agree_with_report (some nameAndAge) .all .conflict).2 nameAndAge rfl,
    by decide⟩

end ParamRules
