import ParamRules.Proofs.Command.Inspection
import ParamRules.Proofs.Response.Routes

/-!
# What the result of a check depends on

A check fails for the first of a few reasons, all of which lie in its two inputs: both are
the standard input, the rules cannot be read, or the payload cannot be read.  Otherwise the
exit code tells whether the verdict has issues.  So the options besides the two inputs, the
verbosity and the environment never change the exit code.

They only change what is printed.  What is printed of the first issue is the beginning of
what is printed of all of them, or, as JSON, the first of the errors.
-/

namespace ParamRules

/-! ## Inputs of a check -/

namespace Surroundings

/-- The text at a path describes a schema. -/
def GivesRules (around : Surroundings) (path : String) (schema : Schema) : Prop :=
  ∃ text, around.read path = .ok text ∧ Schema.ofText? text = some schema

/-- The text at a path is a payload. -/
def GivesPayload (around : Surroundings) (path : String) (payload : Json) : Prop :=
  ∃ text, around.read path = .ok text ∧ Json.ofString? text = some payload

/-- What is at a path cannot be read, or its text is not JSON, which is the given
failure. -/
inductive FailsToGive (around : Surroundings) (path : String) (malformed : Failure) :
    Failure → Prop
  | unreadable {failure : Failure} (hread : around.read path = .error failure) :
      FailsToGive around path malformed failure
  | malformed {text : String} (hread : around.read path = .ok text)
      (htext : Json.ofString? text = none) : FailsToGive around path malformed malformed

/-- Files and standard input are the same. -/
def SameInputs (around other : Surroundings) : Prop :=
  around.file = other.file ∧ around.input = other.input

variable {around other : Surroundings} {path : String}

theorem SameInputs.read_eq (h : around.SameInputs other) : around.read = other.read := by
  obtain ⟨hfile, hinput⟩ := h
  funext path
  rw [read, read, hfile, hinput]

theorem FailsToGive.of_sameInputs
    {malformed failure : Failure} (hinputs : around.SameInputs other)
    (h : around.FailsToGive path malformed failure) :
    other.FailsToGive path malformed failure := by
  cases h with
  | unreadable hread => exact .unreadable (hinputs.read_eq ▸ hread)
  | malformed hread htext => exact .malformed (hinputs.read_eq ▸ hread) htext

theorem gives_or_fails (around : Surroundings) (path : String) (malformed : Failure) :
    (∃ text v, around.read path = .ok text ∧ Json.ofString? text = some v) ∨
      ∃ failure, around.FailsToGive path malformed failure := by
  cases hread : around.read path with
  | error failure => exact .inr ⟨failure, .unreadable hread⟩
  | ok text =>
      cases htext : Json.ofString? text with
      | none => exact .inr ⟨malformed, .malformed hread htext⟩
      | some v => exact .inl ⟨text, v, rfl, htext⟩

theorem readRules_of_failsToGive
    {failure : Failure} (h : around.FailsToGive path (.malformedRules path) failure) :
    around.readRules path = .error failure := by
  cases h with
  | unreadable hread =>
      rw [readRules, hread]
      rfl
  | malformed hread htext => simp only [readRules, hread, htext, bind, Except.bind]

theorem readPayload_of_failsToGive
    {failure : Failure} (h : around.FailsToGive path (.malformedPayload path) failure) :
    around.readPayload path = .error failure := by
  cases h with
  | unreadable hread =>
      rw [readPayload, hread]
      rfl
  | malformed hread htext => simp only [readPayload, hread, htext, bind, Except.bind]

theorem readPayload_of_givesPayload
    {payload : Json} (h : around.GivesPayload path payload) :
    around.readPayload path = .ok payload := by
  obtain ⟨text, hread, htext⟩ := h
  simp only [readPayload, hread, htext, bind, Except.bind]
  rfl

end Surroundings

namespace CheckRequest

/-- Both inputs are the standard input. -/
def TakesBothFromInput (request : CheckRequest) : Prop :=
  isStandardInput request.rules = true ∧ isStandardInput request.payload = true

theorem takesBothFromInput_iff (request : CheckRequest) :
    request.TakesBothFromInput ↔
      (isStandardInput request.rules && isStandardInput request.payload) = true :=
  Bool.and_eq_true_iff.symm

/-- A check fails: both inputs are the standard input; or else the rules cannot be read; or
else, whatever the rules are, the payload cannot be read. -/
inductive FailsWith (request : CheckRequest) (around : Surroundings) : Failure → Prop
  | bothFromInput (hboth : request.TakesBothFromInput) :
      FailsWith request around .bothFromInput
  | rules {failure : Failure} (hinput : ¬request.TakesBothFromInput)
      (hrules : around.FailsToGive request.rules (.malformedRules request.rules) failure) :
      FailsWith request around failure
  | payload {schema : Schema} {failure : Failure} (hinput : ¬request.TakesBothFromInput)
      (hrules : around.GivesRules request.rules schema)
      (hpayload :
        around.FailsToGive request.payload (.malformedPayload request.payload) failure) :
      FailsWith request around failure

/-- A check holds a payload against a schema. -/
structure Reaches (request : CheckRequest) (around : Surroundings) (schema : Schema)
    (payload : Json) : Prop where
  input : ¬request.TakesBothFromInput
  rules : around.GivesRules request.rules schema
  payload : around.GivesPayload request.payload payload

variable {request other : CheckRequest} {around : Surroundings}

/-- The settings of a check: those of the request over those of the environment. -/
def settingsIn (request : CheckRequest) (around : Surroundings) : Settings :=
  request.settings (Settings.ofEnvironment around.variableOf).1

theorem fails_or_reaches (request : CheckRequest) (around : Surroundings) :
    (∃ failure, request.FailsWith around failure) ∨
      ∃ schema payload, request.Reaches around schema payload := by
  by_cases hinput : request.TakesBothFromInput
  · exact .inl ⟨_, .bothFromInput hinput⟩
  rcases around.gives_or_fails request.rules (.malformedRules request.rules) with
    ⟨text, description, hread, htext⟩ | ⟨failure, hrules⟩
  · have hrules : around.GivesRules request.rules (.ofDescription description) :=
      ⟨text, hread, by rw [Schema.ofText?, htext, Option.map_some]⟩
    rcases around.gives_or_fails request.payload (.malformedPayload request.payload) with
      ⟨text', payload, hread', htext'⟩ | ⟨failure, hpayload⟩
    · exact .inr ⟨_, payload, hinput, hrules, text', hread', htext'⟩
    · exact .inl ⟨failure, .payload hinput hrules hpayload⟩
  · exact .inl ⟨failure, .rules hinput hrules⟩

section SameInputs

variable {request' : CheckRequest} {around' : Surroundings}
  (hrules : request.rules = request'.rules) (hpayload : request.payload = request'.payload)
  (hinputs : around.SameInputs around')

include hrules hpayload hinputs

theorem FailsWith.of_sameInputs
    {failure : Failure} (h : request.FailsWith around failure) :
    request'.FailsWith around' failure := by
  have hboth : request.TakesBothFromInput ↔ request'.TakesBothFromInput := by
    rw [TakesBothFromInput, TakesBothFromInput, hrules, hpayload]
  cases h with
  | bothFromInput h => exact .bothFromInput (hboth.mp h)
  | rules hinput h =>
      rw [hrules] at h
      exact .rules (mt hboth.mpr hinput) (h.of_sameInputs hinputs)
  | payload hinput hgives h =>
      rw [hrules, Surroundings.GivesRules, hinputs.read_eq] at hgives
      rw [hpayload] at h
      exact .payload (mt hboth.mpr hinput) hgives (h.of_sameInputs hinputs)

theorem Reaches.of_sameInputs
    {schema : Schema} {payload : Json} (h : request.Reaches around schema payload) :
    request'.Reaches around' schema payload := by
  obtain ⟨hinput, hschema, hvalue⟩ := h
  rw [TakesBothFromInput, hrules, hpayload] at hinput
  rw [hrules, Surroundings.GivesRules, hinputs.read_eq] at hschema
  rw [hpayload, Surroundings.GivesPayload, hinputs.read_eq] at hvalue
  exact ⟨hinput, hschema, hvalue⟩

end SameInputs

/-! ## Verdicts and what is printed of them -/

section Result

variable {settings settings' : Settings} {schema : Schema} {payload : Json}

theorem code_result :
    (request.result settings schema payload).code =
      if (schema.verdict payload).issues = [] then 0 else 1 := by
  cases hresponse :
      (schema.verdict payload).response? settings.surfacing settings.status with
  | none =>
      rw [if_pos (Verdict.response?_eq_none_iff.mp hresponse)]
      simp only [result, hresponse]
  | some response =>
      have hissues : (schema.verdict payload).issues ≠ [] := by
        intro hnil
        rw [Verdict.response?_eq_none_iff.mpr hnil] at hresponse
        cases hresponse
      rw [if_neg hissues]
      simp only [result, hresponse]

theorem failure_result : (request.result settings schema payload).failure = none := by
  simp only [result]
  split <;> rfl

theorem output_result :
    (request.result settings schema payload).output =
      match (schema.verdict payload).response? settings.surfacing settings.status with
      | none => request.acceptance (schema.verdict payload).isUnchecked
      | some response => request.rejection response := by
  simp only [result]
  cases (schema.verdict payload).response? settings.surfacing settings.status with
  | none => rfl
  | some response => rfl

/-- Of the issues of a verdict, the two modes print the first error and all errors. -/
theorem outputs_of_issues_ne_nil
    (request other : CheckRequest)
    (hfirst : settings.surfacing = .first) (hall : settings'.surfacing = .all)
    (hstatus : settings.status = settings'.status)
    (hissues : (schema.verdict payload).issues ≠ []) :
    ∃ error rest,
      (schema.verdict payload).errors settings'.status = error :: rest ∧
      (request.result settings schema payload).output = request.rejection (.one error) ∧
      (other.result settings' schema payload).output =
        other.rejection (.many ⟨error :: rest⟩) := by
  obtain ⟨issue, issues, hcons⟩ := List.exists_cons_of_ne_nil hissues
  refine ⟨.ofIssue issue settings'.status,
    issues.map fun issue => .ofIssue issue settings'.status, ?_, ?_, ?_⟩
  · rw [Verdict.errors, hcons, List.map_cons]
  · rw [output_result, hfirst, hstatus, Verdict.response?_first, Verdict.firstIssue?, hcons]
    rfl
  · rw [output_result, hall, Verdict.response?_all, if_neg hissues, Verdict.errors, hcons]
    rfl

/-- As text, what is printed of the first error is the beginning of what is printed of all
errors. -/
theorem output_prefix
    (hform : request.format = .text) (hform' : other.format = .text)
    (hfirst : settings.surfacing = .first) (hall : settings'.surfacing = .all)
    (hstatus : settings.status = settings'.status) :
    (request.result settings schema payload).output.toList <+:
      (other.result settings' schema payload).output.toList := by
  by_cases hissues : (schema.verdict payload).issues = []
  · have hnone (mode : SurfacingMode) (status : ResponseStatus) :
        (schema.verdict payload).response? mode status = none :=
      Verdict.response?_eq_none_iff.mpr hissues
    rw [output_result, output_result, hnone, hnone]
    simp only [acceptance, hform, hform']
    exact List.prefix_refl _
  · obtain ⟨error, rest, -, hone, hmany⟩ :=
      outputs_of_issues_ne_nil request other hfirst hall hstatus hissues
    rw [hone, hmany]
    simp only [rejection, hform, hform', Response.errors, String.toList_join, List.map_cons,
      List.map_nil, List.flatMap_cons, List.flatMap_nil, List.append_nil]
    exact List.prefix_append _ _

end Result

end CheckRequest

/-! ## Errors as JSON -/

/-- The output is the pretty form of a value on lines of its own, and is read as that
value. -/
def RunResult.Prints (result : RunResult) (v : Json) : Prop :=
  result.output = v.pretty ++ "\n" ∧ Json.ofString? result.output = some v

namespace FieldError

theorem legible_body_ofIssue (issue : Issue) (status : ResponseStatus) :
    (ofIssue issue status).body.Legible := by
  have hcode : (JsonNumber.whole status.code).ReadsBack :=
    JsonNumber.readsBack_whole (by cases status <;> decide)
  have hinfo : (Json.object [("kind", .string issue.kind.code)]).Legible :=
    .object (by simp) (by simp [Json.Legible.string])
  refine .object (by simp) ?_
  simp [ofIssue, Json.ofNat, Json.Legible.string, Json.Legible.number hcode, hinfo]

theorem depth_body_ofIssue (issue : Issue) (status : ResponseStatus) :
    (ofIssue issue status).body.depth = 2 := by
  simp [body, ofIssue, Json.ofNat, Json.depth, Json.fieldsDepth]

end FieldError

theorem RunResult.prints_of_legible
    {result : RunResult} {v : Json} (hlegible : v.Legible)
    (hdepth : v.depth ≤ Json.nestingLimit) (houtput : result.output = v.pretty ++ "\n") :
    result.Prints v := by
  refine ⟨houtput, ?_⟩
  rw [houtput, hlegible.ofString?_prettyLine, if_pos hdepth]

namespace CheckRequest

variable {request other : CheckRequest} {settings settings' : Settings} {schema : Schema}
  {payload : Json}

/-- As JSON, what is printed of the first error is the first of the errors that are printed
of all of them. -/
theorem prints_first_error
    (hform : request.format = .json) (hform' : other.format = .json)
    (hfirst : settings.surfacing = .first) (hall : settings'.surfacing = .all)
    (hstatus : settings.status = settings'.status)
    (hissues : (schema.verdict payload).issues ≠ []) :
    ∃ body bodies,
      (request.result settings schema payload).Prints body ∧
      (other.result settings' schema payload).Prints
        (.object [("errors", .array (body :: bodies))]) := by
  obtain ⟨error, rest, herrors, hone, hmany⟩ :=
    outputs_of_issues_ne_nil request other hfirst hall hstatus hissues
  have hlegible : ∀ e ∈ error :: rest, e.body.Legible ∧ e.body.depth = 2 := by
    rw [← herrors]
    intro e he
    obtain ⟨issue, -, rfl⟩ := List.mem_map.mp he
    exact ⟨FieldError.legible_body_ofIssue _ _, FieldError.depth_body_ofIssue _ _⟩
  have hbodies : ∀ v ∈ (error :: rest).map FieldError.body, v.Legible ∧ v.depth = 2 :=
    List.forall_mem_map.mpr hlegible
  have hitems : Json.itemsDepth ((error :: rest).map FieldError.body) ≤ 2 :=
    Json.itemsDepth_le_iff.mpr fun v hv => (hbodies v hv).2.le
  obtain ⟨herror, hdepth⟩ := hlegible error List.mem_cons_self
  refine ⟨error.body, rest.map FieldError.body, ?_, ?_⟩
  · apply RunResult.prints_of_legible herror
    · rw [hdepth]
      decide
    · rw [hone, rejection, hform]
      rfl
  · apply RunResult.prints_of_legible
    · refine .object (by simp) (List.forall_mem_singleton.mpr ?_)
      exact .array fun v hv => (hbodies v hv).1
    · have hlimit : 4 ≤ Json.nestingLimit := by decide
      rw [List.map_cons] at hitems
      simp only [Json.depth_object, Json.fieldsDepth, Json.depth_array]
      omega
    · rw [hmany, rejection, hform']
      rfl

end CheckRequest

/-! ## Runs -/

namespace Action

variable {request : CheckRequest} {around : Surroundings}

theorem run_check_of_failsWith
    {failure : Failure} (h : request.FailsWith around failure) :
    ∃ log, (check request).run around = .failed failure log := by
  cases h with
  | bothFromInput h => exact ⟨[], by rw [run, if_pos (request.takesBothFromInput_iff.mp h)]⟩
  | rules hinput hrules =>
      refine ⟨[], ?_⟩
      rw [run, if_neg (mt request.takesBothFromInput_iff.mpr hinput),
        Surroundings.readRules_of_failsToGive hrules]
  | payload hinput hrules hpayload =>
      obtain ⟨text, hread, htext⟩ := hrules
      obtain ⟨events, hevents⟩ := Surroundings.readRules_of_ofText? hread htext
      refine ⟨events, ?_⟩
      rw [run, if_neg (mt request.takesBothFromInput_iff.mpr hinput), hevents]
      simp only [Surroundings.readPayload_of_failsToGive hpayload]

theorem run_check_of_reaches
    {schema : Schema} {payload : Json} (h : request.Reaches around schema payload) :
    ∃ log, (check request).run around =
      { request.result (request.settingsIn around) schema payload with log } := by
  obtain ⟨hinput, ⟨text, hread, htext⟩, hpayload⟩ := h
  obtain ⟨events, hevents⟩ := Surroundings.readRules_of_ofText? hread htext
  let result := request.result (request.settingsIn around) schema payload
  refine ⟨events ++ (Settings.ofEnvironment around.variableOf).2 ++ result.log, ?_⟩
  rw [run, if_neg (mt request.takesBothFromInput_iff.mpr hinput), hevents]
  simp only [Surroundings.readPayload_of_givesPayload hpayload]
  rfl

end Action

/-- The verbosity or the environment asks for a log filter that the logger can read. -/
def Surroundings.HasFilter (around : Surroundings) (verbosity : Nat) : Prop :=
  (around.filterOf? (LogFilter.requested verbosity around.variableOf)).isSome = true

theorem Invocation.result_run
    {around : Surroundings} {verbosity : Nat} (hfilter : around.HasFilter verbosity)
    (action : Action) :
    ∃ log, result around (.run verbosity action) = { action.run around with log } := by
  obtain ⟨filter, hsome⟩ := Option.isSome_iff_exists.mp hfilter
  exact ⟨_, by rw [result, hsome]⟩

/-- How a check ends: with code 2 and no output if it fails, and otherwise with a code that
tells whether the verdict has issues. -/
structure CheckRequest.Decides (request : CheckRequest) (around : Surroundings)
    (result : RunResult) : Prop where
  failure_iff : ∀ failure,
    result.failure = some failure ↔ request.FailsWith around failure
  code_two_iff : result.code = 2 ∧ result.output = "" ↔
    ∃ failure, request.FailsWith around failure
  code_one_iff : result.code = 1 ↔ ∃ schema payload,
    request.Reaches around schema payload ∧ (schema.verdict payload).issues ≠ []
  code_zero_iff : result.code = 0 ↔ ∃ schema payload,
    request.Reaches around schema payload ∧ (schema.verdict payload).issues = []

section Decides

variable {request : CheckRequest} {around : Surroundings} {result : RunResult}
  (hfails : ∀ failure, request.FailsWith around failure →
    result.failure = some failure ∧ result.code = 2 ∧ result.output = "")
  (hreaches : ∀ schema payload, request.Reaches around schema payload →
    result.failure = none ∧
      result.code = if (schema.verdict payload).issues = [] then 0 else 1)

include hfails hreaches

theorem CheckRequest.code_eq_iff {code : Nat} (hcode : code ≠ 2) :
    result.code = code ↔ ∃ schema payload,
      request.Reaches around schema payload ∧
        (if (schema.verdict payload).issues = [] then 0 else 1) = code := by
  constructor
  · intro hresult
    rcases request.fails_or_reaches around with ⟨failure, hfail⟩ | ⟨schema, payload, hreach⟩
    · have htwo := (hfails failure hfail).2.1
      exact absurd (hresult.symm.trans htwo) hcode
    · have hverdict := (hreaches schema payload hreach).2
      exact ⟨schema, payload, hreach, hverdict.symm.trans hresult⟩
  · rintro ⟨schema, payload, hreach, hissues⟩
    exact (hreaches schema payload hreach).2.trans hissues

theorem CheckRequest.decides_of_cases : request.Decides around result where
  failure_iff := by
    intro failure
    constructor
    · intro hresult
      rcases request.fails_or_reaches around with ⟨first, hfirst⟩ | ⟨schema, payload, hreach⟩
      · have hfailure := (hfails first hfirst).1
        cases hfailure.symm.trans hresult
        exact hfirst
      · have hnone := (hreaches schema payload hreach).1
        cases hnone.symm.trans hresult
    · intro hfail
      exact (hfails failure hfail).1
  code_two_iff := by
    constructor
    · rintro ⟨hcode, -⟩
      rcases request.fails_or_reaches around with hfail | ⟨schema, payload, hreach⟩
      · exact hfail
      · rw [(hreaches schema payload hreach).2] at hcode
        split at hcode <;> cases hcode
    · rintro ⟨failure, hfail⟩
      exact (hfails failure hfail).2
  code_one_iff := by
    rw [code_eq_iff hfails hreaches (by decide)]
    simp
  code_zero_iff := by
    rw [code_eq_iff hfails hreaches (by decide)]
    simp

end Decides

namespace Invocation

variable {around around' : Surroundings} {verbosity verbosity' : Nat}
  {request request' : CheckRequest}

theorem result_of_failsWith
    (hfilter : around.HasFilter verbosity) {failure : Failure}
    (h : request.FailsWith around failure) :
    ∃ log, result around (.run verbosity (.check request)) = .failed failure log := by
  obtain ⟨_, hrun⟩ := Action.run_check_of_failsWith h
  obtain ⟨log, hresult⟩ := result_run hfilter (.check request)
  refine ⟨log, ?_⟩
  rw [hresult, hrun]
  rfl

theorem result_of_reaches
    (hfilter : around.HasFilter verbosity) {schema : Schema} {payload : Json}
    (h : request.Reaches around schema payload) :
    ∃ log, result around (.run verbosity (.check request)) =
      { request.result (request.settingsIn around) schema payload with log } := by
  obtain ⟨_, hrun⟩ := Action.run_check_of_reaches h
  obtain ⟨log, hresult⟩ := result_run hfilter (.check request)
  exact ⟨log, by rw [hresult, hrun]⟩

theorem decides_result (hfilter : around.HasFilter verbosity) (request : CheckRequest) :
    request.Decides around (result around (.run verbosity (.check request))) := by
  apply CheckRequest.decides_of_cases
  · intro failure h
    obtain ⟨log, hresult⟩ := result_of_failsWith hfilter h
    rw [hresult]
    exact ⟨rfl, rfl, rfl⟩
  · intro schema payload h
    obtain ⟨log, hresult⟩ := result_of_reaches hfilter h
    rw [hresult]
    exact ⟨CheckRequest.failure_result, CheckRequest.code_result⟩

/-- How a check ends is decided by its two inputs.  Of two checks of the same inputs, both
end with the same code and the same failure.  If they have the same status and one shows the
first issue and the other one all issues, then what the first one prints is the beginning
of the text, or the first of the errors in the JSON value, that the other one prints. -/
theorem check_result_depends_on_inputs
    {arguments arguments' : List String}
    (hrun : ofArguments arguments = .run verbosity (.check request))
    (hrun' : ofArguments arguments' = .run verbosity' (.check request'))
    (hfilter : around.HasFilter verbosity) (hfilter' : around'.HasFilter verbosity')
    (hrules : request.rules = request'.rules) (hpayload : request.payload = request'.payload)
    (hinputs : around.SameInputs around') :
    let result := (ofArguments arguments).result around
    let result' := (ofArguments arguments').result around'
    request.Decides around result ∧
      result.code = result'.code ∧ result.failure = result'.failure ∧
      ((request.settingsIn around).surfacing = .first →
        (request'.settingsIn around').surfacing = .all →
        (request.settingsIn around).status = (request'.settingsIn around').status →
        (request.format = .text → request'.format = .text →
          result.output.toList <+: result'.output.toList) ∧
        (request.format = .json → request'.format = .json → result.code = 1 →
          ∃ body bodies, result.Prints body ∧
            result'.Prints (.object [("errors", .array (body :: bodies))]))) := by
  intro result result'
  have hdecides : request.Decides around result := by
    simp only [result, hrun]
    exact decides_result hfilter request
  refine ⟨hdecides, ?_⟩
  rcases request.fails_or_reaches around with ⟨failure, hfails⟩ | ⟨schema, payload, hreaches⟩
  · obtain ⟨log, hresult⟩ := result_of_failsWith hfilter hfails
    obtain ⟨log', hresult'⟩ :=
      result_of_failsWith hfilter' (hfails.of_sameInputs hrules hpayload hinputs)
    simp only [result, result', hrun, hrun', hresult, hresult']
    refine ⟨rfl, rfl, fun _ _ _ => ⟨fun _ _ => List.prefix_refl _, fun _ _ hcode => ?_⟩⟩
    cases hcode
  · obtain ⟨log, hresult⟩ := result_of_reaches hfilter hreaches
    obtain ⟨log', hresult'⟩ :=
      result_of_reaches hfilter' (hreaches.of_sameInputs hrules hpayload hinputs)
    simp only [result, result', hrun, hrun', hresult, hresult']
    refine ⟨?_, ?_, fun hfirst hall hstatus => ⟨?_, ?_⟩⟩
    · rw [CheckRequest.code_result, CheckRequest.code_result]
    · rw [CheckRequest.failure_result, CheckRequest.failure_result]
    · intro hform hform'
      exact CheckRequest.output_prefix hform hform' hfirst hall hstatus
    · intro hform hform' hcode
      have hissues : (schema.verdict payload).issues ≠ [] := by
        intro hnil
        rw [CheckRequest.code_result, if_pos hnil] at hcode
        cases hcode
      exact CheckRequest.prints_first_error hform hform' hfirst hall hstatus hissues

/-- Files with rules for a name and an age, and a payload with an age only. -/
def ageOnly (variableOf : String → Option String) : Surroundings where
  file path :=
    if path = "rules.json" then some nameAndAge.toJson.compact
    else if path = "payload.json" then some (Json.object [("age", .ofNat 5)]).compact
    else none
  input := none
  variableOf := variableOf
  filterOf? := LogFilter.ofLevelName?

/-- An environment without variables. -/
def bare : Surroundings := ageOnly fun _ => none

/-- An environment with a status that is none. -/
def teapot : Surroundings :=
  ageOnly fun name => if name = "PARAMGUARD_STATUS" then some "teapot" else none

theorem reaches_of_bare :
    CheckRequest.Reaches { rules := "rules.json", payload := "payload.json" } bare
      nameAndAge (.object [("age", .ofNat 5)]) := by
  have hinput : ¬CheckRequest.TakesBothFromInput
      { rules := "rules.json", payload := "payload.json" } := by
    unfold CheckRequest.TakesBothFromInput
    decide
  have hrules : Schema.ofText? nameAndAge.toJson.compact = some nameAndAge := by
    have hlegible : nameAndAge.toJson.Legible :=
      Schema.legible_toJson (by decide) (by decide +kernel)
    have hread : Schema.ofDescription nameAndAge.toJson = nameAndAge := by
      rw [Schema.ofDescription_toJson_of_isCompiled (by decide) (by decide)]
      rfl
    rw [Schema.ofText?, hlegible.ofString?_compact, if_pos (by decide), Option.map_some, hread]
  have hpayload : Json.ofString? (Json.object [("age", .ofNat 5)]).compact =
      some (.object [("age", .ofNat 5)]) := by
    have hfive : (Json.ofNat 5).Legible := .number (JsonNumber.readsBack_whole (by decide))
    have hlegible : (Json.object [("age", .ofNat 5)]).Legible :=
      .object (by simp) (by simp [hfive])
    rw [hlegible.ofString?_compact, if_pos (by decide)]
  exact ⟨hinput, ⟨_, rfl, hrules⟩, ⟨_, rfl, hpayload⟩⟩

/-- A plain check and one with a verbosity, with all issues and with a status in the
environment that is ignored: both reject the payload, and the first prints the beginning of
what the second prints. -/
theorem ageOnly_results_agree :
    ofArguments ["check", "-r", "rules.json", "--payload", "payload.json"] =
        .run 0 (.check { rules := "rules.json", payload := "payload.json" }) ∧
      ofArguments ["-vv", "check", "--all", "--rules=rules.json", "-ppayload.json"] =
        .run 2 (.check { rules := "rules.json", payload := "payload.json", all := true }) ∧
      bare.HasFilter 0 ∧ teapot.HasFilter 2 ∧ bare.SameInputs teapot ∧
      let plain := (ofArguments
        ["check", "-r", "rules.json", "--payload", "payload.json"]).result bare
      let full := (ofArguments
        ["-vv", "check", "--all", "--rules=rules.json", "-ppayload.json"]).result teapot
      plain.code = 1 ∧ full.code = 1 ∧ plain.output.toList <+: full.output.toList := by
  have hplain : ofArguments ["check", "-r", "rules.json", "--payload", "payload.json"] =
      .run 0 (.check { rules := "rules.json", payload := "payload.json" }) := by
    decide +kernel
  have hfull :
      ofArguments ["-vv", "check", "--all", "--rules=rules.json", "-ppayload.json"] =
        .run 2 (.check { rules := "rules.json", payload := "payload.json", all := true }) := by
    decide +kernel
  have hfilter : bare.HasFilter 0 := by
    unfold Surroundings.HasFilter
    decide +kernel
  have hfilter' : teapot.HasFilter 2 := by
    unfold Surroundings.HasFilter
    decide +kernel
  have hinputs : bare.SameInputs teapot := ⟨rfl, rfl⟩
  obtain ⟨hdecides, hcode, -, houtput⟩ :=
    check_result_depends_on_inputs hplain hfull hfilter hfilter' rfl rfl hinputs
  have hone := hdecides.code_one_iff.mpr ⟨_, _, reaches_of_bare, by decide⟩
  have hstatus : (Settings.ofEnvironment teapot.variableOf).1.status = .unprocessable := by
    decide +kernel
  obtain ⟨htext, -⟩ := houtput rfl rfl hstatus.symm
  exact ⟨hplain, hfull, hfilter, hfilter', hinputs, hone, hcode ▸ hone, htext rfl rfl⟩

end Invocation

end ParamRules
