import ParamRules.Command.Run
import ParamRules.Proofs.Schema.Canonical

/-!
# Inspected rules

The text that an inspection prints is a description of the same schema, and checking with
it in place of the original rules gives the same result.  This fails in one case only: the
printed form nests deeper than the reader allows.  Since it nests at most one level deeper
than the original, that takes an original at the very limit.
-/

namespace ParamRules

namespace Schema

/-- Reads the text of a description. -/
def ofText? (text : String) : Option Schema :=
  (Json.ofString? text).map ofDescription

theorem ofText?_eq_some
    {text : String} {schema : Schema} (h : ofText? text = some schema) :
    ∃ description, Json.ofString? text = some description ∧
      schema = ofDescription description := by
  obtain ⟨description, hread, heq⟩ := Option.map_eq_some_iff.mp h
  exact ⟨description, hread, heq.symm⟩

section Printed

variable {description : Json}

theorem legible_toJson_ofDescription
    (hreads : (ofDescription description).allLimits Quantity.readsBack = true) :
    (ofDescription description).toJson.Legible :=
  legible_toJson (allLimits_ofDescription description) hreads

/-- A text that is read as the description of a schema, if it nests no deeper than
allowed, is read as the schema itself under the same condition. -/
theorem ofText?_of_ofString?
    {text : String}
    (h : Json.ofString? text =
      if (ofDescription description).toJson.depth ≤ Json.nestingLimit then
        some (ofDescription description).toJson
      else none) :
    ofText? text =
      if (ofDescription description).toJson.depth ≤ Json.nestingLimit then
        some (ofDescription description)
      else none := by
  rw [ofText?, h]
  split
  · rw [Option.map_some, ofDescription_toJson_ofDescription]
  · rfl

end Printed

end Schema

/-! ## Runs with other rules -/

/-- The exit codes and the printed texts are the same. -/
def RunResult.Agrees (a b : RunResult) : Prop :=
  a.code = b.code ∧ a.output = b.output

theorem Surroundings.readRules_of_ofText?
    {around : Surroundings} {path text : String} {schema : Schema}
    (hread : around.read path = .ok text) (h : Schema.ofText? text = some schema) :
    ∃ events, around.readRules path = .ok (schema, events) := by
  obtain ⟨description, hdescription, rfl⟩ := Schema.ofText?_eq_some h
  refine ⟨(Schema.readDescription description).2 ++
    [.rulesLoaded path (Schema.ofDescription description).size], ?_⟩
  simp only [readRules, hread, bind, Except.bind, hdescription]
  rfl

namespace Action

variable {around : Surroundings} {schema : Schema} {events : List Event}

theorem output_inspect
    {path : String} (h : around.readRules path = .ok (schema, events)) :
    ((inspect path).run around).output = schema.toJson.pretty ++ "\n" := by
  rw [run, h]

/-- Only the log tells which file the rules of a check came from. -/
theorem run_check_of_readRules
    {request : CheckRequest} {saved : String} {events' : List Event}
    (hrules : isStandardInput request.rules = false)
    (hsaved : isStandardInput saved = false)
    (h : around.readRules request.rules = .ok (schema, events))
    (h' : around.readRules saved = .ok (schema, events')) :
    ((check { request with rules := saved }).run around).Agrees
      ((check request).run around) := by
  simp only [run, hrules, hsaved, Bool.false_and, Bool.false_eq_true, if_false, h, h']
  cases around.readPayload request.payload with
  | error failure => exact ⟨rfl, rfl⟩
  | ok payload => exact ⟨rfl, rfl⟩

end Action

theorem Invocation.agrees_result_run
    {around : Surroundings} {first second : Action} (verbosity : Nat)
    (h : (first.run around).Agrees (second.run around)) :
    (result around (.run verbosity first)).Agrees
      (result around (.run verbosity second)) := by
  simp only [result]
  cases around.filterOf? (LogFilter.requested verbosity around.variableOf) with
  | none => exact ⟨rfl, rfl⟩
  | some filter => exact h

namespace Schema

/-- What is printed of a schema that was read nests at most one level deeper than what it
was read from.  It is read as the same schema exactly if it nests no deeper than allowed,
and then a check with the inspected rules ends like the check with the original ones. -/
theorem inspected_rules_read_back
    {text : String} {schema : Schema} (hread : ofText? text = some schema)
    (hreads : schema.allLimits Quantity.readsBack = true) :
    (∃ description, Json.ofString? text = some description ∧
      schema.toJson.depth ≤ description.depth + 1) ∧
    (ofText? schema.toJson.compact =
      if schema.toJson.depth ≤ Json.nestingLimit then some schema else none) ∧
    (ofText? schema.toJson.pretty =
      if schema.toJson.depth ≤ Json.nestingLimit then some schema else none) ∧
    (schema.toJson.depth ≤ Json.nestingLimit →
      ∀ (around : Surroundings) (verbosity : Nat) (request : CheckRequest)
        (saved : String),
        isStandardInput request.rules = false → isStandardInput saved = false →
        around.read request.rules = .ok text →
        around.read saved = .ok ((Action.inspect request.rules).run around).output →
        (Invocation.result around
            (.run verbosity (.check { request with rules := saved }))).Agrees
          (Invocation.result around (.run verbosity (.check request)))) := by
  obtain ⟨description, hdescription, rfl⟩ := ofText?_eq_some hread
  have hlegible := legible_toJson_ofDescription hreads
  refine ⟨⟨description, hdescription, depth_toJson_ofDescription_le description⟩,
    ofText?_of_ofString? hlegible.ofString?_compact,
    ofText?_of_ofString? hlegible.ofString?_pretty, ?_⟩
  intro hdepth around verbosity request saved hrules hsaved horiginal hinspected
  obtain ⟨events, hfirst⟩ := Surroundings.readRules_of_ofText? horiginal hread
  -- what the file holds is the printed form with a line feed
  have hprinted : ofText? ((ofDescription description).toJson.pretty ++ "\n") =
      some (ofDescription description) := by
    rw [ofText?_of_ofString? hlegible.ofString?_prettyLine, if_pos hdepth]
  rw [Action.output_inspect hfirst] at hinspected
  obtain ⟨events', hsecond⟩ := Surroundings.readRules_of_ofText? hinspected hprinted
  exact Invocation.agrees_result_run verbosity
    (Action.run_check_of_readRules hrules hsaved hfirst hsecond)

/-! ## Rules at the limit -/

/-- One half. -/
def half : FiniteBinary64 := ⟨false, Nat.pow 2 1073, by decide +kernel⟩

/-- A list type, nested so many times, around numbers from one half on. -/
def nestedElement : Nat → Json
  | 0 => .object [("type", .string "decimal"), ("min", .number (.decimal half))]
  | n + 1 => .object [("type", .string "list"), ("element", nestedElement n)]

/-- The description of one rule, whose only group stands alone. -/
def nestedRules (n : Nat) : Json :=
  .array [.object [("field", .string "rows"), ("type", .string "list"),
    ("opts", .object [("element", nestedElement n)])]]

theorem legible_nestedElement (n : Nat) : (nestedElement n).Legible := by
  induction n with
  | zero =>
      have hhalf : (JsonNumber.decimal half).ReadsBack := by decide +kernel
      refine .object (by decide) ?_
      simp [Json.Legible.string, Json.Legible.number hhalf]
  | succ n ih =>
      refine .object (by simp) ?_
      simp [Json.Legible.string, ih]

theorem legible_nestedRules (n : Nat) : (nestedRules n).Legible := by
  have hopts : (Json.object [("element", nestedElement n)]).Legible :=
    .object (by simp) (by simp [legible_nestedElement])
  refine .array (List.forall_mem_singleton.mpr (.object (by simp) ?_))
  simp [Json.Legible.string, hopts]

theorem depth_nestedElement (n : Nat) : (nestedElement n).depth = n + 1 := by
  induction n with
  | zero => rfl
  | succ n ih => simp [nestedElement, Json.fieldsDepth, Json.depth, ih]

theorem depth_nestedRules (n : Nat) : (nestedRules n).depth = n + 4 := by
  simp [nestedRules, Json.itemsDepth, Json.fieldsDepth, Json.depth, depth_nestedElement]

theorem ofText?_compact_nestedRules {n : Nat} (h : n + 4 ≤ Json.nestingLimit) :
    ofText? (nestedRules n).compact = some (ofDescription (nestedRules n)) := by
  rw [ofText?, (legible_nestedRules n).ofString?_compact, depth_nestedRules, if_pos h,
    Option.map_some]

/-- A description of the greatest depth is read, but what is printed of its schema is
not: the list around the only group makes it too deep. -/
theorem inspected_nestedRules_refused :
    ofText? (nestedRules 123).compact = some (ofDescription (nestedRules 123)) ∧
      (ofDescription (nestedRules 123)).allLimits Quantity.readsBack = true ∧
      ofText? (ofDescription (nestedRules 123)).toJson.compact = none ∧
      ofText? (ofDescription (nestedRules 123)).toJson.pretty = none := by
  have hreads : (ofDescription (nestedRules 123)).allLimits Quantity.readsBack = true := by
    decide +kernel
  have hlegible := legible_toJson_ofDescription hreads
  have hdeep : ¬(ofDescription (nestedRules 123)).toJson.depth ≤ Json.nestingLimit := by
    decide +kernel
  refine ⟨ofText?_compact_nestedRules (by decide), hreads, ?_, ?_⟩
  · rw [ofText?_of_ofString? hlegible.ofString?_compact, if_neg hdeep]
  · rw [ofText?_of_ofString? hlegible.ofString?_pretty, if_neg hdeep]

/-- Files with the rules, with what an inspection prints of them, and with an empty
payload. -/
def inspectedFiles (n : Nat) : Surroundings where
  file path :=
    if path = "rules.json" then some (nestedRules n).compact
    else if path = "inspected.json" then
      some ((ofDescription (nestedRules n)).toJson.pretty ++ "\n")
    else some "\x7b\x7d"
  input := none
  variableOf _ := none
  filterOf? := LogFilter.ofLevelName?

theorem inspected_nestedRules_read_back :
    ofText? (nestedRules 2).compact = some (ofDescription (nestedRules 2)) ∧
      (ofDescription (nestedRules 2)).allLimits Quantity.readsBack = true ∧
      ofText? (ofDescription (nestedRules 2)).toJson.pretty =
        some (ofDescription (nestedRules 2)) ∧
      (Invocation.result (inspectedFiles 2)
          (.run 0 (.check { rules := "inspected.json", payload := "payload.json" }))).Agrees
        (Invocation.result (inspectedFiles 2)
          (.run 0 (.check { rules := "rules.json", payload := "payload.json" }))) := by
  have hread : ofText? (nestedRules 2).compact = some (ofDescription (nestedRules 2)) :=
    ofText?_compact_nestedRules (by decide)
  have hreads : (ofDescription (nestedRules 2)).allLimits Quantity.readsBack = true := by
    decide +kernel
  have hdepth : (ofDescription (nestedRules 2)).toJson.depth ≤ Json.nestingLimit := by
    decide +kernel
  obtain ⟨-, -, hpretty, hcheck⟩ := inspected_rules_read_back hread hreads
  have hrules : (inspectedFiles 2).read "rules.json" = .ok (nestedRules 2).compact := rfl
  obtain ⟨events, hevents⟩ := Surroundings.readRules_of_ofText? hrules hread
  refine ⟨hread, hreads, by rw [hpretty, if_pos hdepth], ?_⟩
  refine hcheck hdepth (inspectedFiles 2) 0 { rules := "rules.json", payload := "payload.json" }
    "inspected.json" rfl rfl hrules ?_
  rw [Action.output_inspect hevents]
  rfl

end Schema

end ParamRules
