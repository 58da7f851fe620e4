import Mathlib.Data.List.Nodup
import ParamRules.Proofs.Report.LocationText
import ParamRules.Proofs.Report.Relocation

/-!
# Places of issues

The place of an issue is the text of the location of a breach, and at this location the
payload has the value that the breach is about.  If the fields of a schema are plain, and no
row declares a field twice, places tell locations apart: issues with the same place are
about the same value, and they arise where the same rule is held against the same object.
-/

namespace ParamRules

/-! ## Values at locations -/

/-- The value that a row of steps leads to, if it leads to one. -/
def Json.valueAt? : List Step → Json → Option Json
  | [], v => some v
  | .key name :: rest, .object fields => (Fields.get? fields name).bind (valueAt? rest)
  | .index i :: rest, .array items => items[i]?.bind (valueAt? rest)
  | _, _ => none

theorem Json.valueAt?_append (steps more : List Step) (v : Json) :
    valueAt? (steps ++ more) v = (valueAt? steps v).bind (valueAt? more) := by
  induction steps generalizing v with
  | nil => rfl
  | cons step rest ih =>
      cases step with
      | key name =>
          cases v with
          | object fields =>
              simp only [List.cons_append, valueAt?, Option.bind_assoc]
              exact Option.bind_congr fun inner _ => ih inner
          | null | bool | number | string | array => rfl
      | index i =>
          cases v with
          | array items =>
              simp only [List.cons_append, valueAt?, Option.bind_assoc]
              exact Option.bind_congr fun inner _ => ih inner
          | null | bool | number | string | object => rfl

/-- The value at a location of a payload. -/
def Location.valueIn? (location : Location) (payload : Json) : Option Json :=
  payload.valueAt? location.steps

namespace Location

theorem valueIn?_key {location : Location} {payload : Json} {fields : Json.Fields}
    (h : location.valueIn? payload = some (.object fields)) (name : String) :
    (location.key name).valueIn? payload = Json.Fields.get? fields name := by
  have hobject : Json.valueAt? location.steps payload = some (.object fields) := h
  rw [valueIn?, key, Json.valueAt?_append, hobject]
  exact Option.bind_fun_some _

theorem valueIn?_index {location : Location} {payload : Json} {items : List Json}
    (h : location.valueIn? payload = some (.array items)) (i : Nat) :
    (location.index i).valueIn? payload = items[i]? := by
  have harray : Json.valueAt? location.steps payload = some (.array items) := h
  rw [valueIn?, index, Json.valueAt?_append, harray]
  exact Option.bind_fun_some _

end Location

section Lookup

variable {rules : List FieldRule} {payload : Json}

theorem HoldsObject.valueIn?_eq
    {location inner : Location} {v : Json} {fields : Json.Fields}
    (hholds : HoldsObject location v inner fields)
    (hv : location.valueIn? payload = some v) :
    inner.valueIn? payload = some (.object fields) := by
  cases hholds with
  | object => exact hv
  | item hitem => rw [Location.valueIn?_index hv, hitem]

/-- The location of a visited rule leads to what the container has under the field. -/
theorem Visited.valueIn?_eq
    {rule : FieldRule} {location : Location} {container : Option Json.Fields}
    (hvisited : Visited rules payload.fields? rule location container) :
    location.valueIn? payload =
      container.bind fun fields => Json.Fields.get? fields rule.field := by
  induction hvisited with
  | top =>
      cases payload with
      | object fields =>
          have hroot : Location.root.valueIn? (.object fields) = some (.object fields) := rfl
          exact Location.valueIn?_key hroot _
      | null | bool | number | string | array => rfl
  | nested _ hv hholds _ _ ih =>
      obtain ⟨outer, rfl, hget, -, -⟩ := hv
      have hvalue := hholds.valueIn?_eq (ih.trans hget)
      exact Location.valueIn?_key hvalue _

end Lookup

/-! ## A location and its elements -/

namespace Location

/-- A location, or that of an element of the list there. -/
def IsPartOf (inner location : Location) : Prop :=
  inner = location ∨ ∃ i, inner = location.index i

variable {inner location : Location}

theorem IsPartOf.isPlain (h : inner.IsPartOf location) (hlocation : location.IsPlain) :
    inner.IsPlain := by
  rcases h with rfl | ⟨i, rfl⟩
  · exact hlocation
  · exact hlocation.index i

theorem IsPartOf.ne_root {base : Location} {name : String}
    (h : inner.IsPartOf (base.key name)) : inner ≠ root := by
  rcases h with rfl | ⟨i, rfl⟩
  · simp [key, root]
  · simp [index, root]

/-- A location is that of one field or of an element there, not of two. -/
theorem IsPartOf.unique {base base' : Location} {name name' : String}
    (h : inner.IsPartOf (base.key name)) (h' : inner.IsPartOf (base'.key name')) :
    base.key name = base'.key name' := by
  rcases h with hfield | ⟨i, helement⟩
  · rcases h' with hfield' | ⟨j, helement'⟩
    · exact hfield.symm.trans hfield'
    · exact absurd (hfield.symm.trans helement') key_ne_index
  · rcases h' with hfield' | ⟨j, helement'⟩
    · exact absurd (hfield'.symm.trans helement) key_ne_index
    · exact (index_inj.mp (helement.symm.trans helement')).1

end Location

theorem HoldsObject.isPartOf
    {location inner : Location} {v : Json} {fields : Json.Fields}
    (hholds : HoldsObject location v inner fields) : inner.IsPartOf location := by
  cases hholds with
  | object => exact .inl rfl
  | item => exact .inr ⟨_, rfl⟩

/-- At one location a value holds one object. -/
theorem HoldsObject.fields_unique
    {location inner : Location} {v : Json} {fields fields' : Json.Fields}
    (hholds : HoldsObject location v inner fields)
    (hholds' : HoldsObject location v inner fields') : fields = fields' := by
  cases hholds with
  | object =>
      cases hholds'
      rfl
  | @item items i _ hitem =>
      generalize hinner : location.index i = inner at hholds'
      cases hholds' with
      | item hitem' =>
          obtain ⟨-, rfl⟩ := Location.index_inj.mp hinner
          rw [hitem] at hitem'
          exact Json.object.inj (Option.some.inj hitem')

/-! ## Breaches at locations -/

/-- What a breach says of its location holds of the payload: nothing counts as present there
although the group requires it, or the value there does not satisfy the group. -/
inductive Breach.IsIn (payload : Json) : Breach → Prop
  | missing {location : Location} {group : Constraints}
      (habsent : ∀ v, location.valueIn? payload = some v → v = .null ∨ v = .string "")
      (hrequired : group.required = true) : IsIn payload ⟨location, group, .missing⟩
  | value {location : Location} {group : Constraints} {violation : Violation} {v : Json}
      {type : FieldType} (hv : location.valueIn? payload = some v)
      (hfails : group.FailsOn type v violation) : IsIn payload ⟨location, group, violation⟩

theorem Visit.mem_breaches_iff {visit : Visit} {breach : Breach} :
    breach ∈ visit.breaches ↔
      visit.rule.field ≠ "" ∧ ∃ group ∈ visit.rule.groups,
        breach ∈ group.breaches visit.rule.type visit.location visit.value? := by
  unfold breaches
  by_cases hfield : visit.rule.field = ""
  · simp [FieldRule.isInert, hfield]
  · have hinert : visit.rule.isInert = false := by
      simpa [FieldRule.isInert] using hfield
    simp [hinert, hfield]

/-- A breach of a group is at the location of the field or of an element of the list
there. -/
theorem Constraints.isPartOf_of_mem_breaches
    {group : Constraints} {type : FieldType} {location : Location} {v? : Option Json}
    {breach : Breach} (hbreach : breach ∈ group.breaches type location v?) :
    breach.location.IsPartOf location := by
  rcases mem_breaches_iff.mp hbreach with hmissing | hvalue | helement
  · obtain ⟨-, -, rfl⟩ := hmissing
    exact .inl rfl
  · obtain ⟨_, _, -, -, rfl⟩ := hvalue
    exact .inl rfl
  · obtain ⟨_, _, i, _, _, -, -, -, -, -, rfl⟩ := helement
    exact .inr ⟨i, rfl⟩

namespace Schema

variable {schema : Schema} {payload : Json}

theorem mem_breaches_iff {breach : Breach} :
    breach ∈ schema.breaches payload ↔
      ∃ visit ∈ schema.visits payload.fields?, breach ∈ visit.breaches :=
  List.mem_flatMap

theorem visited_of_mem_visits {visit : Visit} (hvisit : visit ∈ schema.visits payload.fields?)
    (hfield : visit.rule.field ≠ "") :
    Visited schema.rules payload.fields? visit.rule visit.location visit.container :=
  visited_iff_mem_visitsOfAll.mpr ⟨hfield, visit.base, rfl, hvisit⟩

/-- Every breach that is found is one at its location of the payload. -/
theorem isIn_of_mem_breaches {breach : Breach} (hbreach : breach ∈ schema.breaches payload) :
    breach.IsIn payload := by
  obtain ⟨visit, hvisit, hmem⟩ := mem_breaches_iff.mp hbreach
  obtain ⟨hfield, group, -, hgroup⟩ := Visit.mem_breaches_iff.mp hmem
  have hvalue := (visited_of_mem_visits hvisit hfield).valueIn?_eq
  have hpresent {v : Json} (hv : visit.value? = some v) :
      visit.location.valueIn? payload = some v := by
    obtain ⟨fields, hcontainer, hget, -⟩ := presentValue?_eq_some_iff.mp hv
    rw [hvalue, hcontainer]
    exact hget
  rcases Constraints.mem_breaches_iff.mp hgroup with hmissing | hown | helement
  · obtain ⟨hnone, hrequired, rfl⟩ := hmissing
    refine .missing ?_ hrequired
    intro v hv
    rw [hvalue] at hv
    obtain ⟨fields, hcontainer, hget⟩ := Option.bind_eq_some_iff.mp hv
    by_contra hpresent
    rw [not_or] at hpresent
    exact presentValue?_eq_none_iff.mp hnone v ⟨fields, hcontainer, hget, hpresent⟩
  · obtain ⟨v, violation, hv, hfails, rfl⟩ := hown
    exact .value (hpresent hv) hfails
  · obtain ⟨items, element, i, item, violation, hv, -, -, hitem, hfails, rfl⟩ := helement
    have hindex := Location.valueIn?_index (hpresent hv) i
    exact .value (hindex.trans hitem) hfails

end Schema

/-! ## Schemas with plain fields -/

/-- The field of a rule and those of the rules nested in it are plain, and no field is
declared twice in one row. -/
inductive FieldRule.HasPlainFields : FieldRule → Prop
  | intro {rule : FieldRule} (hname : IsPlainName rule.field)
      (hnodup : (fieldsOf rule.nested).Nodup)
      (hnested : ∀ child ∈ rule.nested, child.HasPlainFields) : HasPlainFields rule

/-- All fields of a schema are plain, and no row below the top declares one twice; the row
at the top never does. -/
def Schema.HasPlainFields (schema : Schema) : Prop :=
  ∀ rule ∈ schema.rules, rule.HasPlainFields

section Plain

variable {schema : Schema} {payload : Option Json.Fields}

theorem Visited.exists_key
    {rule : FieldRule} {location : Location} {container : Option Json.Fields}
    (hvisited : Visited schema.rules payload rule location container) :
    ∃ base : Location, location = base.key rule.field := by
  cases hvisited with
  | top => exact ⟨_, rfl⟩
  | nested => exact ⟨_, rfl⟩

theorem Visited.hasPlainFields
    (hplain : schema.HasPlainFields)
    {rule : FieldRule} {location : Location} {container : Option Json.Fields}
    (hvisited : Visited schema.rules payload rule location container) :
    rule.HasPlainFields ∧ location.IsPlain := by
  induction hvisited with
  | @top rule hrule hfield =>
      obtain ⟨hname, hnodup, hnested⟩ := hplain rule hrule
      have hroot : Location.root.IsPlain := fun _ hstep => nomatch hstep
      exact ⟨.intro hname hnodup hnested, hroot.key hname⟩
  | @nested rule child location inner container v fields _ hv hholds hchild hfield ih =>
      obtain ⟨⟨-, -, hnested⟩, hlocation⟩ := ih
      obtain ⟨hname, hnodup, hbelow⟩ := hnested child hchild
      have hinner : inner.IsPlain := hholds.isPartOf.isPlain hlocation
      exact ⟨.intro hname hnodup hbelow, hinner.key hname⟩

/-- A location is that of one rule, held against one container. -/
theorem Visited.unique
    (hplain : schema.HasPlainFields)
    {rule other : FieldRule} {location : Location} {container container' : Option Json.Fields}
    (hvisited : Visited schema.rules payload rule location container)
    (hother : Visited schema.rules payload other location container') :
    rule = other ∧ container = container' := by
  -- the second location is kept apart, so that the two ways to visit can be compared
  generalize hlocation : location = location' at hother
  induction hvisited generalizing other location' container' with
  | @top rule hrule hfield =>
      cases hother with
      | top hrule' hfield' =>
          obtain ⟨-, hname⟩ := Location.key_inj.mp hlocation
          exact ⟨List.inj_on_of_nodup_map schema.nodup_fields hrule hrule' hname, rfl⟩
      | nested hparent _ hholds _ _ =>
          obtain ⟨hroot, -⟩ := Location.key_inj.mp hlocation
          obtain ⟨base, rfl⟩ := hparent.exists_key
          exact absurd hroot.symm hholds.isPartOf.ne_root
  | @nested rule child location inner container v fields hparent hv hholds hchild hfield ih =>
      obtain ⟨base, rfl⟩ := hparent.exists_key
      cases hother with
      | top hrule' hfield' =>
          obtain ⟨hroot, -⟩ := Location.key_inj.mp hlocation
          exact absurd hroot hholds.isPartOf.ne_root
      | nested hparent' hv' hholds' hchild' hfield' =>
          obtain ⟨rfl, hname⟩ := Location.key_inj.mp hlocation
          obtain ⟨base', rfl⟩ := hparent'.exists_key
          have hlocations := hholds.isPartOf.unique hholds'.isPartOf
          obtain ⟨rfl, rfl⟩ := ih _ hlocations hparent'
          rw [← hlocations] at hholds'
          obtain rfl := hv.unique hv'
          obtain ⟨⟨-, hnodup, -⟩, -⟩ := hparent.hasPlainFields hplain
          have hchildren := List.inj_on_of_nodup_map hnodup hchild hchild' hname
          exact ⟨hchildren, congrArg some (hholds.fields_unique hholds')⟩

end Plain

theorem Visit.eq_of_location_eq
    {schema : Schema} (hplain : schema.HasPlainFields) {payload : Json} {visit other : Visit}
    (hvisit : visit ∈ schema.visits payload.fields?)
    (hother : other ∈ schema.visits payload.fields?)
    (hfield : visit.rule.field ≠ "") (hfield' : other.rule.field ≠ "")
    (h : visit.location = other.location) : visit = other := by
  have hvisited := Schema.visited_of_mem_visits hvisit hfield
  have hvisited' := Schema.visited_of_mem_visits hother hfield'
  rw [← h] at hvisited'
  obtain ⟨hrule, hcontainer⟩ := hvisited.unique hplain hvisited'
  obtain ⟨hbase, -⟩ := Location.key_inj.mp h
  obtain ⟨rule, base, container⟩ := visit
  obtain ⟨rule', base', container'⟩ := other
  simp only at hrule hbase hcontainer
  rw [hrule, hbase, hcontainer]

/-- Issues with the same place come from breaches at the same location, found at the same
visit. -/
theorem Schema.eq_of_place_eq
    {schema : Schema} (hplain : schema.HasPlainFields) {payload : Json} {visit other : Visit}
    (hvisit : visit ∈ schema.visits payload.fields?)
    (hother : other ∈ schema.visits payload.fields?)
    {breach breach' : Breach} (hbreach : breach ∈ visit.breaches)
    (hbreach' : breach' ∈ other.breaches) (h : breach.issue.place = breach'.issue.place) :
    breach.location = breach'.location ∧ visit = other := by
  obtain ⟨hfield, group, -, hgroup⟩ := Visit.mem_breaches_iff.mp hbreach
  obtain ⟨hfield', group', -, hgroup'⟩ := Visit.mem_breaches_iff.mp hbreach'
  obtain ⟨-, hlocation⟩ := (visited_of_mem_visits hvisit hfield).hasPlainFields hplain
  obtain ⟨-, hlocation'⟩ := (visited_of_mem_visits hother hfield').hasPlainFields hplain
  have hpart := Constraints.isPartOf_of_mem_breaches hgroup
  have hpart' := Constraints.isPartOf_of_mem_breaches hgroup'
  have hsame : breach.location = breach'.location :=
    Location.eq_of_text_eq (hpart.isPlain hlocation) (hpart'.isPlain hlocation') h
  rw [← hsame] at hpart'
  have hvisits : visit.location = other.location := hpart.unique hpart'
  exact ⟨hsame, Visit.eq_of_location_eq hplain hvisit hother hfield hfield' hvisits⟩

/-- Locations with plain keys have texts of their own.  So in a report of a schema with plain
fields, issues with the same place report breaches at the same location, where the payload
has the value they are about, and the same rule found them in the same object. -/
theorem places_identify_locations :
    (∀ a b : Location, a.IsPlain → b.IsPlain → (a.text = b.text ↔ a = b)) ∧
    ∀ schema : Schema, schema.HasPlainFields → ∀ payload : Json,
      (schema.verdict payload).issues = (schema.breaches payload).map Breach.issue ∧
      (∀ breach ∈ schema.breaches payload, breach.IsIn payload) ∧
      ∀ visit ∈ schema.visits payload.fields?, ∀ other ∈ schema.visits payload.fields?,
        ∀ breach ∈ visit.breaches, ∀ breach' ∈ other.breaches,
          breach.issue.place = breach'.issue.place →
            breach.location = breach'.location ∧ visit = other := by
  constructor
  · intro a b ha hb
    constructor
    · exact Location.eq_of_text_eq ha hb
    · exact congrArg Location.text
  · intro schema hplain payload
    refine ⟨(schema.map_issue_breaches payload).symm, ?_, ?_⟩
    · intro breach hbreach
      exact Schema.isIn_of_mem_breaches hbreach
    · intro visit hvisit other hother breach hbreach breach' hbreach' hplace
      exact Schema.eq_of_place_eq hplain hvisit hother hbreach hbreach' hplace

/-- Members of a staff, each of whom is asked for a name by two groups. -/
def namedStaff : Schema where
  rules :=
    [{ field := "staff", type := .list
       nested := [{ field := "name", type := .text
                    groups := [{ required := true },
                      { required := true, message := some "no name" }] }] }]
  nodup_fields := by decide

theorem hasPlainFields_namedStaff : namedStaff.HasPlainFields := by
  intro rule hrule
  cases List.mem_singleton.mp hrule
  refine .intro (by decide) (by decide) ?_
  intro child hchild
  cases List.mem_singleton.mp hchild
  refine .intro (by decide) (by decide) ?_
  intro _ hnone
  cases hnone

/-- Both issues about a member without a name are about one location, the only one with
plain keys that has this text. -/
theorem namedStaff_places_identify_locations :
    let payload : Json := .object [("staff", .array [.object []])]
    let location := ((Location.root.key "staff").index 0).key "name"
    location.IsPlain ∧ namedStaff.HasPlainFields ∧
      (namedStaff.verdict payload).issues =
        [⟨"staff[0].name", .missing, "Parameter staff[0].name is required"⟩,
          ⟨"staff[0].name", .missing, "no name"⟩] ∧
      (∀ visit ∈ namedStaff.visits payload.fields?,
        ∀ other ∈ namedStaff.visits payload.fields?,
        ∀ breach ∈ visit.breaches, ∀ breach' ∈ other.breaches,
          breach.location = breach'.location ∧ visit = other) ∧
      ∀ other : Location, other.IsPlain → other.text = "staff[0].name" → other = location := by
  intro payload location
  have hroot : Location.root.IsPlain := fun _ hstep => nomatch hstep
  have hlocation : location.IsPlain := ((hroot.key (by decide)).index 0).key (by decide)
  have hissues : (namedStaff.verdict payload).issues =
      [⟨"staff[0].name", .missing, "Parameter staff[0].name is required"⟩,
        ⟨"staff[0].name", .missing, "no name"⟩] := by decide
  obtain ⟨hmap, -, hsame⟩ :=
    places_identify_locations.2 namedStaff hasPlainFields_namedStaff payload
  have hplace : ∀ visit ∈ namedStaff.visits payload.fields?, ∀ breach ∈ visit.breaches,
      breach.issue.place = "staff[0].name" := by
    intro visit hvisit breach hbreach
    have hmem : breach.issue ∈ (namedStaff.verdict payload).issues := by
      rw [hmap]
      exact List.mem_map_of_mem (Schema.mem_breaches_iff.mpr ⟨visit, hvisit, hbreach⟩)
    rw [hissues] at hmem
    rcases List.mem_cons.mp hmem with heq | hmem
    · rw [heq]
    · rw [List.mem_singleton.mp hmem]
  refine ⟨hlocation, hasPlainFields_namedStaff, hissues, ?_, ?_⟩
  · intro visit hvisit other hother breach hbreach breach' hbreach'
    have h := (hplace visit hvisit breach hbreach).trans
      (hplace other hother breach' hbreach').symm
    exact hsame visit hvisit other hother breach hbreach breach' hbreach' h
  · intro other hother htext
    have hsameText : other.text = location.text := by
      rw [htext]
      decide
    exact (places_identify_locations.1 other location hother hlocation).mp hsameText

end ParamRules
