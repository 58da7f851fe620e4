import ParamRules.Proofs.Report.LocationText
import ParamRules.Proofs.Report.RuleReports

/-!
# Reports on elements

What a group states for the elements of a list is held against each element as a field of
that type would be: the issues at the place of an element are those of a field there with
the one group.  Only absence is another matter.  A field may lack a value, an element cannot:
`null` is a value of no type, and the empty string is a text of length zero.
-/

namespace ParamRules

/-! ## One element of a list -/

/-- Of what is contributed by the items of a row, a condition that tells the numbers of the
items apart selects the contribution of one item. -/
theorem filter_flatMap_zipIdx
    {α β : Type} {items : List α} {item : α} {i : Nat} {f : α → Nat → List β} {p : β → Bool}
    (hitem : items[i]? = some item) (hown : ∀ y ∈ f item i, p y = true)
    (hother : ∀ x j, j ≠ i → ∀ y ∈ f x j, p y = false) :
    (items.zipIdx.flatMap fun (x, j) => f x j).filter p = f item i := by
  have hmem : (item, i) ∈ items.zipIdx := List.mem_zipIdx_iff_getElem?.mpr hitem
  obtain ⟨front, rest, hsplit⟩ := List.append_of_mem hmem
  have hordered := pairwise_zipIdx_snd items
  rw [hsplit, List.pairwise_append, List.pairwise_cons] at hordered
  obtain ⟨-, ⟨hrest, -⟩, hfront⟩ := hordered
  have hnone {entries : List (α × Nat)} (hne : ∀ entry ∈ entries, entry.2 ≠ i) :
      entries.flatMap (fun entry => (f entry.1 entry.2).filter p) = [] := by
    rw [List.flatMap_eq_nil_iff]
    intro entry hentry
    rw [List.filter_eq_nil_iff]
    intro y hy
    simp [hother entry.1 entry.2 (hne entry hentry) y hy]
  have hfrontNone := hnone fun entry hentry =>
    Nat.ne_of_lt (hfront entry hentry (item, i) List.mem_cons_self)
  have hrestNone := hnone fun entry hentry => Nat.ne_of_gt (hrest entry hentry)
  have hkept : (f item i).filter p = f item i := List.filter_eq_self.mpr hown
  rw [List.filter_flatMap, hsplit, List.flatMap_append, List.flatMap_cons, hfrontNone,
    hrestNone, hkept, List.nil_append, List.append_nil]

/-- The issues of a value with what is stated for elements. -/
def Typed.issuesOf (element : Typed Constraints) (place : String) (item : Json) :
    List Issue :=
  (element.constraints.violations element.type item).map (element.constraints.issue place)

theorem Typed.place_of_mem_issuesOf
    {element : Typed Constraints} {place : String} {item : Json} {issue : Issue}
    (hissue : issue ∈ element.issuesOf place item) : issue.place = place := by
  obtain ⟨violation, -, rfl⟩ := List.mem_map.mp hissue
  rfl

/-- An element is never reported as missing. -/
theorem Typed.kind_of_mem_issuesOf
    {element : Typed Constraints} {place : String} {item : Json} {issue : Issue}
    (hissue : issue ∈ element.issuesOf place item) : issue.kind ≠ .missing := by
  obtain ⟨violation, hviolation, rfl⟩ := List.mem_map.mp hissue
  have hfails := Constraints.mem_violations_iff.mp hviolation
  change violation.kind ≠ .missing
  cases hfails <;> exact nofun

namespace Constraints

/-! ## Values that count as absent -/

theorem violations_null (group : Constraints) (type : FieldType) :
    group.violations type .null = [.wrongType type] := by
  have htype : type.accepts .null = false := by cases type <;> rfl
  simp [violations, htype]

theorem violations_empty_of_ne_text
    (group : Constraints) {type : FieldType} (htext : type ≠ .text) :
    group.violations type (.string "") = [.wrongType type] := by
  have htype : type.accepts (.string "") = false := by
    cases type with
    | text => exact absurd rfl htext
    | date | timestamp => decide
    | wholeNumber | decimal | boolean | object | list => rfl
  simp [violations, htype]

/-- What a group finds wrong with the empty string as a text: its length is zero, it need
not match the pattern, and it is blank. -/
def emptyTextViolations (group : Constraints) : List Violation :=
  ((group.min.filter fun min => (Quantity.whole 0).isBelow min).map .belowMin).toList ++
    ((group.max.filter fun max => (Quantity.whole 0).isAbove max).map .aboveMax).toList ++
    ((group.format.filter fun pattern => !pattern.isMatch "").map fun _ => .badFormat).toList ++
    if group.notBlank then [.blank] else []

theorem violations_text_empty (group : Constraints) :
    group.violations .text (.string "") = group.emptyTextViolations := by
  have hlimit (limit : Limit) : group.limitViolation? limit .text (.string "") =
      ((limit.of group).filter fun bound => limit.refuses bound (.whole 0)).map
        limit.violation := by
    unfold limitViolation?
    cases limit.of group with
    | none => rfl
    | some bound =>
        by_cases hrefuses : limit.refuses bound (.whole 0) = true <;>
          simp [FieldType.quantity?, Option.filter_some, hrefuses]
  have hformat : group.formatViolation? (.string "") =
      (group.format.filter fun pattern => !pattern.isMatch "").map fun _ => .badFormat := by
    cases hpattern : group.format with
    | none => simp [formatViolation?, hpattern]
    | some pattern =>
        by_cases hmatch : pattern.isMatch "" = true <;>
          simp [formatViolation?, hpattern, Option.filter_some, hmatch]
  have hblank : (group.blankViolation? (.string "")).toList =
      if group.notBlank then [.blank] else [] := by
    by_cases hban : group.notBlank = true <;>
      simp [blankViolation?, hban, Text.allBlank_empty]
  have htype : FieldType.text.accepts (.string "") = true := rfl
  rw [violations, if_pos htype, valueViolations, hlimit, hlimit, hformat, hblank]
  rfl

/-! ## Fields with one group -/

/-- The group without what it says of absence and of elements. -/
def forOneValue (group : Constraints) : Constraints :=
  { group with required := false, element := .none }

theorem issues_forOneValue
    (element : Typed Constraints) (location : Location) (item : Json) :
    element.constraints.forOneValue.issues element.type location (some item) =
      element.issuesOf location.text item := by
  have hissue : element.constraints.forOneValue.issue = element.constraints.issue := rfl
  have hviolations : element.constraints.forOneValue.violations element.type item =
      element.constraints.violations element.type item := rfl
  have hnone : element.constraints.forOneValue.elementIssues location item = [] := rfl
  change element.constraints.forOneValue.presentIssues element.type location item = _
  rw [presentIssues, hissue, hviolations, hnone, ite_self, List.append_nil]
  rfl

end Constraints

/-- A field for a value with what is stated for elements. -/
def Typed.asField (element : Typed Constraints) (field : String) : FieldRule where
  field := field
  type := element.type
  groups := [element.constraints.forOneValue]

/-- A field with the one group reports of its value what is reported of an element. -/
theorem Typed.report_asField
    (element : Typed Constraints) {field : String} (hfield : field ≠ "") {base : Location}
    {container : Option Json.Fields} {item : Json} (hv : HasValue container field item) :
    (element.asField field).report base container =
      element.issuesOf (base.key field).text item := by
  have hname : (element.asField field).field ≠ "" := hfield
  have hvalue : presentValue? container (element.asField field).field = some item :=
    presentValue?_eq_some_iff.mpr hv
  have hown : (element.asField field).ownReport (base.key field) (some item) =
      element.issuesOf (base.key field).text item := by
    rw [← Constraints.issues_forOneValue]
    exact List.append_nil _
  rw [FieldRule.report_of_field_ne hname, hvalue]
  change (element.asField field).ownReport (base.key field) (some item) ++
    (FieldRule.nestedObjects (base.key field) (some item)).flatMap (fun _ => []) = _
  rw [hown, List.flatMap_eq_nil_iff.mpr fun _ _ => rfl, List.append_nil]

/-- So does a schema with only that field. -/
theorem Typed.issues_verdict_asField
    (element : Typed Constraints) {field : String} (hfield : field ≠ "") {item : Json}
    (hnull : item ≠ .null) (hempty : item ≠ .string "") :
    ((Schema.ofRules [element.asField field]).verdict (.object [(field, item)])).issues =
      element.issuesOf field item := by
  have hv : HasValue (some [(field, item)]) field item :=
    ⟨_, rfl, by simp [Json.Fields.get?_cons], hnull, hempty⟩
  have hreport : (element.asField field).report .root (some [(field, item)]) =
      element.issuesOf (Location.root.key field).text item :=
    element.report_asField hfield hv
  rw [Location.text_root_key] at hreport
  rw [Schema.issues_verdict, Schema.issues, Schema.visits, FieldRule.flatMap_issues_visitsOfAll,
    ← hreport]
  exact List.append_nil _

namespace Constraints

/-- The issues of a group with a list are those of the list itself and, in order, those of
each element. -/
theorem issues_list
    {group : Constraints} {element : Typed Constraints}
    (helement : group.element = some element) (location : Location) (items : List Json) :
    group.issues .list location (some (.array items)) =
      (group.valueViolations .list (.array items)).map (group.issue location.text) ++
        items.zipIdx.flatMap fun (item, i) =>
          element.issuesOf (location.index i).text item := by
  have htype : FieldType.list.accepts (.array items) = true := rfl
  have helements : group.elementIssues location (.array items) =
      items.zipIdx.flatMap fun (item, i) =>
        element.issuesOf (location.index i).text item := by
    unfold elementIssues
    rw [helement]
    rfl
  change group.presentIssues .list location (.array items) = _
  rw [presentIssues, violations, if_pos htype, if_pos htype, helements]

/-- The issues with the place of an element are those of the element. -/
theorem filter_issues_list
    {group : Constraints} {element : Typed Constraints}
    (helement : group.element = some element) (location : Location) {items : List Json}
    {i : Nat} {item : Json} (hitem : items[i]? = some item) :
    (group.issues .list location (some (.array items))).filter
        (fun issue => issue.place = (location.index i).text) =
      element.issuesOf (location.index i).text item := by
  have hlist : ((group.valueViolations .list (.array items)).map
      (group.issue location.text)).filter
        (fun issue => issue.place = (location.index i).text) = [] := by
    rw [List.filter_eq_nil_iff]
    intro issue hissue hplace
    obtain ⟨violation, -, rfl⟩ := List.mem_map.mp hissue
    exact location.text_index_ne i (of_decide_eq_true hplace).symm
  rw [issues_list helement, List.filter_append, hlist, List.nil_append]
  apply filter_flatMap_zipIdx (f := fun item j => element.issuesOf (location.index j).text item)
    hitem
  · intro issue hissue
    exact decide_eq_true (Typed.place_of_mem_issuesOf hissue)
  · intro other j hj issue hissue
    rw [Typed.place_of_mem_issuesOf hissue, decide_eq_false_iff_not]
    exact fun h => hj (Location.text_index_inj.mp h)

/-- A group reports of the elements of a list what a field with the one group would report
of the same value at the same place, and so does a schema with only that field.  The values
that no field can have are the exception: `null` is of the wrong type, and so is the empty
string, except for a text, of which it is one without characters. -/
theorem element_report_is_field_report
    {group : Constraints} {element : Typed Constraints}
    (helement : group.element = some element) (location : Location) (items : List Json) :
    let report := group.issues .list location (some (.array items))
    let checks := element.constraints
    report = (group.valueViolations .list (.array items)).map (group.issue location.text) ++
        (items.zipIdx.flatMap fun (item, i) =>
          element.issuesOf (location.index i).text item) ∧
      ∀ i item, items[i]? = some item →
        let place := (location.index i).text
        let recorded := report.filter fun issue => issue.place = place
        (∀ field base container, field ≠ "" → (base.key field).text = place →
          HasValue container field item →
            recorded = (element.asField field).report base container) ∧
        (item ≠ .null → item ≠ .string "" →
          recorded = ((Schema.ofRules [element.asField place]).verdict
            (.object [(place, item)])).issues) ∧
        (item = .null → recorded = [checks.issue place (.wrongType element.type)]) ∧
        (item = .string "" → element.type ≠ .text →
          recorded = [checks.issue place (.wrongType element.type)]) ∧
        (item = .string "" → element.type = .text →
          recorded = checks.emptyTextViolations.map (checks.issue place)) ∧
        ∀ issue ∈ recorded, issue.kind ≠ .missing := by
  intro report checks
  refine ⟨issues_list helement location items, ?_⟩
  intro i item hitem place recorded
  have hrecorded : recorded = element.issuesOf place item :=
    filter_issues_list helement location hitem
  refine ⟨?_, ?_, ?_, ?_, ?_, ?_⟩
  · intro field base container hname hplace hv
    rw [hrecorded, element.report_asField hname hv, hplace]
  · intro hnull hempty
    have hname : place ≠ "" := location.text_index_ne_empty i
    rw [hrecorded, element.issues_verdict_asField hname hnull hempty]
  · rintro rfl
    rw [hrecorded, Typed.issuesOf, violations_null]
    rfl
  · rintro rfl htext
    rw [hrecorded, Typed.issuesOf, violations_empty_of_ne_text _ htext]
    rfl
  · rintro rfl htext
    rw [hrecorded, Typed.issuesOf, htext, violations_text_empty]
  · intro issue hissue
    rw [hrecorded] at hissue
    exact Typed.kind_of_mem_issuesOf hissue

/-- Tags of at least two characters, not all of them blank. -/
def tagElement : Typed Constraints where
  type := .text
  constraints := { required := true, min := some (.whole 2), notBlank := true }

/-- Among tags, `null` has the wrong type, the empty string is short and blank but not
missing, and of any other text a field reports the same. -/
theorem tags_reported_as_fields :
    let group : Constraints := { element := some tagElement }
    let report := group.issues .list (Location.root.key "tags")
      (some (.array [.null, .string "", .string "x"]))
    group.element = some tagElement ∧
      (report.filter fun issue => issue.place = "tags[0]") =
        [⟨"tags[0]", .wrongType, "Parameter tags[0] must be of type String"⟩] ∧
      (report.filter fun issue => issue.place = "tags[1]") =
        [⟨"tags[1]", .outOfRange, "Parameter tags[1] must be at least 2"⟩,
          ⟨"tags[1]", .blank, "Parameter tags[1] cannot be blank"⟩] ∧
      (report.filter fun issue => issue.place = "tags[2]") =
        ((Schema.ofRules [tagElement.asField "tags[2]"]).verdict
          (.object [("tags[2]", .string "x")])).issues := by
  intro group report
  have helement : group.element = some tagElement := rfl
  obtain ⟨-, hitems⟩ := element_report_is_field_report helement (Location.root.key "tags")
    [.null, .string "", .string "x"]
  obtain ⟨-, -, hnull, -⟩ := hitems 0 .null rfl
  obtain ⟨-, -, -, -, hempty, -⟩ := hitems 1 (.string "") rfl
  obtain ⟨-, hfield, -⟩ := hitems 2 (.string "x") rfl
  refine ⟨helement, ?_, ?_, ?_⟩
  · exact (hnull rfl).trans (by decide)
  · exact (hempty rfl rfl).trans (by decide)
  · exact hfield (by simp) (by simp)

end Constraints

end ParamRules
