import ParamRules.Schema.Declaration

/-!
# Induction over nested data

Values, groups of constraints, rules and declarations contain rows of their own kind.  The
principles below hand out the induction hypothesis for each member of such a row,
so that proofs need no second motive for the row itself.
-/

namespace ParamRules

/-- Induction over a value, through the items of arrays and the fields of objects. -/
@[elab_as_elim]
theorem Json.induction {motive : Json → Prop}
    (null : motive .null) (bool : ∀ b, motive (.bool b))
    (number : ∀ n, motive (.number n)) (string : ∀ s, motive (.string s))
    (array : ∀ items : List Json, (∀ v ∈ items, motive v) → motive (.array items))
    (object : ∀ fields : List (String × Json),
      (∀ entry ∈ fields, motive entry.2) → motive (.object fields))
    (v : Json) : motive v :=
  @Json.rec motive (fun items => ∀ v ∈ items, motive v)
    (fun fields => ∀ entry ∈ fields, motive entry.2) (fun entry => motive entry.2)
    null bool number string array object
    (fun _ h => nomatch h) (fun _ _ hv ih => List.forall_mem_cons.mpr ⟨hv, ih⟩)
    (fun _ h => nomatch h) (fun _ _ hv ih => List.forall_mem_cons.mpr ⟨hv, ih⟩)
    (fun _ _ hv => hv) v

/-- Induction over a group, through what it states for elements. -/
@[elab_as_elim]
theorem Constraints.induction {motive : Constraints → Prop}
    (step : ∀ group : Constraints,
      (∀ element, group.element = some element → motive element.constraints) →
        motive group)
    (group : Constraints) : motive group :=
  @Constraints.rec motive
    (fun element? => ∀ element, element? = some element → motive element.constraints)
    (fun element => motive element.constraints)
    (fun _ _ _ _ _ _ _ ih => step _ ih)
    (fun _ h => nomatch h) (fun _ ih _ h => Option.some.inj h ▸ ih)
    (fun _ _ ih => ih) group

/-- Induction over a rule, through the rules nested in it. -/
@[elab_as_elim]
theorem FieldRule.induction {motive : FieldRule → Prop}
    (step : ∀ rule : FieldRule,
      (∀ child ∈ rule.nested, motive child) → motive rule)
    (rule : FieldRule) : motive rule :=
  @FieldRule.rec motive (fun rules => ∀ child ∈ rules, motive child)
    (fun _ _ _ _ ih => step _ ih)
    (fun _ h => nomatch h) (fun _ _ hrule ih => List.forall_mem_cons.mpr ⟨hrule, ih⟩)
    rule

/-- Induction over a declaration, through the declarations nested in it. -/
@[elab_as_elim]
theorem Declaration.induction {motive : Declaration → Prop}
    (field : ∀ (name : String) (type : FieldType) (group : Constraints)
      (nested : List Declaration), (∀ child ∈ nested, motive child) →
        motive (.field name type group nested))
    (finished : ∀ rule, motive (.finished rule))
    (declaration : Declaration) : motive declaration :=
  @Declaration.rec motive (fun declarations => ∀ child ∈ declarations, motive child)
    field finished
    (fun _ h => nomatch h)
    (fun _ _ hdeclaration ih => List.forall_mem_cons.mpr ⟨hdeclaration, ih⟩)
    declaration

end ParamRules
