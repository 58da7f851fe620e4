import ParamRules.Proofs.Schema.DescribedDeclarations
import ParamRules.Proofs.Schema.InsertionRuns

/-!
# Scopes of declarations

Each list of nested declarations is a scope of its own.  What it declares is determined by
the scope alone: its fields in the order of their first declaration, each as its last
declaration in the scope has it.  A field that is declared again loses the whole rule that
it had, the nested ones included.
-/

namespace ParamRules

namespace Declaration

/-- The rule is the one that a declaration stands for.  Its nested rules stand in the order
in which their fields are first declared, each for the last declaration of its field. -/
inductive Declares : Declaration → FieldRule → Prop
  | field {name : String} {type : FieldType} {group : Constraints}
      {nested : List Declaration} {rules : List FieldRule}
      (horder : InFirstMentionOrder (FieldRule.fieldsOf rules) (nested.map Declaration.name))
      (hlast : ∀ rule ∈ rules, ∀ declaration,
        IsLastNamed Declaration.name nested rule.field declaration →
          Declares declaration rule) :
      Declares (.field name type group nested)
        { field := name, type, groups := [group], nested := rules }
  | finished (rule : FieldRule) : Declares (.finished rule) rule

/-- The rules are those that a scope stands for. -/
structure DeclaresAll (scope : List Declaration) (rules : List FieldRule) : Prop where
  fields_inOrder : InFirstMentionOrder (FieldRule.fieldsOf rules) (scope.map name)
  declares_of_last : ∀ rule ∈ rules, ∀ declaration,
    IsLastNamed name scope rule.field declaration → declaration.Declares rule

variable {scope : List Declaration} {rules : List FieldRule} {field : String}
  {declaration : Declaration} {rule : FieldRule}

theorem lastFor?_eq_some_iff :
    lastFor? scope field = some declaration ↔ IsLastNamed name scope field declaration :=
  isLastNamed_iff_find?.symm

theorem declares_field_iff {type : FieldType} {group : Constraints} :
    Declares (.field field type group scope) rule ↔
      rule = { field, type, groups := [group], nested := rule.nested } ∧
        DeclaresAll scope rule.nested := by
  constructor
  · rintro ⟨horder, hlast⟩
    exact ⟨rfl, horder, hlast⟩
  · rintro ⟨hrule, horder, hlast⟩
    rw [hrule]
    exact .field horder hlast

end Declaration

open Declaration

/-! ## One scope -/

namespace FieldRule

/-- Rules with the same fields in the same order are equal if rules for the same field
are. -/
theorem eq_of_fieldsOf_eq
    {rules others : List FieldRule}
    (hfields : fieldsOf rules = fieldsOf others)
    (heq : ∀ rule ∈ rules, ∀ other ∈ others, rule.field = other.field → rule = other) :
    rules = others := by
  apply List.ext_getElem
  · simpa [fieldsOf] using congrArg List.length hfields
  · intro i hi hi'
    apply heq _ (List.getElem_mem hi) _ (List.getElem_mem hi')
    have hfield := congrArg (fun fields => fields[i]?) hfields
    simpa [fieldsOf, hi, hi'] using hfield

end FieldRule

namespace Schema

variable {scope : List Declaration} {rules : List FieldRule}

theorem get?_ofDeclarations (scope : List Declaration) (field : String) :
    (ofDeclarations scope).get? field = (lastFor? scope field).map toRule := by
  rw [ofDeclarations_eq_ofRules, get?_ofRules]
  exact find?_reverse_map field_toRule scope field

/-- A rule of a scope is the one that the last declaration of its field declares. -/
theorem exists_last_of_mem_ofDeclarations
    {rule : FieldRule} (hmem : rule ∈ (ofDeclarations scope).rules) :
    ∃ declaration, IsLastNamed name scope rule.field declaration ∧
      rule = declaration.toRule := by
  have hget : (ofDeclarations scope).get? rule.field = some rule :=
    FieldRule.find?_field_of_mem (ofDeclarations scope).nodup_fields hmem
  rw [get?_ofDeclarations, Option.map_eq_some_iff] at hget
  obtain ⟨declaration, hlast, hrule⟩ := hget
  exact ⟨declaration, lastFor?_eq_some_iff.mp hlast, hrule.symm⟩

theorem toRule_mem_ofDeclarations
    {declaration : Declaration} (hlast : IsLastNamed name scope declaration.name declaration) :
    declaration.toRule ∈ (ofDeclarations scope).rules := by
  apply List.mem_of_find?_eq_some
  change (ofDeclarations scope).get? declaration.name = some declaration.toRule
  rw [get?_ofDeclarations, lastFor?_eq_some_iff.mpr hlast]
  rfl

theorem eq_toRule_of_last
    {rule : FieldRule} {declaration : Declaration}
    (hmem : rule ∈ (ofDeclarations scope).rules)
    (hlast : IsLastNamed name scope rule.field declaration) :
    rule = declaration.toRule := by
  obtain ⟨other, hother, hrule⟩ := exists_last_of_mem_ofDeclarations hmem
  rw [← lastFor?_eq_some_iff] at hother hlast
  rw [hother, Option.some.injEq] at hlast
  rw [hrule, hlast]

theorem fields_ofDeclarations_inOrder (scope : List Declaration) :
    InFirstMentionOrder (ofDeclarations scope).fields (scope.map name) := by
  rw [ofDeclarations_eq_ofRules, ← fieldsOf_map field_toRule]
  exact (isMapOf_ofRules _).fields_inOrder

/-- A scope stands for the rules that are declared in it, if this is so for its members. -/
theorem declaresAll_iff_of_forall_mem
    (hmembers : ∀ declaration ∈ scope, ∀ rule,
      declaration.Declares rule ↔ rule = declaration.toRule) :
    DeclaresAll scope rules ↔ rules = (ofDeclarations scope).rules := by
  have hdeclares {declaration : Declaration} {field : String} {rule : FieldRule}
      (hlast : IsLastNamed name scope field declaration) :
      declaration.Declares rule ↔ rule = declaration.toRule := by
    apply hmembers
    obtain ⟨before, after, rfl, -, -⟩ := hlast
    simp
  constructor
  · -- the order of the fields is determined, so rules are compared field by field
    rintro ⟨horder, hrules⟩
    apply FieldRule.eq_of_fieldsOf_eq (horder.unique (fields_ofDeclarations_inOrder scope))
    intro rule hmem other hmem' hfield
    obtain ⟨declaration, hlast, hother⟩ := exists_last_of_mem_ofDeclarations hmem'
    rw [← hfield] at hlast
    rw [hother, ← hdeclares hlast]
    exact hrules rule hmem declaration hlast
  · rintro rfl
    refine ⟨fields_ofDeclarations_inOrder scope, ?_⟩
    intro rule hmem declaration hlast
    rw [hdeclares hlast]
    exact eq_toRule_of_last hmem hlast

end Schema

/-- A declaration stands for one rule, the one that is made of it. -/
theorem Declaration.declares_iff (declaration : Declaration) (rule : FieldRule) :
    declaration.Declares rule ↔ rule = declaration.toRule := by
  induction declaration using Declaration.induction generalizing rule with
  | field name type group nested ih =>
      rw [declares_field_iff, Schema.declaresAll_iff_of_forall_mem ih, toRule]
      constructor
      · rintro ⟨hrule, hnested⟩
        rw [hrule, hnested]
        rfl
      · rintro rfl
        exact ⟨rfl, rfl⟩
  | finished given =>
      rw [toRule]
      constructor
      · rintro ⟨⟩
        rfl
      · rintro rfl
        exact .finished rule

namespace Schema

theorem declaresAll_iff (scope : List Declaration) (rules : List FieldRule) :
    DeclaresAll scope rules ↔ rules = (ofDeclarations scope).rules :=
  declaresAll_iff_of_forall_mem fun declaration _ => declaration.declares_iff

/-! ## Scopes inside scopes -/

/-- The scopes that are reached through the rules of a declared schema, each with the rules
that are found there. -/
inductive ScopeOf (declarations : List Declaration) :
    List Declaration → List FieldRule → Prop
  | outermost : ScopeOf declarations declarations (ofDeclarations declarations).rules
  | inner {scope nested : List Declaration} {rules : List FieldRule} {rule : FieldRule}
      {name : String} {type : FieldType} {group : Constraints}
      (hscope : ScopeOf declarations scope rules) (hmem : rule ∈ rules)
      (hlast : IsLastNamed Declaration.name scope rule.field (.field name type group nested)) :
      ScopeOf declarations nested rule.nested

theorem ScopeOf.eq_ofDeclarations
    {declarations scope : List Declaration} {rules : List FieldRule}
    (h : ScopeOf declarations scope rules) : rules = (ofDeclarations scope).rules := by
  induction h with
  | outermost => rfl
  | inner hscope hmem hlast ih =>
      rw [ih] at hmem
      rw [eq_toRule_of_last hmem hlast]
      rfl

/-- The scope of each declaration that counts is reached. -/
theorem ScopeOf.nested
    {declarations scope nested : List Declaration} {rules : List FieldRule}
    {name : String} {type : FieldType} {group : Constraints}
    (h : ScopeOf declarations scope rules)
    (hlast : IsLastNamed Declaration.name scope name (.field name type group nested)) :
    ScopeOf declarations nested (ofDeclarations nested).rules := by
  have hmem : (Declaration.field name type group nested).toRule ∈ rules := by
    rw [h.eq_ofDeclarations]
    exact toRule_mem_ofDeclarations hlast
  exact .inner h hmem hlast

/-- Wherever a scope stands, the rules found there are those that it declares on its own in
an empty schema.  No others stand for the scope, and the last declaration of each field is
there as a whole. -/
theorem scope_stands_alone
    {declarations scope : List Declaration} {rules : List FieldRule}
    (h : ScopeOf declarations scope rules) :
    rules = (ofDeclarations scope).rules ∧
      (∀ row, DeclaresAll scope row ↔ row = rules) ∧
      ∀ name type group nested,
        IsLastNamed Declaration.name scope name (.field name type group nested) →
          ({ field := name, type, groups := [group], nested := (ofDeclarations nested).rules } :
            FieldRule) ∈ rules := by
  have hrules : rules = (ofDeclarations scope).rules := h.eq_ofDeclarations
  refine ⟨hrules, ?_, ?_⟩
  · intro row
    rw [hrules]
    exact declaresAll_iff scope row
  · intro name type group nested hlast
    rw [hrules]
    exact toRule_mem_ofDeclarations hlast

/-- The names of a person, where the first name is declared twice. -/
def personNames : List Declaration :=
  [.field "first" .list {} [.field "last" .text {} []], .field "last" .text {} [],
    .field "first" .text { required := true } []]

/-- A person, whose names are declared twice. -/
def person : List Declaration :=
  [.field "names" .text { required := true } [], .field "person" .text {} [],
    .field "names" .object {} personNames]

/-- A person who is declared twice, first with an age, and a field that is named like one
of the person's. -/
def twicePerson : List Declaration :=
  [.field "person" .object { required := true } [.field "age" .wholeNumber {} []],
    .field "names" .text {} [], .field "person" .object {} person]

theorem scopeOf_personNames :
    ScopeOf twicePerson personNames (ofDeclarations personNames).rules := by
  have hperson : IsLastNamed name twicePerson "person" (.field "person" .object {} person) :=
    lastFor?_eq_some_iff.mp rfl
  have hnames : IsLastNamed name person "names" (.field "names" .object {} personNames) :=
    lastFor?_eq_some_iff.mp rfl
  exact (ScopeOf.outermost.nested hperson).nested hnames

theorem personNames_stand_alone :
    ScopeOf twicePerson personNames (ofDeclarations personNames).rules ∧
      (∀ row, DeclaresAll personNames row ↔ row = (ofDeclarations personNames).rules) ∧
      (ofDeclarations personNames).rules =
        [{ field := "first", type := .text, groups := [{ required := true }] },
          { field := "last", type := .text, groups := [{}] }] ∧
      (ofDeclarations twicePerson).rules.map FieldRule.field = ["person", "names"] :=
  ⟨scopeOf_personNames, (scope_stands_alone scopeOf_personNames).2.1, rfl, rfl⟩

end Schema

end ParamRules
