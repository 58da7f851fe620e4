import ParamRules.Proofs.Schema.KeptEntries
import ParamRules.Report.Verdict
import ParamRules.Schema.Declaration

/-!
# Declarations and their descriptions

Rules that are declared one after the other can be described instead, each declaration by
one entry.  At the top both ways treat a repeated field alike: the last rule counts.  Below
the top they do not.  A scope of declarations keeps the last rule for a field, a list of
nested entries keeps all of them.

So the description of declarations is read as the declared schema exactly if no scope
inside the declarations that count declares a field twice.
-/

namespace ParamRules

namespace Declaration

/-- The field that is declared. -/
def name : Declaration → String
  | .field name _ _ _ => name
  | .finished rule => rule.field

mutual

/-- The entry that describes a declaration. -/
def toJson : Declaration → Json
  | .field name type group nested =>
      .object [("field", .string name), ("type", .string type.tag),
        ("opts", .array [group.toJson]), ("items", .array (listToJson nested))]
  | .finished rule => rule.toJson

/-- The entries that describe a row of declarations. -/
def listToJson : List Declaration → List Json
  | [] => []
  | declaration :: rest => declaration.toJson :: listToJson rest

end

mutual

/-- The rule that a declaration would declare if no declaration nested in it replaced an
earlier one. -/
def toFullRule : Declaration → FieldRule
  | .field name type group nested =>
      { field := name, type, groups := [group], nested := toFullRules nested }
  | .finished rule => rule

/-- The rules that a row of declarations would declare if none replaced an earlier one. -/
def toFullRules : List Declaration → List FieldRule
  | [] => []
  | declaration :: rest => declaration.toFullRule :: toFullRules rest

end

/-- A declaration of a named field whose limits can be described and whose patterns were made
from their texts, with nested declarations of the same kind. -/
inductive IsDescribable : Declaration → Prop
  | field {name : String} {type : FieldType} {group : Constraints}
      {nested : List Declaration} (hname : name ≠ "")
      (hlimits : group.allLimits Quantity.isExpressible = true)
      (hpatterns : ∀ p ∈ group.patterns, p.IsCompiled)
      (hnested : ∀ declaration ∈ nested, IsDescribable declaration) :
      IsDescribable (.field name type group nested)

/-- No scope inside a declaration declares a field twice. -/
inductive IsUnrepeated : Declaration → Prop
  | field {name : String} {type : FieldType} {group : Constraints}
      {nested : List Declaration} (hnames : (nested.map Declaration.name).Nodup)
      (hnested : ∀ declaration ∈ nested, IsUnrepeated declaration) :
      IsUnrepeated (.field name type group nested)

/-- The declaration of a field that counts, which is the last one. -/
def lastFor? (declarations : List Declaration) (field : String) : Option Declaration :=
  declarations.reverse.find? fun declaration => declaration.name == field

theorem listToJson_eq_map (declarations : List Declaration) :
    listToJson declarations = declarations.map toJson := by
  induction declarations with
  | nil => rfl
  | cons declaration rest ih => rw [listToJson, ih, List.map_cons]

theorem toFullRules_eq_map (declarations : List Declaration) :
    toFullRules declarations = declarations.map toFullRule := by
  induction declarations with
  | nil => rfl
  | cons declaration rest ih => rw [toFullRules, ih, List.map_cons]

theorem declareAll_eq_foldl (declarations : List Declaration) (scope : Schema) :
    declareAll declarations scope = (declarations.map toRule).foldl Schema.insert scope := by
  induction declarations generalizing scope with
  | nil => rfl
  | cons declaration rest ih => rw [declareAll, ih, List.map_cons, List.foldl_cons]

theorem field_toRule (declaration : Declaration) :
    declaration.toRule.field = declaration.name := by
  cases declaration <;> rfl

theorem field_toFullRule (declaration : Declaration) :
    declaration.toFullRule.field = declaration.name := by
  cases declaration <;> rfl

theorem fieldsOf_map
    {rule : Declaration → FieldRule}
    (hfield : ∀ declaration, (rule declaration).field = declaration.name)
    (declarations : List Declaration) :
    FieldRule.fieldsOf (declarations.map rule) = declarations.map name := by
  rw [FieldRule.fieldsOf, List.map_map]
  exact List.map_congr_left fun declaration _ => hfield declaration

theorem find?_reverse_map
    {rule : Declaration → FieldRule}
    (hfield : ∀ declaration, (rule declaration).field = declaration.name)
    (declarations : List Declaration) (field : String) :
    FieldRule.find? (declarations.map rule).reverse field =
      (lastFor? declarations field).map rule := by
  have hpredicate : (fun rule : FieldRule => rule.field == field) ∘ rule =
      fun declaration => declaration.name == field :=
    funext fun declaration => by rw [Function.comp_apply, hfield]
  rw [FieldRule.find?, ← List.map_reverse, List.find?_map, lastFor?, hpredicate]

/-! ## Reading the description -/

theorem filterMap_keptRule?_map_toJson
    {declarations : List Declaration}
    (h : ∀ declaration ∈ declarations,
      FieldRule.keptRule? declaration.toJson = some declaration.toFullRule) :
    (declarations.map toJson).filterMap FieldRule.keptRule? =
      declarations.map toFullRule := by
  rw [List.filterMap_map]
  calc
    declarations.filterMap (FieldRule.keptRule? ∘ toJson) =
        declarations.filterMap (some ∘ toFullRule) := List.filterMap_congr h
    _ = declarations.map toFullRule := by rw [List.filterMap_eq_map]

/-- The entry for a declaration is read with all nested declarations, repeated ones
included. -/
theorem keptRule?_toJson {declaration : Declaration} (h : declaration.IsDescribable) :
    FieldRule.keptRule? declaration.toJson = some declaration.toFullRule := by
  induction h with
  | @field name type group nested hname hlimits hpatterns hnested ih =>
      let fields : Json.Fields :=
        [("field", .string name), ("type", .string type.tag),
          ("opts", .array [group.toJson]), ("items", .array (listToJson nested))]
      have hgroups : Constraints.readGroups fields = .ok [group] := by
        have hgroup : group.IsReadable :=
          ⟨hlimits, fun p hp => (hpatterns p hp).isReadable⟩
        change [group.toJson].mapM Constraints.ofDescription = _
        rw [List.mapM_cons, Constraints.ofDescription_toJson hgroup,
          Constraints.recompiled_eq_self hpatterns]
        rfl
      have hown : (EntryReading.ofFields fields).rule? =
          some { field := name, type, groups := [group] } :=
        FieldRule.rule?_ofFields_eq_some_iff.mpr
          ⟨name, type.tag, type, [group], rfl, hname, rfl, FieldType.ofTag_tag type, hgroups,
            rfl⟩
      have hitems : FieldRule.itemsOf fields = nested.map toJson := listToJson_eq_map nested
      rw [toJson, toFullRule, FieldRule.keptRule?_object, hown, hitems,
        filterMap_keptRule?_map_toJson ih, toFullRules_eq_map]
      rfl

/-! ## Repeated declarations -/

/-- The rules of a scope are the rules declared in it if no field is declared twice, and
otherwise they are fewer. -/
theorem rules_declareAll_eq_iff (declarations : List Declaration) :
    (declareAll declarations .empty).rules = declarations.map toRule ↔
      (declarations.map name).Nodup := by
  rw [← fieldsOf_map field_toRule]
  constructor
  · intro h
    rw [← h]
    exact Schema.nodup_fields _
  · intro h
    rw [declareAll_eq_foldl]
    exact Schema.rules_foldl_insert h

/-- The description of a declaration says what the declaration does exactly if no field is
declared twice inside it. -/
theorem toFullRule_eq_toRule_iff {declaration : Declaration} (h : declaration.IsDescribable) :
    declaration.toFullRule = declaration.toRule ↔ declaration.IsUnrepeated := by
  induction h with
  | @field name type group nested hname hlimits hpatterns hnested ih =>
      have hsplit : (Declaration.field name type group nested).toFullRule =
            (Declaration.field name type group nested).toRule ↔
          nested.map toFullRule = (declareAll nested .empty).rules := by
        rw [toFullRule, toRule, toFullRules_eq_map, FieldRule.mk.injEq]
        simp
      rw [hsplit]
      constructor
      · intro heq
        have hnames : (nested.map Declaration.name).Nodup := by
          rw [← fieldsOf_map field_toFullRule, heq]
          exact Schema.nodup_fields _
        rw [(rules_declareAll_eq_iff nested).mpr hnames] at heq
        refine .field hnames fun declaration hmem => (ih declaration hmem).mp ?_
        exact List.map_inj_left.mp heq declaration hmem
      · rintro ⟨hnames, hunrepeated⟩
        rw [(rules_declareAll_eq_iff nested).mpr hnames]
        exact List.map_congr_left fun declaration hmem =>
          (ih declaration hmem).mpr (hunrepeated declaration hmem)

end Declaration

namespace Schema

open Declaration

theorem ofDeclarations_eq_ofRules (declarations : List Declaration) :
    ofDeclarations declarations = ofRules (declarations.map toRule) :=
  declareAll_eq_foldl declarations .empty

theorem ofDescription_map_toJson
    {declarations : List Declaration}
    (h : ∀ declaration ∈ declarations, declaration.IsDescribable) :
    ofDescription (.array (declarations.map Declaration.toJson)) =
      ofRules (declarations.map toFullRule) := by
  have hentries : entries? (.array (declarations.map Declaration.toJson)) =
      some (declarations.map Declaration.toJson) := rfl
  rw [ofDescription_eq_ofRules hentries, filterMap_keptRule?_map_toJson fun declaration hmem =>
    keptRule?_toJson (h declaration hmem)]

/-- The description of declarations is read as the declared schema if and only if no scope
inside the declarations that count declares a field twice. -/
theorem ofDescription_eq_ofDeclarations_iff
    {declarations : List Declaration}
    (h : ∀ declaration ∈ declarations, declaration.IsDescribable) :
    ofDescription (.array (declarations.map Declaration.toJson)) =
        ofDeclarations declarations ↔
      ∀ field declaration, lastFor? declarations field = some declaration →
        declaration.IsUnrepeated := by
  rw [ofDescription_map_toJson h, ofDeclarations_eq_ofRules]
  have hlast {field : String} {declaration : Declaration}
      (hlastFor : lastFor? declarations field = some declaration) :
      declaration.toFullRule = declaration.toRule ↔ declaration.IsUnrepeated :=
    toFullRule_eq_toRule_iff
      (h declaration (List.mem_reverse.mp (List.mem_of_find?_eq_some hlastFor)))
  constructor
  · intro heq field declaration hlastFor
    have hget := congrArg (Schema.get? · field) heq
    simp only [get?_ofRules, find?_reverse_map field_toFullRule,
      find?_reverse_map field_toRule, hlastFor, Option.map_some, Option.some.injEq] at hget
    exact (hlast hlastFor).mp hget
  · intro hunrepeated
    apply ext_fields_get?
    · rw [fields_ofRules, fields_ofRules, fieldsOf_map field_toFullRule,
        fieldsOf_map field_toRule]
    · intro field
      rw [get?_ofRules, get?_ofRules, find?_reverse_map field_toFullRule,
        find?_reverse_map field_toRule]
      cases hlastFor : lastFor? declarations field with
      | none => rfl
      | some declaration =>
          exact congrArg some ((hlast hlastFor).mpr (hunrepeated field declaration hlastFor))

/-- A user whose name is declared as text and then as a whole number. -/
def repeatedName : List Declaration :=
  [.field "user" .object {}
    [.field "name" .text {} [], .field "name" .wholeNumber {} []]]

theorem isDescribable_of_mem_repeatedName :
    ∀ declaration ∈ repeatedName, declaration.IsDescribable := by
  intro declaration hmem
  obtain rfl := List.mem_singleton.mp hmem
  refine .field (by decide) rfl (fun _ h => nomatch h) fun nested hnested => ?_
  rcases List.mem_pair.mp hnested with rfl | rfl <;>
    exact .field (by decide) rfl (fun _ h => nomatch h) fun _ h => nomatch h

/-- Declared, the name is a whole number; described, it is text and a whole number. -/
theorem ofDescription_repeatedName_ne :
    ofDescription (.array (repeatedName.map Declaration.toJson)) ≠
        ofDeclarations repeatedName ∧
      ((ofDeclarations repeatedName).verdict
        (.object [("user", .object [("name", .ofNat 5)])])).issues = [] ∧
      ((ofDescription (.array (repeatedName.map Declaration.toJson))).verdict
        (.object [("user", .object [("name", .ofNat 5)])])).issues =
        [⟨"user.name", .wrongType, "Parameter user.name must be of type String"⟩] := by
  refine ⟨?_, by decide, by decide⟩
  intro heq
  have hunrepeated := (ofDescription_eq_ofDeclarations_iff isDescribable_of_mem_repeatedName).mp
    heq "user" _ rfl
  cases hunrepeated with
  | field hnames => exact absurd hnames (by decide)

end Schema

end ParamRules
