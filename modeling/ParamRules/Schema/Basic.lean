import ParamRules.Schema.FieldRule

/-!
# Schemas

A schema is a row of rules for distinct fields, in the order in which the fields were
first declared.  A rule for a field that is declared already takes the place of the old
rule; any other rule goes last.  So a schema is a map from fields to rules that also
remembers an order.
-/

namespace ParamRules

namespace FieldRule

/-- The rule for a field. -/
def find? (rules : List FieldRule) (field : String) : Option FieldRule :=
  rules.find? fun rule => rule.field == field

/-- Puts a rule in the place of the one for the same field, or last. -/
def insertInto (rule : FieldRule) : List FieldRule → List FieldRule
  | [] => [rule]
  | other :: rest =>
      if other.field = rule.field then rule :: rest else other :: rule.insertInto rest

/-- Puts a rule in the place of the one for the same field, or last, and hands out the rule
that stood there. -/
def exchangeIn (rule : FieldRule) : List FieldRule → Option FieldRule × List FieldRule
  | [] => (none, [rule])
  | other :: rest =>
      if other.field = rule.field then
        (some other, rule :: rest)
      else
        let (old?, rules) := rule.exchangeIn rest
        (old?, other :: rules)

/-- The fields of a row of rules. -/
def fieldsOf (rules : List FieldRule) : List String :=
  rules.map (·.field)

theorem fieldsOf_insertInto (rule : FieldRule) (rules : List FieldRule) :
    fieldsOf (rule.insertInto rules) =
      if rule.field ∈ fieldsOf rules then fieldsOf rules
      else fieldsOf rules ++ [rule.field] := by
  induction rules with
  | nil => simp [insertInto, fieldsOf]
  | cons other rest ih =>
    by_cases h : other.field = rule.field
    · simp [insertInto, fieldsOf, h]
    · have h' : ¬rule.field = other.field := fun e => h e.symm
      have hcons : fieldsOf (other :: rest) = other.field :: fieldsOf rest := rfl
      rw [insertInto, if_neg h, hcons]
      change other.field :: fieldsOf (rule.insertInto rest) = _
      rw [ih]
      by_cases hm : rule.field ∈ fieldsOf rest
      · simp [hm]
      · simp [hm, h']

theorem nodup_fieldsOf_insertInto (rule : FieldRule) {rules : List FieldRule}
    (h : (fieldsOf rules).Nodup) : (fieldsOf (rule.insertInto rules)).Nodup := by
  rw [fieldsOf_insertInto]
  split
  · exact h
  · rename_i hn
    rw [List.nodup_append]
    refine ⟨h, by simp, ?_⟩
    intro a ha b hb
    rw [List.mem_singleton] at hb
    subst hb
    exact fun e => hn (e ▸ ha)

theorem find?_cons (rule : FieldRule) (rest : List FieldRule) (field : String) :
    find? (rule :: rest) field =
      if rule.field = field then some rule else find? rest field := by
  by_cases h : rule.field = field <;> simp [find?, h]

theorem find?_insertInto (rule : FieldRule) (rules : List FieldRule) (field : String) :
    find? (rule.insertInto rules) field =
      if rule.field = field then some rule else find? rules field := by
  induction rules with
  | nil => rw [insertInto, find?_cons]
  | cons other rest ih =>
    by_cases h : other.field = rule.field
    · rw [insertInto, if_pos h, find?_cons, find?_cons, h]
      split <;> rfl
    · rw [insertInto, if_neg h, find?_cons, find?_cons, ih]
      by_cases hf : rule.field = field
      · subst hf
        simp [h]
      · simp [hf]

/-- The rule that is handed out is the one that was found before. -/
theorem exchangeIn_eq (rule : FieldRule) (rules : List FieldRule) :
    rule.exchangeIn rules = (find? rules rule.field, rule.insertInto rules) := by
  induction rules with
  | nil => rfl
  | cons other rest ih =>
    by_cases h : other.field = rule.field
    · rw [exchangeIn, if_pos h, find?_cons, if_pos h, insertInto, if_pos h]
    · rw [exchangeIn, if_neg h, ih, find?_cons, if_neg h, insertInto, if_neg h]

end FieldRule

/-- Rules for distinct fields, in the order of their first declaration. -/
structure Schema where
  rules : List FieldRule
  /-- No two rules are for the same field. -/
  nodup_fields : (FieldRule.fieldsOf rules).Nodup := by simp [FieldRule.fieldsOf]

namespace Schema

/-- The schema without rules. -/
def empty : Schema := ⟨[], by simp [FieldRule.fieldsOf]⟩

instance : Inhabited Schema := ⟨empty⟩

/-- The fields in the order of their first declaration. -/
def fields (schema : Schema) : List String :=
  FieldRule.fieldsOf schema.rules

/-- How many fields are declared. -/
def size (schema : Schema) : Nat :=
  schema.rules.length

/-- Nothing is declared. -/
def isEmpty (schema : Schema) : Bool :=
  schema.rules.isEmpty

/-- The rule for a field. -/
def get? (schema : Schema) (field : String) : Option FieldRule :=
  FieldRule.find? schema.rules field

/-- Adds a rule, in the place of the one for the same field if there is one. -/
def insert (schema : Schema) (rule : FieldRule) : Schema :=
  ⟨rule.insertInto schema.rules, rule.nodup_fieldsOf_insertInto schema.nodup_fields⟩

/-- Adds a rule in the same way, and hands out the rule whose place it takes. -/
def exchange (schema : Schema) (rule : FieldRule) : Option FieldRule × Schema :=
  ((rule.exchangeIn schema.rules).1,
    { rules := (rule.exchangeIn schema.rules).2
      nodup_fields := by
        rw [rule.exchangeIn_eq]
        exact rule.nodup_fieldsOf_insertInto schema.nodup_fields })

/-- Adds a row of rules, each in the place of an earlier one for the same field. -/
def ofRules (rules : List FieldRule) : Schema :=
  rules.foldl insert empty

/-- The same rules for the same fields, whatever their order. -/
def equals (a b : Schema) : Bool :=
  a.size == b.size && a.rules.all fun rule => (b.get? rule.field).any (rule == ·)

/-- Equality of schemas as maps. -/
instance : BEq Schema := ⟨equals⟩

/-- The description of a schema. -/
def toJson (schema : Schema) : Json :=
  .array (schema.rules.map FieldRule.toJson)

theorem get?_insert (schema : Schema) (rule : FieldRule) (field : String) :
    (schema.insert rule).get? field =
      if rule.field = field then some rule else schema.get? field :=
  rule.find?_insertInto schema.rules field

theorem fields_insert (schema : Schema) (rule : FieldRule) :
    (schema.insert rule).fields =
      if rule.field ∈ schema.fields then schema.fields
      else schema.fields ++ [rule.field] :=
  rule.fieldsOf_insertInto schema.rules

theorem exchange_eq (schema : Schema) (rule : FieldRule) :
    schema.exchange rule = (schema.get? rule.field, schema.insert rule) := by
  simp only [exchange, rule.exchangeIn_eq]
  rfl

end Schema

end ParamRules
