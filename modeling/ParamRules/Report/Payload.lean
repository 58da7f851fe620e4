import ParamRules.Report.Verdict

/-!
# Payloads

Parameters arrive as a JSON value of any kind, as the fields of an object, or in a keyed
container that lists its entries in an order of its own.  Rules are held against the
fields of an object, into which every container is turned first; a value of another kind
has none.
-/

namespace ParamRules

/-- A container of parameters. -/
inductive Payload where
  /-- A value of any kind. -/
  | value (v : Json)
  /-- The fields of an object. -/
  | object (fields : Json.Fields)
  /-- A hash map, a sorted map or a map in the order of insertion, given by its entries in
  the order in which it lists them. -/
  | keyed (entries : List (String × Json)) (nodup_keys : (entries.map Prod.fst).Nodup)

namespace Payload

/-- The fields that rules are held against. -/
def fields? : Payload → Option Json.Fields
  | .value v => v.fields?
  | .object fields => some fields
  | .keyed entries _ => some (Json.Fields.merge entries)

/-- What the container holds under a key. -/
def get? : Payload → String → Option Json
  | .value v, key => v.fields?.bind fun fields => Json.Fields.get? fields key
  | .object fields, key => Json.Fields.get? fields key
  | .keyed entries _, key => List.lookup key entries

end Payload

/-- The verdict on the parameters in a container. -/
def Schema.verdictOf (schema : Schema) (payload : Payload) : Verdict :=
  if schema.isEmpty then
    .unchecked
  else
    .checked ((schema.visits payload.fields?).flatMap Visit.issues)

/-- The verdict on the parameters in a container, under a schema that may be missing. -/
def Payload.verdictUnder (payload : Payload) : Option Schema → Verdict
  | some schema => schema.verdictOf payload
  | none => .unchecked

theorem Schema.verdictOf_value (schema : Schema) (v : Json) :
    schema.verdictOf (.value v) = schema.verdict v := rfl

end ParamRules
