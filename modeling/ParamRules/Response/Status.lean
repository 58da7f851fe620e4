import ParamRules.Json.Concrete
import ParamRules.ReadError
import ParamRules.Text.Blank

/-!
# Statuses and surfacing modes

A rejected payload gets a response with a status; the surfacing mode says how many of
the issues the response shows.  In settings both are keywords, read up to blanks around
them and the case of their letters.  In JSON they are strings, read exactly, or objects
whose only key is such a string and whose value is `null`.
-/

namespace ParamRules

/-- The status of the response to a rejected payload. -/
inductive ResponseStatus where
  | unprocessable
  | badRequest
  | unauthorized
  | forbidden
  | notFound
  | conflict
  | internal
deriving DecidableEq, Repr

/-- How many issues of a rejected payload are shown. -/
inductive SurfacingMode where
  /-- The first one. -/
  | first
  | all
deriving DecidableEq, Repr

namespace ResponseStatus

/-- Every status. -/
def all : List ResponseStatus :=
  [.unprocessable, .badRequest, .unauthorized, .forbidden, .notFound, .conflict, .internal]

/-- The symbol of a status. -/
def symbol : ResponseStatus → String
  | .unprocessable => "unprocessable_entity"
  | .badRequest => "bad_request"
  | .unauthorized => "unauthorized"
  | .forbidden => "forbidden"
  | .notFound => "not_found"
  | .conflict => "conflict"
  | .internal => "internal_server_error"

/-- The number of a status. -/
def code : ResponseStatus → Nat
  | .unprocessable => 422
  | .badRequest => 400
  | .unauthorized => 401
  | .forbidden => 403
  | .notFound => 404
  | .conflict => 409
  | .internal => 500

/-- The short name that some statuses have besides their symbol. -/
def shortName? : ResponseStatus → Option String
  | .unprocessable => some "unprocessable"
  | .internal => some "internal"
  | _ => none

/-- The status with this symbol or short name. -/
def ofName? (name : String) : Option ResponseStatus :=
  all.find? fun status => status.symbol == name || status.shortName? == some name

/-- Reads a status from a setting: a name or a number. -/
def ofSetting (text : String) : Except ReadError ResponseStatus :=
  let name := Text.keyword text
  match ofName? name <|> all.find? fun status => Nat.repr status.code == name with
  | some status => .ok status
  | none => .error (.unknownStatus name)

theorem ofName?_symbol (status : ResponseStatus) : ofName? status.symbol = some status := by
  cases status <;> decide

end ResponseStatus

namespace SurfacingMode

/-- The name of a mode. -/
def name : SurfacingMode → String
  | .first => "first"
  | .all => "all"

/-- The mode with a name. -/
def ofName? (name : String) : Option SurfacingMode :=
  if name = "first" then some .first
  else if name = "all" then some .all
  else none

/-- Reads a mode from a setting. -/
def ofSetting (text : String) : Except ReadError SurfacingMode :=
  let name := Text.keyword text
  match ofName? name with
  | some mode => .ok mode
  | none => .error (.unknownSurfacing name)

theorem ofName?_name (mode : SurfacingMode) : ofName? mode.name = some mode := by
  cases mode <;> decide

end SurfacingMode

/-- Reads a choice by name from JSON. -/
def choiceOf? {α : Type} (ofName? : String → Option α) : Json.Concrete → Option α
  | .text (some name) => ofName? name
  | .object [(some name, .null)] => ofName? name
  | _ => none

/-- Reads a status from JSON text. -/
def ResponseStatus.ofJsonText? (text : String) : Option ResponseStatus :=
  (Json.Concrete.ofString? text).bind (choiceOf? ofName?)

end ParamRules
