/-!
# Read errors

The reasons for which a keyword, a pattern or a document that comes from outside is not
taken.  An error keeps the text that was not understood.
-/

namespace ParamRules

/-- Why a piece of input is not taken. -/
inductive ReadError where
  /-- No field type has this tag. -/
  | unknownType (tag : String)
  /-- No status has this name. -/
  | unknownStatus (name : String)
  /-- No surfacing mode has this name. -/
  | unknownSurfacing (name : String)
  /-- The text denotes no regular expression. -/
  | invalidPattern (source : String)
  /-- The text is not JSON of the expected form. -/
  | malformed
deriving DecidableEq

/-- The text of an error. -/
def ReadError.message : ReadError → String
  | .unknownType tag => "unknown value type '" ++ tag ++ "'"
  | .unknownStatus name => "unknown status '" ++ name ++ "'"
  | .unknownSurfacing name => "unknown surfacing mode '" ++ name ++ "'"
  | .invalidPattern source => "invalid format pattern '" ++ source ++ "'"
  | .malformed => "malformed JSON"

end ParamRules
