import ParamRules.Response.Settings

/-!
# Command lines

A command line names one of two actions, each with options of its own, and may ask for
more log lines anywhere.  Options have a long and mostly a short form; short ones can be
written in one cluster.  The value of an option is attached to it or stands in the next
argument, where it may begin with a hyphen only if it is nothing else.

The first fault of a command line decides that it is refused, except that a request for
the version or for help is answered as soon as it is reached.
-/

namespace ParamRules

/-- The form in which a result is printed. -/
inductive PrintForm where
  | text
  | json
deriving DecidableEq, Repr

/-- What is asked of a check of a payload. -/
structure CheckRequest where
  rules : String
  payload : String := "-"
  all : Bool := false
  format : PrintForm := .text
  status : Option ResponseStatus := none
deriving DecidableEq

/-- What is to be done. -/
inductive Action where
  /-- Hold a payload against rules. -/
  | check (request : CheckRequest)
  /-- Print rules as they were understood. -/
  | inspect (rules : String)
deriving DecidableEq

/-- What a command line asks for. -/
inductive Invocation where
  /-- Do something with a verbosity. -/
  | run (verbosity : Nat) (action : Action)
  /-- Print the version. -/
  | version
  /-- Print a help text. -/
  | help
  /-- The command line is malformed. -/
  | refused
deriving DecidableEq

namespace Arguments

/-- The options that a command line can give after the action. -/
inductive OptionName where
  | rules
  | payload
  | all
  | format
  | status
  | verbose
  | help
deriving DecidableEq

/-- Which action the options are for. -/
inductive ActionName where
  | check
  | inspect
deriving DecidableEq

namespace OptionName

/-- The option takes a value. -/
def takesValue : OptionName → Bool
  | .rules | .payload | .format | .status => true
  | .all | .verbose | .help => false

/-- The option with a long name. -/
def ofLong? (action : ActionName) (name : String) : Option OptionName :=
  match name, action with
  | "rules", _ => some .rules
  | "verbose", _ => some .verbose
  | "help", _ => some .help
  | "payload", .check => some .payload
  | "all", .check => some .all
  | "format", .check => some .format
  | "status", .check => some .status
  | _, _ => none

/-- The option with a short name. -/
def ofShort? (action : ActionName) (letter : Char) : Option OptionName :=
  match letter, action with
  | 'r', _ => some .rules
  | 'v', _ => some .verbose
  | 'h', _ => some .help
  | 'p', .check => some .payload
  | 'f', .check => some .format
  | _, _ => none

end OptionName

/-- The options given so far. -/
structure Given where
  rules : Option String := none
  payload : Option String := none
  all : Bool := false
  format : Option PrintForm := none
  status : Option ResponseStatus := none
  verbosity : Nat := 0

/-- Why reading a command line ends early. -/
inductive Stop where
  | help
  | refused

namespace Given

/-- Sets an option that must not be set yet. -/
def once {α : Type} (old : Option α) (new : Option α) : Except Stop (Option α) :=
  match old, new with
  | none, some value => .ok (some value)
  | _, _ => .error .refused

/-- A path, which must not be empty. -/
def path? (value : String) : Option String :=
  if value = "" then none else some value

/-- The form with a name. -/
def format? (value : String) : Option PrintForm :=
  if value = "text" then some .text
  else if value = "json" then some .json
  else none

/-- Gives an option with its value. -/
def setValue (given : Given) (name : OptionName) (value : String) : Except Stop Given :=
  match name with
  | .rules => (once given.rules (path? value)).map fun rules => { given with rules }
  | .payload => (once given.payload (path? value)).map fun payload => { given with payload }
  | .format => (once given.format (format? value)).map fun format => { given with format }
  | .status =>
      (once given.status (ResponseStatus.ofSetting value).toOption).map fun status =>
        { given with status }
  | _ => .error .refused

/-- Gives an option that has no value. -/
def setFlag (given : Given) (name : OptionName) : Except Stop Given :=
  match name with
  | .verbose => .ok { given with verbosity := given.verbosity + 1 }
  | .all => if given.all then .error .refused else .ok { given with all := true }
  | .help => .error .help
  | _ => .error .refused

end Given

/-- The options given and, if the last one still waits for its value, that option. -/
abbrev Progress := Given × Option OptionName

/-- Reads a cluster of short options. -/
def readCluster (action : ActionName) (given : Given) : List Char → Except Stop Progress
  | [] => .ok (given, none)
  | letter :: rest =>
      match OptionName.ofShort? action letter with
      | none => .error .refused
      | some name =>
          if name.takesValue then
            match rest with
            | [] => .ok (given, some name)
            | '=' :: value =>
                (given.setValue name (String.ofList value)).map fun given => (given, none)
            | value =>
                (given.setValue name (String.ofList value)).map fun given => (given, none)
          else
            (given.setFlag name).bind fun given => readCluster action given rest

/-- Reads a long option behind its hyphens. -/
def readLong (action : ActionName) (given : Given) (cs : List Char) :
    Except Stop Progress :=
  match OptionName.ofLong? action (String.ofList (cs.takeWhile (· != '='))) with
  | none => .error .refused
  | some name =>
      match cs.dropWhile (· != '='), name.takesValue with
      | [], true => .ok (given, some name)
      | [], false => (given.setFlag name).map fun given => (given, none)
      | _ :: value, true =>
          (given.setValue name (String.ofList value)).map fun given => (given, none)
      | _ :: _, false => .error .refused

/-- Reads the arguments after the action.  A lone `--` at the end is allowed. -/
def readOptions (action : ActionName) : Progress → List String → Except Stop Given
  | (given, none), [] => .ok given
  | (_, some _), [] => .error .refused
  | (given, some name), argument :: rest =>
      if argument.toList.head? = some '-' ∧ argument ≠ "-" then
        .error .refused
      else
        (given.setValue name argument).bind fun given =>
          readOptions action (given, none) rest
  | (given, none), argument :: rest =>
      match argument.toList with
      | '-' :: '-' :: [] => if rest.isEmpty then .ok given else .error .refused
      | '-' :: '-' :: cs =>
          (readLong action given cs).bind fun progress => readOptions action progress rest
      | '-' :: c :: cs =>
          (readCluster action given (c :: cs)).bind fun progress =>
            readOptions action progress rest
      | _ => .error .refused

/-- The action that the options ask for, which needs rules. -/
def action? (name : ActionName) (given : Given) : Option Action :=
  given.rules.map fun rules =>
    match name with
    | .inspect => .inspect rules
    | .check =>
        .check
          { rules
            payload := given.payload.getD "-"
            all := given.all
            format := given.format.getD .text
            status := given.status }

/-- Reads an action with its options; a verbosity given there counts alone. -/
def readAction (outer : Nat) (name : ActionName) (arguments : List String) : Invocation :=
  match readOptions name ({}, none) arguments with
  | .error .help => .help
  | .error .refused => .refused
  | .ok given =>
      match action? name given with
      | some action => .run (if given.verbosity = 0 then outer else given.verbosity) action
      | none => .refused

/-- Reads a cluster of short options before the action; the left side ends the whole
reading. -/
def readLeadingCluster (verbosity : Nat) : List Char → Invocation ⊕ Nat
  | [] => .inr verbosity
  | 'v' :: rest => readLeadingCluster (verbosity + 1) rest
  | 'V' :: _ => .inl .version
  | 'h' :: _ => .inl .help
  | _ => .inl .refused

/-- Reads what stands behind a request for help: at most the name of one action. -/
def readHelp : List String → Invocation
  | [] => .help
  | [name] => if name ∈ ["check", "inspect", "help"] then .help else .refused
  | _ => .refused

/-- Reads a command line, given the verbosity so far. -/
def read (verbosity : Nat) : List String → Invocation
  | [] => .refused
  | argument :: rest =>
      if argument = "check" then readAction verbosity .check rest
      else if argument = "inspect" then readAction verbosity .inspect rest
      else if argument = "help" then readHelp rest
      else if argument = "--verbose" then read (verbosity + 1) rest
      else if argument = "--version" then .version
      else if argument = "--help" then .help
      else
        match argument.toList with
        | '-' :: c :: cs =>
            match readLeadingCluster verbosity (c :: cs) with
            | .inl invocation => invocation
            | .inr verbosity => read verbosity rest
        | _ => .refused

end Arguments

/-- What a command line asks for. -/
def Invocation.ofArguments (arguments : List String) : Invocation :=
  Arguments.read 0 arguments

end ParamRules
