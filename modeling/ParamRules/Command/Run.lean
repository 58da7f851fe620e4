import ParamRules.Command.Arguments
import ParamRules.Json.Reader
import ParamRules.Schema.Description

/-!
# Runs

A run depends on the command line and on its surroundings: the files, the standard input,
the variables of the environment, and the logger, which reads log filters in a language of
its own.  It yields an exit code, the printed text, the failure if there is one, and the
events that pass the log filter.

The exit code is 0 for a payload without issues, 1 for a rejected one and 2 for every
failure.  Inputs are read in a fixed order, and the first failure ends the run.
-/

namespace ParamRules

/-- Which events are logged. -/
structure LogFilter where
  passes : Event → Bool

namespace LogFilter

/-- Events of a level and graver ones are logged. -/
def upTo (level : Level) : LogFilter :=
  ⟨fun event => event.level.rank ≤ level.rank⟩

/-- The filter with the name of a level, and the one that lets nothing pass. -/
def ofLevelName? (text : String) : Option LogFilter :=
  match String.ofList (text.toList.map Char.toLower) with
  | "error" => some (upTo .error)
  | "warn" => some (upTo .warn)
  | "info" => some (upTo .info)
  | "debug" => some (upTo .debug)
  | "trace" => some (upTo .trace)
  | "off" => some ⟨fun _ => false⟩
  | _ => none

/-- The text of the filter that a verbosity and the environment ask for. -/
def requested (verbosity : Nat) (variableOf : String → Option String) : String :=
  match verbosity with
  | 0 => ((variableOf "PARAMGUARD_LOG").or (variableOf "RUST_LOG")).getD "warn"
  | 1 => "info"
  | 2 => "debug"
  | _ => "trace"

end LogFilter

/-- What a run depends on besides its command line. -/
structure Surroundings where
  /-- The text of a file, if it can be read and is text. -/
  file : String → Option String
  /-- The standard input, if it is text. -/
  input : Option String
  /-- The variables of the environment. -/
  variableOf : String → Option String
  /-- The log filter that a text asks for, if the logger can read the text. -/
  filterOf? : String → Option LogFilter

/-- Why a run fails. -/
inductive Failure where
  /-- The log filter cannot be read. -/
  | invalidFilter (text : String)
  /-- Rules and payload both come from the standard input. -/
  | bothFromInput
  /-- The standard input cannot be read. -/
  | unreadableInput
  /-- A file cannot be read. -/
  | unreadable (path : String)
  /-- The rules are not JSON. -/
  | malformedRules (path : String)
  /-- The payload is not JSON. -/
  | malformedPayload (path : String)
deriving DecidableEq

/-- The text of a failure. -/
def Failure.message : Failure → String
  | .invalidFilter text => "invalid log filter '" ++ text ++ "'"
  | .bothFromInput =>
      "--rules and --payload cannot both read from stdin; pass a file for one of them"
  | .unreadableInput => "failed to read stdin"
  | .unreadable path => "failed to read " ++ path
  | .malformedRules path => "failed to parse rules from " ++ path
  | .malformedPayload path => "failed to parse payload from " ++ path

/-- What a run yields. -/
structure RunResult where
  code : Nat
  output : String := ""
  failure : Option Failure := none
  log : List Event := []

/-- A path without the parts that stand for nothing, a leading point apart. -/
def pathParts (path : String) : List (List Char) :=
  let parts := path.toList.splitOn '/'
  let kept := parts.zipIdx.filter fun (part, i) =>
    part != [] && (part != ['.'] || i == 0)
  (if parts.head? == some [] then [['/']] else []) ++ kept.map (·.1)

/-- The path stands for the standard input. -/
def isStandardInput (path : String) : Bool :=
  pathParts path == [['-']]

namespace Surroundings

/-- Reads the text at a path. -/
def read (around : Surroundings) (path : String) : Except Failure String :=
  if isStandardInput path then
    match around.input with
    | some text => .ok text
    | none => .error .unreadableInput
  else
    match around.file path with
    | some text => .ok text
    | none => .error (.unreadable path)

/-- Reads rules, with the events of reading them. -/
def readRules (around : Surroundings) (path : String) :
    Except Failure (Schema × List Event) := do
  let text ← around.read path
  match Json.ofString? text with
  | none => .error (.malformedRules path)
  | some description =>
      let (schema, events) := Schema.readDescription description
      return (schema, events ++ [.rulesLoaded path schema.size])

/-- Reads a payload. -/
def readPayload (around : Surroundings) (path : String) : Except Failure Json := do
  let text ← around.read path
  match Json.ofString? text with
  | none => .error (.malformedPayload path)
  | some payload => return payload

end Surroundings

namespace CheckRequest

/-- The settings of the environment with those of the request over them. -/
def settings (request : CheckRequest) (fromEnvironment : Settings) : Settings :=
  { surfacing := if request.all then .all else fromEnvironment.surfacing
    status := request.status.getD fromEnvironment.status }

/-- What is printed for a payload that is not rejected. -/
def acceptance (request : CheckRequest) (isUnchecked : Bool) : String :=
  match request.format with
  | .text => if isUnchecked then "no rules to check\n" else "ok\n"
  | .json =>
      (Json.object [("valid", .bool true), ("checked", .bool !isUnchecked)]).pretty ++ "\n"

/-- What is printed for a rejected payload. -/
def rejection (request : CheckRequest) (response : Response) : String :=
  match request.format with
  | .text =>
      String.join (response.errors.map fun e => e.field ++ ": " ++ e.message ++ "\n")
  | .json => response.body.pretty ++ "\n"

/-- The result for a schema and a payload that have been read. -/
def result (request : CheckRequest) (settings : Settings) (schema : Schema)
    (payload : Json) : RunResult :=
  let verdict := schema.verdict payload
  let events := schema.verdictEvents payload
  match verdict.response? settings.surfacing settings.status with
  | none => { code := 0, output := request.acceptance verdict.isUnchecked, log := events }
  | some response =>
      { code := 1, output := request.rejection response
        log := events ++ [.payloadRejected response.errors.length response.status.symbol] }

end CheckRequest

/-- A run that ends with a failure. -/
def RunResult.failed (failure : Failure) (log : List Event) : RunResult :=
  { code := 2, failure := some failure, log }

namespace Action

/-- Does what is to be done; all events are in the log. -/
def run (around : Surroundings) : Action → RunResult
  | .inspect path =>
      match around.readRules path with
      | .error failure => .failed failure []
      | .ok (schema, events) =>
          { code := 0, output := schema.toJson.pretty ++ "\n", log := events }
  | .check request =>
      if isStandardInput request.rules && isStandardInput request.payload then
        .failed .bothFromInput []
      else
        match around.readRules request.rules with
        | .error failure => .failed failure []
        | .ok (schema, events) =>
            match around.readPayload request.payload with
            | .error failure => .failed failure events
            | .ok payload =>
                let (settings, ignored) := Settings.ofEnvironment around.variableOf
                let result := request.result (request.settings settings) schema payload
                { result with log := events ++ ignored ++ result.log }

end Action

/-- The text that answers a request for the version. -/
def versionText : String := "paramguard 0.1.0\n"

/-- The result of what a command line asks for. -/
def Invocation.result (around : Surroundings) : Invocation → RunResult
  | .version => { code := 0, output := versionText }
  | .help => { code := 0 }
  | .refused => { code := 2 }
  | .run verbosity action =>
      let text := LogFilter.requested verbosity around.variableOf
      match around.filterOf? text with
      | none => .failed (.invalidFilter text) []
      | some filter =>
          let result := action.run around
          { result with log := result.log.filter filter.passes }

end ParamRules
