import BooleanSearch.Config
import BooleanSearch.Text.Decimal

/-!
This module contains the arguments of the program. Options can be given on the command line, and some
of them in the environment; what is given nowhere has a default or is refused.
-/

namespace BooleanSearch

/--
The options of the program.
-/
inductive Setting where
  | terms
  | metadata
  | requestPipe
  | responsePipe
  | timeoutMs
  | stem
  | snippetLength
  | json
  | metrics
  | page
deriving DecidableEq, Repr

/--
What an option is set to.
-/
inductive ValueKind where
  | path
  | number
  /-- An option that is on if it is given. -/
  | flag
deriving DecidableEq, Repr

namespace Setting

def all : List Setting :=
  [terms, metadata, requestPipe, responsePipe, timeoutMs, stem, snippetLength, json, metrics, page]

def name : Setting → Text
  | terms => "terms".toList
  | metadata => "meta".toList
  | requestPipe => "request-pipe".toList
  | responsePipe => "response-pipe".toList
  | timeoutMs => "timeout-ms".toList
  | stem => "stem".toList
  | snippetLength => "snippet-length".toList
  | json => "json".toList
  | metrics => "metrics".toList
  | page => "page".toList

def ofName? (name : Text) : Option Setting := all.find? (·.name == name)

def help : Setting → Text
  | terms => "Vocabulary file, one term per line".toList
  | metadata => "Document metadata file (key, link, title, path; tab-separated)".toList
  | requestPipe => "Named pipe the backend reads requests from".toList
  | responsePipe => "Named pipe the backend writes responses to".toList
  | timeoutMs => "Backend exchange timeout in milliseconds, 0 to wait forever".toList
  | stem => "Stem query and document words".toList
  | snippetLength => "Maximum snippet length in characters".toList
  | json => "Print results as JSON".toList
  | metrics => "Print metrics on exit".toList
  | page => "Zero-based result page".toList

def kind : Setting → ValueKind
  | terms | metadata | requestPipe | responsePipe => .path
  | timeoutMs | snippetLength | page => .number
  | stem | json | metrics => .flag

def envName? : Setting → Option Text
  | terms => some "QUARRY_TERMS".toList
  | metadata => some "QUARRY_META".toList
  | requestPipe => some "QUARRY_REQUEST_PIPE".toList
  | responsePipe => some "QUARRY_RESPONSE_PIPE".toList
  | timeoutMs => some "QUARRY_TIMEOUT_MS".toList
  | stem => some "QUARRY_STEM".toList
  | snippetLength => some "QUARRY_SNIPPET_LENGTH".toList
  | json | metrics | page => none

def default? : Setting → Option Text
  | terms | metadata => none
  | requestPipe => some "../pipe_A".toList
  | responsePipe => some "../pipe_B".toList
  | timeoutMs => some "5000".toList
  | snippetLength => some "300".toList
  | stem | json | metrics => some "false".toList
  | page => some "0".toList

end Setting

def numberArgument? (value : Text) : Option Nat := Text.signedUnsigned? UInt64.size value

def ValueKind.accepts : ValueKind → Text → Bool
  | path, value => !value.isEmpty
  | number, value => (numberArgument? value).isSome
  | flag, value => value == "true".toList || value == "false".toList

/--
Reasons not to start with the given arguments.
-/
inductive Refusal where
  /-- Help was asked for. -/
  | help
  | unknownArgument (argument : Text)
  | repeated (setting : Setting)
  | noValue (setting : Setting)
  | unexpectedValue (name : Text)
  | invalidValue (setting : Setting) (value : Text)
  | missing (setting : Setting)
deriving DecidableEq, Repr

namespace Refusal

def status : Refusal → UInt32
  | help => 0
  | _ => 2

def usage : Text :=
  let option (setting : Setting) : Text :=
    "\n  --".toList ++ setting.name ++ ": ".toList ++ setting.help
  "Boolean query front-end for a full-text retrieval backend\n".toList ++
    "\nUsage: quarry [OPTIONS] --terms <TERMS> --meta <META> [QUERY]\n".toList ++
    Setting.all.flatMap option ++
    "\n\nWithout a query, queries are read from standard input, one per line.\n".toList

def message : Refusal → Text
  | help => usage
  | unknownArgument argument => "error: unexpected argument: ".toList ++ argument ++ ['\n']
  | repeated setting => "error: given more than once: --".toList ++ setting.name ++ ['\n']
  | noValue setting => "error: a value is required for --".toList ++ setting.name ++ ['\n']
  | unexpectedValue name => "error: no value is possible for --".toList ++ name ++ ['\n']
  | invalidValue setting value =>
    "error: invalid value for --".toList ++ setting.name ++ ": ".toList ++ value ++ ['\n']
  | missing setting => "error: required but not given: --".toList ++ setting.name ++ ['\n']

end Refusal

/--
What is given on the command line.
-/
structure GivenArguments where
  settings : List (Setting × Text) := []
  query : Option Text := none
deriving DecidableEq, Repr

namespace GivenArguments

def set (given : GivenArguments) (setting : Setting) (value : Text) :
    Except Refusal GivenArguments :=
  if (given.settings.lookup setting).isSome then
    .error (.repeated setting)
  else if setting.kind.accepts value then
    .ok { given with settings := (setting, value) :: given.settings }
  else
    .error (.invalidValue setting value)

def setQuery (given : GivenArguments) (query : Text) : Except Refusal GivenArguments :=
  match given.query with
  | none => .ok { given with query := some query }
  | some _ => .error (.unknownArgument query)

def isDashed (argument : Text) : Bool := argument.length > 1 && argument.head? == some '-'

/--
What an argument with a dash is.
-/
inductive Dashed where
  | help
  /-- An option, and the value that is attached to it. -/
  | option (setting : Setting) (value : Option Text)

def long (name : Text) : Except Refusal Dashed :=
  let (name, value) :=
    match Text.cutAt? ['='] name with
    | some (name, value) => (name, some value)
    | none => (name, none)
  if name = "help".toList then
    if value.isSome then .error (.unexpectedValue name) else .ok .help
  else
    match Setting.ofName? name with
    | some setting => .ok (.option setting value)
    | none => .error (.unknownArgument ('-' :: '-' :: name))

/--
The reading of an argument that begins with one dash: a letter, and behind it a value, with or without
an equals sign in between.
-/
def short (letters : Text) : Except Refusal Dashed :=
  match letters with
  | 'h' :: _ => .ok .help
  | ['p'] => .ok (.option .page none)
  | 'p' :: '=' :: value => .ok (.option .page (some value))
  | 'p' :: value => .ok (.option .page (some value))
  | _ => .error (.unknownArgument ('-' :: letters))

def dashed : Text → Except Refusal Dashed
  | '-' :: '-' :: name => long name
  | argument => short argument.tail

/--
Read arguments one after the other. The value of an option is attached to it or is the next argument.
Behind two dashes alone there are no options.
-/
def read (given : GivenArguments) : List Text → Except Refusal GivenArguments
  | [] => .ok given
  | argument :: rest =>
    if argument = ['-', '-'] then
      rest.foldlM setQuery given
    else if isDashed argument then
      match dashed argument with
      | .error refusal => .error refusal
      | .ok .help => .error .help
      | .ok (.option setting value) =>
        if setting.kind = .flag then
          match value with
          | some _ => .error (.unexpectedValue setting.name)
          | none =>
            match given.set setting "true".toList with
            | .error refusal => .error refusal
            | .ok given => read given rest
        else
          match value, rest with
          | some value, rest =>
            match given.set setting value with
            | .error refusal => .error refusal
            | .ok given => read given rest
          | none, [] => .error (.noValue setting)
          | none, value :: rest =>
            if isDashed value then
              .error (.noValue setting)
            else
              match given.set setting value with
              | .error refusal => .error refusal
              | .ok given => read given rest
    else
      match given.setQuery argument with
      | .error refusal => .error refusal
      | .ok given => read given rest

def value (given : GivenArguments) (environment : Text → Option Text) (setting : Setting) :
    Except Refusal Text :=
  match given.settings.lookup setting with
  | some value => .ok value
  | none =>
    match setting.envName?.bind environment with
    | some value =>
      if setting.kind.accepts value then .ok value else .error (.invalidValue setting value)
    | none =>
      match setting.default? with
      | some value => .ok value
      | none => .error (.missing setting)

end GivenArguments

/--
The arguments of the program.
-/
structure Arguments where
  config : EngineConfig
  json : Bool
  metrics : Bool
  page : Nat
  query : Option Text
deriving DecidableEq, Repr

namespace Arguments

def ofCommandLine (environment : Text → Option Text) (arguments : List Text) :
    Except Refusal Arguments := do
  let given ← GivenArguments.read {} arguments
  let text := given.value environment
  let number (setting : Setting) : Except Refusal Nat :=
    (text setting).map fun value => (numberArgument? value).getD 0
  let flag (setting : Setting) : Except Refusal Bool := (text setting).map (· == "true".toList)
  let config := EngineConfig.ofFiles (← text .terms) (← text .metadata)
    |>.withPipes (← text .requestPipe) (← text .responsePipe)
    |>.withTimeoutMs (← number .timeoutMs)
    |>.withStemming (← flag .stem)
    |>.withSnippetLength (← number .snippetLength)
  return { config, json := ← flag .json, metrics := ← flag .metrics, page := ← number .page,
           query := given.query }

end Arguments

end BooleanSearch
