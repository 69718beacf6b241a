import BooleanSearch.CommandLine.Arguments
import BooleanSearch.CommandLine.Output
import BooleanSearch.Metrics.Exposition
import BooleanSearch.Search.Service

/-!
This module contains the program: it starts a search service and answers the query among its arguments,
or else the queries on its standard input.
-/

namespace BooleanSearch

/--
What a run of the program leaves behind.
-/
structure RunResult where
  status : UInt32
  output : Text := []
  /-- What is written to the error output. -/
  log : Text := []
deriving DecidableEq, Repr

namespace Program

/--
A line may end with a page number behind the last ` @`; otherwise all of it is the query, and the page is
the given one.
-/
def splitPage (line : Text) (page : Nat) : Text × Nat :=
  match Text.cutAt? ['@', ' '] line.reverse with
  | none => (line, page)
  | some (number, query) =>
    match numberArgument? (Text.trim number.reverse) with
    | some page => (query.reverse, page)
    | none => (line, page)

/--
The lines of an input. Each is ended by a line feed, which may follow a carriage return; what stands
behind the last line feed is a line if it is not empty.
-/
def inputLines (input : Bytes) : List Bytes := go [] input
where
  /-- `line` holds the bytes of the current line that were already seen, the last one in front. -/
  go (line : Bytes) : Bytes → List Bytes
    | [] => if line.isEmpty then [] else [line.reverse]
    | byte :: rest =>
      if byte = 10 then
        (if line.head? = some 13 then line.tail.reverse else line.reverse) :: go [] rest
      else
        go (byte :: line) rest

variable {m : Type → Type} [Monad m]

def answer (service : SearchService) (host : Host m) (arguments : Arguments) (query : Text)
    (page : Nat) : StateT SearchState m Text := do
  return printed arguments.json (← service.search host query page)

/--
The output for a line of the input. There is none for a line without a query, and a line that is not in
UTF-8 cannot be answered.
-/
def answerLine (service : SearchService) (host : Host m) (arguments : Arguments) (line : Bytes) :
    StateT SearchState m (Option Text) := do
  match Utf8.decode? line with
  | none => return none
  | some line =>
    let (query, page) := splitPage line arguments.page
    if query.all Text.isWhiteSpace then
      return some []
    else
      return some (← answer service host arguments query page)

/--
The output for the lines of the input up to the first that cannot be answered, and whether all of them
were answered.
-/
def answerLines (service : SearchService) (host : Host m) (arguments : Arguments) :
    List Bytes → StateT SearchState m (Text × Bool)
  | [] => return ([], true)
  | line :: lines => do
    match ← answerLine service host arguments line with
    | none => return ([], false)
    | some output =>
      let (outputs, complete) ← answerLines service host arguments lines
      return (output ++ outputs, complete)

def failure (e : SearchError) : Text := "Error: ".toList ++ e.message ++ ['\n']

def run (stemmers : Stemmers) (host : ClientConfig → Host m) (environment : Text → Option Text)
    (arguments : List Text) (input : Bytes) : m RunResult := do
  match Arguments.ofCommandLine environment arguments with
  | .error .help => return { status := 0, output := Refusal.help.message }
  | .error refusal => return { status := refusal.status, log := refusal.message }
  | .ok arguments =>
    let host := host arguments.config.client
    match ← (SearchService.ofConfig stemmers host.readFile arguments.config).run with
    | .error e => return { status := 1, log := failure e }
    | .ok service =>
      let answers : StateT SearchState m (Text × Bool) :=
        match arguments.query with
        | some query => return (← answer service host arguments query arguments.page, true)
        | none => answerLines service host arguments (inputLines input)
      let ((output, complete), state) ← answers.run {}
      if complete then
        return { status := 0, output, log := if arguments.metrics then state.metrics.text else [] }
      else
        return { status := 1, output, log := failure (.io .notUtf8) }

end Program

end BooleanSearch
