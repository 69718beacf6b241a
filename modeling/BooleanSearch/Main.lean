import BooleanSearch.CommandLine.Program
import BooleanSearch.Term.EnglishStem

/-!
This module contains the program as it runs on a real system, with named pipes to the backend, threads
for exchanges with a time limit, and the standard streams.
-/

open BooleanSearch

namespace BooleanSearch.Main

def failureOf : IO.Error → IoFailure
  | .noFileOrDirectory .. => .notFound
  | e => .other (toString e).toList

def attempt {α : Type} (action : IO α) : IO (Except IoFailure α) := do
  try
    return .ok (← action)
  catch e =>
    return .error (failureOf e)

def readFile (path : Text) : IO (Except IoFailure Bytes) :=
  attempt do return (← IO.FS.readBinFile (String.ofList path)).toList

/--
Write into what is there under a name. A file is overwritten from its beginning and not truncated, and a
pipe waits for its reader.
-/
def deliver (path : Text) (bytes : Bytes) : IO (Except IoFailure Unit) :=
  attempt do
    let path ← IO.FS.realPath (String.ofList path)
    let metadata ← path.metadata
    let mode : IO.FS.Mode := if metadata.type == .file then .readWrite else .append
    let channel ← IO.FS.Handle.mk path mode
    channel.write (ByteArray.mk bytes.toArray)
    channel.flush

def receive (path : Text) : IO (Except IoFailure Bytes) :=
  attempt do
    let channel ← IO.FS.Handle.mk (String.ofList path) .read
    return (← channel.readBinToEnd).toList

def channels (config : ClientConfig) : Channels IO where
  deliver := deliver config.requestPipe
  receive := receive config.responsePipe

abbrev Helper := Task (Except IO.Error (Except SearchError Bytes))

def outcome (helper : Helper) : Outcome :=
  match helper.get with
  | .ok result => .finished result
  | .error _ => .terminated

/--
Look at a helper every other millisecond until it has finished or its time is up.
-/
partial def awaitUntil (helper : Helper) (deadline : Nat) : IO Outcome := do
  if ← IO.hasFinished helper then
    return outcome helper
  else if deadline ≤ (← IO.monoMsNow) then
    return .pending
  else
    IO.sleep 2
    awaitUntil helper deadline

def helpers (config : ClientConfig) : Helpers IO Helper where
  launch bytes := attempt (IO.asTask ((channels config).exchange bytes) .dedicated)
  poll helper := do
    if ← IO.hasFinished helper then return outcome helper else return .pending
  await helper milliseconds := do awaitUntil helper ((← IO.monoMsNow) + milliseconds)

def host (config : ClientConfig) : Host (StateT (Option Helper) IO) where
  toLink := .overChannels (channels config) (helpers config)
    (fun milliseconds => IO.sleep (UInt32.ofNat milliseconds)) config.timeoutMs
  readFile path := readFile path
  clock := do return (← IO.monoNanosNow).toFloat / 1e9

/--
The next line of the standard input with the line feed that ends it; at the end of the input nothing.
-/
partial def readLine (input : IO.FS.Stream) (line : ByteArray) : IO Bytes := do
  let byte ← input.read 1
  if byte.isEmpty || byte.toList == [10] then
    return (line ++ byte).toList
  else
    readLine input (line ++ byte)

def printText (text : Text) : IO Unit := do
  let output ← IO.getStdout
  output.putStr (String.ofList text)
  output.flush

/--
Answer queries from the standard input as they come.
-/
partial def interact (service : SearchService) (arguments : Arguments) (input : IO.FS.Stream) :
    StateT SearchState (StateT (Option Helper) IO) Bool := do
  let line ← readLine input .empty
  if line.isEmpty then
    return true
  else
    let line := (Program.inputLines line).headD []
    match ← Program.answerLine service (host arguments.config.client) arguments line with
    | none => return false
    | some text =>
      printText text
      interact service arguments input

def answerAll (service : SearchService) (arguments : Arguments) :
    StateT SearchState (StateT (Option Helper) IO) Bool := do
  match arguments.query with
  | some query =>
    printText (← Program.answer service (host arguments.config.client) arguments query arguments.page)
    return true
  | none => interact service arguments (← IO.getStdin)

/--
Let a helper finish that still waits at a pipe. While the pipes are open here, nobody has to wait at
them, and when they are closed the response ends.
-/
def release (config : ClientConfig) (helper : Helper) : (attempts : Nat) → IO Unit
  | 0 => return ()
  | attempts + 1 => do
    if ← IO.hasFinished helper then
      return ()
    else
      let _ ← attempt do
        let request ← IO.FS.Handle.mk (String.ofList config.requestPipe) .readWrite
        let response ← IO.FS.Handle.mk (String.ofList config.responsePipe) .readWrite
        IO.sleep 5
        request.flush
        response.flush
      IO.sleep 5
      release config helper attempts

def environment : IO (List (Text × Text)) :=
  Setting.all.filterMapM fun setting => do
    match setting.envName? with
    | none => return none
    | some name => return (← IO.getEnv (String.ofList name)).map fun value => (name, value.toList)

def run (arguments : Arguments) : IO UInt32 := do
  let config := arguments.config
  match ← (SearchService.ofConfig EnglishStem.stemmers readFile config).run with
  | .error e =>
    IO.eprint (String.ofList (Program.failure e))
    return 1
  | .ok service =>
    let ((complete, state), stalled) ← ((answerAll service arguments).run {}).run none
    if let some helper := stalled then
      release config.client helper 100
    if complete then
      if arguments.metrics then
        IO.eprint (String.ofList state.metrics.text)
      return 0
    else
      IO.eprint (String.ofList (Program.failure (.io .notUtf8)))
      return 1

end BooleanSearch.Main

def main (arguments : List String) : IO UInt32 := do
  let environment ← Main.environment
  match Arguments.ofCommandLine (fun name => environment.lookup name) (arguments.map String.toList) with
  | .ok arguments => Main.run arguments
  | .error refusal =>
    if refusal.status = 0 then
      Main.printText refusal.message
    else
      IO.eprint (String.ofList refusal.message)
    return refusal.status
