import BooleanSearch.Config
import BooleanSearch.Host
import BooleanSearch.Simulated.Backend
import BooleanSearch.Simulated.Files

/-!
This module contains a system that lives in memory: a directory, a backend, and exchanges over the
files and named pipes of the directory. Nobody waits here: an exchange that comes to a pipe without a
partner is blocked, and goes on when the partner comes.
-/

namespace BooleanSearch

/--
The place where an exchange waits for a partner.
-/
inductive Blocked where
  | delivering (pipe : Nat) (request : Bytes)
  | receiving (pipe : Nat)

abbrev Progress := Except Blocked (Except SearchError Bytes)

structure SimulatedSystem where
  directory : Directory := {}
  backend : SimulatedBackend := {}
  /-- The exchanges that were started in helpers, in order. -/
  started : List Progress := []

namespace SimulatedSystem

def channels (request response : Text) : Channels (ExceptT Blocked (StateM Directory)) where
  deliver bytes := do
    match (← get).node? request with
    | none => return .error .notFound
    | some (.file content) =>
      modify (·.write request (overlay content bytes))
      return .ok ()
    | some (.pipe number) => throw (.delivering number bytes)
  receive := do
    match (← get).node? response with
    | none => return .error .notFound
    | some (.file content) => return .ok content
    | some (.pipe number) => throw (.receiving number)

def onDirectory {α : Type} (action : StateM Directory α) : StateM SimulatedSystem α :=
  fun system =>
    let (result, directory) := action.run system.directory
    (result, { system with directory })

def orFail {α : Type} (action : ExceptT Blocked (StateM Directory) (Except IoFailure α)) :
    StateM SimulatedSystem (Except IoFailure α) := do
  match ← onDirectory action.run with
  | .ok result => return result
  | .error _ => return .error (.other "nobody is at the other end of the pipe".toList)

def helpers (config : ClientConfig) : Helpers (StateM SimulatedSystem) Nat where
  launch bytes := do
    let progress ← onDirectory ((channels config.requestPipe config.responsePipe).exchange bytes).run
    modifyGet fun system =>
      (.ok system.started.length, { system with started := system.started ++ [progress] })
  poll := outcome
  await helper _ := outcome helper
where
  outcome (helper : Nat) : StateM SimulatedSystem Outcome := do
    match (← get).started[helper]? with
    | some (.ok result) => return .finished result
    | some (.error _) => return .pending
    | none => return .terminated

def pipeLink (config : ClientConfig) : Link (StateT (Option Nat) (StateM SimulatedSystem)) :=
  let channels := channels config.requestPipe config.responsePipe
  .overChannels ⟨fun bytes => orFail (channels.deliver bytes), orFail channels.receive⟩
    (helpers config) (fun _ => pure ()) config.timeoutMs

def onBackend {α : Type} (action : StateM SimulatedBackend α) : StateM SimulatedSystem α :=
  fun system =>
    let (result, backend) := action.run system.backend
    (result, { system with backend })

def backendLink : Link (StateT (Option Nat) (StateM SimulatedSystem)) where
  exchange bytes := StateT.lift (onBackend (SimulatedBackend.link.exchange bytes))
  pause milliseconds := StateT.lift (onBackend (SimulatedBackend.link.pause milliseconds))

def host (link : Link (StateT (Option Nat) (StateM SimulatedSystem))) :
    Host (StateT (Option Nat) (StateM SimulatedSystem)) where
  toLink := link
  readFile name := return (← getThe SimulatedSystem).directory.read name
  clock := pure 0

def updateFirst {α β : Type} (f : α → Option (β × α)) : List α → Option (β × List α)
  | [] => none
  | a :: rest =>
    match f a with
    | some (b, a) => some (b, a :: rest)
    | none => (updateFirst f rest).map fun (b, rest) => (b, a :: rest)

/--
Write into what a name stands for. The content of a pipe becomes the response of the first exchange
that waits for one there.
-/
def feed (system : SimulatedSystem) (name : Text) (content : Bytes) : SimulatedSystem :=
  match system.directory.node? name with
  | none => system
  | some (.file old) =>
    { system with directory := system.directory.write name (overlay old content) }
  | some (.pipe number) =>
    let receive : Progress → Option (Unit × Progress)
      | .error (.receiving pipe) => if pipe = number then some ((), .ok (.ok content)) else none
      | _ => none
    match updateFirst receive system.started with
    | some ((), started) => { system with started }
    | none => system

/--
Read what a name stands for. A pipe brings the request of the first exchange that waits to deliver one
there, which then goes on to its response.
-/
def read (config : ClientConfig) (system : SimulatedSystem) (name : Text) :
    Except IoFailure Bytes × SimulatedSystem :=
  match system.directory.node? name with
  | some (.pipe number) =>
    let (progress, directory) :=
      ((channels config.requestPipe config.responsePipe).collect).run.run system.directory
    let deliver : Progress → Option (Bytes × Progress)
      | .error (.delivering pipe request) =>
        if pipe = number then some (request, progress) else none
      | _ => none
    match updateFirst deliver system.started with
    | some (request, started) => (.ok request, { system with started, directory })
    | none => (.ok [], system)
  | some (.file _) | none => (system.directory.read name, system)

end SimulatedSystem

end BooleanSearch
