import Mathlib.Data.List.Forall2
import Mathlib.Data.List.Induction
import BooleanSearch.Proofs.Retrieval.Disturbance
import BooleanSearch.Proofs.Retrieval.Helpers
import BooleanSearch.Simulated.System

/-!
This module contains the theorem that a request can be read whatever stands behind it. A request
channel that is a file is not truncated, so that requests come to stand over older and longer ones.
-/

namespace BooleanSearch

def saysDelivered : Except SearchError Bytes → Bool
  | .error (.requestNotDelivered _) | .error (.backendUnavailable .stillPending) => false
  | .ok _ | .error _ => true

namespace SimulatedSystem

variable {content : Bytes}

theorem run_get (directory : Directory) :
    (get : ExceptT Blocked (StateM Directory) Directory).run.run directory =
      (.ok directory, directory) := rfl

theorem run_receive (request response : Text) (directory : Directory) :
    ((channels request response).receive).run.run directory =
      (match directory.node? response with
        | none => .ok (.error .notFound)
        | some (.file content) => .ok (.ok content)
        | some (.pipe number) => .error (.receiving number), directory) := by
  rcases h : directory.node? response with _ | content | number <;>
    simp [channels, ExceptT.run_bind, run_get, h, id_bind, id_pure]

theorem run_deliver {request : Text} (response : Text) {directory : Directory}
    (hfile : directory.node? request = some (.file content)) (bytes : Bytes) :
    ((channels request response).deliver bytes).run.run directory =
      (.ok (.ok ()), directory.write request (overlay content bytes)) := by
  simp only [channels, ExceptT.run_bind, StateT.run_bind, run_get, id_bind, hfile]
  rfl

theorem run_exchange {request : Text} (response : Text) {directory : Directory}
    (hfile : directory.node? request = some (.file content)) (bytes : Bytes) :
    ∃ progress, ((channels request response).exchange bytes).run.run directory =
        (progress, directory.write request (overlay content bytes)) ∧
      ∀ result, progress = .ok result → saysDelivered result = true := by
  simp only [Channels.exchange, Channels.collect, ExceptT.run_bind, StateT.run_bind,
    run_deliver response hfile, run_receive, id_bind]
  rcases (directory.write request (overlay content bytes)).node? response with
    _ | content' | number
  · exact ⟨_, rfl, fun _ h => by cases h; rfl⟩
  · exact ⟨_, rfl, fun _ h => by cases h; rfl⟩
  · exact ⟨_, rfl, fun _ h => by cases h⟩

theorem run_orFail {α : Type} (action : ExceptT Blocked (StateM Directory) (Except IoFailure α))
    (system : SimulatedSystem) :
    ∃ result, (orFail action).run system =
        (result, { system with directory := (action.run.run system.directory).2 }) ∧
      ∀ found, (action.run.run system.directory).1 = .ok found → result = found := by
  have honDirectory : (onDirectory action.run).run system =
      ((action.run.run system.directory).1,
        { system with directory := (action.run.run system.directory).2 }) := rfl
  simp only [orFail, StateT.run_bind, honDirectory]
  rcases (action.run.run system.directory).1 with blocked | found
  · exact ⟨_, rfl, fun _ h => by cases h⟩
  · exact ⟨found, rfl, fun _ h => by cases h; rfl⟩

variable (config : ClientConfig)

def exchangeOver (bytes : Bytes) (stalled : Option Nat) (system : SimulatedSystem) :
    (Except SearchError Bytes × Option Nat) × SimulatedSystem :=
  (((pipeLink config).exchange bytes).run stalled).run system

variable {config} {system : SimulatedSystem}

theorem exchangeOver_unlimited (hlimit : config.timeoutMs = 0)
    (hfile : system.directory.node? config.requestPipe = some (.file content)) (bytes : Bytes)
    (stalled : Option Nat) :
    let run := exchangeOver config bytes stalled system
    saysDelivered run.1.1 = true ∧
      run.2.directory = system.directory.write config.requestPipe (overlay content bytes) := by
  obtain ⟨delivery, hdeliver, hdelivery⟩ :=
    run_orFail ((channels config.requestPipe config.responsePipe).deliver bytes) system
  rw [run_deliver config.responsePipe hfile] at hdeliver hdelivery
  rw [hdelivery _ rfl] at hdeliver
  obtain ⟨response, hreceive, -⟩ :=
    run_orFail (channels config.requestPipe config.responsePipe).receive
      { system with
        directory := system.directory.write config.requestPipe (overlay content bytes) }
  rw [run_receive] at hreceive
  have hrun : exchangeOver config bytes stalled system =
      ((response.mapError .io, stalled),
        { system with
          directory := system.directory.write config.requestPipe (overlay content bytes) }) := by
    unfold exchangeOver pipeLink Link.overChannels
    dsimp only
    rw [if_pos hlimit]
    have hlift (x : StateM SimulatedSystem (Except SearchError Bytes)) :
        ((liftM x : StateT (Option Nat) (StateM SimulatedSystem) _).run stalled).run system =
          (((x.run system).1, stalled), (x.run system).2) := rfl
    rw [hlift, Channels.run_exchange, hdeliver]
    dsimp only
    rw [hreceive]
  simp only [hrun, and_true]
  cases response <;> rfl

theorem run_launch
    (hfile : system.directory.node? config.requestPipe = some (.file content)) (bytes : Bytes) :
    ∃ progress, ((helpers config).launch bytes).run system =
        (.ok system.started.length,
          { system with
            directory := system.directory.write config.requestPipe (overlay content bytes)
            started := system.started ++ [progress] }) ∧
      ∀ result, progress = .ok result → saysDelivered result = true := by
  obtain ⟨progress, hexchange, hdelivered⟩ := run_exchange config.responsePipe hfile bytes
  refine ⟨progress, ?_, hdelivered⟩
  have hlaunch : ((helpers config).launch bytes).run system =
      (.ok system.started.length,
        { system with
          directory := (((channels config.requestPipe config.responsePipe).exchange bytes).run.run
            system.directory).2
          started := system.started ++ [(((channels config.requestPipe
            config.responsePipe).exchange bytes).run.run system.directory).1] }) := rfl
  rw [hlaunch, hexchange]

theorem run_await (helper milliseconds : Nat) (system : SimulatedSystem) :
    ((helpers config).await helper milliseconds).run system =
      (match system.started[helper]? with
        | some (.ok result) => .finished result
        | some (.error _) => .pending
        | none => .terminated, system) := by
  rcases h : system.started[helper]? with _ | _ | result <;>
    simp [helpers, helpers.outcome, h, id_bind, id_pure]

theorem run_isStalled (config : ClientConfig) (stalled : Option Nat) (system : SimulatedSystem) :
    ∃ found, ((helpers config).isStalled.run stalled).run system = (found, system) := by
  rw [Helpers.run_isStalled]
  cases stalled with
  | none => exact ⟨_, rfl⟩
  | some helper =>
    have hpoll : ((helpers config).poll helper).run system =
        ((helpers config).await helper 0).run system := rfl
    dsimp only
    rw [hpoll, run_await]
    rcases system.started[helper]? with _ | _ | result <;> exact ⟨_, rfl⟩

theorem directory_exchangeOver
    (hfile : system.directory.node? config.requestPipe = some (.file content)) (bytes : Bytes)
    (stalled : Option Nat) :
    let run := exchangeOver config bytes stalled system
    run.2.directory =
      if saysDelivered run.1.1 then
        system.directory.write config.requestPipe (overlay content bytes)
      else
        system.directory := by
  by_cases hlimit : config.timeoutMs = 0
  · obtain ⟨hdelivered, hdirectory⟩ := exchangeOver_unlimited hlimit hfile bytes stalled
    dsimp only
    rw [if_pos hdelivered, hdirectory]
  · have hexchange : exchangeOver config bytes stalled system =
        (((helpers config).exchange config.timeoutMs bytes).run stalled).run system := by
      unfold exchangeOver pipeLink Link.overChannels
      dsimp only
      rw [if_neg hlimit]
    obtain ⟨⟨busy, stalled'⟩, hstalled⟩ := run_isStalled config stalled system
    rw [hexchange, Helpers.run_exchange, hstalled]
    cases busy with
    | false =>
      obtain ⟨progress, hlaunch, hdelivered⟩ := run_launch hfile bytes
      have hlast : (system.started ++ [progress])[system.started.length]? = some progress := by
        simp
      simp only [hlaunch, run_await, hlast]
      rcases progress with blocked | result
      · rfl
      · exact (if_pos (hdelivered result rfl)).symm
    | true => rfl

end SimulatedSystem

/--
What happens to a system between two exchanges: anything that leaves the request channel as it is.
-/
structure Interlude (config : ClientConfig) where
  act : SimulatedSystem → SimulatedSystem
  keeps : ∀ system, (act system).directory.node? config.requestPipe =
    system.directory.node? config.requestPipe

structure Traffic where
  system : SimulatedSystem
  stalled : Option Nat := none
  delivered : List Request := []

namespace Traffic

variable {config : ClientConfig}

def exchange (traffic : Traffic) (interlude : Interlude config) (request : Request) : Traffic :=
  let system := interlude.act traffic.system
  match request.encode with
  | .error _ => { traffic with system }
  | .ok bytes =>
    let ((result, stalled), system) := system.exchangeOver config bytes traffic.stalled
    { system
      stalled
      delivered :=
        if saysDelivered result then traffic.delivered ++ [request] else traffic.delivered }

def after (traffic : Traffic) (exchanges : List (Interlude config × Request)) : Traffic :=
  exchanges.foldl (fun traffic exchange => traffic.exchange exchange.1 exchange.2) traffic

theorem after_concat (traffic : Traffic) (exchanges : List (Interlude config × Request))
    (exchange : Interlude config × Request) :
    traffic.after (exchanges ++ [exchange]) =
      (traffic.after exchanges).exchange exchange.1 exchange.2 := by
  simp only [after, List.foldl_append, List.foldl_cons, List.foldl_nil]

theorem written_exchange {traffic : Traffic} {content : Bytes}
    (hfile : traffic.system.directory.node? config.requestPipe = some (.file content))
    (interlude : Interlude config) (request : Request) :
    let next := traffic.exchange interlude request
    next.delivered = traffic.delivered ∧
        next.system.directory.node? config.requestPipe = some (.file content) ∨
      ∃ bytes, request.encode = .ok bytes ∧ next.delivered = traffic.delivered ++ [request] ∧
        next.system.directory.node? config.requestPipe = some (.file (overlay content bytes)) := by
  have hkept : (interlude.act traffic.system).directory.node? config.requestPipe =
      some (.file content) := by
    rw [interlude.keeps, hfile]
  unfold exchange
  cases hencode : request.encode with
  | error e => exact .inl ⟨rfl, hkept⟩
  | ok bytes =>
    have hdirectory := SimulatedSystem.directory_exchangeOver hkept bytes traffic.stalled
    dsimp only at hdirectory ⊢
    cases hdelivered : saysDelivered
        ((interlude.act traffic.system).exchangeOver config bytes traffic.stalled).1.1 with
    | false =>
      rw [hdelivered, if_neg Bool.false_ne_true] at hdirectory
      exact .inl ⟨rfl, by rw [hdirectory, hkept]⟩
    | true =>
      rw [hdelivered, if_pos rfl] at hdirectory
      refine .inr ⟨bytes, rfl, rfl, ?_⟩
      rw [hdirectory, Directory.node?_write, if_pos rfl]

theorem readable_after {traffic : Traffic} {content : Bytes}
    (hfile : traffic.system.directory.node? config.requestPipe = some (.file content))
    (exchanges : List (Interlude config × Request)) :
    ∃ requests written,
      (traffic.after exchanges).delivered = traffic.delivered ++ requests ∧
      List.Forall₂ (fun request bytes => request.encode = .ok bytes) requests written ∧
      (traffic.after exchanges).system.directory.node? config.requestPipe =
        some (.file (written.foldl overlay content)) ∧
      ∀ request, requests.getLast? = some request →
        Received.ofBytes (written.foldl overlay content) = .request request := by
  induction exchanges using List.reverseRecOn with
  | nil => exact ⟨[], [], (List.append_nil _).symm, .nil, hfile, nofun⟩
  | append_singleton exchanges exchange ih =>
    obtain ⟨requests, written, hrequests, hwritten, hcurrent, hlast⟩ := ih
    obtain ⟨interlude, request⟩ := exchange
    rw [after_concat]
    -- The channel stays as it is, or one more request is written over it.
    obtain ⟨hsame, hnext⟩ | ⟨bytes, hencode, hdelivered, hnext⟩ :=
      written_exchange hcurrent interlude request
    · exact ⟨requests, written, by rw [hsame, hrequests], hwritten, hnext, hlast⟩
    · have hfold : (written ++ [bytes]).foldl overlay content =
          overlay (written.foldl overlay content) bytes := by
        rw [List.foldl_append]
        rfl
      refine ⟨requests ++ [request], written ++ [bytes], ?_, ?_, ?_, ?_⟩
      · rw [hdelivered, hrequests, List.append_assoc]
      · exact List.rel_append hwritten (.cons hencode .nil)
      · rw [hfold, hnext]
      · intro last h
        rw [List.getLast?_concat, Option.some.injEq] at h
        rw [hfold, ← h]
        exact Received.ofBytes_append hencode _

end Traffic

namespace Request

def Fits : Request → Prop
  | new expression => (Utf8.encode expression).length < UInt32.size
  | existing _ => True

theorem exists_encode_of_fits {request : Request} (h : request.Fits) :
    ∃ bytes, request.encode = .ok bytes := by
  cases request with
  | new expression => exact ⟨_, if_pos h⟩
  | existing handle => exact ⟨_, rfl⟩

theorem eq_of_encode_prefix {request request' : Request} {bytes bytes' : Bytes}
    (hencode : request.encode = .ok bytes) (hencode' : request'.encode = .ok bytes')
    (hbegin : bytes <+: bytes') : request = request' ∧ bytes = bytes' := by
  obtain ⟨behind, rfl⟩ := hbegin
  have hread := decode?_of_encode hencode behind
  have hread' := decode?_of_encode hencode' []
  rw [List.append_nil, hread, Option.some.injEq] at hread'
  subst hread'
  rw [hencode, Except.ok.injEq] at hencode'
  exact ⟨rfl, hencode'⟩

/--
A request is read as it was written, whatever stands behind it, so that no form of a request is the
beginning of that of another one, and the last request that was delivered into a file can be read from
the whole file, whatever the file held before.
-/
theorem read_whatever_stands_behind :
    (∀ request : Request, request.Fits → ∃ bytes, request.encode = .ok bytes ∧
      ∀ behind, Received.ofBytes (bytes ++ behind) = .request request) ∧
    (∀ (request request' : Request) (bytes bytes' : Bytes),
      request.encode = .ok bytes → request'.encode = .ok bytes' → bytes <+: bytes' →
        request = request' ∧ bytes = bytes') ∧
    ∀ (config : ClientConfig) (traffic : Traffic) (content : Bytes),
      traffic.system.directory.node? config.requestPipe = some (.file content) →
      ∀ exchanges : List (Interlude config × Request), ∃ requests written,
        (traffic.after exchanges).delivered = traffic.delivered ++ requests ∧
        List.Forall₂ (fun request bytes => request.encode = .ok bytes) requests written ∧
        (traffic.after exchanges).system.directory.node? config.requestPipe =
          some (.file (written.foldl overlay content)) ∧
        ∀ request, requests.getLast? = some request →
          Received.ofBytes (written.foldl overlay content) = .request request := by
  refine ⟨?_, fun _ _ _ _ => eq_of_encode_prefix, fun _ _ _ hfile => Traffic.readable_after hfile⟩
  intro request hfits
  obtain ⟨bytes, hencode⟩ := exists_encode_of_fits hfits
  exact ⟨bytes, hencode, Received.ofBytes_append hencode⟩

end Request

/-!
A request over a longer one. The first exchange misses its limit, the second one is refused, and the
third one follows when the response to the first one has come.
-/
namespace LongerRequest

def config : ClientConfig :=
  { requestPipe := "a".toList, responsePipe := "b".toList, timeoutMs := 100 }

def system : SimulatedSystem where
  directory := (Directory.ofFiles [("a".toList, List.replicate 40 7)]).makePipe "b".toList

def undisturbed : Interlude config := ⟨id, fun _ => rfl⟩

def answer : Interlude config where
  act system := system.feed "b".toList [0]
  keeps system := by
    unfold SimulatedSystem.feed
    split
    next => rfl
    next =>
      rw [Directory.node?_write]
      exact if_neg (by decide)
    next =>
      dsimp only
      split <;> rfl

def exchanges : List (Interlude config × Request) :=
  [(undisturbed, .new "12 34 & ! 56".toList), (undisturbed, .existing 1), (answer, .existing 2)]

def traffic : Traffic := { system }

theorem read_last :
    (∃ bytes, (Request.new []).encode = .ok bytes ∧
      Received.ofBytes (bytes ++ [9]) = .request (.new [])) ∧
    ¬ [0, 0, 0, 0, 0] <+: ([0, 1, 0, 0, 0, 49] : Bytes) ∧
    (traffic.after exchanges).delivered = [.new "12 34 & ! 56".toList, .existing 2] ∧
    ∃ current,
      (traffic.after exchanges).system.directory.node? config.requestPipe = some (.file current) ∧
      Received.ofBytes current = .request (.existing 2) := by
  obtain ⟨hread, hbegin, hlast⟩ := Request.read_whatever_stands_behind
  have hfits : (Request.new []).Fits := by simp [Request.Fits, Utf8.encode, UInt32.size]
  have hfile : traffic.system.directory.node? config.requestPipe =
      some (.file (List.replicate 40 7)) := rfl
  have hdelivered : (traffic.after exchanges).delivered =
      [.new "12 34 & ! 56".toList, .existing 2] := rfl
  refine ⟨?_, ?_, hdelivered, ?_⟩
  · obtain ⟨bytes, hencode, hbehind⟩ := hread _ hfits
    exact ⟨bytes, hencode, hbehind [9]⟩
  · intro h
    have hsame := hbegin (.new []) (.new ['1']) _ _ rfl rfl h
    exact absurd hsame.1 (by decide)
  · obtain ⟨requests, written, hrequests, -, hcurrent, hreads⟩ :=
      hlast config traffic _ hfile exchanges
    rw [hdelivered] at hrequests
    exact ⟨_, hcurrent, hreads _ (congrArg List.getLast? hrequests.symm)⟩

end LongerRequest

end BooleanSearch
