import BooleanSearch.Retrieval.Link

/-!
This module contains what an exchange does when its channels and its helpers are at work with a state,
so that a run is a function.
-/

namespace BooleanSearch

theorem id_pure {α : Type} (a : α) : (pure a : Id α) = a := rfl

theorem id_bind {α β : Type} (x : Id α) (f : α → Id β) : x >>= f = f x := rfl

variable {σ Helper : Type}

theorem Channels.run_exchange (channels : Channels (StateM σ)) (request : Bytes) (s : σ) :
    (channels.exchange request).run s =
      match (channels.deliver request).run s with
      | (.error failure, s) => (.error (.requestNotDelivered failure), s)
      | (.ok (), s) => ((channels.receive.run s).1.mapError .io, (channels.receive.run s).2) := by
  rcases hdeliver : (channels.deliver request).run s with ⟨failure | ⟨⟩, s'⟩
  · simp [exchange, hdeliver, id_bind, id_pure]
  · rcases hreceive : channels.receive.run s' with ⟨failure | response, s''⟩
    · simp only [exchange, collect, StateT.run_bind, hdeliver, hreceive, id_bind]
      rfl
    · simp only [exchange, collect, StateT.run_bind, hdeliver, hreceive, id_bind]
      rfl

namespace Helpers

variable (helpers : Helpers (StateM σ) Helper)

theorem run_isStalled (stalled : Option Helper) (s : σ) :
    (helpers.isStalled.run stalled).run s =
      match stalled with
      | none => ((false, none), s)
      | some helper =>
        match (helpers.poll helper).run s with
        | (.pending, s) => ((true, some helper), s)
        | (.finished _, s) | (.terminated, s) => ((false, none), s) := by
  cases stalled with
  | none => rfl
  | some helper =>
    rcases hpoll : (helpers.poll helper).run s with ⟨outcome, s'⟩
    cases outcome <;> simp [isStalled, hpoll, id_bind, id_pure]

theorem run_exchange (milliseconds : Nat) (request : Bytes) (stalled : Option Helper) (s : σ) :
    ((helpers.exchange milliseconds request).run stalled).run s =
      match (helpers.isStalled.run stalled).run s with
      | ((true, stalled), s) => ((.error (.backendUnavailable .stillPending), stalled), s)
      | ((false, stalled), s) =>
        match (helpers.launch request).run s with
        | (.error failure, s) => ((.error (.requestNotDelivered failure), stalled), s)
        | (.ok helper, s) =>
          match (helpers.await helper milliseconds).run s with
          | (.finished result, s) => ((result, stalled), s)
          | (.terminated, s) => ((.error (.backendUnavailable .exchangeTerminated), stalled), s)
          | (.pending, s) =>
            ((.error (.backendUnavailable (.noResponse milliseconds)), some helper), s) := by
  rcases hstalled : (helpers.isStalled.run stalled).run s with ⟨⟨busy, stalled'⟩, s'⟩
  cases busy with
  | true => simp [exchange, hstalled, id_bind, id_pure]
  | false =>
    rcases hlaunch : (helpers.launch request).run s' with ⟨failure | helper, s''⟩
    · simp [exchange, hstalled, hlaunch, id_bind, id_pure]
    · rcases hawait : (helpers.await helper milliseconds).run s'' with ⟨outcome, s'''⟩
      cases outcome <;> simp [exchange, hstalled, hlaunch, hawait, id_bind, id_pure]

end Helpers

end BooleanSearch
