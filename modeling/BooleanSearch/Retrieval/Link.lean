import BooleanSearch.Error
import BooleanSearch.Text.Utf8

/-!
This module contains the ways in which requests reach the backend and responses come back. An exchange
over a pair of channels delivers one request and then reads one response. With a time limit, the
exchange runs in a helper, and while a helper that missed its limit is still at work no further
exchange is started.
-/

namespace BooleanSearch

/--
A way to exchange a request for a response.
-/
structure Link (m : Type → Type) where
  exchange : Bytes → m (Except SearchError Bytes)
  /-- Wait for a number of milliseconds. -/
  pause : Nat → m Unit

/--
A pair of channels, one for each direction.
-/
structure Channels (m : Type → Type) where
  /-- Write a request and close the channel. -/
  deliver : Bytes → m (Except IoFailure Unit)
  /-- Read a response to its end. -/
  receive : m (Except IoFailure Bytes)

namespace Channels

variable {m : Type → Type} [Monad m]

def collect (channels : Channels m) : m (Except SearchError Bytes) := do
  match ← channels.receive with
  | .ok response => return .ok response
  | .error failure => return .error (.io failure)

def exchange (channels : Channels m) (request : Bytes) : m (Except SearchError Bytes) := do
  match ← channels.deliver request with
  | .ok () => channels.collect
  | .error failure => return .error (.requestNotDelivered failure)

end Channels

/--
What has become of an exchange that runs in a helper.
-/
inductive Outcome where
  | pending
  | finished (result : Except SearchError Bytes)
  /-- The helper came to an end and left no result. -/
  | terminated

/--
The operations on helpers, which carry out exchanges while their caller waits or goes on.
-/
structure Helpers (m : Type → Type) (Helper : Type) where
  launch : Bytes → m (Except IoFailure Helper)
  poll : Helper → m Outcome
  /-- Wait for the outcome, but no longer than a number of milliseconds. -/
  await : Helper → (milliseconds : Nat) → m Outcome

namespace Helpers

variable {m : Type → Type} [Monad m] {Helper : Type}

/--
Whether a helper that missed its limit is still at work. What a helper brings after its limit is
discarded.
-/
def isStalled (helpers : Helpers m Helper) : StateT (Option Helper) m Bool := do
  match ← get with
  | none => return false
  | some helper =>
    match ← helpers.poll helper with
    | .pending => return true
    | .finished _ | .terminated =>
      set (none : Option Helper)
      return false

/--
Exchange a request for a response within a number of milliseconds. The state is the helper that missed
its limit, if there is one.
-/
def exchange (helpers : Helpers m Helper) (milliseconds : Nat) (request : Bytes) :
    StateT (Option Helper) m (Except SearchError Bytes) := do
  if ← helpers.isStalled then
    return .error (.backendUnavailable .stillPending)
  else
    match ← helpers.launch request with
    | .error failure => return .error (.requestNotDelivered failure)
    | .ok helper =>
      match ← helpers.await helper milliseconds with
      | .finished result => return result
      | .terminated => return .error (.backendUnavailable .exchangeTerminated)
      | .pending =>
        set (some helper)
        return .error (.backendUnavailable (.noResponse milliseconds))

end Helpers

/--
The link over a pair of channels. Exchanges have a time limit unless it is zero.
-/
def Link.overChannels {m : Type → Type} [Monad m] {Helper : Type} (channels : Channels m)
    (helpers : Helpers m Helper) (pause : Nat → m Unit) (milliseconds : Nat) :
    Link (StateT (Option Helper) m) where
  exchange request :=
    if milliseconds = 0 then channels.exchange request else helpers.exchange milliseconds request
  pause milliseconds := pause milliseconds

end BooleanSearch
