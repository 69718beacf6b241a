import BooleanSearch.Proofs.Wire.RoundTrip
import BooleanSearch.Simulated.Backend

/-!
This module contains what a simulated backend does in a single exchange that may fail. A schedule says
of every attempt at an exchange whether the request is delivered and whether the response arrives.
-/

namespace BooleanSearch

inductive Fate where
  | undelivered
  /-- The backend acts on the request, and its response is lost. -/
  | lost
  | answered
deriving DecidableEq, Repr

abbrev Schedule := Nat → Received → Fate

structure Script where
  pageSize : Nat
  results : Table (List UInt32)
  rejected : List Text

namespace Script

def backend (script : Script) : SimulatedBackend where
  pageSize := script.pageSize
  results := script.results
  rejected := script.rejected

def listOf (script : Script) (key : Text) : List UInt32 := script.results.getD key []

def firstSlot (script : Script) (key : Text) : Option Cursor :=
  if key ∈ script.rejected then none else some { ids := script.listOf key }

end Script

def Received.expression? : Received → Option Text
  | .request (.new expression) => some expression
  | .request (.existing _) | .invalid _ => none

theorem Received.ofBytes_append {request : Request} {bytes : Bytes}
    (hencode : request.encode = .ok bytes) (behind : Bytes) :
    ofBytes (bytes ++ behind) = .request request := by
  unfold ofBytes
  rw [Request.decode?_of_encode hencode behind]
  rfl

theorem Received.ofBytes_of_encode {request : Request} {bytes : Bytes}
    (hencode : request.encode = .ok bytes) : ofBytes bytes = .request request := by
  simpa only [List.append_nil] using ofBytes_append hencode []

namespace SimulatedBackend

def withFate (backend : SimulatedBackend) : Fate → SimulatedBackend
  | .undelivered => { backend with undelivered := 1, lost := 0 }
  | .lost => { backend with undelivered := 0, lost := 1 }
  | .answered => { backend with undelivered := 0, lost := 0 }

/--
The expressions received for registration, in order. The number of a slot is a position in this list.
-/
def registered (backend : SimulatedBackend) : List Text :=
  backend.received.filterMap Received.expression?

structure Follows (backend : SimulatedBackend) (script : Script) : Prop where
  pageSize : backend.pageSize = script.pageSize
  results : backend.results = script.results
  rejected : backend.rejected = script.rejected
  replaced : backend.replaced = []

def answer (backend : SimulatedBackend) (request : Request) : Response :=
  (act backend (.request request)).1

def serve (backend : SimulatedBackend) (request : Request) : SimulatedBackend :=
  { backend with
    slots := (act backend (.request request)).2.slots
    received := backend.received ++ [.request request]
    undelivered := 0
    lost := 0 }

theorem act_update (backend : SimulatedBackend) (received : Received)
    (record : List Received) (undelivered lost : Nat) :
    act { backend with received := record, undelivered, lost } received =
      ((act backend received).1,
        { backend with
          slots := (act backend received).2.slots, received := record, undelivered, lost }) := by
  cases received with
  | invalid bytes => rfl
  | request request =>
    cases request with
    | new expression =>
      simp only [act]
      split <;> rfl
    | existing handle =>
      simp only [act]
      split <;> rfl

theorem exchange_undelivered (backend : SimulatedBackend) (bytes : Bytes) :
    (backend.withFate .undelivered).exchange bytes =
      (.error (.requestNotDelivered (.other "scripted transport failure".toList)),
        backend.withFate .answered) := rfl

theorem exchange_lost (backend : SimulatedBackend) {request : Request} {bytes : Bytes}
    (hencode : request.encode = .ok bytes) :
    (backend.withFate .lost).exchange bytes =
      (.error (.io (.other "scripted response failure".toList)), backend.serve request) := by
  simp only [exchange, withFate, respond, Received.ofBytes_of_encode hencode]
  rw [act_update]
  rfl

theorem exchange_answered {backend : SimulatedBackend} {request : Request} {bytes : Bytes}
    (hencode : request.encode = .ok bytes) (hreplaced : backend.replaced = []) :
    (backend.withFate .answered).exchange bytes =
      (.ok (backend.answer request).encode, backend.serve request) := by
  simp only [exchange, withFate, respond, Received.ofBytes_of_encode hencode]
  rw [act_update]
  simp only [hreplaced, List.lookup_nil, Option.getD_none, serve, answer]

theorem decode_answer (backend : SimulatedBackend) (request : Request) :
    Response.decode (backend.answer request).encode = .ok (backend.answer request).carried := by
  have hrecognized : ∀ code, backend.answer request = .unrecognized code → 2 < code := by
    intro code h
    unfold answer act at h
    split at h
    · split at h <;> simp at h
    · split at h <;> simp at h
    · simp at h
  have h := Response.decode_encode hrecognized []
  rw [List.append_nil] at h
  exact h

variable {backend : SimulatedBackend} {script : Script} {key : Text} {handle : UInt32}

theorem Follows.withFate (hfollows : backend.Follows script) (fate : Fate) :
    (backend.withFate fate).Follows script := by
  cases fate <;> exact ⟨hfollows.pageSize, hfollows.results, hfollows.rejected, hfollows.replaced⟩

theorem Follows.serve (hfollows : backend.Follows script) (request : Request) :
    (backend.serve request).Follows script :=
  ⟨hfollows.pageSize, hfollows.results, hfollows.rejected, hfollows.replaced⟩

theorem registered_serve_new (backend : SimulatedBackend) (key : Text) :
    (backend.serve (.new key)).registered = backend.registered ++ [key] := by
  simp only [registered, serve, List.filterMap_append]
  rfl

theorem registered_serve_existing (backend : SimulatedBackend) (handle : UInt32) :
    (backend.serve (.existing handle)).registered = backend.registered := by
  simp only [registered, serve, List.filterMap_append]
  exact List.append_nil _

theorem Follows.slots_serve_new (hfollows : backend.Follows script) (key : Text) :
    (backend.serve (.new key)).slots = backend.slots ++ [script.firstSlot key] := by
  simp only [SimulatedBackend.serve, act, hfollows.rejected, hfollows.results, List.contains_iff_mem,
    Script.firstSlot, Script.listOf]
  split <;> rfl

theorem Follows.answer_new (hfollows : backend.Follows script) (key : Text) :
    backend.answer (.new key) = if key ∈ script.rejected then .bad else .ok := by
  simp only [answer, act, hfollows.rejected, List.contains_iff_mem]
  split <;> rfl

theorem slot_serve_existing (backend : SimulatedBackend) (handle : UInt32) (i : Nat) :
    (backend.serve (.existing handle)).slots[i]? =
      if handle.toNat = i then
        backend.slots[i]?.map (Option.map (·.advance backend.pageSize))
      else
        backend.slots[i]? := by
  simp only [serve, act]
  by_cases hi : handle.toNat = i
  · rw [if_pos hi]
    split
    next cursor hslot =>
      have hlength : handle.toNat < backend.slots.length := (List.getElem?_eq_some_iff.mp hslot).1
      rw [← hi, List.getElem?_set_self hlength, hslot]
      rfl
    next hslot =>
      rw [← hi, hslot]
      rfl
    next hslot =>
      rw [← hi, hslot]
      rfl
  · rw [if_neg hi]
    split
    · rw [List.getElem?_set_ne hi]
    · rfl
    · rfl

theorem answer_existing (backend : SimulatedBackend) (handle : UInt32) :
    backend.answer (.existing handle) =
      match backend.slots[handle.toNat]? with
      | some (some cursor) => .payload (cursor.nextPage backend.pageSize)
      | some none | none => .bad := by
  simp only [answer, act]
  rcases backend.slots[handle.toNat]? with _ | _ | cursor
  · rfl
  · rfl
  · rfl

theorem slot_of_carried_answer {ids : List UInt32}
    (h : (backend.answer (.existing handle)).carried = .payload ids) :
    ∃ cursor, backend.slots[handle.toNat]? = some (some cursor) ∧
      ids = (cursor.nextPage backend.pageSize).take
        ((cursor.nextPage backend.pageSize).length % UInt32.size) := by
  rw [answer_existing] at h
  rcases hslot : backend.slots[handle.toNat]? with _ | _ | cursor
  · simp [hslot, Response.carried] at h
  · simp [hslot, Response.carried] at h
  · simp only [hslot, Response.carried, Response.payload.injEq] at h
    exact ⟨cursor, rfl, h.symm⟩

end SimulatedBackend

end BooleanSearch
