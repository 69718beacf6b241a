import BooleanSearch.Retrieval.Link
import BooleanSearch.Table
import BooleanSearch.Wire.Request
import BooleanSearch.Wire.Response

/-!
This module contains a backend that lives in memory and follows a script. Like the real one it numbers
the queries in the order in which it learns of them, and hands out the results of each query page by
page. The script says what the results are, which exchanges fail, and which responses are replaced.
-/

namespace BooleanSearch

/--
The results of a query and the number of them that have been handed out.
-/
structure Cursor where
  ids : List UInt32
  position : Nat := 0
deriving DecidableEq, Repr

namespace Cursor

def pageEnd (cursor : Cursor) (pageSize : Nat) : Nat :=
  min (cursor.position + pageSize) cursor.ids.length

def nextPage (cursor : Cursor) (pageSize : Nat) : List UInt32 :=
  (cursor.ids.take (cursor.pageEnd pageSize)).drop cursor.position

def advance (cursor : Cursor) (pageSize : Nat) : Cursor :=
  { cursor with position := cursor.pageEnd pageSize }

end Cursor

/--
What a backend was sent: a request, or bytes that are none.
-/
inductive Received where
  | request (request : Request)
  | invalid (bytes : Bytes)
deriving DecidableEq, Repr

def Received.ofBytes (bytes : Bytes) : Received :=
  ((Request.decode? bytes).map .request).getD (.invalid bytes)

def Received.isNew : Received → Bool
  | .request (.new _) => true
  | .request (.existing _) | .invalid _ => false

structure SimulatedBackend where
  pageSize : Nat := 50
  /-- The documents that match an expression; others match none. -/
  results : Table (List UInt32) := ∅
  rejected : List Text := []
  /-- Bytes that stand in for the response of the exchange with the given number. -/
  replaced : List (Nat × Bytes) := []
  /-- One for each query in the order of arrival; a rejected query takes an empty one. -/
  slots : List (Option Cursor) := []
  /-- Everything received so far, in order. -/
  received : List Received := []
  /-- The number of exchanges that will fail before anything is received. -/
  undelivered : Nat := 0
  /-- The number of responses that will be lost after the request was acted upon. -/
  lost : Nat := 0

namespace SimulatedBackend

def act (backend : SimulatedBackend) : Received → Response × SimulatedBackend
  | .request (.new expression) =>
    if backend.rejected.contains expression then
      (.bad, { backend with slots := backend.slots ++ [none] })
    else
      let cursor : Cursor := { ids := backend.results.getD expression [] }
      (.ok, { backend with slots := backend.slots ++ [some cursor] })
  | .request (.existing handle) =>
    match backend.slots[handle.toNat]? with
    | some (some cursor) =>
      (.payload (cursor.nextPage backend.pageSize),
        { backend with
          slots := backend.slots.set handle.toNat (some (cursor.advance backend.pageSize)) })
    | some none | none => (.bad, backend)
  | .invalid _ => (.bad, backend)

def respond (backend : SimulatedBackend) (request : Bytes) :
    Except SearchError Bytes × SimulatedBackend :=
  let number := backend.received.length
  let received := Received.ofBytes request
  let (response, backend) :=
    act { backend with received := backend.received ++ [received] } received
  match backend.lost with
  | lost + 1 =>
    (.error (.io (.other "scripted response failure".toList)), { backend with lost })
  | 0 => (.ok ((backend.replaced.lookup number).getD response.encode), backend)

def exchange (backend : SimulatedBackend) (request : Bytes) :
    Except SearchError Bytes × SimulatedBackend :=
  match backend.undelivered with
  | undelivered + 1 =>
    (.error (.requestNotDelivered (.other "scripted transport failure".toList)),
      { backend with undelivered })
  | 0 => backend.respond request

def link : Link (StateM SimulatedBackend) where
  exchange request := fun backend => backend.exchange request
  pause _ := pure ()

def newCount (backend : SimulatedBackend) : Nat := backend.received.countP Received.isNew

end SimulatedBackend

end BooleanSearch
