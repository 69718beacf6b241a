import BooleanSearch.Error
import BooleanSearch.Wire.Word

/-!
This module contains the responses of the backend and their form on the wire: a byte for the kind of
response, and for a page of document IDs their number and the IDs themselves. Whatever stands behind
a response is not part of it.
-/

namespace BooleanSearch

inductive Response where
  /-- The query is registered. -/
  | ok
  /-- At most one page of document IDs. -/
  | payload (ids : List UInt32)
  /-- The request was rejected. -/
  | bad
  | unrecognized (code : UInt8)
deriving DecidableEq, Repr

namespace Response

def encode : Response → Bytes
  | ok => [0]
  | payload ids => 1 :: (Wire.wordBytes (UInt32.ofNat ids.length) ++ ids.flatMap Wire.wordBytes)
  | bad => [2]
  | unrecognized code => [code]

def readIds? : (count : Nat) → Bytes → Option (List UInt32)
  | 0, _ => some []
  | count + 1, bytes =>
    match Wire.readWord? bytes with
    | none => none
    | some (id, rest) => (readIds? count rest).map (id :: ·)

def decode : Bytes → Except SearchError Response
  | [] => .error (.backendError .emptyResponse)
  | kind :: bytes =>
    if kind = 0 then
      .ok ok
    else if kind = 2 then
      .ok bad
    else if kind = 1 then
      match Wire.readWord? bytes with
      | none => .error (.backendError .truncatedHeader)
      | some (count, rest) =>
        match readIds? count.toNat rest with
        | some ids => .ok (payload ids)
        | none => .error (.backendError (.truncatedPayload count.toNat rest.length))
    else
      .ok (unrecognized kind)

end Response

end BooleanSearch
