import BooleanSearch.Error
import BooleanSearch.Wire.Word

/-!
This module contains the requests that are sent to the backend, and their form on the wire: a byte
for the kind of request, a number, and for a new query the UTF-8 form of its expression, whose length
the number is. Whatever stands behind a request is not part of it.
-/

namespace BooleanSearch

inductive Request where
  /-- Register a query. -/
  | new (expression : Text)
  /-- Fetch the next page of a registered query. -/
  | existing (handle : UInt32)
deriving DecidableEq, Repr

namespace Request

def kind : Request → Text
  | new _ => "new".toList
  | existing _ => "existing".toList

/--
The bytes of a request. An expression has to be shorter than 2^32 bytes.
-/
def encode : Request → Except SearchError Bytes
  | new expression =>
    let bytes := Utf8.encode expression
    if bytes.length < UInt32.size then
      .ok (0 :: (Wire.wordBytes (UInt32.ofNat bytes.length) ++ bytes))
    else
      .error (.malformed (.requestTooLong bytes.length))
  | existing handle => .ok (1 :: Wire.wordBytes handle)

def decode? : Bytes → Option Request
  | [] => none
  | kind :: bytes =>
    match Wire.readWord? bytes with
    | none => none
    | some (word, rest) =>
      if kind = 0 then
        if rest.length < word.toNat then
          none
        else
          (Utf8.decode? (rest.take word.toNat)).map new
      else if kind = 1 then
        some (existing word)
      else
        none

end Request

end BooleanSearch
