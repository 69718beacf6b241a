import BooleanSearch.Json.Escape
import BooleanSearch.Text.Decimal

/-!
This module contains the layout of JSON values over several lines. Every item of an array and every
member of an object has a line of its own, two blanks further in than the line it belongs to.
-/

namespace BooleanSearch

abbrev JsonLayout := (depth : Nat) → Text

namespace JsonLayout

def null : JsonLayout := fun _ => "null".toList

def number (n : Nat) : JsonLayout := fun _ => Text.decimal n

def string (text : Text) : JsonLayout := fun _ => JsonString.quote text

def newLine (depth : Nat) : Text := '\n' :: List.replicate (2 * depth) ' '

def items (depth : Nat) : List JsonLayout → Text
  | [] => []
  | [item] => newLine depth ++ item depth
  | item :: rest => newLine depth ++ item depth ++ ',' :: items depth rest

def block (left right : Char) (content : List JsonLayout) : JsonLayout := fun depth =>
  if content.isEmpty then
    [left, right]
  else
    left :: (items (depth + 1) content ++ newLine depth ++ [right])

def array (content : List JsonLayout) : JsonLayout := block '[' ']' content

def object (members : List (String × JsonLayout)) : JsonLayout :=
  block '\x7b' '\x7d' (members.map fun (key, value) => fun depth =>
    JsonString.quote key.toList ++ ':' :: ' ' :: value depth)

def line (layout : JsonLayout) : Text := layout 0 ++ ['\n']

end JsonLayout

end BooleanSearch
