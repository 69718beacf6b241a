import Std.Data.HashMap
import BooleanSearch.Text.Basic

/-!
This module contains the notation in which tables of Unicode properties are written, and its
readers. A table of a class of characters is a list of code points and of ranges of code points, such
as `0041-005A 00AA`. A table of a mapping has one entry per character, the character first and then
what it is mapped to, such as `00C0 0041 0300`; a semicolon ends each entry. The tables hold
the data of Unicode 17; those of marks and of decompositions know later characters as well.
-/

namespace BooleanSearch.Text

def hexDigit (digit : Char) : Nat :=
  if digit ≤ '9' then digit.toNat - '0'.toNat else digit.toNat - 'A'.toNat + 10

def hexNumber (digits : Text) : Nat :=
  digits.foldl (fun n digit => 16 * n + hexDigit digit) 0

/--
A closed range of code points.
-/
structure CodeRange where
  first : Nat
  last : Nat
deriving DecidableEq, Repr

def CodeRange.ofText (text : Text) : CodeRange :=
  match splitOn (· == '-') text with
  | [first, last] => ⟨hexNumber first, hexNumber last⟩
  | _ => ⟨hexNumber text, hexNumber text⟩

def CodeRange.contains (range : CodeRange) (c : Char) : Bool :=
  range.first ≤ c.toNat && c.toNat ≤ range.last

def separatesCodes (c : Char) : Bool := c == ' ' || c == '\n'

def readRanges (table : String) : List CodeRange :=
  (wordsBetween separatesCodes table.toList).map CodeRange.ofText

def readMapping (table : String) : Std.HashMap Nat Text :=
  (splitOn (· == ';') table.toList).foldl (fun mapping entry =>
    match (wordsBetween separatesCodes entry).map hexNumber with
    | [] => mapping
    | code :: image => mapping.insert code (image.map Char.ofNat)) ∅

end BooleanSearch.Text
