import BooleanSearch.Json.Escape
import BooleanSearch.Text.Decimal

/-!
This module contains JSON values and their reader. Values keep what a reader with a particular type in
mind may care about: numbers as they are written, strings as the units they are made of, and the members
of objects in order, even if some have the same key.
-/

namespace BooleanSearch

inductive JsonValue where
  | null
  | bool (value : Bool)
  | number (lexeme : Text)
  | string (units : List Nat)
  | array (items : List JsonValue)
  | object (members : List (List Nat × JsonValue))

namespace JsonValue

def isBlank (c : Char) : Bool := c == ' ' || c == '\n' || c == '\t' || c == '\r'

def skipBlanks (text : Text) : Text := text.dropWhile isBlank

def digits? (text : Text) : Option (Text × Text) :=
  let digits := text.takeWhile Char.isDigit
  if digits.isEmpty then none else some (digits, text.dropWhile Char.isDigit)

def fraction? : Text → Option (Text × Text)
  | '.' :: rest => (digits? rest).map fun (digits, rest) => ('.' :: digits, rest)
  | text => some ([], text)

def exponent? : Text → Option (Text × Text)
  | e :: rest =>
    if e = 'e' ∨ e = 'E' then
      match rest with
      | '+' :: rest => (digits? rest).map fun (digits, rest) => (e :: '+' :: digits, rest)
      | '-' :: rest => (digits? rest).map fun (digits, rest) => (e :: '-' :: digits, rest)
      | rest => (digits? rest).map fun (digits, rest) => (e :: digits, rest)
    else
      some ([], e :: rest)
  | [] => some ([], [])

/--
A number as it is written, and what stands behind. The integer part has no leading zeros.
-/
def number? (text : Text) : Option (Text × Text) := do
  let sign : Text := if text.head? = some '-' then ['-'] else []
  let (digits, rest) ← digits? (text.drop sign.length)
  if digits.length > 1 ∧ digits.head? = some '0' then
    none
  else
    let (fraction, rest) ← fraction? rest
    let (exponent, rest) ← exponent? rest
    return (sign ++ digits ++ fraction ++ exponent, rest)

def key? (text : Text) : Option (List Nat × Text) := do
  let (units, rest) ← JsonString.units? (← Text.dropMark? ['"'] (skipBlanks text))
  return (units, ← Text.dropMark? [':'] (skipBlanks rest))

mutual

/--
A value, and what stands behind. The number bounds the depth of the recursion.
-/
def value? : Nat → Text → Option (JsonValue × Text)
  | 0, _ => none
  | fuel + 1, text =>
    match skipBlanks text with
    | '"' :: rest => (JsonString.units? rest).map fun (units, rest) => (string units, rest)
    | '[' :: rest =>
      match skipBlanks rest with
      | ']' :: rest => some (array [], rest)
      | rest => (items? fuel rest).map fun (items, rest) => (array items, rest)
    | '\x7b' :: rest =>
      match skipBlanks rest with
      | '\x7d' :: rest => some (object [], rest)
      | rest => (members? fuel rest).map fun (members, rest) => (object members, rest)
    | 'n' :: 'u' :: 'l' :: 'l' :: rest => some (null, rest)
    | 't' :: 'r' :: 'u' :: 'e' :: rest => some (bool true, rest)
    | 'f' :: 'a' :: 'l' :: 's' :: 'e' :: rest => some (bool false, rest)
    | rest => (number? rest).map fun (lexeme, rest) => (number lexeme, rest)

def items? : Nat → Text → Option (List JsonValue × Text)
  | 0, _ => none
  | fuel + 1, text =>
    match value? fuel text with
    | none => none
    | some (item, rest) =>
      match skipBlanks rest with
      | ',' :: rest => (items? fuel rest).map fun (items, rest) => (item :: items, rest)
      | ']' :: rest => some ([item], rest)
      | _ => none

def members? : Nat → Text → Option (List (List Nat × JsonValue) × Text)
  | 0, _ => none
  | fuel + 1, text =>
    match key? text with
    | none => none
    | some (key, rest) =>
      match value? fuel rest with
      | none => none
      | some (value, rest) =>
        match skipBlanks rest with
        | ',' :: rest =>
          (members? fuel rest).map fun (members, rest) => ((key, value) :: members, rest)
        | '\x7d' :: rest => some ([(key, value)], rest)
        | _ => none

end

def ofText? (text : Text) : Option JsonValue :=
  match value? (2 * text.length + 1) text with
  | some (value, rest) => if (skipBlanks rest).isEmpty then some value else none
  | none => none

def unsigned? (size : Nat) : JsonValue → Option Nat
  | number lexeme => Text.unsigned? size lexeme
  | _ => none

def bool? : JsonValue → Option Bool
  | bool value => some value
  | _ => none

def text? : JsonValue → Option Text
  | string units => JsonString.ofUnits? units
  | _ => none

/--
The values of the fields with the given names. They are the members of an object with these keys, each
of which occurs once while others are ignored, or the items of an array with as many items.
-/
def fields? (names : List Text) : JsonValue → Option (List JsonValue)
  | array items => if items.length = names.length then some items else none
  | object members => do
    let members ← members.mapM fun (key, value) =>
      (JsonString.ofUnits? key).map fun key => (key, value)
    names.mapM fun name =>
      match members.filter fun (key, _) => key == name with
      | [(_, value)] => some value
      | _ => none
  | _ => none

end JsonValue

end BooleanSearch
