import BooleanSearch.Text.Basic

/-!
This module contains the escape sequences of JSON strings. A string is written between quotes, in which
quotes, backslashes and control characters have to be escaped and every character may be. An escape
with four hexadecimal digits stands for a UTF-16 unit, so that two of them may make one character.
-/

namespace BooleanSearch.JsonString

def hexDigit? (c : Char) : Option Nat :=
  if c.isDigit then some (c.toNat - '0'.toNat)
  else if 'a' ≤ c ∧ c ≤ 'f' then some (c.toNat - 'a'.toNat + 10)
  else if 'A' ≤ c ∧ c ≤ 'F' then some (c.toNat - 'A'.toNat + 10)
  else none

def ofEscape? : Char → Option Char
  | '"' => some '"'
  | '\\' => some '\\'
  | '/' => some '/'
  | 'b' => some '\x08'
  | 'f' => some '\x0c'
  | 'n' => some '\n'
  | 'r' => some '\r'
  | 't' => some '\t'
  | _ => none

def hexUnit? (a b c d : Char) : Option Nat := do
  return (((← hexDigit? a) * 16 + (← hexDigit? b)) * 16 + (← hexDigit? c)) * 16 + (← hexDigit? d)

/--
Read a string from behind its opening quote: the units that it is made of, and what stands behind its
closing quote.
-/
def units? : Text → Option (List Nat × Text)
  | [] => none
  | '"' :: rest => some ([], rest)
  | '\\' :: 'u' :: a :: b :: c :: d :: rest =>
    match hexUnit? a b c d, units? rest with
    | some unit, some (units, rest) => some (unit :: units, rest)
    | _, _ => none
  | '\\' :: c :: rest =>
    match ofEscape? c, units? rest with
    | some c, some (units, rest) => some (c.toNat :: units, rest)
    | _, _ => none
  | c :: rest =>
    if c < ' ' ∨ c = '\\' then
      none
    else
      (units? rest).map fun (units, rest) => (c.toNat :: units, rest)

def isHighSurrogate (unit : Nat) : Bool := 0xD800 ≤ unit && unit < 0xDC00

def isLowSurrogate (unit : Nat) : Bool := 0xDC00 ≤ unit && unit < 0xE000

/--
The text that units stand for. Surrogates stand for characters in pairs only.
-/
def ofUnits? : List Nat → Option Text
  | [] => some []
  | unit :: units =>
    if isHighSurrogate unit then
      match units with
      | low :: units =>
        if isLowSurrogate low then
          (ofUnits? units).map
            (Char.ofNat (0x10000 + (unit - 0xD800) * 0x400 + (low - 0xDC00)) :: ·)
        else
          none
      | [] => none
    else if isLowSurrogate unit then
      none
    else
      (ofUnits? units).map (Char.ofNat unit :: ·)

def hexDigit (n : Nat) : Char := (Nat.toDigits 16 n).headD '0'

def escape (c : Char) : Text :=
  match c with
  | '"' => ['\\', '"']
  | '\\' => ['\\', '\\']
  | '\x08' => ['\\', 'b']
  | '\x0c' => ['\\', 'f']
  | '\n' => ['\\', 'n']
  | '\r' => ['\\', 'r']
  | '\t' => ['\\', 't']
  | c =>
    if c < ' ' then ['\\', 'u', '0', '0', hexDigit (c.toNat / 16), hexDigit (c.toNat % 16)] else [c]

def quote (text : Text) : Text := '"' :: (text.flatMap escape ++ ['"'])

end BooleanSearch.JsonString
