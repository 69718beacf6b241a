import BooleanSearch.Text.Basic

/-!
This module contains the Unicode property White_Space, the words it separates, and the ASCII part
of it.
-/

namespace BooleanSearch.Text

def isWhiteSpace (c : Char) : Bool :=
  let code := c.toNat
  (0x09 ≤ code && code ≤ 0x0D) || code == 0x20 || code == 0x85 || code == 0xA0 || code == 0x1680 ||
    (0x2000 ≤ code && code ≤ 0x200A) || code == 0x2028 || code == 0x2029 || code == 0x202F ||
    code == 0x205F || code == 0x3000

/--
Blank, tab, line feed, form feed and carriage return.
-/
def isAsciiSpace (c : Char) : Bool :=
  c == ' ' || c == '\t' || c == '\n' || c == '\x0c' || c == '\r'

def words (text : Text) : List Text := wordsBetween isWhiteSpace text

def trim (text : Text) : Text := dropEndWhile isWhiteSpace (text.dropWhile isWhiteSpace)

end BooleanSearch.Text
