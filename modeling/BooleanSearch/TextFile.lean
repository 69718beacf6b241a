import BooleanSearch.Error
import BooleanSearch.Text.Utf8

/-!
This module contains the reading of text files, which are in UTF-8, and of files with one record per
line.
-/

namespace BooleanSearch

def textOfFile : Except IoFailure Bytes → Except SearchError Text
  | .error failure => .error (.io failure)
  | .ok bytes =>
    match Utf8.decode? bytes with
    | some text => .ok text
    | none => .error (.io .notUtf8)

def Text.recordLines (text : Text) : List Text :=
  (lines text).map (dropEndWhile (· == '\r'))

end BooleanSearch
