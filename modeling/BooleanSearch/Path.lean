import BooleanSearch.Text.Basic

/-!
This module contains the comparison of paths. Two paths are the same if they go through the same names,
so that separators in a row or at the end make no difference, nor do dots between separators.
-/

namespace BooleanSearch.Path

def staysHere (name : Text) : Bool := name.isEmpty || name == ['.']

/--
The names that count when paths are compared. The first one always does: it is empty if the path begins
at the root.
-/
def components (path : Text) : List Text :=
  match Text.splitOn (· == '/') path with
  | [] | [[]] => []
  | first :: rest => first :: rest.filter (fun name => !staysHere name)

end BooleanSearch.Path
