import BooleanSearch.Text.Basic

/-!
This module contains the pages of results that are shown for a query.
-/

namespace BooleanSearch

structure SearchHit where
  docId : UInt32
  title : Text
  link : Option Text
  snippet : Text
deriving DecidableEq, Repr

structure SearchPage where
  /-- The query as it was understood: normalized words and operators. -/
  query : Text
  /-- Pages are counted from zero. -/
  page : Nat
  hits : List SearchHit
  /-- The pages that are offered for navigation. -/
  pages : List Nat
deriving DecidableEq, Repr

/--
`count` consecutive pages with the given one in the middle, where that is possible.
-/
def pageWindow (page count : Nat) : List Nat := List.range' (page - count / 2) count

def navigationPages : Nat := 5

end BooleanSearch
